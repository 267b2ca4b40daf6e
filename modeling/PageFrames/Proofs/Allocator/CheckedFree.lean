/-
# Checked releases

A checked release gives back exactly the pages that the compound links lead through, from the page
on until it comes again, or it changes nothing.  This holds for any table whose free list is in
order, whatever the compound links are: they may lead out of the table, to free pages, or into a
ring that the page is not on.  Which of the two happens is decided by the links alone
(`Allocator.FreeAnswer`), and one of them does: the check counts the pages that it passes, so even
links that lead round for ever bring it to an end.
-/
import PageFrames.Proofs.Allocator.Requests

namespace PageFrames.Allocator

open Table

/-- The end of a checked release of `page`, of an allocator before and after it, where the free
list had the pages `xs`. -/
structure FreeAnswer (page : Page) (xs : List Page) (before after : Allocator)
    (result : Except Fault Unit) : Prop where
  /-- There is an end.  Neither the check nor the release after it goes round for ever. -/
  ends : result ≠ .error .endlessWalk
  /-- What a release fails on is a way that leaves the table, or comes to a free page, or does not
  come back in time. -/
  fails : (∃ fault, result = .error fault) ↔
    (∃ k, before.pool.table.size ≤
        ((before.pool.table.follow Descriptor.compound)^[k] page).toNat) ∨
      (∃ k, before.pool.table.IsFree ((before.pool.table.follow Descriptor.compound)^[k] page)) ∨
      ∀ k, 0 < k → k ≤ before.pool.table.size →
        (before.pool.table.follow Descriptor.compound)^[k] page ≠ page
  unchanged : ∀ fault, result = .error fault → after = before
  /-- The pages given back are those on the way, once round. -/
  released : result = .ok () → ∃ n ys, 0 < n ∧
    (before.pool.table.follow Descriptor.compound)^[n] page = page ∧
    ys = List.iterate (before.pool.table.follow Descriptor.compound) page n ∧ ys.Nodup ∧
    (∀ p ∈ ys, before.pool.table.IsUsed p) ∧ Pool.GivenBack ys xs before.pool after.pool ∧
    after.pool.Balanced (xs ++ ys) ∧ after = before.withPool after.pool

variable {allocator : Allocator} {xs : List Page}

/-- **A checked release is all or nothing,** whatever the compound links are.  The check passes the
pages that the release would pass, but it changes nothing and counts them, so that it rejects every
way that is not a ring of pages in use.  On such a ring the release reads each link before it
overwrites it, and so it passes the same pages. -/
theorem Seated.exists_freeAnswer (h : allocator.Seated) (hbal : allocator.pool.Balanced xs)
    (hchecked : allocator.config.checkedFree = true) (page : Page) :
    ∃ result after, (free page).Yields allocator result after ∧
      FreeAnswer page xs allocator after result := by
  by_cases hown : ∃ ys, allocator.pool.table.Allocation (page :: ys)
  · have hfails := not_exists_allocation_iff.not.mp (not_not.mpr hown)
    obtain ⟨ys, hring⟩ := hown
    obtain ⟨pool', hyields, hback⟩ := h.exists_free hbal hring
    obtain ⟨hiter, hret⟩ := hring.eq_iterate
    refine ⟨_, _, hyields, nofun, ?_, ?_, ?_⟩
    · constructor
      · rintro ⟨fault, he⟩
        cases he
      · intro hfailed
        exact absurd hfailed hfails
    · intro fault he
      cases he
    · intro _
      exact ⟨ys.length + 1, page :: ys, Nat.succ_pos _, hret, hiter, hring.nodup, hring.used,
        hback, hbal.givenBack hring.used hback, rfl⟩
  · obtain ⟨fault, hends, hyields⟩ := exists_free_error hchecked hown
    refine ⟨_, _, hyields, ?_, ?_, ?_, ?_⟩
    · rintro ⟨⟩
      exact hends rfl
    · constructor
      · intro _
        exact not_exists_allocation_iff.mp hown
      · intro _
        exact ⟨fault, rfl⟩
    · intro _ _
      rfl
    · intro he
      cases he

/-- Four pages, the first of them free.  The second and the third are an allocation, and the last
one, which is also in use, leads into it from outside. -/
def misled : Allocator where
  region := ⟨0x1000, 0x4000⟩
  kind := .physical
  metadata := ⟨0, 0x1000⟩
  config := {}
  pool :=
    { table := #[⟨0x1000, .free, .empty, ⟨0, 0⟩, .nil⟩, ⟨0x2000, .used, .empty, .none, 2⟩,
        ⟨0x3000, .used, .empty, .none, 1⟩, ⟨0x4000, .used, .empty, .none, 1⟩]
      free := { head := some 0 }
      freePages := 1 }

theorem exists_freeAnswer_misled :
    ∃ result after, (free 3).Yields misled result after ∧ FreeAnswer 3 [0] misled after result :=
  Seated.exists_freeAnswer (by decide) (by decide +kernel) (by decide) 3

example : ((free 3).run misled).state = misled := by decide +kernel

example : ((free 2).run misled).result = .ok () := by decide +kernel

end PageFrames.Allocator
