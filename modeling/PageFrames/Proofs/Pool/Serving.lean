/-
# Which pages a request takes

A request that is granted takes pages from the front of a line (`Pool.Line`): the free list as it
is, or turned to the first run that it shows, or, if it shows none, the ascending list of the free
pages turned to the lowest run.  The line is found from the sequence of the free list alone, and it
settles everything that the request does (`Pool.Served`).  The pages at its front are taken, in
their order, and the free list has what is left of it.
-/
import PageFrames.Proofs.Pool.Effects

namespace PageFrames

/-- A sequence is turned to its first run by putting what comes before the run behind it. -/
theorem LeastRun.rotate_eq {n i : Nat} {xs : List Page} (h : LeastRun n xs i) :
    xs.rotate i = xs.drop i ++ xs.take i := by
  have hlen := h.1.1
  exact List.rotate_eq_drop_append_take (by omega)

namespace Pool

open Table

variable {pool pool' pool₁ : Pool} {xs queue : List Page} {first : Page} {tag : Tag}
  {count : Word} {run compaction : Bool}

/-! ## 1. The line -/

/-- The order in which a request for `count` pages, in a run or not, takes pages from a free list
that has them in the order `xs`, and whether the list is rebuilt for it.  The pages of a list that
is rebuilt are those of `ascending`. -/
inductive Line (count : Nat) (run compaction : Bool) (xs ascending : List Page) :
    List Page → Bool → Prop
  | asIs : run = false ∨ count = 1 → Line count run compaction xs ascending xs false
  | turned {i : Nat} : run = true → 1 < count → LeastRun count xs i →
      Line count run compaction xs ascending (xs.rotate i) false
  | rebuilt {i : Nat} : run = true → 1 < count → (∀ j, ¬ RunAt count xs j) → compaction = true →
      LeastRun count ascending i → Line count run compaction xs ascending (ascending.rotate i) true

/-- The pages of the line are those of the list it is made from, turned. -/
theorem Line.isRotated {n : Nat} {ascending line : List Page} {rebuilt : Bool}
    (h : Line n run compaction xs ascending line rebuilt) :
    line ~r if rebuilt then ascending else xs := by
  cases h with
  | asIs => exact List.IsRotated.refl xs
  | turned => exact List.IsRotated.forall xs _
  | rebuilt => exact List.IsRotated.forall ascending _

/-- **A free list that has been lined up is in the order of the line.** -/
theorem Lined.exists_line {n : Nat} (h : Lined n run compaction pool xs pool₁ queue)
    (hpos : 0 < n) :
    ∃ rebuilt, Line n run compaction xs pool.table.freePages queue rebuilt ∧
      pool₁.compactions.toNat = pool.compactions.toNat + rebuilt.toNat := by
  cases h with
  | asIs hsingle =>
    refine ⟨false, .asIs (hsingle.imp_right fun hle => ?_), rfl⟩
    exact Nat.le_antisymm hle hpos
  | turned hrun hmany hleast =>
    rw [← hleast.rotate_eq]
    exact ⟨false, .turned hrun hmany hleast, rfl⟩
  | rebuilt hrun hmany hnone hmay _ hcount hleast =>
    rw [← hleast.rotate_eq]
    exact ⟨true, .rebuilt hrun hmany hnone hmay hleast, hcount⟩

/-! ## 2. What is done along the line -/

/-- Between the two pools a request for `count` pages was granted along the line, with `first` for
its answer. -/
structure Served (count : Word) (tag : Tag) (line : List Page) (rebuilt : Bool) (first : Page)
    (pool pool' : Pool) : Prop extends Took tag (line.take count.toNat) pool pool' where
  head : line.head? = some first
  enough : (line.take count.toNat).length = count.toNat
  /-- What is left of the line is the free list. -/
  left : pool'.Balanced (line.drop count.toNat)
  /-- The rows of the other pages are as they were, but for their links. -/
  others : ∀ p ∉ line.take count.toNat,
    pool'.table.column Descriptor.bare p = pool.table.column Descriptor.bare p
  allocations : pool'.allocations.toNat = pool.allocations.toNat + 1
  compactions : pool'.compactions.toNat = pool.compactions.toNat + rebuilt.toNat

/-- The first page taken is the one that the request is answered with. -/
theorem Served.exists_take_eq {line : List Page} {rebuilt : Bool}
    (h : Served count tag line rebuilt first pool pool') (hpos : 0 < count.toNat) :
    ∃ ys, line.take count.toNat = first :: ys := by
  obtain ⟨rest, rfl⟩ := List.head?_eq_some_iff.mp h.head
  obtain ⟨n, hn⟩ := Nat.exists_eq_add_of_lt hpos
  rw [hn, Nat.zero_add, List.take_succ_cons]
  exact ⟨_, rfl⟩

/-- **A request that is granted is served along the line.** -/
theorem Balanced.exists_line_of_granted (h : pool.Balanced xs)
    (h' : Allocates count run compaction tag pool xs (.ok (.ok first)) pool') :
    ∃ line rebuilt,
      Line count.toNat run compaction xs pool.table.freePages line rebuilt ∧
      Served count tag line rebuilt first pool pool' := by
  cases h' with
  | @granted pool₁ pool₂ _ ys zs allocations hlen hlined htaken hring hcount =>
    obtain ⟨rebuilt, hline, hrebuilt⟩ := hlined.exists_line (by omega)
    have hlen' : (first :: ys).length = count.toNat := hlen
    have htake : (first :: ys ++ zs).take count.toNat = first :: ys := List.take_left' hlen'
    have hdrop : (first :: ys ++ zs).drop count.toNat = zs := List.drop_left' hlen'
    refine ⟨first :: ys ++ zs, rebuilt, hline, ⟨?_, rfl, ?_, ?_, ?_, hcount, ?_⟩⟩
    · rw [htake]
      exact (h.took hlined htaken hring).withAllocations allocations
    · rw [htake]
      exact hlen'
    · have hleft := (h.lined hlined).taken htaken
      rw [hdrop]
      exact ⟨hleft.small, hleft.threads, hleft.mem_iff, hleft.counted⟩
    · intro p hp
      rw [htake] at hp
      exact (htaken.others p hp).trans (hlined.links.column_eq _ (fun _ => rfl) p)
    · rw [← hrebuilt, ← htaken.compactions]

/-- **The exact effect of a request that is granted.**  The pages are the first ones of a line,
which is the free list as it is, or turned to the first run that it shows, or rebuilt and turned to
the lowest run of the table.  What is left of the line is the free list afterwards, and no row
outside of it has been touched. -/
theorem Balanced.exists_served (h : pool.Balanced xs)
    (hyields : (allocate count run compaction tag).Yields pool (.ok (.ok first)) pool') :
    ∃ line rebuilt,
      Line count.toNat run compaction xs pool.table.freePages line rebuilt ∧
      Served count tag line rebuilt first pool pool' := by
  obtain ⟨r, pool'', hyields', hout⟩ := h.exists_allocates count run compaction tag
  obtain ⟨rfl, rfl⟩ := hyields.unique hyields'
  exact h.exists_line_of_granted hout

/-- Four pages, of which the second is in use.  The free list has the others in an order that shows
no run. -/
def scattered : Pool where
  table := #[⟨0x1000, .free, .empty, ⟨3, 2⟩, .nil⟩, ⟨0x2000, .used, .empty, .none, 1⟩,
    ⟨0x3000, .free, .empty, ⟨0, 3⟩, .nil⟩, ⟨0x4000, .free, .empty, ⟨2, 0⟩, .nil⟩]
  free := { head := some 3 }
  freePages := 3

/-- The list is rebuilt, turned to its last two pages, and left with the first. -/
theorem exists_served_scattered :
    scattered.Balanced [3, 0, 2] ∧
      ((allocate 2 true true .empty).run scattered).result = .ok (.ok 2) ∧
      ∃ line rebuilt,
        Line 2 true true [3, 0, 2] scattered.table.freePages line rebuilt ∧
        Served 2 .empty line rebuilt 2 scattered
          ((allocate 2 true true .empty).run scattered).state := by
  have hbal : scattered.Balanced [3, 0, 2] := by decide +kernel
  have hresult : ((allocate 2 true true .empty).run scattered).result = .ok (.ok 2) := by
    decide +kernel
  exact ⟨hbal, hresult, hbal.exists_served ⟨hresult, rfl⟩⟩

end Pool

end PageFrames
