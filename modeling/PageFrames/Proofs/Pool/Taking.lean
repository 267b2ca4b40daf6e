/-
# What taking pages does

Pages are taken from the head of the free list, one after the other, and linked into a ring as
they come.  `Pool.Taken` says what has happened when the pages `ys` have been taken and the pages
`zs` are left: the list threads `zs`, the rows of `ys` are in use under the tag and on no list, and
nothing else has changed but links of `zs` and the count of free pages.

One page more is taken by `Pool.exists_take`, and the loop that takes them all is an induction
over the pages still to come (`Pool.Taken.exists_takeMore`): what has been taken so far is a ring
from its first page to its last, and the next page comes between the two.
-/
import PageFrames.Pool.Allocate
import PageFrames.Proofs.Pool.Balance
import PageFrames.Proofs.Pool.Chains

namespace PageFrames

namespace Descriptor

/-- The row of a page that has been taken under a tag, without its compound link. -/
def held (tag : Tag) (row : Descriptor) : Descriptor := (row.taken tag).bare.unchained

theorem held_bare (tag : Tag) (row : Descriptor) : row.bare.held tag = row.held tag := rfl

end Descriptor

namespace Pool

open Table

variable {pool pool₁ pool₂ : Pool} {tag : Tag} {xs ys zs : List Page} {page : Page}

/-! ## 1. Pages taken and pages left -/

/-- The second pool is the first one with the pages `ys` taken under the tag and the pages `zs`
left on the free list, but for the compound links of `ys`. -/
structure Taken (tag : Tag) (ys zs : List Page) (pool pool' : Pool) : Prop where
  nodup : (ys ++ zs).Nodup
  threads : pool'.free.Threads pool'.table zs
  counted : pool'.freePages.toNat + ys.length = pool.freePages.toNat
  allocations : pool'.allocations = pool.allocations
  compactions : pool'.compactions = pool.compactions
  size : pool'.table.size = pool.table.size
  taken : ∀ p ∈ ys, pool'.table.column Descriptor.unchained p =
    pool.table.column (Descriptor.held tag) p
  others : ∀ p ∉ ys, pool'.table.column Descriptor.bare p = pool.table.column Descriptor.bare p
  off : ∀ p ∉ ys, p ∉ zs → pool'.table[p.toNat]? = pool.table[p.toNat]?

theorem Taken.notMem_left (h : Taken tag ys zs pool pool₁) (hp : page ∈ ys) : page ∉ zs :=
  fun hz => (List.nodup_append.mp h.nodup).2.2 page hp page hz rfl

theorem Taken.nodup_left (h : Taken tag ys zs pool pool₁) : ys.Nodup :=
  (List.nodup_append.mp h.nodup).1

/-- Pages taken in two rounds are taken. -/
theorem Taken.trans (h : Taken tag ys (xs ++ zs) pool pool₁) (h' : Taken tag xs zs pool₁ pool₂) :
    Taken tag (ys ++ xs) zs pool pool₂ where
  nodup := by simpa using h.nodup
  threads := h'.threads
  counted := by
    have h₁ := h.counted
    have h₂ := h'.counted
    simp only [List.length_append]
    omega
  allocations := h'.allocations.trans h.allocations
  compactions := h'.compactions.trans h.compactions
  size := h'.size.trans h.size
  taken := by
    intro p hp
    by_cases hy : p ∈ ys
    · have hnot := h.notMem_left hy
      rw [List.mem_append, not_or] at hnot
      rw [column_congr_row (h'.off p hnot.1 hnot.2)]
      exact h.taken p hy
    · have hx : p ∈ xs := (List.mem_append.mp hp).resolve_left hy
      have hcomp := column_comp (Descriptor.held tag) Descriptor.bare
      rw [h'.taken p hx, ← funext (Descriptor.held_bare tag), hcomp, hcomp, h.others p hy]
  others := by
    intro p hp
    rw [List.mem_append, not_or] at hp
    exact (h'.others p hp.2).trans (h.others p hp.1)
  off := by
    intro p hp hz
    rw [List.mem_append, not_or] at hp
    have hxz : p ∉ xs ++ zs := by
      rw [List.mem_append, not_or]
      exact ⟨hp.2, hz⟩
    exact (h'.off p hp.2 hz).trans (h.off p hp.1 hxz)

/-- A compound link of a page that has been taken does not show. -/
theorem Taken.withCompound (h : Taken tag ys zs pool pool₁) (hp : page ∈ ys) (compound : Page) :
    Taken tag ys zs pool { pool₁ with table := withCompound page compound pool₁.table } where
  nodup := h.nodup
  threads := by
    refine h.threads.congr ?_
    intro p hz
    have hne : p ≠ page := by
      rintro rfl
      exact h.notMem_left hp hz
    exact getElem?_withCompound_of_ne hne
  counted := h.counted
  allocations := h.allocations
  compactions := h.compactions
  size := size_withCompound.trans h.size
  taken p hy := (column_withCompound _ fun _ => rfl).trans (h.taken p hy)
  others := by
    intro p hy
    have hne : p ≠ page := by
      rintro rfl
      exact hy hp
    exact (column_congr_row (getElem?_withCompound_of_ne hne)).trans (h.others p hy)
  off := by
    intro p hy hz
    have hne : p ≠ page := by
      rintro rfl
      exact hy hp
    exact (getElem?_withCompound_of_ne hne).trans (h.off p hy hz)

/-- Pages that have been taken are in use. -/
theorem Taken.isUsed (h : Taken tag ys zs pool pool₁) (hp : page ∈ ys)
    (hsize : page.toNat < pool.table.size) : pool₁.table.IsUsed page := by
  have hrow : pool.table[page.toNat]? = some pool.table[page.toNat] :=
    Array.getElem?_eq_getElem hsize
  have hstatus : pool₁.table.column (fun row => row.unchained.status) page = some .used := by
    rw [column_comp Descriptor.status, h.taken page hp, ← column_comp Descriptor.status, column,
      hrow]
    rfl
  exact hstatus

/-- Pages that have not been taken are as free as they were. -/
theorem Taken.isFree_iff (h : Taken tag ys zs pool pool₁) (hp : page ∉ ys) :
    pool₁.table.IsFree page ↔ pool.table.IsFree page := by
  refine isFree_congr ?_
  have hcomp := column_comp Descriptor.status Descriptor.bare
  exact (hcomp _ _).trans ((congrArg _ (h.others page hp)).trans (hcomp _ _).symm)

/-- **A pool in balance is still in balance when pages have been taken from its free list.** -/
theorem Balanced.taken (h : pool.Balanced (ys ++ zs)) (h' : Taken tag ys zs pool pool₁) :
    pool₁.Balanced zs where
  small := h'.size ▸ h.small
  threads := h'.threads
  mem_iff := by
    intro p
    by_cases hp : p ∈ ys
    · have hfree := h.isFree (List.mem_append_left zs hp)
      have hnot : ¬ pool₁.table.IsFree p := by
        intro hfree'
        exact hfree'.not_isUsed (h'.isUsed hp hfree.lt_size)
      simp [h'.notMem_left hp, hnot]
    · rw [h'.isFree_iff hp, ← h.mem_iff, List.mem_append, or_iff_right hp]
  counted := by
    have h₁ := h.counted
    have h₂ := h'.counted
    rw [List.length_append] at h₁
    omega

/-! ## 2. One page -/

/-- **The head of the free list can be taken** as long as a page is counted as free. -/
theorem exists_take (tag : Tag) (h : pool.free.Threads pool.table (page :: zs))
    (hcount : 0 < pool.freePages.toNat) :
    ∃ pool', (take tag).Yields pool (.ok page) pool' ∧ Taken tag [page] zs pool pool' := by
  obtain ⟨list', table', hpop, hthreads, hlinks, hnone⟩ := h.pop
  obtain ⟨freePages, hsub, hnat⟩ := Word.exists_subExact (a := pool.freePages) (b := 1) hcount
  have hsize : page.toNat < table'.size := hlinks.size_eq ▸ h.lt_size (by simp)
  obtain ⟨hpage, -⟩ := List.nodup_cons.mp h.nodup
  have hne : ∀ p, p ∉ [page] → p ≠ page := by
    intro p hp
    simpa using hp
  refine ⟨{ pool with
      table := table'.modify page.toNat (Descriptor.taken tag), free := list', freePages }, ?_,
    ⟨h.nodup, ?_, hnat, rfl, rfl, ?_, ?_, ?_, ?_⟩⟩
  · have htake : (takeHead tag).Yields pool (.ok (some page)) _ :=
      .bind (yields_onFree hpop) (.bind (yields_onTable (yields_update _ hsize))
        (.bind (yields_countTaken hsub) (Action.yields_pure _ _)))
    exact .bind htake (Action.yields_pure _ _)
  · refine hthreads.congr ?_
    intro p hz
    have hother : p ≠ page := by
      rintro rfl
      exact hpage hz
    exact getElem?_modify_of_ne hother
  · rw [Array.size_modify, hlinks.size_eq]
  · intro p hp
    obtain rfl : p = page := by simpa using hp
    obtain ⟨row, hrow, hlink⟩ := column_eq_some_iff.mp hnone
    have hbare := hlinks.column_eq Descriptor.bare (fun _ => rfl) p
    have hheld := congrArg (Option.map (Descriptor.held tag)) hbare
    rw [← column_comp, ← column_comp, funext (Descriptor.held_bare tag)] at hheld
    rw [column_modify, if_pos rfl, ← hheld, column, column, hrow]
    simp only [Option.map_some, Descriptor.held, Descriptor.taken,
      Descriptor.bare, Descriptor.unchained, ← hlink]
  · intro p hp
    rw [column_congr_row (getElem?_modify_of_ne (hne p hp))]
    exact hlinks.column_eq _ (fun _ => rfl) p
  · intro p hp hz
    exact (getElem?_modify_of_ne (hne p hp)).trans (hlinks.off p (by simp [hne p hp, hz]))

/-! ## 3. A ring of pages -/

/-- **The loop.**  What has been taken so far is a ring, and stays one as pages are added. -/
theorem Taken.exists_takeMore {first last : Page} (h : Taken tag ys (xs ++ zs) pool pool₁)
    (hring : Ring pool₁.table.Chained ys) (hf : ys.head? = some first)
    (hl : ys.getLast? = some last) (hcount : xs.length ≤ pool₁.freePages.toNat) :
    ∃ pool₂, (takeMore tag first xs.length last).Yields pool₁ (.ok ()) pool₂ ∧
      Taken tag (ys ++ xs) zs pool pool₂ ∧ Ring pool₂.table.Chained (ys ++ xs) := by
  induction xs generalizing ys last pool₁ with
  | nil => exact ⟨pool₁, Action.yields_pure _ _, by simpa using h, by simpa using hring⟩
  | cons x xs ih =>
    rw [List.length_cons] at hcount
    obtain ⟨pool₂, htake, htaken⟩ := exists_take tag h.threads (by omega)
    have hlmem : last ∈ ys := List.mem_of_getLast? hl
    have hx : x ∉ ys := fun hmem => h.notMem_left hmem (by simp)
    have hsize : x.toNat < pool₂.table.size := htaken.size ▸ h.threads.lt_size (by simp)
    have hlsize : last.toNat < pool₂.table.size := htaken.size ▸ lt_size_of_ring hring hlmem
    -- taking one more page leaves the rows of those taken before alone
    have hring₂ : Ring pool₂.table.Chained ys := by
      refine ring_congr hring ?_
      intro p hp
      refine column_congr_row (htaken.off p ?_ ?_)
      · intro hmem
        obtain rfl : p = x := by simpa using hmem
        exact hx hp
      · intro hmem
        exact h.notMem_left hp (by simp [List.mem_append.mp hmem])
    have h' : Taken tag ys ([x] ++ (xs ++ zs)) pool pool₁ := h
    have hsum : Taken tag (ys ++ [x]) (xs ++ zs) pool pool₂ := h'.trans htaken
    have hlast : (ys ++ [x]).getLast? = some x := by simp
    obtain ⟨pool₃, hyields, htaken₃, hring₃⟩ := ih
      ((hsum.withCompound (List.mem_append_left _ hlmem) x).withCompound
        (List.mem_append_right _ (List.mem_singleton_self x)) first)
      (ring_extend hring₂ h.nodup_left hx hf hl hsize) (by simp [hf]) hlast
      (by have := htaken.counted; simp only [List.length_singleton] at this; dsimp only; omega)
    refine ⟨pool₃, .bind htake (.bind (yields_onTable (yields_setCompound hlsize))
      (.bind (yields_onTable (yields_setCompound (by simpa using hsize))) hyields)), ?_, ?_⟩
    · simpa using htaken₃
    · simpa using hring₃

/-- **Pages at the head of the free list can be taken into a ring,** in their order. The first page
is a ring of its own, and each page after it is put in behind the last, so the ring is closed after
every step and the loop needs no step to close it. -/
theorem exists_takeRing (tag : Tag) (h : pool.free.Threads pool.table (page :: ys ++ zs))
    (hcount : ys.length < pool.freePages.toNat) :
    ∃ pool', (takeRing tag (ys.length + 1)).Yields pool (.ok page) pool' ∧
      Taken tag (page :: ys) zs pool pool' ∧ Ring pool'.table.Chained (page :: ys) := by
  obtain ⟨pool₁, htake, htaken⟩ := exists_take tag h (by omega)
  have hsize : page.toNat < pool₁.table.size := htaken.size ▸ h.lt_size (by simp)
  have hcount₁ := htaken.counted
  rw [List.length_singleton] at hcount₁
  obtain ⟨pool₂, hmore, htaken₂, hring₂⟩ :=
    (htaken.withCompound (List.mem_singleton_self page) page).exists_takeMore
      (ring_singleton hsize) rfl rfl (by omega : ys.length ≤ pool₁.freePages.toNat)
  exact ⟨pool₂, .bind htake (.bind (yields_onTable (yields_setCompound hsize))
    (.bind hmore (Action.yields_pure _ _))), htaken₂, hring₂⟩

end Pool

end PageFrames
