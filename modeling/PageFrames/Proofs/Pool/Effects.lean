/-
# What a request means for the pages

Seen from the pages, a request takes some of the free ones, or none, and a release makes some
pages free again.  `Pool.Took` and `Pool.GaveBack` say what this comes to for every page of the
pool; the order of the free list and the links of free pages are no part of it.

In particular the row of a page in use is not changed at all, unless the page itself is given back,
and what is taken and given back has not been taken (`Pool.Took.gaveBack`).
-/
import PageFrames.Proofs.Pool.Upkeep

namespace PageFrames.Pool

open Table

variable {pool pool₁ pool' : Pool} {xs ys zs : List Page} {tag : Tag} {count : Word}
  {run compaction : Bool} {r : Except Fault (Except Refusal Page)}

/-! ## 1. Pages taken -/

/-- Between the two pools the free pages `ys` were taken: they are an allocation under the tag, and
nothing else has been given to anybody or taken from anybody. -/
structure Took (tag : Tag) (ys : List Page) (pool pool' : Pool) : Prop where
  size : pool'.table.size = pool.table.size
  own : pool'.table.Allocation ys
  tagged : ∀ p ∈ ys, pool'.table.column Descriptor.tag p = some tag
  free : ∀ p ∈ ys, pool.table.IsFree p
  isFree_iff : ∀ p, pool'.table.IsFree p ↔ pool.table.IsFree p ∧ p ∉ ys
  used : ∀ p, pool.table.IsUsed p → pool'.table[p.toNat]? = pool.table[p.toNat]?
  counted : pool'.freePages.toNat + ys.length = pool.freePages.toNat

/-- Changing links of free pages takes none. -/
theorem took_nil_of_relinked (tag : Tag) (h : pool.Balanced xs)
    (hlinks : Relinked pool.table.freePages pool.table pool'.table)
    (hcounted : pool'.freePages = pool.freePages) : Took tag [] pool pool' where
  size := hlinks.size_eq
  own := allocation_nil _
  tagged := by simp
  free := by simp
  isFree_iff p := by simpa using isFree_congr (hlinks.column_eq _ (fun _ => rfl) p)
  used p hused := hlinks.off p fun hp => (h.isFree_of_mem_freePages p hp).not_isUsed hused
  counted := congrArg UInt64.toNat hcounted

/-- Lining up and taking pages do not touch the rows of pages in use. -/
theorem Balanced.row_eq_of_taken {n : Nat} (h : pool.Balanced xs)
    (hlined : Lined n run compaction pool xs pool₁ (ys ++ zs))
    (htaken : Taken tag ys zs pool₁ pool') {p : Page} (hp : pool.table.IsUsed p) :
    pool'.table[p.toNat]? = pool.table[p.toNat]? := by
  have hlink := took_nil_of_relinked tag h hlined.links hlined.freePages
  -- what is on the list is free, in whatever order
  have hnot : p ∉ ys ++ zs := by
    intro hmem
    exact ((hlink.isFree_iff p).mp ((h.lined hlined).isFree hmem)).1.not_isUsed hp
  rw [List.mem_append, not_or] at hnot
  exact (htaken.off p hnot.1 hnot.2).trans (hlink.used p hp)

/-- Pages that have been lined up and taken have been taken. -/
theorem Balanced.took (h : pool.Balanced xs) {n : Nat}
    (hlined : Lined n run compaction pool xs pool₁ (ys ++ zs))
    (htaken : Taken tag ys zs pool₁ pool') (hring : Ring pool'.table.Chained ys) :
    Took tag ys pool pool' := by
  have hbal := h.lined hlined
  have hlink := took_nil_of_relinked tag h hlined.links hlined.freePages
  have hfree₁ : ∀ p ∈ ys, pool₁.table.IsFree p := by
    intro p hp
    exact hbal.isFree (List.mem_append_left zs hp)
  have hused : ∀ p ∈ ys, pool'.table.IsUsed p := by
    intro p hp
    exact htaken.isUsed hp (hfree₁ p hp).lt_size
  refine ⟨htaken.size.trans hlink.size, ⟨htaken.nodup_left, hring, hused⟩, ?_, ?_, ?_, ?_, ?_⟩
  · intro p hp
    have hcolumn := congrArg (Option.map Descriptor.tag) (htaken.taken p hp)
    rw [← column_comp, ← column_comp] at hcolumn
    refine (show _ = column (fun row => (Descriptor.held tag row).tag) pool₁.table p from
      hcolumn).trans ?_
    exact column_const (hfree₁ p hp).lt_size tag
  · intro p hp
    simpa using (hlink.isFree_iff p).mp (hfree₁ p hp)
  · intro p
    by_cases hp : p ∈ ys
    · have hnot : ¬ pool'.table.IsFree p := fun hf => hf.not_isUsed (hused p hp)
      simp [hp, hnot]
    · rw [htaken.isFree_iff hp, hlink.isFree_iff]
      simp [hp]
  · intro p hp
    exact h.row_eq_of_taken hlined htaken hp
  · rw [htaken.counted, hlined.freePages]

/-- A page in use that was not taken was in use before. -/
theorem Took.isUsed_of_notMem (h : Took tag ys pool pool') {p : Page}
    (hp : pool'.table.IsUsed p) (hmem : p ∉ ys) : pool.table.IsUsed p := by
  have hnot : ¬ pool.table.IsFree p := fun hfree =>
    ((h.isFree_iff p).mpr ⟨hfree, hmem⟩).not_isUsed hp
  exact (isFree_or_isUsed (h.size ▸ hp.lt_size)).resolve_left hnot

/-- The count of requests is no part of what was taken. -/
theorem Took.withAllocations (h : Took tag ys pool pool') (allocations : Word) :
    Took tag ys pool { pool' with allocations } :=
  ⟨h.size, h.own, h.tagged, h.free, h.isFree_iff, h.used, h.counted⟩

/-- **A request that is granted took as many pages as it asked for,** from the first one on, and
they are a run if it asked for one. -/
theorem Balanced.took_of_granted {first : Page} (h : pool.Balanced xs)
    (h' : Allocates count run compaction tag pool xs (.ok (.ok first)) pool') :
    ∃ ys, ys.length + 1 = count.toNat ∧ Took tag (first :: ys) pool pool' ∧
      (run = true → ∀ k p, (first :: ys)[k]? = some p → p.toNat = first.toNat + k) := by
  cases h' with
  | @granted pool₁ pool₂ _ ys zs _ hlen hlined htaken hring _ =>
    refine ⟨ys, hlen, (h.took hlined htaken hring).withAllocations _, ?_⟩
    rintro rfl k p hp
    have hk : k < (first :: ys).length := (List.getElem?_eq_some_iff.mp hp).1
    have hcount : k < count.toNat := hlen ▸ hk
    have hfirst : (first :: ys ++ zs)[0]? = some first := rfl
    obtain ⟨q, hq, hnat⟩ := hlined.exists_page hfirst hcount
    rw [List.getElem?_append_left hk, hp, Option.some.injEq] at hq
    exact hq ▸ hnat

/-- A request that is refused took nothing. -/
theorem Balanced.took_nil_of_refused {reason : Refusal} (h : pool.Balanced xs)
    (h' : Allocates count run compaction tag pool xs (.ok (.error reason)) pool') :
    Took tag [] pool pool' := by
  have hrefl := took_nil_of_relinked tag h (Relinked.refl _ _) rfl
  cases h' with
  | zeroPages => exact hrefl
  | outOfMemory => exact hrefl
  | hidden => exact hrefl
  | absent _ _ _ _ _ hbuilt => exact took_nil_of_relinked tag h hbuilt.links hbuilt.freePages

/-- **A request that is not granted took nothing,** unless the count of requests is at its end, when
the pages have been taken already. -/
theorem Balanced.took_nil (h : pool.Balanced xs) (hroom : pool.allocations.toNat + 1 < 2 ^ 64)
    (h' : Allocates count run compaction tag pool xs r pool')
    (hnot : ∀ first, r ≠ .ok (.ok first)) : Took tag [] pool pool' := by
  cases r with
  | ok answer =>
    cases answer with
    | error reason => exact h.took_nil_of_refused h'
    | ok first => exact absurd rfl (hnot first)
  | error fault =>
    cases h' with
    | uncounted _ hbuilt => exact took_nil_of_relinked tag h hbuilt.links hbuilt.freePages
    | unrecorded hfull => omega

/-- **Whatever a request comes to,** it took some pages as an allocation, or none. -/
theorem Balanced.exists_took (h : pool.Balanced xs)
    (h' : Allocates count run compaction tag pool xs r pool') :
    ∃ ys, Took tag ys pool pool' := by
  cases r with
  | ok answer =>
    cases answer with
    | error reason => exact ⟨[], h.took_nil_of_refused h'⟩
    | ok first =>
      obtain ⟨ys, -, htook, -⟩ := h.took_of_granted h'
      exact ⟨_, htook⟩
  | error fault =>
    cases h' with
    | uncounted _ hbuilt => exact ⟨[], took_nil_of_relinked tag h hbuilt.links hbuilt.freePages⟩
    | unrecorded _ hlined htaken hring => exact ⟨_, h.took hlined htaken hring⟩

/-- **No request touches the row of a page in use,** whatever it comes to. -/
theorem Balanced.row_eq_of_allocates (h : pool.Balanced xs)
    (h' : Allocates count run compaction tag pool xs r pool') {p : Page}
    (hp : pool.table.IsUsed p) : pool'.table[p.toNat]? = pool.table[p.toNat]? := by
  obtain ⟨ys, htook⟩ := h.exists_took h'
  exact htook.used p hp

/-! ## 2. Counters -/

theorem Lined.compactions_le {n : Nat} {queue : List Page}
    (h : Lined n run compaction pool xs pool₁ queue) :
    pool₁.compactions.toNat ≤ pool.compactions.toNat + 1 := by
  cases h with
  | asIs => omega
  | turned => dsimp only; omega
  | rebuilt _ _ _ _ _ hcount => exact hcount.le

/-- A request counts at most one more rebuild. -/
theorem Allocates.compactions_le (h' : Allocates count run compaction tag pool xs r pool') :
    pool'.compactions.toNat ≤ pool.compactions.toNat + 1 := by
  cases h' with
  | zeroPages => omega
  | outOfMemory => omega
  | hidden => omega
  | absent _ _ _ _ _ _ hcount => exact hcount.le
  | uncounted hfull =>
    have hlt := pool'.compactions.toNat_lt
    omega
  | granted _ hlined htaken =>
    dsimp only
    rw [htaken.compactions]
    exact hlined.compactions_le
  | unrecorded _ hlined htaken =>
    rw [htaken.compactions]
    exact hlined.compactions_le

/-- A request that is counted as granted leaves fewer pages free. -/
theorem Allocates.allocations_eq_or_lt (h' : Allocates count run compaction tag pool xs r pool') :
    pool'.allocations = pool.allocations ∨
      pool'.allocations.toNat = pool.allocations.toNat + 1 ∧
        pool'.freePages.toNat < pool.freePages.toNat := by
  cases h' with
  | zeroPages => exact .inl rfl
  | outOfMemory => exact .inl rfl
  | hidden => exact .inl rfl
  | absent _ _ _ _ _ hbuilt => exact .inl hbuilt.allocations
  | uncounted _ hbuilt => exact .inl hbuilt.allocations
  | granted _ hlined htaken _ hcount =>
    refine .inr ⟨hcount, ?_⟩
    have hcounted := htaken.counted
    rw [hlined.freePages, List.length_cons] at hcounted
    dsimp only
    omega
  | unrecorded _ hlined htaken => exact .inl (htaken.allocations.trans hlined.allocations)

/-- A request counts at most one more granted request. -/
theorem Allocates.allocations_le (h' : Allocates count run compaction tag pool xs r pool') :
    pool'.allocations.toNat ≤ pool.allocations.toNat + 1 := by
  rcases h'.allocations_eq_or_lt with hsame | ⟨hmore, -⟩
  · rw [hsame]
    omega
  · exact hmore.le

/-- **A request is answered** if it can be counted, and a rebuild for it as well. -/
theorem Allocates.exists_answer (h' : Allocates count run compaction tag pool xs r pool')
    (hallocations : pool.allocations.toNat + 1 < 2 ^ 64)
    (hcompactions : pool.compactions.toNat + 1 < 2 ^ 64) : ∃ answer, r = .ok answer := by
  cases h' with
  | zeroPages | outOfMemory | hidden | absent | granted => exact ⟨_, rfl⟩
  | uncounted hfull => omega
  | unrecorded hfull => omega

/-! ## 3. Pages given back -/

/-- Between the two pools the pages `ys` in use were given back, and nothing else has been given to
anybody or taken from anybody. -/
structure GaveBack (ys : List Page) (pool pool' : Pool) : Prop where
  size : pool'.table.size = pool.table.size
  isFree_iff : ∀ p, pool'.table.IsFree p ↔ pool.table.IsFree p ∨ p ∈ ys
  used : ∀ p, pool.table.IsUsed p → p ∉ ys → pool'.table[p.toNat]? = pool.table[p.toNat]?
  counted : pool'.freePages.toNat = pool.freePages.toNat + ys.length

/-- The order of the pages given back does not matter. -/
theorem GaveBack.perm (h : GaveBack ys pool pool') (hperm : ys.Perm zs) :
    GaveBack zs pool pool' where
  size := h.size
  isFree_iff := by
    intro p
    rw [← hperm.mem_iff]
    exact h.isFree_iff p
  used := by
    intro p hused hnot
    exact h.used p hused fun hp => hnot (hperm.mem_iff.mp hp)
  counted := by
    rw [← hperm.length_eq]
    exact h.counted

/-- A page that is still in use was in use before, and has not been given back. -/
theorem GaveBack.isUsed_and_notMem (h : GaveBack ys pool pool') {p : Page}
    (hp : pool'.table.IsUsed p) : pool.table.IsUsed p ∧ p ∉ ys := by
  have hnot : ¬ (pool.table.IsFree p ∨ p ∈ ys) := fun hfree =>
    ((h.isFree_iff p).mpr hfree).not_isUsed hp
  rw [not_or] at hnot
  exact ⟨(isFree_or_isUsed (h.size ▸ hp.lt_size)).resolve_left hnot.1, hnot.2⟩

theorem Balanced.gaveBack (h : pool.Balanced xs) (hused : ∀ p ∈ ys, pool.table.IsUsed p)
    (h' : GivenBack ys xs pool pool') : GaveBack ys pool pool' where
  size := h'.rows.size
  isFree_iff := by
    intro p
    rw [← (h.givenBack hused h').mem_iff, List.mem_append, h.mem_iff]
  used p hp hy := h'.rows.off p hy fun hx => (h.isFree hx).not_isUsed hp
  counted := h'.counted

/-- Pages taken and given back have not been taken. -/
theorem Took.gaveBack (h : Took tag ys pool pool₁) (h' : GaveBack ys pool₁ pool') :
    Took tag [] pool pool' where
  size := h'.size.trans h.size
  own := allocation_nil _
  tagged := by simp
  free := by simp
  isFree_iff := by
    intro p
    rw [h'.isFree_iff, h.isFree_iff]
    by_cases hp : p ∈ ys
    · simpa [hp] using h.free p hp
    · simp [hp]
  used := by
    intro p hused
    have hsame := h.used p hused
    have hnot : p ∉ ys := fun hp => (h.free p hp).not_isUsed hused
    exact (h'.used p ((column_congr_row hsame).trans hused) hnot).trans hsame
  counted := by
    have htaken := h.counted
    have hback := h'.counted
    rw [List.length_nil]
    omega

end PageFrames.Pool
