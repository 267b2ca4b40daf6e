/-
# Rings

A ring of a relation is a list in which each element is related to the one after it and the last
one to the first.  Free lists and allocations are both kept as rings through the rows of a table,
so what is said here of rings is said for an arbitrary relation:

* a ring can be read from any of its elements on (`Ring.rotate`);
* the inner pairs of a list without repetition survive any change of the relation that spares
  them (`isChain_of_inner`), so adding an element, taking one out and joining two rings come down
  to the pairs at the ends;
* a ring of a function is the list of its iterates up to the first return (`ring_iterate_iff`,
  `nodup_iterate`).
-/
import Mathlib.Data.List.Chain
import Mathlib.Data.List.Iterate
import Mathlib.Data.List.Nodup
import Mathlib.Data.List.Rotate
import Mathlib.Dynamics.PeriodicPts.Defs

namespace PageFrames

variable {α : Type} {R S : α → α → Prop}

/-! ## 1. Rings of a relation -/

/-- Each element is related to the one after it, and the last one to the first. -/
def Ring (R : α → α → Prop) (xs : List α) : Prop := (xs ++ xs.head?.toList).IsChain R

instance [DecidableRel R] (xs : List α) : Decidable (Ring R xs) :=
  inferInstanceAs (Decidable (List.IsChain R _))

theorem ring_nil : Ring R [] := .nil

theorem ring_cons_iff {x : α} {xs : List α} : Ring R (x :: xs) ↔ (x :: xs ++ [x]).IsChain R :=
  Iff.rfl

/-- A ring is a chain that is closed by one more pair. -/
theorem ring_iff {xs : List α} :
    Ring R xs ↔ xs.IsChain R ∧ ∀ last ∈ xs.getLast?, ∀ first ∈ xs.head?, R last first := by
  cases xs with
  | nil => simp [ring_nil]
  | cons x xs =>
    rw [ring_cons_iff, List.isChain_append]
    simp

theorem Ring.isChain {xs : List α} (h : Ring R xs) : xs.IsChain R := (ring_iff.mp h).1

theorem Ring.closed {xs : List α} (h : Ring R xs) {last first : α} (hl : xs.getLast? = some last)
    (hf : xs.head? = some first) : R last first :=
  (ring_iff.mp h).2 last hl first hf

theorem Ring.imp_of_mem {xs : List α} (h : Ring R xs)
    (himp : ∀ a ∈ xs, ∀ b ∈ xs, R a b → S a b) : Ring S xs := by
  have hmem : ∀ a ∈ xs ++ xs.head?.toList, a ∈ xs := by
    intro a ha
    rcases List.mem_append.mp ha with ha | ha
    · exact ha
    · exact List.mem_of_head? (Option.mem_toList.mp ha)
  exact List.IsChain.imp_of_mem_imp (fun a b ha hb => himp a (hmem a ha) b (hmem b hb)) h

theorem Ring.imp {xs : List α} (h : Ring R xs) (himp : ∀ a b, R a b → S a b) : Ring S xs :=
  h.imp_of_mem fun a _ b _ => himp a b

/-- A ring can be read from any place on. -/
theorem Ring.rotate {xs ys : List α} (h : Ring R (xs ++ ys)) : Ring R (ys ++ xs) := by
  rcases xs with _ | ⟨x, xs⟩
  · simpa using h
  rcases ys with _ | ⟨y, ys⟩
  · simpa using h
  have h' : (x :: xs ++ y :: (ys ++ [x])).IsChain R := by simpa [Ring] using h
  rw [List.isChain_split] at h'
  have h'' : (y :: ys ++ x :: (xs ++ [y])).IsChain R :=
    List.isChain_split.mpr ⟨by simpa using h'.2, by simpa using h'.1⟩
  simpa [Ring] using h''

/-- A list that is turned is as much of a ring. -/
theorem Ring.isRotated {xs ys : List α} (h : Ring R xs) (hturn : xs ~r ys) : Ring R ys := by
  obtain ⟨n, rfl⟩ := hturn
  rw [List.rotate_eq_drop_append_take_mod]
  refine Ring.rotate ?_
  rw [List.take_append_drop]
  exact h

/-- Two rings over the same list are one ring of both relations. -/
theorem Ring.and {xs : List α} (h : Ring R xs) (h' : Ring S xs) :
    Ring (fun a b => R a b ∧ S a b) xs := by
  unfold Ring at h h' ⊢
  rw [List.isChain_iff_getElem] at h h' ⊢
  intro i hi
  exact ⟨h i hi, h' i hi⟩

/-- Two rings are joined by the two pairs that lead from one to the other. -/
theorem ring_append {xs ys : List α} (hx : xs.IsChain R) (hy : ys.IsChain R)
    (hxy : ∀ last ∈ xs.getLast?, ∀ first ∈ ys.head?, R last first)
    (hyx : ∀ last ∈ ys.getLast?, ∀ first ∈ xs.head?, R last first)
    (hxs : xs ≠ []) (hys : ys ≠ []) : Ring R (xs ++ ys) := by
  refine ring_iff.mpr ⟨List.isChain_append.mpr ⟨hx, hy, hxy⟩, ?_⟩
  intro last hl first hf
  refine hyx last ?_ first ?_
  · rwa [List.getLast?_append_of_ne_nil _ hys] at hl
  · rwa [List.head?_append_of_ne_nil _ hxs] at hf

/-- The pairs of a ring by their places, which are counted round. -/
theorem Ring.rel_getElem {xs : List α} (h : Ring R xs) {i : Nat} {x y : α} (hx : xs[i]? = some x)
    (hy : xs[(i + 1) % xs.length]? = some y) : R x y := by
  obtain ⟨hi, rfl⟩ := List.getElem?_eq_some_iff.mp hx
  obtain ⟨first, hfirst⟩ : ∃ first, xs.head? = some first := by
    cases xs with
    | nil => simp at hi
    | cons x _ => exact ⟨x, rfl⟩
  have hlen : i + 1 < (xs ++ xs.head?.toList).length := by simp [hfirst]; omega
  have hpair := List.isChain_iff_getElem.mp h i hlen
  rw [List.getElem_append_left hi] at hpair
  rcases Nat.lt_or_ge (i + 1) xs.length with hlt | hge
  · rw [Nat.mod_eq_of_lt hlt, List.getElem?_eq_getElem hlt, Option.some.injEq] at hy
    rw [List.getElem_append_left hlt] at hpair
    exact hy ▸ hpair
  · have hlast : i + 1 = xs.length := by omega
    rw [hlast, Nat.mod_self, ← List.head?_eq_getElem?, hfirst, Option.some.injEq] at hy
    rw [List.getElem_append_right hge] at hpair
    simp only [hlast, Nat.sub_self, hfirst, Option.toList_some, List.getElem_singleton] at hpair
    exact hy ▸ hpair

/-- There is an element at every place of a ring, counted round. -/
theorem exists_getElem_mod {xs : List α} {x : α} (hx : x ∈ xs) (i : Nat) :
    ∃ y, xs[i % xs.length]? = some y :=
  ⟨_, List.getElem?_eq_getElem (Nat.mod_lt i (List.length_pos_of_mem hx))⟩

/-- An element of a ring is related to one of its elements. -/
theorem Ring.exists_next {xs : List α} (h : Ring R xs) {x : α} (hx : x ∈ xs) :
    ∃ y ∈ xs, R x y := by
  obtain ⟨i, hi⟩ := List.mem_iff_getElem?.mp hx
  obtain ⟨y, hy⟩ := exists_getElem_mod hx (i + 1)
  exact ⟨y, List.mem_of_getElem? hy, h.rel_getElem hi hy⟩

/-- An element of a ring has one of its elements related to it. -/
theorem Ring.exists_prev {xs : List α} (h : Ring R xs) {x : α} (hx : x ∈ xs) :
    ∃ y ∈ xs, R y x := by
  obtain ⟨j, hj⟩ := List.mem_iff_getElem?.mp hx
  obtain ⟨hlt, -⟩ := List.getElem?_eq_some_iff.mp hj
  -- the place before the first one is the last one
  obtain ⟨i, hi, hround⟩ : ∃ i, i < xs.length ∧ (i + 1) % xs.length = j := by
    rcases j with _ | j
    · exact ⟨xs.length - 1, by omega, by rw [Nat.sub_add_cancel (by omega), Nat.mod_self]⟩
    · exact ⟨j, by omega, Nat.mod_eq_of_lt hlt⟩
  have hget : xs[i]? = some xs[i] := List.getElem?_eq_getElem hi
  exact ⟨xs[i], List.getElem_mem hi, h.rel_getElem hget (hround.symm ▸ hj)⟩

/-- The pairs of a list without repetition, but for the successor of the last element and the
predecessor of the first, survive a change of the relation that spares them. -/
theorem isChain_of_inner {xs : List α} (hn : xs.Nodup) (h : xs.IsChain R)
    (himp : ∀ a ∈ xs, ∀ b ∈ xs, xs.getLast? ≠ some a → xs.head? ≠ some b → R a b → S a b) :
    xs.IsChain S := by
  refine List.isChain_iff_forall_rel_of_append_cons_cons.mpr ?_
  intro a b pre post hxs
  have hab : R a b := List.isChain_iff_forall_rel_of_append_cons_cons.mp h hxs
  have hlast : xs.getLast? ≠ some a := by
    intro hl
    have ha : a ∈ b :: post := by
      rw [hxs, List.getLast?_append_cons, List.getLast?_cons_cons] at hl
      exact List.mem_of_getLast? hl
    rw [hxs] at hn
    exact (List.nodup_cons.mp (List.nodup_append.mp hn).2.1).1 ha
  have hfirst : xs.head? ≠ some b := by
    intro hf
    have hb : b ∈ pre ++ [a] := by
      rcases pre with _ | ⟨p, pre⟩
      · simp_all
      · rw [hxs] at hf
        simp_all
    rw [hxs, show pre ++ a :: b :: post = (pre ++ [a]) ++ b :: post by simp] at hn
    exact (List.nodup_append.mp hn).2.2 b hb b (by simp) rfl
  exact himp a (by simp [hxs]) b (by simp [hxs]) hlast hfirst hab

/-! ## 2. Rings of a function -/

variable {f : α → α}

/-- A chain of a function that ends with `y` is its iterates, of which `y` is the next. -/
theorem isChain_iterate_iff {x y : α} {xs : List α} :
    (x :: xs ++ [y]).IsChain (fun a b => f a = b) ↔
      x :: xs = List.iterate f x (xs.length + 1) ∧ f^[xs.length + 1] x = y := by
  induction xs generalizing x with
  | nil => simp [List.iterate]
  | cons z zs ih =>
    rw [List.cons_append, List.cons_append, List.isChain_cons_cons, ← List.cons_append, ih]
    constructor
    · rintro ⟨rfl, h, hy⟩
      exact ⟨by rw [h]; simp [List.iterate], hy⟩
    · rintro ⟨h, hy⟩
      rw [List.length_cons, List.iterate, List.cons.injEq] at h
      obtain ⟨-, h⟩ := h
      have hz : z = f x := by
        rw [List.iterate, List.cons.injEq] at h
        exact h.1
      subst hz
      exact ⟨rfl, h, hy⟩

/-- A ring of a function is its iterates from the first element until that comes again. -/
theorem ring_iterate_iff {x : α} {xs : List α} :
    Ring (fun a b => f a = b) (x :: xs) ↔
      x :: xs = List.iterate f x (xs.length + 1) ∧ f^[xs.length + 1] x = x :=
  isChain_iterate_iff

/-- Until the first return, no iterate comes twice. -/
theorem nodup_iterate {x : α} {k : Nat} (h : ∀ j, 0 < j → j < k → f^[j] x ≠ x)
    (hk : f^[k] x = x) : (List.iterate f x k).Nodup := by
  rcases Nat.eq_zero_or_pos k with rfl | hpos
  · simp [List.iterate]
  have hmin : k = Function.minimalPeriod f x := by
    refine le_antisymm (not_lt.mp ?_) (Function.IsPeriodicPt.minimalPeriod_le hpos hk)
    intro hlt
    exact h _ (Function.IsPeriodicPt.minimalPeriod_pos hpos hk) hlt
      (Function.isPeriodicPt_minimalPeriod f x)
  rw [← List.range_map_iterate]
  refine List.Nodup.map_on ?_ List.nodup_range
  intro i hi j hj hij
  rw [List.mem_range, hmin] at hi hj
  exact (Function.iterate_eq_iterate_iff_of_lt_minimalPeriod hi hj).mp hij

end PageFrames
