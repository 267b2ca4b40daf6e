/-
# Looking at an allocation

What an allocator tells about the pages of an allocation, when it is asked about any of them: the
page after it, the number of pages, the pages in their order.  All of it is right if the pages are
an allocation in the table (`Table.Allocation`), wherever one begins to ask.
-/
import PageFrames.Proofs.Allocator.Requests

namespace PageFrames.Allocator

open Table

variable {allocator : Allocator} {xs ys : List Page} {page first : Page}

theorem compoundNext?_eq (h : allocator.pool.table.IsUsed page) :
    allocator.compoundNext? page = allocator.pool.table.column Descriptor.compound page := by
  obtain ⟨row, hrow, hstatus⟩ := column_eq_some_iff.mp h
  simp [compoundNext?, row?, column, hrow, hstatus]

/-- **The page after a page of an allocation** is the next one, and the first after the last. -/
theorem compoundNext?_of_allocation (h : allocator.pool.table.Allocation xs) {i : Nat}
    (hi : xs[i]? = some page) :
    allocator.compoundNext? page = xs[(i + 1) % xs.length]? := by
  have hmem := List.mem_of_getElem? hi
  obtain ⟨next, hnext⟩ := exists_getElem_mod hmem (i + 1)
  rw [compoundNext?_eq (h.used page hmem), hnext]
  exact h.ring.rel_getElem hi hnext

/-- **The length of an allocation** is told by each of its pages, since the ring can be read from
any of them on. -/
theorem compoundLength_of_allocation (h : allocator.pool.table.Allocation xs) (hp : page ∈ xs) :
    allocator.compoundLength page = .ok xs.length := by
  have hstatus : allocator.status? page = some .used := h.used page hp
  obtain ⟨pre, post, rfl⟩ := List.append_of_mem hp
  have hturned := h.rotate
  rw [compoundLength, hstatus]
  show allocator.pool.table.ringLength Descriptor.compound page = _
  have hlen : (post ++ pre).length + 1 = (pre ++ page :: post).length := by
    simp only [List.length_append, List.length_cons]
    omega
  rw [← hlen]
  exact ringLength_of_ring hturned.ring hturned.nodup

/-- The pages up to `first` are listed, and then the list is closed. -/
theorem chainFrom_of_isChain {bound : Nat}
    (hway : (page :: ys ++ [first]).IsChain allocator.pool.table.Chained)
    (hused : ∀ p ∈ page :: ys, allocator.pool.table.IsUsed p) (hfirst : first ∉ ys)
    (hbound : ys.length < bound) :
    allocator.chainFrom first bound page = (page :: ys, true) := by
  induction ys generalizing page bound with
  | nil =>
    obtain ⟨bound, rfl⟩ : ∃ n, bound = n + 1 := Nat.exists_eq_add_of_le' hbound
    have hlink : allocator.pool.table.Chained page first := List.isChain_pair.mp hway
    have hnext : allocator.compoundNext? page = some first :=
      (compoundNext?_eq (hused page (by simp))).trans hlink
    rw [chainFrom, hnext]
    simp
  | cons y ys ih =>
    obtain ⟨bound, rfl⟩ : ∃ n, bound = n + 1 := Nat.exists_eq_add_of_le' (by omega)
    have hway' := List.isChain_cons_cons.mp hway
    obtain ⟨hne, hfirst'⟩ : first ≠ y ∧ first ∉ ys := by simpa using hfirst
    have hnext : allocator.compoundNext? page = some y :=
      (compoundNext?_eq (hused page (by simp))).trans hway'.1
    have hrest := ih hway'.2 (fun p hp => hused p (List.mem_cons_of_mem page hp)) hfirst'
      (by simpa using hbound)
    rw [chainFrom, hnext]
    simp [hne.symm, hrest]

/-- **The chain of a page lists its allocation,** beginning with the page. -/
theorem Seated.chain_eq (h : allocator.Seated)
    (hown : allocator.pool.table.Allocation (page :: ys)) :
    allocator.chain page = (page :: ys, true) := by
  have hlen := hown.length_le
  rw [List.length_cons] at hlen
  rw [chain, h.totalPages]
  exact chainFrom_of_isChain hown.ring hown.used (List.nodup_cons.mp hown.nodup).1 (by omega)

end PageFrames.Allocator
