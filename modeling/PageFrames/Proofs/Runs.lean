/-
# Runs of requests

A run is a list of requests and releases, made one after the other from an allocator that was set
up.  One that ends with a fault counts as well: the next one starts in the state that it left.

All that a request can end with is listed by `Request.Ends`.  What holds throughout is
`Allocator.InOrder`.  Each request keeps it, whether it is granted or not and whatever page a
release names (`Allocator.InOrder.exists_after`), and so does a run of any length.  What it means
for the free list, the counts and the rows is spelled out in `Allocator.Consistent`.
-/
import PageFrames.Proofs.Setup

namespace PageFrames

open Table

/-! ## 1. Runs -/

namespace Request

/-- The allocator that the request leaves, with an answer or with a fault. -/
def after (allocator : Allocator) (request : Request) : Allocator :=
  (request.perform.run allocator).state

/-- The allocator that a run of requests leaves. -/
def afterAll (allocator : Allocator) (requests : List Request) : Allocator :=
  requests.foldl after allocator

/-- No run moves an allocator to another region. -/
theorem region_afterAll (allocator : Allocator) (requests : List Request) :
    (afterAll allocator requests).region = allocator.region := by
  induction requests generalizing allocator with
  | nil => rfl
  | cons request requests ih =>
    have hkeeps := request.maintains_of_withPool (P := (·.region = allocator.region))
      fun _ _ hsame => hsame
    exact (ih _).trans (hkeeps allocator _ _ (Action.yields_run _ allocator) rfl)

/-- What a request can end with, and the pool that it leaves, where releases are checked and the
free list has the pages in the order `xs`. -/
inductive Ends (allocator : Allocator) (xs : List Page) :
    Request → Except Fault (Option Page) → Pool → Prop
  | asked {request : Request} {count : Word} {options : Options}
      {r : Except Fault (Except Refusal Page)} {r' : Except Fault (Option Page)} {pool' : Pool} :
      request.asked = some (count, options) → allocator.Comes xs count options r pool' →
      (∀ page, r' = .ok (some page) ↔ r = .ok (.ok page)) → Ends allocator xs request r' pool'
  | freed {page : Page} {ys : List Page} {pool' : Pool} :
      allocator.pool.table.Allocation (page :: ys) →
      Pool.GivenBack (page :: ys) xs allocator.pool pool' →
      Ends allocator xs (.free page) (.ok none) pool'
  /-- The page is on no ring of pages in use. -/
  | rejected {page : Page} {fault : Fault} :
      (¬ ∃ ys, allocator.pool.table.Allocation (page :: ys)) →
      Ends allocator xs (.free page) (.error fault) allocator.pool

end Request

namespace Allocator

variable {allocator : Allocator} {pool' : Pool} {xs : List Page}

/-- **Every request ends in one of these ways.**  In all its forms, what asks for pages is a request
to the pool, and what names a page names one of an allocation or is rejected by the check. -/
theorem Seated.exists_ends (h : allocator.Seated) (hbal : allocator.pool.Balanced xs)
    (hchecked : allocator.config.checkedFree = true) (request : Request) :
    ∃ r pool', request.perform.Yields allocator r (allocator.withPool pool') ∧
      request.Ends allocator xs r pool' := by
  have hasks : ∀ {asked : Word × Options}, request.asked = some asked →
      ∃ r pool', request.perform.Yields allocator r (allocator.withPool pool') ∧
        request.Ends allocator xs r pool' := by
    intro asked hasked
    obtain ⟨r, r', pool', hyields, hout, hiff⟩ := Request.exists_perform h hbal hasked
    exact ⟨r', pool', hyields, .asked hasked hout hiff⟩
  cases request with
  | attempt count options => exact hasks rfl
  | demand count options => exact hasks rfl
  | reserve size => exact hasks rfl
  | free page =>
    by_cases hown : ∃ ys, allocator.pool.table.Allocation (page :: ys)
    · obtain ⟨ys, hring⟩ := hown
      obtain ⟨pool', hyields, hback⟩ := h.exists_free hbal hring
      exact ⟨_, pool', .bind hyields (Action.yields_pure _ _), .freed hring hback⟩
    · obtain ⟨fault, -, hyields⟩ := exists_free_error hchecked hown
      exact ⟨_, allocator.pool, .bind_error hyields, .rejected hown⟩

/-! ## 2. What every request keeps -/

/-- The region fits the table, the pool is well kept, and releases are checked. -/
structure InOrder (allocator : Allocator) : Prop where
  seated : allocator.Seated
  wellKept : ∃ xs, allocator.pool.WellKept allocator.region.start xs
  checked : allocator.config.checkedFree = true

theorem InOrder.withPool (h : allocator.InOrder)
    (hsize : pool'.table.size = allocator.pool.table.size)
    (hkept : ∃ xs, pool'.WellKept allocator.region.start xs) :
    (allocator.withPool pool').InOrder :=
  ⟨h.seated.withPool hsize, hkept, h.checked⟩

/-- However a request ends, it leaves a pool that is well kept. -/
theorem wellKept_of_ends {request : Request} {r : Except Fault (Option Page)}
    (hkept : allocator.pool.WellKept allocator.region.start xs)
    (h : request.Ends allocator xs r pool') :
    pool'.table.size = allocator.pool.table.size ∧
      ∃ xs, pool'.WellKept allocator.region.start xs := by
  cases h with
  | asked _ hout => exact hkept.allocates hout
  | freed hring hback => exact ⟨hback.rows.size, _, hkept.givenBack hring.used hback⟩
  | rejected => exact ⟨rfl, xs, hkept⟩

/-- **Every request keeps an allocator in order,** and changes nothing but its pool. -/
theorem InOrder.exists_after (h : allocator.InOrder) (request : Request) :
    ∃ pool', request.after allocator = allocator.withPool pool' ∧
      pool'.table.size = allocator.pool.table.size ∧
      ∃ xs, pool'.WellKept allocator.region.start xs := by
  obtain ⟨xs, hkept⟩ := h.wellKept
  obtain ⟨r, pool', hyields, hends⟩ := h.seated.exists_ends hkept.toBalanced h.checked request
  exact ⟨pool', hyields.2, wellKept_of_ends hkept hends⟩

/-- **A run keeps an allocator in order,** in its region and over its table.  A request that ends
with a fault does so as well. -/
theorem InOrder.afterAll (h : allocator.InOrder) (requests : List Request) :
    (Request.afterAll allocator requests).InOrder ∧
      (Request.afterAll allocator requests).region = allocator.region ∧
      (Request.afterAll allocator requests).pool.table.size = allocator.pool.table.size := by
  induction requests generalizing allocator with
  | nil => exact ⟨h, rfl, rfl⟩
  | cons request requests ih =>
    obtain ⟨pool', hafter, hsize, hkept⟩ := h.exists_after request
    obtain ⟨horder, hregion, hsize'⟩ := ih (h.withPool hsize hkept)
    rw [Request.afterAll, List.foldl_cons, hafter]
    exact ⟨horder, hregion, hsize'.trans hsize⟩

/-! ## 3. What this comes to -/

/-- The free list, the counts and the rows agree with each other. -/
structure Consistent (allocator : Allocator) : Prop where
  /-- The walk along the free list is a ring over exactly the free pages. -/
  walk : ∃ xs, allocator.pool.free.pages allocator.pool.table allocator.pool.table.size = .ok xs ∧
    allocator.pool.free.length allocator.pool.table = .ok xs.length ∧
    allocator.pool.free.head = xs.head? ∧ xs.Nodup ∧
    Ring (allocator.pool.table.Leads Descriptor.next) xs ∧
    ∀ p, p ∈ xs ↔ allocator.pool.table.IsFree p
  /-- The page before the next one is the page itself. -/
  prev_next : ∀ p, allocator.pool.table.IsFree p → ∃ q, allocator.pool.table.IsFree q ∧
    allocator.pool.table.column Descriptor.next p = some q ∧
    allocator.pool.table.column Descriptor.prev q = some p
  /-- The page after the one before is the page itself. -/
  next_prev : ∀ p, allocator.pool.table.IsFree p → ∃ q, allocator.pool.table.IsFree q ∧
    allocator.pool.table.column Descriptor.prev p = some q ∧
    allocator.pool.table.column Descriptor.next q = some p
  head : allocator.pool.free.head = none ↔ ∀ p, ¬ allocator.pool.table.IsFree p
  counted : allocator.pool.freePages.toNat = allocator.pool.table.freeCount
  /-- The row of a free page belongs to nothing. -/
  free : ∀ (i : Nat) (row : Descriptor), allocator.pool.table[i]? = some row →
    row.status = .free → row.tag = .empty ∧ row.compound = .nil
  /-- The row of a page in use is on no list. -/
  used : ∀ (i : Nat) (row : Descriptor), allocator.pool.table[i]? = some row →
    row.status = .used → row.link = .none
  address : ∀ (i : Nat) (row : Descriptor), allocator.pool.table[i]? = some row →
    row.address.toNat = allocator.region.start.toNat + i * 4096

/-- **An allocator in order is consistent.** -/
theorem InOrder.consistent (h : allocator.InOrder) : allocator.Consistent := by
  obtain ⟨xs, hkept⟩ := h.wellKept
  have hthreads := hkept.threads
  have hrow : ∀ (i : Nat) (row : Descriptor), allocator.pool.table[i]? = some row →
      row.Tidy ∧ row.address.toNat = allocator.region.start.toNat + i * 4096 := by
    intro i row hi
    have hlt := (Array.getElem?_eq_some_iff.mp hi).1
    have hsmall := Pool.le_of_small hkept.small
    have hnat : i.toUInt32.toNat = i := toNat_toUInt32 (by omega)
    have hi' : allocator.pool.table[i.toUInt32.toNat]? = some row := by rwa [hnat]
    have hsited := hkept.sited _ _ hi'
    rw [hnat] at hsited
    exact ⟨hkept.tidy _ _ hi', hsited⟩
  refine ⟨⟨xs, hthreads.pages_eq hthreads.length_le, hthreads.length_eq, hthreads.head,
    hthreads.nodup, ring_next hthreads.ring, hkept.mem_iff⟩, ?_, ?_, hkept.head_eq_none_iff,
    hkept.counted_freeCount, ?_, ?_, ?_⟩
  · intro p hp
    obtain ⟨q, hq, hlink⟩ := hthreads.ring.exists_next ((hkept.mem_iff p).mpr hp)
    exact ⟨q, hkept.isFree hq, hlink⟩
  · intro p hp
    obtain ⟨q, hq, hlink⟩ := hthreads.ring.exists_prev ((hkept.mem_iff p).mpr hp)
    exact ⟨q, hkept.isFree hq, hlink.2, hlink.1⟩
  · intro i row hi
    exact (hrow i row hi).1.1
  · intro i row hi
    exact (hrow i row hi).1.2
  · intro i row hi
    exact (hrow i row hi).2

/-- **An allocator that was set up with checked releases stays consistent,** whatever is asked of it
and whatever pages it is told to free.  A release that is rejected has changed nothing yet, and
where a counter is at its end, the list and the rows agree already. -/
theorem SetUp.consistent_afterAll (h : allocator.SetUp)
    (hchecked : allocator.config.checkedFree = true) (requests : List Request) :
    (Request.afterAll allocator requests).Consistent ∧
      (Request.afterAll allocator requests).region = allocator.region ∧
      (Request.afterAll allocator requests).pool.table.size = allocator.pool.table.size := by
  obtain ⟨hseated, -, hkept⟩ := h.wellKept
  have horder : allocator.InOrder := ⟨hseated, ⟨_, hkept⟩, hchecked⟩
  obtain ⟨hafter, hregion, hsize⟩ := horder.afterAll requests
  exact ⟨hafter.consistent, hregion, hsize⟩

/-- Three pages, of which two are taken, and then pages are given back that are reserved, owned,
free by then, and not there at all. -/
theorem consistent_afterAll_threePages :
    threePages.SetUp ∧ threePages.config.checkedFree = true ∧
      (Request.afterAll threePages
        [.attempt 2 {}, .free 0, .free 2, .free 1, .free 7]).Consistent :=
  ⟨setUp_threePages, rfl, (setUp_threePages.consistent_afterAll rfl _).1⟩

end Allocator

end PageFrames
