/-
# Going round

From page to page of an allocation one comes round to where one began, after as many steps as the
allocation has pages.  `Allocator.Circulates` says so of a handle, with all that belongs to it: that
the length is told at all, that no step leads out of the region, and that there is no step from a
handle that is free or not there.

It is true of every handle that was not in use at the setup, whatever has been asked for and given
back since (`Allocator.SetUp.circulates_iff`).  Of a page that was marked as in use at the setup it
is never true.  Such a page is on no ring, because there was no request for it: its row has no
compound link.  `Page.nil` is named as the page after it, and to go on from there is a fault
(`Allocator.Loose`).
-/
import PageFrames.Proofs.Allocator.Allocations
import PageFrames.Proofs.Allocator.Lookups
import PageFrames.Proofs.Allocator.Twins

namespace PageFrames

open Table

/-! ## 1. Pages on no ring, and no others -/

namespace Pool

variable {pool pool' : Pool} {start : Addr} {marked : Page → Prop} {xs xs' ys : List Page}
  {tag : Tag} {p : Page}

/-- The pool is sealed, and of the pages in use only the pages `marked` are on no ring. -/
structure Enclosed (start : Addr) (marked : Page → Prop) (pool : Pool) (xs : List Page) : Prop
    extends Sealed start marked pool xs where
  only : ∀ p, pool.table.IsUsed p → pool.table.column Descriptor.compound p = some .nil → marked p

/-- **Pages that are taken** are taken as a ring, so none of them is on no ring. -/
theorem Enclosed.took (h : pool.Enclosed start marked xs) (htook : Took tag ys pool pool')
    (hkept : pool'.WellKept start xs') : pool'.Enclosed start marked xs' := by
  refine ⟨h.toSealed.took htook hkept, ?_⟩
  intro p hp hnil
  by_cases hmem : p ∈ ys
  · exact absurd hnil (htook.own.column_ne_nil hkept.small.le hmem)
  · have hused := htook.isUsed_of_notMem hp hmem
    exact h.only p hused ((column_congr_row (htook.used p hused)).symm.trans hnil)

/-- **Pages that are given back** are in use no more, and the links of the others are as before. -/
theorem Enclosed.gaveBack (h : pool.Enclosed start marked xs) (hback : GaveBack ys pool pool')
    (hown : pool.table.Allocation ys) (hkept : pool'.WellKept start xs') :
    pool'.Enclosed start marked xs' := by
  refine ⟨h.toSealed.gaveBack hback hown hkept, ?_⟩
  intro p hp hnil
  obtain ⟨hused, hnot⟩ := hback.isUsed_and_notMem hp
  exact h.only p hused ((column_congr_row (hback.used p hused hnot)).symm.trans hnil)

/-- **A page in use** is one of the pages `marked`, or on a ring. -/
theorem Enclosed.exists_allocation (h : pool.Enclosed start marked xs) (hp : pool.table.IsUsed p)
    (hnot : ¬ marked p) : ∃ ys, pool.table.Allocation (p :: ys) :=
  (h.ringed p hp).resolve_right fun hnil => hnot (h.only p hp hnil)

end Pool

namespace Allocator

variable {allocator : Allocator} {pool' : Pool} {marked : Page → Prop} {xs ys : List Page}
  {page : Page}

/-- The region fits the table, releases are checked, and of the pages in use only the pages `marked`
are on no ring. -/
structure Enclosed (marked : Page → Prop) (allocator : Allocator) : Prop where
  seated : allocator.Seated
  checked : allocator.config.checkedFree = true
  enclosed : ∃ xs, allocator.pool.Enclosed allocator.region.start marked xs

/-- However a request ends, it leaves no more pages on no ring. -/
theorem enclosed_of_ends {request : Request} {r : Except Fault (Option Page)}
    (h : allocator.pool.Enclosed allocator.region.start marked xs)
    (hends : request.Ends allocator xs r pool') :
    pool'.table.size = allocator.pool.table.size ∧
      ∃ xs, pool'.Enclosed allocator.region.start marked xs := by
  cases hends with
  | asked _ hout =>
    obtain ⟨hsize, xs', hkept⟩ := h.toWellKept.allocates hout
    obtain ⟨ys, htook⟩ := h.toBalanced.exists_took hout
    exact ⟨hsize, xs', h.took htook hkept⟩
  | freed hring hback =>
    have hkept := h.toWellKept.givenBack hring.used hback
    exact ⟨hback.rows.size, _, h.gaveBack (h.toBalanced.gaveBack hring.used hback) hring hkept⟩
  | rejected => exact ⟨rfl, xs, h⟩

/-- **Every request keeps an allocator enclosed.** -/
theorem Enclosed.after (h : allocator.Enclosed marked) (request : Request) :
    (request.after allocator).Enclosed marked := by
  obtain ⟨xs, henclosed⟩ := h.enclosed
  obtain ⟨r, pool', hyields, hends⟩ := h.seated.exists_ends henclosed.toBalanced h.checked request
  obtain ⟨hsize, henclosed'⟩ := enclosed_of_ends henclosed hends
  rw [Request.after, hyields.2]
  exact ⟨h.seated.withPool hsize, h.checked, henclosed'⟩

/-- **A run keeps an allocator enclosed,** one request after the other. -/
theorem Enclosed.afterAll (h : allocator.Enclosed marked) (requests : List Request) :
    (Request.afterAll allocator requests).Enclosed marked := by
  induction requests generalizing allocator with
  | nil => exact h
  | cons request requests ih => exact ih (h.after request)

/-- At the start, the pages in use are on no ring. -/
theorem SetUp.enclosed (h : allocator.SetUp) (hchecked : allocator.config.checkedFree = true) :
    allocator.Enclosed allocator.pool.table.IsUsed := by
  obtain ⟨hseated, xs, hsealed⟩ := h.sound
  exact ⟨hseated, hchecked, xs, hsealed, fun _ hp _ => hp⟩

/-! ## 2. Going round -/

/-- The page that is `n` steps after `page` in its allocation, if the steps lead so far. -/
def compoundAfter (allocator : Allocator) : (n : Nat) → (page : Page) → Option Page
  | 0, page => some page
  | n + 1, page => do allocator.compoundAfter n (← allocator.compoundNext? page)

/-- One can go round from the handle, or there is no step from it at all. -/
structure Circulates (allocator : Allocator) (page : Page) : Prop where
  /-- The length is told. -/
  told : ∃ n, allocator.compoundLength page = .ok n
  within : ∀ next, allocator.compoundNext? page = some next → allocator.containsPage next = true
  zero_iff : allocator.compoundLength page = .ok 0 ↔ allocator.compoundNext? page = none
  none_iff : allocator.compoundNext? page = none ↔
    allocator.containsPage page = false ∨ allocator.status? page = some .free
  /-- The page comes again after as many steps as it tells, and not before. -/
  round : ∀ n, 0 < n → allocator.compoundLength page = .ok n →
    allocator.compoundAfter n page = some page ∧
      ∀ m, 0 < m → m < n → allocator.compoundAfter m page ≠ some page

/-- The handle leads to none of the region, and no length is told. -/
structure Loose (allocator : Allocator) (page : Page) : Prop where
  next : allocator.compoundNext? page = some .nil
  outside : allocator.containsPage .nil = false
  length : allocator.compoundLength page =
    .error (.indexOutOfBounds allocator.pool.table.size Page.nil.toNat)

theorem Loose.not_circulates (h : allocator.Loose page) : ¬ allocator.Circulates page := by
  intro hround
  have hin := hround.within .nil h.next
  rw [h.outside] at hin
  cases hin

/-- The steps from a page of an allocation lead along it, counted round. -/
theorem compoundAfter_of_allocation (h : allocator.pool.table.Allocation xs) {i : Nat}
    (hi : xs[i]? = some page) (n : Nat) :
    allocator.compoundAfter n page = xs[(i + n) % xs.length]? := by
  induction n generalizing i page with
  | zero =>
    have hlt := (List.getElem?_eq_some_iff.mp hi).1
    rw [Nat.add_zero, Nat.mod_eq_of_lt hlt, hi, compoundAfter]
  | succ n ih =>
    obtain ⟨next, hnext⟩ := exists_getElem_mod (List.mem_of_getElem? hi) (i + 1)
    have hstep := (compoundNext?_of_allocation h hi).trans hnext
    rw [compoundAfter, hstep]
    exact (ih hnext).trans (by rw [Nat.mod_add_mod, Nat.add_assoc, Nat.add_comm 1 n])

theorem Seated.containsPage_iff (h : allocator.Seated) :
    allocator.containsPage page = true ↔ page.toNat < allocator.pool.table.size := by
  rw [Allocator.containsPage_iff, h.totalPages]

theorem Seated.containsPage_eq_false_iff (h : allocator.Seated) :
    allocator.containsPage page = false ↔ allocator.pool.table.size ≤ page.toNat := by
  rw [← Bool.not_eq_true, h.containsPage_iff, not_lt]

/-- **One goes round an allocation** from each of its pages. -/
theorem Seated.circulates_of_allocation (h : allocator.Seated)
    (hown : allocator.pool.table.Allocation (page :: ys)) : allocator.Circulates page := by
  have hmem : page ∈ page :: ys := List.mem_cons_self
  have hused := hown.used page hmem
  have hstatus : allocator.status? page = some .used := hused
  have hlength := compoundLength_of_allocation hown hmem
  have hafter : ∀ n, allocator.compoundAfter n page = (page :: ys)[n % (page :: ys).length]? := by
    intro n
    have hfirst : (page :: ys)[0]? = some page := rfl
    rw [compoundAfter_of_allocation hown hfirst, Nat.zero_add]
  obtain ⟨next, hnext, hleads⟩ := hown.ring.exists_next hmem
  have hstep : allocator.compoundNext? page = some next := (compoundNext?_eq hused).trans hleads
  refine ⟨⟨_, hlength⟩, ?_, ?_, ?_, ?_⟩
  · intro next' hnext'
    obtain rfl : next = next' := Option.some.inj (hstep.symm.trans hnext')
    exact h.containsPage_iff.mpr (hown.used next hnext).lt_size
  · simp [hlength, hstep]
  · simp [hstep, hstatus, h.containsPage_eq_false_iff, hused.lt_size]
  · intro n _ hn
    obtain rfl : (page :: ys).length = n := Except.ok.inj (hlength.symm.trans hn)
    refine ⟨by rw [hafter, Nat.mod_self]; rfl, ?_⟩
    intro m hpos hlt hback
    -- no page of an allocation comes twice, so the only way back is all the way round
    rw [hafter, Nat.mod_eq_of_lt hlt] at hback
    have hzero : m = 0 := (List.getElem?_inj hlt hown.nodup).mp (hback.trans rfl)
    omega

/-- No step is needed where there is none. -/
theorem circulates_of_none (hnext : allocator.compoundNext? page = none)
    (hlength : allocator.compoundLength page = .ok 0)
    (hpage : allocator.containsPage page = false ∨ allocator.status? page = some .free) :
    allocator.Circulates page := by
  refine ⟨⟨0, hlength⟩, by simp [hnext], by simp [hlength, hnext], by simp [hnext, hpage], ?_⟩
  intro n hpos hn
  obtain rfl : 0 = n := Except.ok.inj (hlength.symm.trans hn)
  omega

/-- There is no step from a page that is free. -/
theorem circulates_of_isFree (hp : allocator.pool.table.IsFree page) :
    allocator.Circulates page := by
  obtain ⟨row, hrow, hfree⟩ := column_eq_some_iff.mp hp
  have hstatus : allocator.status? page = some .free := hp
  have hnext : allocator.compoundNext? page = none := by
    simp [compoundNext?, row?, hrow, hfree]
  exact circulates_of_none hnext (by rw [compoundLength, hstatus]) (.inr hstatus)

/-- There is no step from a handle that is not there. -/
theorem Seated.circulates_of_le (h : allocator.Seated)
    (hp : allocator.pool.table.size ≤ page.toNat) : allocator.Circulates page := by
  have hrow : allocator.row? page = none := Array.getElem?_eq_none hp
  have hnext : allocator.compoundNext? page = none := by simp [compoundNext?, hrow]
  exact circulates_of_none hnext (by simp [compoundLength, status?, hrow])
    (.inl (h.containsPage_eq_false_iff.mpr hp))

/-- A page in use without a compound link leads nowhere. -/
theorem Seated.loose_of_compound (h : allocator.Seated)
    (hsmall : allocator.pool.table.size < Page.nil.toNat)
    (hused : allocator.pool.table.IsUsed page)
    (hnil : allocator.pool.table.column Descriptor.compound page = some .nil) :
    allocator.Loose page := by
  have hstatus : allocator.status? page = some .used := hused
  obtain ⟨row, hrow, hcompound⟩ := column_eq_some_iff.mp hnil
  have hlength := ringLength_of_le hrow (hcompound ▸ hsmall.le)
  rw [hcompound] at hlength
  refine ⟨(compoundNext?_eq hused).trans hnil, h.containsPage_eq_false_iff.mpr hsmall.le, ?_⟩
  rw [compoundLength, hstatus]
  exact hlength

/-! ## 3. Runs -/

/-- **One can go round from a handle** after any requests if and only if it is not that of a page in
use since the setup.  Every other page in use has been taken since then, and is on the ring of its
allocation; of the pages from the setup, no request has touched the row, and it has no compound
link.  From these pages a step leads to no page. -/
theorem SetUp.circulates_iff (h : allocator.SetUp)
    (hchecked : allocator.config.checkedFree = true) (requests : List Request) (page : Page) :
    ((Request.afterAll allocator requests).Circulates page ↔
      ¬ allocator.pool.table.IsUsed page) ∧
    ((Request.afterAll allocator requests).Loose page ↔ allocator.pool.table.IsUsed page) := by
  obtain ⟨hseated, -, xs, henclosed⟩ := (h.enclosed hchecked).afterAll requests
  have hloose : allocator.pool.table.IsUsed page →
      (Request.afterAll allocator requests).Loose page := by
    intro hp
    obtain ⟨hused, hnil⟩ := henclosed.fixed page hp
    exact hseated.loose_of_compound henclosed.small hused hnil
  have hround : ¬ allocator.pool.table.IsUsed page →
      (Request.afterAll allocator requests).Circulates page := by
    intro hp
    rcases Nat.lt_or_ge page.toNat (Request.afterAll allocator requests).pool.table.size
      with hlt | hge
    · rcases isFree_or_isUsed hlt with hfree | hused
      · exact circulates_of_isFree hfree
      · obtain ⟨ys, hown⟩ := henclosed.exists_allocation hused hp
        exact hseated.circulates_of_allocation hown
    · exact hseated.circulates_of_le hge
  refine ⟨⟨fun hc hp => (hloose hp).not_circulates hc, hround⟩, ?_, hloose⟩
  intro hl
  by_contra hp
  exact hl.not_circulates (hround hp)

/-- The first of the three pages was marked at the setup, and the two others are taken. -/
theorem circulates_iff_threePages :
    threePages.SetUp ∧ threePages.config.checkedFree = true ∧
      ((Request.afterAll threePages [.attempt 2 {}]).Circulates 1 ↔
        ¬ threePages.pool.table.IsUsed 1) ∧
      ((Request.afterAll threePages [.attempt 2 {}]).Loose 0 ↔
        threePages.pool.table.IsUsed 0) :=
  ⟨setUp_threePages, rfl, (setUp_threePages.circulates_iff rfl _ 1).1,
    (setUp_threePages.circulates_iff rfl _ 0).2⟩

/-- A page that was marked at the setup names no page after it. -/
theorem not_circulates_threePages :
    threePages.SetUp ∧ threePages.config.checkedFree = true ∧
      ¬ (Request.afterAll threePages []).Circulates 0 := by
  refine ⟨setUp_threePages, rfl, fun h => ?_⟩
  have hin := h.within .nil (by decide +kernel)
  exact absurd hin (by decide +kernel)

example : (Request.afterAll threePages []).compoundLength 0 =
    .error (.indexOutOfBounds 3 0xffffffff) := by decide +kernel

end Allocator

end PageFrames
