/-
# Requests to an allocator

An allocator adds addresses and a log to its pool.  If its region is as long as its table and does
not run past the top (`Allocator.Seated`), every page of the table has an address, so neither of
the two can come to a fault, and a request or a release ends as it does in the pool alone.

The four forms that a request can take are one type here (`Request`), so that a run is a list of
them.
-/
import PageFrames.Allocator.Lookup
import PageFrames.Proofs.Marking
import PageFrames.Proofs.Pool.Effects

namespace PageFrames

namespace Allocator

open Table

variable {α : Type} {allocator : Allocator} {pool' : Pool} {xs ys : List Page} {page : Page}

/-! ## 1. Addresses -/

/-- The region is as long as the table needs it to be, and does not run past the top. -/
structure Seated (allocator : Allocator) : Prop where
  sized : allocator.region.size.toNat = allocator.pool.table.size * 4096
  fits : allocator.region.start.toNat + allocator.region.size.toNat ≤ 2 ^ 64

instance (allocator : Allocator) : Decidable allocator.Seated :=
  decidable_of_iff (allocator.region.size.toNat = allocator.pool.table.size * 4096 ∧
      allocator.region.start.toNat + allocator.region.size.toNat ≤ 2 ^ 64)
    ⟨fun ⟨sized, fits⟩ => ⟨sized, fits⟩, fun h => ⟨h.sized, h.fits⟩⟩

/-- The allocator with another pool in place of its own. -/
def withPool (allocator : Allocator) (pool : Pool) : Allocator := { allocator with pool }

@[simp] theorem pool_withPool : (allocator.withPool pool').pool = pool' := rfl

@[simp] theorem region_withPool : (allocator.withPool pool').region = allocator.region := rfl

theorem Seated.withPool (h : allocator.Seated)
    (hsize : pool'.table.size = allocator.pool.table.size) : (allocator.withPool pool').Seated where
  sized := by
    rw [region_withPool, pool_withPool, hsize]
    exact h.sized
  fits := h.fits

/-- There are as many pages as rows. -/
theorem Seated.totalPages (h : allocator.Seated) :
    allocator.totalPages.toNat = allocator.pool.table.size := by
  rw [Allocator.totalPages, UInt64.toNat_div, h.sized]
  exact Nat.mul_div_cancel _ (by decide)

/-- The address of a handle, whether it names a page or not, if the address fits a word. -/
theorem addressOf_eq_ok_iff {a : Addr} :
    allocator.addressOf page = .ok a ↔
      allocator.region.start.toNat + page.toNat * 4096 = a.toNat := by
  have hlt := page.toNat_lt
  obtain ⟨offset, hoffset, hnat⟩ := Word.exists_mulExact (a := page.toUInt64) (b := pageSize)
    (by rw [UInt32.toNat_toUInt64, toNat_pageSize]; omega)
  rw [UInt32.toNat_toUInt64, toNat_pageSize] at hnat
  rw [addressOf, hoffset, ← hnat]
  exact Word.addExact_eq_ok_iff

/-- **Every page has an address,** each 4096 bytes after the one before. -/
theorem Seated.exists_addressOf (h : allocator.Seated)
    (hp : page.toNat < allocator.pool.table.size) :
    ∃ a, allocator.addressOf page = .ok a ∧
      a.toNat = allocator.region.start.toNat + page.toNat * 4096 := by
  have hfits := h.fits
  have hsize : (page.toNat + 1) * 4096 ≤ allocator.region.size.toNat := by
    rw [h.sized]
    exact Nat.mul_le_mul_right _ hp
  have hnat := Word.toNat_toUInt64 (n := allocator.region.start.toNat + page.toNat * 4096)
    (by omega)
  exact ⟨_, addressOf_eq_ok_iff.mpr hnat.symm, hnat⟩

/-- A page is found at every address that lies on it. -/
theorem Seated.pageOf_of_num (h : allocator.Seated)
    (hp : page.toNat < allocator.pool.table.size) {a : Addr}
    (hnum : a.toNat / 4096 = allocator.region.start.toNat / 4096 + page.toNat) :
    allocator.pageOf? a = some page := by
  have hsub : a.pageNum.sub? allocator.firstPageNum = some page.toUInt64 := by
    rw [Word.sub?_eq_some_iff, UInt32.toNat_toUInt64, firstPageNum, Addr.toNat_pageNum,
      Addr.toNat_pageNum]
    omega
  have hlt : page.toUInt64 < allocator.totalPages := by
    rw [UInt64.lt_iff_toNat_lt, UInt32.toNat_toUInt64, h.totalPages]
    exact hp
  rw [pageOf?, pageNum?, hsub]
  simp [pageAt?, hlt]

/-- The page of an address is found. -/
theorem Seated.pageOf_address (h : allocator.Seated)
    (hp : page.toNat < allocator.pool.table.size) {a : Addr}
    (ha : a.toNat = allocator.region.start.toNat + page.toNat * 4096) :
    allocator.pageOf? a = some page :=
  h.pageOf_of_num hp (by omega)

/-! ## 2. Requests and releases -/

theorem yields_onPool {m : Action Pool α} {r : Except Fault α}
    (h : m.Yields allocator.pool r pool') :
    (onPool m).Yields allocator r (allocator.withPool pool') :=
  h.onPart

/-- What is told to the log changes nothing and cannot fail. -/
theorem Seated.yields_trace (h : allocator.Seated) (hp : page.toNat < allocator.pool.table.size)
    (count : Word) (what : Addr → String) :
    (trace count page what).Yields allocator (.ok ()) allocator := by
  obtain ⟨a, ha, -⟩ := h.exists_addressOf hp
  have htold : (do
      let address ← .look (·.addressOf page)
      let free ← .peek (·.pool.freePages)
      .emit .debug s!"{what address}, {free} pages free" : Action Allocator Unit).Yields allocator
        (.ok ()) allocator :=
    .bind (Action.yields_look ha) (.bind (Action.yields_peek _ _) (Action.yields_emit _ _ _))
  refine .bind (Action.yields_peek _ _) ?_
  split
  · exact htold
  · exact Action.yields_pure _ _

/-- Whether the pages have to be a run. -/
def needsRun (allocator : Allocator) (options : Options) : Bool :=
  options.flags.contiguous || allocator.kind == .virtual

/-- Whether the free list may be rebuilt to find a run. -/
def mayCompact (allocator : Allocator) (options : Options) : Bool :=
  allocator.config.compaction && !options.flags.noCompact

/-- What a request comes to, in the pool of the allocator. -/
abbrev Comes (allocator : Allocator) (xs : List Page) (count : Word) (options : Options) :
    Except Fault (Except Refusal Page) → Pool → Prop :=
  Pool.Allocates count (allocator.needsRun options) (allocator.mayCompact options) options.tag
    allocator.pool xs

/-- **A request comes to what it comes to in the pool.**  What it tells the log is the address of a
page of the table, and every such page has one. -/
theorem Seated.exists_request (h : allocator.Seated) (hbal : allocator.pool.Balanced xs)
    (count : Word) (options : Options) :
    ∃ r pool', (request count options).Yields allocator r (allocator.withPool pool') ∧
      allocator.Comes xs count options r pool' := by
  obtain ⟨r, pool', hyields, hout⟩ := hbal.exists_allocates count (allocator.needsRun options)
    (allocator.mayCompact options) options.tag
  refine ⟨r, pool', .bind (Action.yields_peek _ _) (.bind (Action.yields_peek _ _) ?_), hout⟩
  cases r with
  | error fault => exact .bind_error (yields_onPool hyields)
  | ok answer =>
    refine .bind (yields_onPool hyields) ?_
    cases answer with
    | error reason => exact Action.yields_pure _ _
    | ok first =>
      obtain ⟨ys, -, htook, -⟩ := hbal.took_of_granted hout
      have hseated := h.withPool htook.size
      have hfirst := (htook.own.used first (by simp)).lt_size
      exact .bind (hseated.yields_trace hfirst _ _) (Action.yields_pure _ _)

/-- **A demand ends as the request does,** but that a refusal is a fault, which tells the reason and
the region. -/
theorem Seated.exists_demand (h : allocator.Seated) {count : Word} {options : Options}
    {answer : Except Refusal Page}
    (hrequest : (request count options).Yields allocator (.ok answer)
      (allocator.withPool pool')) :
    ∃ text, allocator.region.text = .ok text ∧
      (demand count options).Yields allocator
        (match answer with
          | .ok page => .ok page
          | .error reason => .error (.denied reason allocator.kind text))
        (allocator.withPool pool') := by
  have hfits : allocator.region.Fits := h.fits
  obtain ⟨text, htext⟩ := hfits.exists_text
  refine ⟨text, htext, .bind hrequest ?_⟩
  cases answer with
  | ok page => exact Action.yields_pure _ _
  | error reason =>
    exact .bind (Action.yields_peek _ _) (.bind (Action.yields_look htext)
      (Action.yields_fault _ _))

/-- The options under which pages for a table are asked for. -/
abbrev tableOptions : Options := Options.contiguous.withLabel metadataLabel

/-- How the answer to a reservation of `count` pages follows from what the request for them comes
to: the region is that of the pages granted. -/
inductive Reserves (allocator : Allocator) (count : Word) :
    Except Fault (Except Refusal Page) → Except Fault (Option Region) → Prop
  | granted {first : Page} {region : Region} :
      first.toNat < allocator.pool.table.size →
      region.start.toNat = allocator.region.start.toNat + first.toNat * 4096 →
      region.size.toNat = count.toNat * 4096 →
      Reserves allocator count (.ok (.ok first)) (.ok (some region))
  | refused {reason : Refusal} : Reserves allocator count (.ok (.error reason)) (.ok none)
  | failed {fault : Fault} : Reserves allocator count (.error fault) (.error fault)

/-- **A reservation comes to what the request for its pages comes to.**  The pages granted are pages
of the region, so neither their address nor the number of their bytes is too great for a word. -/
theorem Seated.exists_reserve (h : allocator.Seated) (hbal : allocator.pool.Balanced xs)
    (size : Word) :
    ∃ r granted pool', (reserve size).Yields allocator granted (allocator.withPool pool') ∧
      allocator.Comes xs (pagesFor size) tableOptions r pool' ∧
      Reserves allocator (pagesFor size) r granted := by
  obtain ⟨r, pool', hyields, hout⟩ := h.exists_request hbal (pagesFor size) tableOptions
  cases r with
  | error fault => exact ⟨_, _, pool', .bind_error hyields, hout, .failed⟩
  | ok answer =>
    cases answer with
    | error reason => exact ⟨_, _, pool', .bind hyields (Action.yields_pure _ _), hout, .refused⟩
    | ok first =>
      obtain ⟨ys, hlen, htook, -⟩ := hbal.took_of_granted hout
      have hfirst := (htook.own.used first (by simp)).lt_size
      obtain ⟨a, ha, hnat⟩ := (h.withPool htook.size).exists_addressOf hfirst
      -- the pages granted are pages of the region, so their bytes can be counted
      have hpages := htook.own.length_le
      rw [List.length_cons, hlen, htook.size] at hpages
      have hsized := h.sized
      have hlt := allocator.region.size.toNat_lt
      obtain ⟨bytes, hmul, hbytes⟩ := Word.exists_mulExact (a := pagesFor size) (b := pageSize)
        (by rw [toNat_pageSize]; omega)
      have hregion : Region.ofPages a (pagesFor size) = .ok ⟨a, bytes⟩ := by
        rw [Region.ofPages, hmul]
        rfl
      exact ⟨_, _, pool', .bind hyields (.bind (Action.yields_look ha)
        (.bind (Action.yields_liftM hregion _) (Action.yields_pure _ _))), hout,
        .granted (htook.size ▸ hfirst) hnat hbytes⟩

/-- A release from the pool that comes to an end is one from the allocator. -/
theorem Seated.yields_free {count : Word} (h : allocator.Seated)
    (hpage : page.toNat < allocator.pool.table.size)
    (hsize : pool'.table.size = allocator.pool.table.size)
    (hyields : (Pool.release page allocator.config.checkedFree).Yields allocator.pool (.ok count)
      pool') : (free page).Yields allocator (.ok ()) (allocator.withPool pool') :=
  .bind (Action.yields_peek _ _) (.bind (yields_onPool hyields)
    ((h.withPool hsize).yields_trace (hsize.symm ▸ hpage) _ _))

/-- **An allocation is given back from any of its pages.** -/
theorem Seated.exists_free (h : allocator.Seated) (hbal : allocator.pool.Balanced xs)
    (hown : allocator.pool.table.Allocation (page :: ys)) :
    ∃ pool', (free page).Yields allocator (.ok ()) (allocator.withPool pool') ∧
      Pool.GivenBack (page :: ys) xs allocator.pool pool' := by
  obtain ⟨count, pool', hyields, -, hback⟩ := hbal.exists_release hown
  have hpage := (hown.used page (by simp)).lt_size
  exact ⟨pool', h.yields_free hpage hback.rows.size (hyields _), hback⟩

/-- A release from the pool that fails is one from the allocator that fails. -/
theorem yields_free_error {fault : Fault}
    (hyields : (Pool.release page allocator.config.checkedFree).Yields allocator.pool
      (.error fault) pool') :
    (free page).Yields allocator (.error fault) (allocator.withPool pool') :=
  .bind (Action.yields_peek _ _) (.bind_error (yields_onPool hyields))

/-- **A page of no allocation is not given back** if releases are checked.  The release ends before
anything is changed. -/
theorem exists_free_error (hchecked : allocator.config.checkedFree = true)
    (hnot : ¬ ∃ ys, allocator.pool.table.Allocation (page :: ys)) :
    ∃ fault, fault ≠ .endlessWalk ∧ (free page).Yields allocator (.error fault) allocator := by
  obtain ⟨fault, hends, hyields⟩ := Pool.exists_release_error hnot
  exact ⟨fault, hends, yields_free_error (by rwa [hchecked])⟩

end Allocator

/-! ## 3. Requests in all their forms -/

/-- A request, or the release of a page. -/
inductive Request where
  /-- Asks for pages, and may be refused. -/
  | attempt (count : Word) (options : Options)
  /-- Asks for pages, and takes a refusal for a fault. -/
  | demand (count : Word) (options : Options)
  /-- Asks for a region to hold a table of so many bytes. -/
  | reserve (size : Word)
  /-- Gives back the allocation of a page. -/
  | free (page : Page)

namespace Request

variable {allocator : Allocator} {xs : List Page} {request : Request} {count : Word}
  {options : Options}

/-- The number of pages asked for, and the options. -/
def asked : Request → Option (Word × Options)
  | attempt count options => some (count, options)
  | demand count options => some (count, options)
  | reserve size => some (pagesFor size, Options.contiguous.withLabel Allocator.metadataLabel)
  | free _ => none

/-- Makes the request, and answers with the first of the pages granted. -/
def perform : Request → Action Allocator (Option Page)
  | attempt count options => do
    match ← Allocator.request count options with
    | .ok page => return some page
    | .error _ => return none
  | demand count options => do
    return some (← Allocator.demand count options)
  | reserve size => do
    match ← Allocator.reserve size with
    | some region => .peek (·.pageOf? region.start)
    | none => return none
  | free page => do
    Allocator.free page
    return none

/-- **In whatever form pages are asked for,** the allocator is left as by a plain request, and the
answer is its first page if it is granted.  A region that was granted begins at the address of that
page, and the page is found there. -/
theorem exists_perform (h : allocator.Seated) (hbal : allocator.pool.Balanced xs)
    (hasked : request.asked = some (count, options)) :
    ∃ r r' pool', request.perform.Yields allocator r' (allocator.withPool pool') ∧
      allocator.Comes xs count options r pool' ∧
      ∀ page, r' = .ok (some page) ↔ r = .ok (.ok page) := by
  cases request with
  | attempt count' options' =>
    obtain ⟨rfl, rfl⟩ : count' = count ∧ options' = options := by simpa [asked] using hasked
    obtain ⟨r, pool', hyields, hout⟩ := h.exists_request hbal count' options'
    cases r with
    | error fault => exact ⟨_, _, pool', .bind_error hyields, hout, by simp⟩
    | ok answer =>
      cases answer with
      | error reason => exact ⟨_, _, pool', .bind hyields (Action.yields_pure _ _), hout, by simp⟩
      | ok first => exact ⟨_, _, pool', .bind hyields (Action.yields_pure _ _), hout, by simp⟩
  | demand count' options' =>
    obtain ⟨rfl, rfl⟩ : count' = count ∧ options' = options := by simpa [asked] using hasked
    obtain ⟨r, pool', hyields, hout⟩ := h.exists_request hbal count' options'
    cases r with
    | error fault => exact ⟨_, _, pool', .bind_error (.bind_error hyields), hout, by simp⟩
    | ok answer =>
      obtain ⟨text, -, hdemand⟩ := h.exists_demand hyields
      cases answer with
      | error reason => exact ⟨_, _, pool', .bind_error hdemand, hout, by simp⟩
      | ok first => exact ⟨_, _, pool', .bind hdemand (Action.yields_pure _ _), hout, by simp⟩
  | reserve size =>
    obtain ⟨rfl, rfl⟩ : pagesFor size = count ∧ Allocator.tableOptions = options := by
      simpa [asked] using hasked
    obtain ⟨r, granted, pool', hyields, hout, hreserves⟩ := h.exists_reserve hbal size
    cases hreserves with
    | failed => exact ⟨_, _, pool', .bind_error hyields, hout, by simp⟩
    | refused => exact ⟨_, _, pool', .bind hyields (Action.yields_pure _ _), hout, by simp⟩
    | granted hfirst hstart =>
      obtain ⟨ys, -, htook, -⟩ := hbal.took_of_granted hout
      have hback := (h.withPool htook.size).pageOf_address
        (htook.size.symm ▸ hfirst : _ < pool'.table.size) hstart
      exact ⟨_, _, pool', .bind hyields (Action.yields_peek _ _), hout, by simp [hback]⟩
  | free page => cases hasked

/-- **Nothing but the pool is changed,** whatever is asked for and whatever state the allocator is
in. -/
theorem maintains_of_withPool {P : Allocator → Prop}
    (hpool : ∀ allocator pool, P allocator → P (allocator.withPool pool)) (request : Request) :
    request.perform.Maintains P := by
  have honPool : ∀ {β : Type} (m : Action Pool β), (Allocator.onPool m).Maintains P := by
    rintro β m allocator r _ ⟨-, rfl⟩ h
    exact hpool allocator _ h
  have htrace : ∀ (count : Word) (page : Page) (what : Addr → String),
      (Allocator.trace count page what).Maintains P := by
    intro count page what
    refine .bind (Action.maintains_peek _) fun traces => ?_
    split
    · exact .bind (Action.maintains_look _) fun _ => .bind (Action.maintains_peek _) fun _ =>
        Action.maintains_emit _ _
    · exact Action.maintains_pure _
  have hrequest : ∀ (count : Word) (options : Options),
      (Allocator.request count options).Maintains P := by
    intro count options
    refine .bind (Action.maintains_peek _) fun _ => .bind (Action.maintains_peek _) fun _ =>
      .bind (honPool _) fun answer => ?_
    split
    · exact Action.maintains_pure _
    · exact .bind (htrace _ _ _) fun _ => Action.maintains_pure _
  cases request with
  | attempt count options =>
    refine .bind (hrequest count options) fun answer => ?_
    split <;> exact Action.maintains_pure _
  | demand count options =>
    refine .bind (.bind (hrequest count options) fun answer => ?_) fun _ =>
      Action.maintains_pure _
    split
    · exact Action.maintains_pure _
    · exact .bind (Action.maintains_peek _) fun _ => .bind (Action.maintains_look _) fun _ =>
        Action.maintains_fault _
  | reserve size =>
    refine .bind (.bind (hrequest _ _) fun answer => ?_) fun granted => ?_
    · split
      · exact Action.maintains_pure _
      · exact .bind (Action.maintains_look _) fun _ => .bind (Action.maintains_liftM _) fun _ =>
          Action.maintains_pure _
    · split
      · exact Action.maintains_peek _
      · exact Action.maintains_pure _
  | free page =>
    exact .bind (.bind (Action.maintains_peek _) fun _ => .bind (honPool _) fun _ => htrace _ _ _)
      fun _ => Action.maintains_pure _

end Request

end PageFrames
