/-
# Looking up pages

Pages are found by address, by page number or by index, and a page that is not in the region is
not found.  Of a page can be asked its address and page number, the pages after it (in the
region and in its allocation), and what its row says.  Any handle can be asked about.  One
without a row has no status and no tag and belongs to no allocation; its address and page number
are computed all the same, and may not exist.
-/
import PageFrames.Allocator.Basic

namespace PageFrames.Allocator

/-! ## 1. Finding pages -/

/-- The page with this index, if there is one. -/
def pageAt? (allocator : Allocator) (index : Word) : Option Page :=
  if index < allocator.totalPages then some index.toUInt32 else none

/-- The page with this page number, if it is in the region. -/
def pageNum? (allocator : Allocator) (num : Word) : Option Page := do
  allocator.pageAt? (← num.sub? allocator.firstPageNum)

/-- The page that holds the address, if it is in the region. -/
def pageOf? (allocator : Allocator) (a : Addr) : Option Page := allocator.pageNum? a.pageNum

/-- The index of the page that holds the address, if it is in the region. -/
def indexOf? (allocator : Allocator) (a : Addr) : Option Word :=
  (allocator.pageOf? a).map (·.toUInt64)

/-- Whether the address is in the region. -/
def contains (allocator : Allocator) (a : Addr) : Bool := allocator.region.contains a

/-- Whether the handle is one of this allocator. -/
def containsPage (allocator : Allocator) (page : Page) : Bool :=
  page.toUInt64 < allocator.totalPages

/-! ## 2. Around a page -/

/-- The page number of a page. -/
def numberOf (allocator : Allocator) (page : Page) : Except Fault Word :=
  allocator.firstPageNum.addExact page.toUInt64

/-- The page after this one in the region, if there is one. -/
def pageAfter? (allocator : Allocator) (page : Page) : Option Page :=
  allocator.pageAt? (page.toUInt64 + 1)

/-- The row of a page, if it has one. -/
def row? (allocator : Allocator) (page : Page) : Option Descriptor :=
  allocator.pool.table[page.toNat]?

/-- The status of a page, if it has a row. -/
def status? (allocator : Allocator) (page : Page) : Option Status :=
  (allocator.row? page).map Descriptor.status

/-- The tag of a page, if it has a row. -/
def tag? (allocator : Allocator) (page : Page) : Option Tag :=
  (allocator.row? page).map Descriptor.tag

/-- The page after this one in its allocation; the first page comes after the last.  A page that
is free or has no row is in no allocation. -/
def compoundNext? (allocator : Allocator) (page : Page) : Option Page := do
  let row ← allocator.row? page
  match row.status with
  | .used => some row.compound
  | .free => none

/-- The number of pages of the allocation of a page, which is zero if there is none. -/
def compoundLength (allocator : Allocator) (page : Page) : Except Fault Nat :=
  match allocator.status? page with
  | some .used => allocator.pool.compoundLength page
  | _ => .ok 0

/-- The pages of the allocation from `page` on until `first` comes next, `bound` of them at most.
The truth value says whether it came. -/
def chainFrom (allocator : Allocator) (first : Page) :
    (bound : Nat) → (page : Page) → List Page × Bool
  | 0, _ => ([], false)
  | bound + 1, page =>
    match allocator.compoundNext? page with
    | none => ([page], false)
    | some next =>
      if next = first then
        ([page], true)
      else
        let (pages, closed) := chainFrom allocator first bound next
        (page :: pages, closed)

/-- The pages of the allocation of `page`, from that page on.  The truth value says whether they
come back to it, which takes no more pages than there are. -/
def chain (allocator : Allocator) (page : Page) : List Page × Bool :=
  allocator.chainFrom page (allocator.totalPages.toNat + 1) page

/-! ## 3. The state of the pool -/

/-- The number of pages on the free list, by a walk along it. -/
def listLength (allocator : Allocator) : Except Fault Nat :=
  allocator.pool.free.length allocator.pool.table

/-- Whether the bookkeeping agrees with itself. -/
def audit (allocator : Allocator) : Except Fault Bool := allocator.pool.audit

end PageFrames.Allocator
