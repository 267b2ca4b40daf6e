/-
# Descriptors

A descriptor is the record that an allocator keeps of one page: where the page is, whether it is
in use, the tag of the allocation it belongs to, and three handles.  Two of them, the link, name
the neighbours of the page on the free list while it is free; the third, the compound link,
names the page after it in its allocation while it is in use.  A handle that has nothing to name
is `Page.nil`.

The handles are plain numbers.  What they should be in a table in good order is a matter of the
whole table and is not part of this type, because operations are also asked about tables that are
not in good order.
-/
import PageFrames.Page
import PageFrames.Word
import PageFrames.Tag

namespace PageFrames

/-! ## 1. The parts of a descriptor -/

/-- Whether a page is in use. -/
inductive Status where
  /-- The page is on the free list. -/
  | free
  /-- The page belongs to an allocation, or was never to be handed out. -/
  | used
  deriving DecidableEq

namespace Status

/-- The number that a row stores. -/
def code : Status → Nat
  | free => 0
  | used => 1

/-- The name of the status. -/
def inspect : Status → String
  | free => "Free"
  | used => "Used"

end Status

/-- The neighbours of a page on the free list. -/
structure Link where
  prev : Page
  next : Page
  deriving DecidableEq

namespace Link

/-- The link of a page that is on no list. -/
def none : Link := ⟨.nil, .nil⟩

/-- The link of the only page on its list. -/
def toSelf (page : Page) : Link := ⟨page, page⟩

/-- The diagnostic text of a link. -/
def inspect (link : Link) : String :=
  Text.record "Link" [("prev", toString link.prev), ("next", toString link.next)]

end Link

/-! ## 2. Descriptors -/

/-- The record of one page. -/
structure Descriptor where
  address : Addr
  status : Status
  tag : Tag
  link : Link
  compound : Page
  deriving DecidableEq

namespace Descriptor

/-- The number of bytes that a descriptor takes in memory. -/
def size : Word := 40

/-- The alignment of a descriptor in memory. -/
def alignment : Word := 8

/-- The record of a page that nothing is known of but its address: it is free and on no list. -/
def fresh (address : Addr) : Descriptor := ⟨address, .free, .empty, .none, .nil⟩

/-- Whether the page is free. -/
def isFree (row : Descriptor) : Bool := row.status == .free

/-- The page after this one on the free list. -/
def next (row : Descriptor) : Page := row.link.next

/-- The record of a page taken into use under a tag. -/
def taken (tag : Tag) (row : Descriptor) : Descriptor := { row with status := .used, tag }

/-- The record of a page given back, which belongs to no allocation any more. -/
def released (row : Descriptor) : Descriptor :=
  { row with status := .free, tag := .empty, compound := .nil }

/-- The diagnostic text of a descriptor. -/
def inspect (row : Descriptor) : String :=
  Text.record "PageDescriptor"
    [("address", row.address.inspect), ("status", row.status.inspect), ("tag", row.tag.inspect),
      ("link", row.link.inspect), ("compound", toString row.compound)]

end Descriptor

end PageFrames
