/-
# Why an allocator cannot be set up

Five reasons concern the region that the allocator is to manage, two the memory that its table
is to be placed in.  They are listed in the order in which setup looks for them, except that a
table is only asked for, and so only found wanting, once the region is in order.
-/
import PageFrames.Word

namespace PageFrames

/-- The reason for which an allocator cannot be set up. -/
inductive SetupError where
  /-- The region does not start on a page boundary. -/
  | unalignedRegion (start : Addr)
  /-- The size of the region is not a whole number of pages. -/
  | invalidSize (size : Word)
  /-- The region has no pages. -/
  | emptyRegion
  /-- The region runs past the top of the address space. -/
  | wrapsAround (start : Addr)
  /-- The region has more pages than there are handles. -/
  | tooManyPages (count : Word)
  /-- There is no memory for a table of this many bytes. -/
  | metadataUnavailable (size : Word)
  /-- The memory for the table is not aligned as a row has to be. -/
  | unalignedMetadata (start : Addr)
  deriving DecidableEq

namespace SetupError

/-- The sentence that tells the reason. -/
def message : SetupError → String
  | unalignedRegion start => "region start " ++ start.text ++ " is not page-aligned"
  | invalidSize size =>
    "region size " ++ Text.hex size.toNat ++ " is not a multiple of the page size"
  | emptyRegion => "region is empty"
  | wrapsAround start => "region at " ++ start.text ++ " wraps around the address space"
  | tooManyPages count =>
    s!"region spans {count} pages, more than a descriptor table can index"
  | metadataUnavailable size => s!"no memory for a {size}-byte page descriptor table"
  | unalignedMetadata start =>
    "page descriptor table at " ++ start.text ++ " is misaligned"

/-- The diagnostic text of the reason. -/
def inspect : SetupError → String
  | unalignedRegion start => Text.variant "UnalignedRegion" start.inspect
  | invalidSize size => Text.variant "InvalidSize" (toString size)
  | emptyRegion => "EmptyRegion"
  | wrapsAround start => Text.variant "WrapsAround" start.inspect
  | tooManyPages count => Text.variant "TooManyPages" (toString count)
  | metadataUnavailable size => Text.record "MetadataUnavailable" [("size", toString size)]
  | unalignedMetadata start => Text.variant "UnalignedMetadata" start.inspect

end SetupError

end PageFrames
