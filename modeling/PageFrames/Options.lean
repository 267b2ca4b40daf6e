/-
# Options of a request

A request can ask for contiguous pages, can forbid that the free list is rebuilt on its account,
and can name a label for the pages.  The two demands are flags, which also have a form as the
bits of a number: bit 0 and bit 1.  The other bits mean nothing.
-/
import PageFrames.Tag

namespace PageFrames

/-! ## 1. Flags -/

/-- What a request demands. -/
structure Flags where
  /-- The pages have to be contiguous. -/
  contiguous : Bool := false
  /-- The free list must not be rebuilt to find a run. -/
  noCompact : Bool := false
  deriving DecidableEq

namespace Flags

/-- No demands. -/
def none : Flags := {}

/-- All demands. -/
def all : Flags := ⟨true, true⟩

/-- The flags as the bits of a number. -/
def toBits (flags : Flags) : UInt32 :=
  (if flags.contiguous then 1 else 0) ||| (if flags.noCompact then 2 else 0)

/-- The flags among the bits of a number; bits that mean nothing are dropped. -/
def ofBitsKnown (bits : UInt32) : Flags := ⟨bits &&& 1 != 0, bits &&& 2 != 0⟩

/-- The flags that the bits of a number stand for, if each of them means something. -/
def ofBits? (bits : UInt32) : Option Flags :=
  if (ofBitsKnown bits).toBits = bits then some (ofBitsKnown bits) else .none

/-- Flags combined one by one. -/
def map₂ (f : Bool → Bool → Bool) (a b : Flags) : Flags :=
  ⟨f a.contiguous b.contiguous, f a.noCompact b.noCompact⟩

/-- The flags in either. -/
def union : Flags → Flags → Flags := map₂ (· || ·)

/-- The flags in both. -/
def inter : Flags → Flags → Flags := map₂ (· && ·)

/-- The flags in one but not in the other. -/
def symmDiff : Flags → Flags → Flags := map₂ (· != ·)

/-- The flags in the first but not in the second. -/
def diff : Flags → Flags → Flags := map₂ (· && !·)

/-- The other flags. -/
def compl (flags : Flags) : Flags := diff all flags

/-- Whether there are no demands. -/
def isEmpty (flags : Flags) : Bool := flags == none

/-- Whether all the flags of `b` are among those of `a`. -/
def contains (a b : Flags) : Bool := inter a b == b

/-- Whether `a` and `b` have a flag in common. -/
def intersects (a b : Flags) : Bool := !(inter a b).isEmpty

/-- The diagnostic text of flags. -/
def inspect (flags : Flags) : String :=
  if flags.isEmpty then
    "(empty)"
  else
    " | ".intercalate
      ((if flags.contiguous then ["CONTIGUOUS"] else []) ++
        (if flags.noCompact then ["NO_COMPACT"] else []))

end Flags

/-! ## 2. Options -/

/-- The options of a request. -/
structure Options where
  flags : Flags := .none
  /-- The label of the pages, not yet cut to the length of a tag. -/
  label : Option String := none
  deriving DecidableEq

namespace Options

/-- A request for contiguous pages without a label. -/
def contiguous : Options := { flags := { contiguous := true } }

/-- Adds demands. -/
def addFlags (options : Options) (flags : Flags) : Options :=
  { options with flags := options.flags.union flags }

/-- Names a label. -/
def withLabel (options : Options) (label : String) : Options :=
  { options with label := some label }

/-- The tag that the pages get. -/
def tag (options : Options) : Tag :=
  match options.label with
  | some label => .ofLabel label
  | none => .empty

/-- The diagnostic text of options. -/
def inspect (options : Options) : String :=
  Text.record "AllocOptions"
    [("flags", options.flags.inspect), ("label", Text.optional (options.label.map Text.quoted))]

end Options

end PageFrames
