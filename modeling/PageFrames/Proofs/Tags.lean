/-
# What a tag holds of a label

A tag has room for fifteen bytes, and a label may be longer.  What is kept is the longest beginning
of the label that fits and does not end inside a character (`Tag.isGreatest_kept`).  It is found
character by character from the front (`Tag.fitting`), or byte by byte from the back, where one
steps from the fifteenth byte to the next place between two characters (`Tag.stepBack`).  The two
come to the same place, and the second way never steps over the first byte, since the place before
it is between characters.

So the bytes of a tag always decode, and they decode to what was kept.  Since the bytes behind it
are zero, a tag is determined by its text, and to cut a label a second time changes nothing
(`Tag.abridges_and_determined`).
-/
import Mathlib.Order.Bounds.Basic
import PageFrames.Fault
import PageFrames.Tag

namespace PageFrames.Tag

variable {label : String} {place : Nat}

/-! ## 1. Places between characters -/

/-- So many bytes of the label are whole characters. -/
def IsBoundary (label : String) (place : Nat) : Prop := String.Pos.Raw.IsValid label ⟨place⟩

instance (label : String) : DecidablePred (IsBoundary label) :=
  fun _ => inferInstanceAs (Decidable (String.Pos.Raw.IsValid _ _))

/-- A place between characters is the end of a beginning of the label. -/
theorem isBoundary_iff : IsBoundary label place ↔
    ∃ before rest, before ++ rest = label ∧ before.utf8ByteSize = place := by
  rw [IsBoundary, String.Pos.Raw.isValid_iff_exists_append]
  constructor
  · rintro ⟨before, rest, hlabel, hplace⟩
    exact ⟨before, rest, hlabel.symm, (congrArg String.Pos.Raw.byteIdx hplace).symm⟩
  · rintro ⟨before, rest, hlabel, rfl⟩
    exact ⟨before, rest, hlabel.symm, rfl⟩

theorem isBoundary_zero (label : String) : IsBoundary label 0 := String.Pos.Raw.isValid_zero

theorem IsBoundary.le_utf8ByteSize (h : IsBoundary label place) : place ≤ label.utf8ByteSize :=
  String.Pos.Raw.IsValid.le_utf8ByteSize h

/-- Steps back from a place, byte by byte, until it is between characters.  Before the first byte
there is no place to step back to. -/
def stepBack (label : String) : (place : Nat) → Except Fault Nat
  | 0 => if IsBoundary label 0 then .ok 0 else .error .subOverflow
  | place + 1 => if IsBoundary label (place + 1) then .ok (place + 1) else stepBack label place

/-- **Stepping back ends** at the last place between characters, and never before the first byte. -/
theorem exists_stepBack (label : String) (place : Nat) : ∃ n, stepBack label place = .ok n ∧
    IsGreatest {m | m ≤ place ∧ IsBoundary label m} n := by
  induction place with
  | zero =>
    have hzero := isBoundary_zero label
    exact ⟨0, by rw [stepBack, if_pos hzero], ⟨Nat.le_refl 0, hzero⟩, fun m hm => hm.1⟩
  | succ place ih =>
    rw [stepBack]
    by_cases hplace : IsBoundary label (place + 1)
    · exact ⟨place + 1, if_pos hplace, ⟨Nat.le_refl _, hplace⟩, fun m hm => hm.1⟩
    · obtain ⟨n, hn, ⟨hle, hboundary⟩, hmax⟩ := ih
      refine ⟨n, by rw [if_neg hplace, hn], ⟨by omega, hboundary⟩, ?_⟩
      rintro m ⟨hm, hm'⟩
      have hne : m ≠ place + 1 := by
        rintro rfl
        exact hplace hm'
      exact hmax ⟨by omega, hm'⟩

/-! ## 2. What is kept -/

/-- Leading characters that fit are among those that are kept. -/
theorem isPrefix_fitting (room : Nat) {before cs : List Char} (h : before <+: cs)
    (hroom : (String.ofList before).utf8ByteSize ≤ room) : before <+: fitting room cs := by
  induction cs generalizing before room with
  | nil => exact h
  | cons c cs ih =>
    cases before with
    | nil => exact List.nil_prefix
    | cons d before =>
      obtain ⟨rfl, hrest⟩ := List.cons_prefix_cons.mp h
      rw [String.ofList_cons, String.utf8ByteSize_append, String.utf8ByteSize_singleton] at hroom
      rw [fitting, if_pos (by omega)]
      exact List.cons_prefix_cons.mpr ⟨rfl, ih _ hrest (by omega)⟩

theorem exists_kept_append (label : String) : ∃ rest, kept label ++ rest = label := by
  obtain ⟨rest, h⟩ := exists_fitting_append capacity label.toList
  exact ⟨.ofList rest, by rw [kept, ← String.ofList_append, h, String.ofList_toList]⟩

theorem utf8ByteSize_kept_le (label : String) : (kept label).utf8ByteSize ≤ capacity :=
  utf8ByteSize_fitting _ _

/-- **A beginning of the label that fits** is a beginning of what is kept. -/
theorem exists_append_eq_kept {before rest : String} (h : before ++ rest = label)
    (hroom : before.utf8ByteSize ≤ capacity) : ∃ rest', before ++ rest' = kept label := by
  have hprefix : before.toList <+: label.toList := ⟨rest.toList, by rw [← String.toList_append, h]⟩
  obtain ⟨rest', hrest'⟩ := isPrefix_fitting capacity hprefix
    (by rwa [String.ofList_toList])
  refine ⟨.ofList rest', ?_⟩
  rw [kept, ← hrest', String.ofList_append, String.ofList_toList]

/-- **What is kept ends at the last place between characters** that there is room for. This is the
whole description: it is the label itself where the label fits, and no character is ever cut in
two. -/
theorem isGreatest_kept (label : String) :
    IsGreatest {m | m ≤ capacity ∧ IsBoundary label m} (kept label).utf8ByteSize := by
  obtain ⟨rest, hrest⟩ := exists_kept_append label
  refine ⟨⟨utf8ByteSize_kept_le label, isBoundary_iff.mpr ⟨_, rest, hrest, rfl⟩⟩, ?_⟩
  rintro m ⟨hm, hboundary⟩
  obtain ⟨before, rest', hlabel, rfl⟩ := isBoundary_iff.mp hboundary
  obtain ⟨more, hmore⟩ := exists_append_eq_kept hlabel hm
  rw [← hmore, String.utf8ByteSize_append]
  exact Nat.le_add_right _ _

/-- Stepping back from the end of the room, or of the label, comes to the end of what is kept. -/
theorem stepBack_eq_kept (label : String) :
    stepBack label (min label.utf8ByteSize capacity) = .ok (kept label).utf8ByteSize := by
  obtain ⟨n, hn, hgreatest⟩ := exists_stepBack label (min label.utf8ByteSize capacity)
  have hsame : {m | m ≤ min label.utf8ByteSize capacity ∧ IsBoundary label m} =
      {m | m ≤ capacity ∧ IsBoundary label m} := by
    ext m
    constructor
    · rintro ⟨hm, hboundary⟩
      exact ⟨by omega, hboundary⟩
    · rintro ⟨hm, hboundary⟩
      exact ⟨Nat.le_min.mpr ⟨hboundary.le_utf8ByteSize, hm⟩, hboundary⟩
  rw [hsame] at hgreatest
  rw [hn, hgreatest.unique (isGreatest_kept label)]

/-- A label is kept whole if and only if it fits. -/
theorem kept_eq_self_iff : kept label = label ↔ label.utf8ByteSize ≤ capacity := by
  constructor
  · intro h
    have := utf8ByteSize_kept_le label
    rwa [h] at this
  · intro h
    obtain ⟨more, hmore⟩ := exists_append_eq_kept (String.append_empty (s := label)) h
    obtain ⟨rest, hrest⟩ := exists_kept_append label
    have hsize := congrArg String.utf8ByteSize hmore
    have hsize' := congrArg String.utf8ByteSize hrest
    rw [String.utf8ByteSize_append] at hsize hsize'
    obtain rfl : more = "" := String.utf8ByteSize_eq_zero_iff.mp (by omega)
    rw [← hmore, String.append_empty]

theorem kept_kept (label : String) : kept (kept label) = kept label :=
  kept_eq_self_iff.mpr (utf8ByteSize_kept_le label)

/-! ## 3. What is stored -/

theorem toNat_length_ofLabel (label : String) :
    (ofLabel label).length.toNat = (kept label).utf8ByteSize := by
  have hle := utf8ByteSize_kept_le label
  rw [ofLabel, Nat.toUInt8, UInt8.toNat_ofNat', String.size_toByteArray]
  exact Nat.mod_eq_of_lt (by rw [capacity] at hle; omega)

theorem getElem_bytes_ofLabel (label : String) {i : Nat} (h : i < 15) :
    (ofLabel label).bytes[i] = (kept label).toByteArray.data.getD i 0 := by
  simp [ofLabel]

/-- The bytes behind the label are zero. -/
theorem bytes_eq_zero_of_le {i : Nat} (h : i < 15) (hle : (ofLabel label).length.toNat ≤ i) :
    (ofLabel label).bytes[i] = 0 := by
  rw [toNat_length_ofLabel] at hle
  rw [getElem_bytes_ofLabel]
  simp [Array.getD, hle]

/-- The bytes of the label are those of what was kept. -/
theorem labelBytes_ofLabel (label : String) :
    (ofLabel label).labelBytes = (kept label).toByteArray := by
  have hlength := toNat_length_ofLabel label
  have hle := utf8ByteSize_kept_le label
  rw [capacity] at hle
  refine ByteArray.ext (Array.ext ?_ fun i hi hi' => ?_)
  · simp [labelBytes, hlength, ByteArray.size_data, hle]
  · rw [ByteArray.size_data, String.size_toByteArray] at hi'
    simp only [labelBytes, Array.getElem_extract, Nat.zero_add, Vector.getElem_toArray]
    rw [getElem_bytes_ofLabel label (by omega)]
    simp [Array.getD, hi']

/-- They are the first bytes of the label. -/
theorem labelBytes_eq_extract (label : String) :
    (ofLabel label).labelBytes = label.toByteArray.extract 0 (kept label).utf8ByteSize := by
  obtain ⟨rest, hrest⟩ := exists_kept_append label
  have hbytes := congrArg String.toByteArray hrest
  rw [String.toByteArray_append] at hbytes
  rw [labelBytes_ofLabel, ← hbytes, ByteArray.extract_append_eq_left String.size_toByteArray.symm]

/-- **The bytes of a tag decode,** to what was kept. -/
theorem fromUTF8?_labelBytes (label : String) :
    String.fromUTF8? (ofLabel label).labelBytes = some (kept label) := by
  rw [labelBytes_ofLabel, String.fromUTF8?, dif_pos (kept label).isValidUTF8]
  rfl

theorem label_ofLabel (label : String) : (ofLabel label).label = kept label := by
  rw [Tag.label, fromUTF8?_labelBytes]
  rfl

theorem ofLabel_kept (label : String) : ofLabel (kept label) = ofLabel label := by
  rw [ofLabel, ofLabel, kept_kept]

/-- A tag is determined by what was kept. -/
theorem ofLabel_eq_iff {other : String} : ofLabel label = ofLabel other ↔
    kept label = kept other := by
  constructor
  · intro h
    rw [← label_ofLabel, h, label_ofLabel]
  · intro h
    rw [← ofLabel_kept, h, ofLabel_kept]

theorem ofLabel_empty : ofLabel "" = empty := by decide +kernel

theorem isEmpty_ofLabel_iff : (ofLabel label).isEmpty = true ↔ kept label = "" := by
  rw [isEmpty, beq_iff_eq, ← UInt8.toNat_inj, toNat_length_ofLabel]
  exact String.utf8ByteSize_eq_zero_iff

/-! ## 4. Tags and their labels -/

/-- What a tag holds of a label. -/
structure Abridges (tag : Tag) (label : String) : Prop where
  /-- The text of the tag is what its bytes decode to, and nothing put in its place. -/
  decoded : String.fromUTF8? tag.labelBytes = some tag.label
  /-- It is a beginning of the label. -/
  beginning : ∃ rest, tag.label ++ rest = label
  /-- It ends at the last place between characters that there is room for. -/
  greatest : IsGreatest {m | m ≤ capacity ∧ IsBoundary label m} tag.label.utf8ByteSize
  /-- No beginning of the label that there is room for is longer. -/
  longest : ∀ before rest, before ++ rest = label → before.utf8ByteSize ≤ capacity →
    ∃ more, before ++ more = tag.label
  /-- Stepping back from the end of the room, or of the label, comes to its end. -/
  stepped : stepBack label (min label.utf8ByteSize capacity) = .ok tag.label.utf8ByteSize
  /-- It is the label itself if that fits. -/
  whole : tag.label = label ↔ label.utf8ByteSize ≤ capacity
  length : tag.length.toNat = tag.label.utf8ByteSize
  /-- Its bytes are the first ones of the label. -/
  copied : tag.labelBytes = label.toByteArray.extract 0 tag.length.toNat
  /-- The bytes behind it are zero. -/
  filled : ∀ i (h : i < 15), tag.length.toNat ≤ i → tag.bytes[i] = 0

/-- **A tag holds the longest beginning of its label that fits.**  The place to cut is found from
behind, and is the last one between two characters. -/
theorem ofLabel_abridges (label : String) : (ofLabel label).Abridges label where
  decoded := by rw [label_ofLabel, fromUTF8?_labelBytes]
  beginning := by
    rw [label_ofLabel]
    exact exists_kept_append label
  greatest := by
    rw [label_ofLabel]
    exact isGreatest_kept label
  longest before rest h hroom := by
    rw [label_ofLabel]
    exact exists_append_eq_kept h hroom
  stepped := by rw [label_ofLabel, stepBack_eq_kept]
  whole := by rw [label_ofLabel, kept_eq_self_iff]
  length := by rw [label_ofLabel, toNat_length_ofLabel]
  copied := by rw [toNat_length_ofLabel, labelBytes_eq_extract]
  filled _ h hle := bytes_eq_zero_of_le h hle

/-- **A tag is determined by its text,** which is the longest beginning of its label that fits: the
tag of the text of a tag is the same tag, tags with the same text are equal, and the tag is the
empty one if there is no text.  The text fits as it is, so it is not cut a second time; and the
bytes behind it are zero, so that there is nothing else to a tag. -/
theorem abridges_and_determined (label : String) :
    (ofLabel label).Abridges label ∧ ofLabel (ofLabel label).label = ofLabel label ∧
      (∀ other, ofLabel label = ofLabel other ↔
        (ofLabel label).label = (ofLabel other).label) ∧
      (ofLabel label = empty ↔ (ofLabel label).label = "") ∧
      ((ofLabel label).isEmpty = true ↔ (ofLabel label).label = "") := by
  refine ⟨ofLabel_abridges label, ?_, ?_, ?_, ?_⟩
  · rw [label_ofLabel, ofLabel_kept]
  · intro other
    rw [label_ofLabel, label_ofLabel, ofLabel_eq_iff]
  · have hnone : kept "" = "" := kept_eq_self_iff.mpr (Nat.zero_le _)
    rw [label_ofLabel, ← ofLabel_empty, ofLabel_eq_iff, hnone]
  · rw [label_ofLabel, isEmpty_ofLabel_iff]

/-- A character of two bytes that would end behind the room is left out as a whole. -/
example : (ofLabel "aaaaaaaaaaaaaaé").label = "aaaaaaaaaaaaaa" := by decide +kernel

end PageFrames.Tag
