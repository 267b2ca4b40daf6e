/-
# What marks do

A region touches a page if it has an address there (`Region.Touches`).  For a region that does not
run past the top (`Region.Fits`) these are the pages from that of its first address on, as many as
`Region.pageCount` says, wherever in a page the region begins and ends.

A mark sets the status of the rows of the pages that its region touches, as far as the table has
them, and of no others; it comes to no fault (`Table.exists_markRegion`).  After several marks a
page is in use if the last mark that touches it says so, or if none touches it and it was in use
before (`Table.exists_markAll`).  Row by row, and with the number that is answered, all that one
mark does is put together in `Table.Marked`.
-/
import Mathlib.Order.Interval.Finset.Nat
import PageFrames.Marking
import PageFrames.Proofs.Pool.FreePages
import PageFrames.Proofs.Words

namespace PageFrames

/-! ## 1. The pages of a region -/

namespace Region

variable {r : Region} {num : Nat}

/-- The region does not run past the top of the address space. -/
def Fits (r : Region) : Prop := r.start.toNat + r.size.toNat ≤ 2 ^ 64

instance (r : Region) : Decidable r.Fits := inferInstanceAs (Decidable (_ ≤ _))

/-- The region has an address on the page with this number. -/
def Touches (r : Region) (num : Nat) : Prop :=
  ∃ a : Addr, r.contains a = true ∧ a.pageNum.toNat = num

theorem Fits.touches_iff (h : r.Fits) :
    r.Touches num ↔ 0 < r.size.toNat ∧ r.start.toNat / 4096 ≤ num ∧
      num ≤ (r.start.toNat + (r.size.toNat - 1)) / 4096 := by
  constructor
  · rintro ⟨a, hin, hnum⟩
    rw [contains_iff] at hin
    rw [Addr.toNat_pageNum] at hnum
    omega
  · rintro ⟨hpos, hlow, hhigh⟩
    rw [Fits] at h
    -- the first address of the region on that page
    have hnat : (max r.start.toNat (num * 4096)).toUInt64.toNat =
        max r.start.toNat (num * 4096) := Word.toNat_toUInt64 (by omega)
    refine ⟨(max r.start.toNat (num * 4096)).toUInt64, ?_, ?_⟩
    · rw [contains_iff, hnat]
      omega
    · rw [Addr.toNat_pageNum, hnat]
      omega

theorem Fits.exists_last (h : r.Fits) :
    ∃ a, r.last = .ok a ∧ a.toNat = r.start.toNat + (r.size.toNat - 1) := by
  rw [Fits] at h
  have hstart := r.start.toNat_lt
  have hsize : (r.size.subFloor 1).toNat = r.size.toNat - 1 := Word.toNat_subFloor _ _
  obtain ⟨a, ha, hnat⟩ := Word.exists_addExact (a := r.start) (b := r.size.subFloor 1) (by omega)
  exact ⟨a, ha, hnat.trans (by rw [hsize])⟩

/-- **The pages that a region touches** are as many as it counts, from that of its start on. -/
theorem Fits.exists_pageCount (h : r.Fits) :
    ∃ count, r.pageCount = .ok count ∧ r.start.toNat / 4096 + count.toNat ≤ 2 ^ 52 ∧
      ∀ num, r.Touches num ↔
        r.start.toNat / 4096 ≤ num ∧ num < r.start.toNat / 4096 + count.toNat := by
  have hstart := r.start.toNat_lt
  rw [pageCount]
  by_cases hempty : r.isEmpty = true
  · have hsize : r.size.toNat = 0 := congrArg UInt64.toNat (by simpa [isEmpty] using hempty)
    refine ⟨0, by rw [if_pos hempty]; rfl, ?_, ?_⟩
    · rw [UInt64.toNat_zero]
      omega
    · intro num
      rw [h.touches_iff, UInt64.toNat_zero]
      omega
  · have hsize : r.size.toNat ≠ 0 := by
      intro hzero
      exact hempty (by simpa [isEmpty] using UInt64.toNat_inj.mp hzero)
    obtain ⟨last, hlast, hlastNat⟩ := h.exists_last
    obtain ⟨span, hspan, hspanNat⟩ := Word.exists_subExact (a := last.pageNum)
      (b := r.start.pageNum) (by rw [Addr.toNat_pageNum, Addr.toNat_pageNum]; omega)
    rw [Addr.toNat_pageNum, Addr.toNat_pageNum] at hspanNat
    have hlastLt := last.toNat_lt
    obtain ⟨count, hcount, hcountNat⟩ := Word.exists_addExact (a := span) (b := 1)
      (by rw [UInt64.toNat_one]; omega)
    rw [UInt64.toNat_one] at hcountNat
    refine ⟨count, ?_, by omega, ?_⟩
    · rw [if_neg hempty, hlast]
      simp only [bind, Except.bind, hspan]
      exact hcount
    · intro num
      rw [h.touches_iff]
      omega

/-- The pages of a region that runs past the top cannot be counted. -/
theorem pageCount_of_not_fits (h : ¬ r.Fits) : r.pageCount = .error .addOverflow := by
  rw [Fits, Nat.not_le] at h
  have hstart := r.start.toNat_lt
  have hempty : ¬ r.isEmpty = true := by
    intro hempty
    have hsize : r.size.toNat = 0 := congrArg UInt64.toNat (by simpa [isEmpty] using hempty)
    omega
  have hsize : (r.size.subFloor 1).toNat = r.size.toNat - 1 := Word.toNat_subFloor _ _
  have hlast : r.last = .error .addOverflow := Word.addExact_of_le (by omega)
  rw [pageCount, if_neg hempty, hlast]
  rfl

/-- The text of a region can be made if the region does not run past the top. -/
theorem Fits.exists_text (h : r.Fits) : ∃ text, r.text = .ok text := by
  obtain ⟨last, hlast, -⟩ := h.exists_last
  rw [text]
  split
  · exact ⟨_, rfl⟩
  · rw [hlast]
    exact ⟨_, rfl⟩

end Region

/-! ## 2. Marks -/

namespace Mark

variable {mark : Mark} {marks : List Mark} {num : Nat}

/-- The region of the mark does not run past the top. -/
def Fits : Mark → Prop
  | used region | free region => region.Fits
  | total => True

/-- The mark concerns the page with this number. -/
def Touches (num : Nat) : Mark → Prop
  | used region | free region => region.Touches num
  | total => False

/-- The mark says that the page with this number is in use. -/
def Uses (num : Nat) : Mark → Prop
  | used region => region.Touches num
  | free _ | total => False

/-- The last of the marks that concern the page says that it is in use. -/
def LastUses (marks : List Mark) (num : Nat) : Prop :=
  ∃ before region after, marks = before ++ used region :: after ∧ region.Touches num ∧
    ∀ mark ∈ after, ¬ mark.Touches num

/-- The mark that gives pages this status. -/
def giving : Status → Region → Mark
  | .used, region => used region
  | .free, region => free region

theorem uses_iff : mark.Uses num ↔ ∃ region, mark = used region ∧ region.Touches num := by
  cases mark <;> simp [Uses]

theorem not_lastUses_nil : ¬ LastUses [] num := by
  rintro ⟨before, region, after, h, -⟩
  simp at h

theorem lastUses_cons_iff :
    LastUses (mark :: marks) num ↔
      LastUses marks num ∨ (∀ m ∈ marks, ¬ m.Touches num) ∧ mark.Uses num := by
  constructor
  · rintro ⟨before, region, after, heq, htouches, hafter⟩
    rcases before with _ | ⟨first, before⟩
    · obtain ⟨rfl, rfl⟩ := List.cons.inj heq
      exact .inr ⟨hafter, htouches⟩
    · obtain ⟨-, rfl⟩ := List.cons.inj heq
      exact .inl ⟨before, region, after, rfl, htouches, hafter⟩
  · rintro (⟨before, region, after, rfl, htouches, hafter⟩ | ⟨hrest, huses⟩)
    · exact ⟨mark :: before, region, after, rfl, htouches, hafter⟩
    · obtain ⟨region, rfl, htouches⟩ := uses_iff.mp huses
      exact ⟨[], region, marks, rfl, htouches, hrest⟩

end Mark

/-! ## 3. Marking the rows of a table -/

namespace Table

variable {table table' : Table} {firstNum : Word} {status : Status} {first stop : Nat}

theorem getElem?_setStatus (i : Nat) :
    (setStatus status first stop table)[i]? = (table[i]?).map fun row =>
      if first ≤ i ∧ i < stop then { row with status } else row := by
  rw [setStatus, Array.getElem?_mapIdx]

theorem setStatus_of_le (h : stop ≤ first) : setStatus status first stop table = table := by
  refine Array.ext_getElem? ?_
  intro i
  have hout : ¬ (first ≤ i ∧ i < stop) := by omega
  simp [getElem?_setStatus, hout]

/-- The pages between two places are in use if that is what is marked, the others if they were. -/
theorem isUsed_setStatus {page : Page} (h : page.toNat < table.size) :
    (setStatus status first stop table).IsUsed page ↔
      (first ≤ page.toNat ∧ page.toNat < stop) ∧ status = .used ∨
        ¬ (first ≤ page.toNat ∧ page.toNat < stop) ∧ table.IsUsed page := by
  have hrow : table[page.toNat]? = some table[page.toNat] := Array.getElem?_eq_getElem h
  rw [IsUsed, IsUsed, column, column, getElem?_setStatus, hrow]
  by_cases hin : first ≤ page.toNat ∧ page.toNat < stop
  · simp [hin]
  · simp [hin]

/-- **A mark sets exactly the rows of the pages that its region touches.** They are the rows from
`low` up to `high`, which may be none, and what is answered is how many there are. The region may
reach out on either side, as long as it fits into the address space. -/
theorem exists_markRegion {region : Region} (hfits : region.Fits)
    (hroom : firstNum.toNat + table.size ≤ 2 ^ 52) (status : Status) :
    ∃ count low high, (markRegion firstNum status region).Yields table (.ok count)
        (setStatus status low high table) ∧ count.toNat = high - low ∧ high ≤ table.size ∧
      ∀ i < table.size, region.Touches (firstNum.toNat + i) ↔ low ≤ i ∧ i < high := by
  obtain ⟨pages, hpages, hbound, htouches⟩ := hfits.exists_pageCount
  have hnum := Addr.toNat_pageNum region.start
  have hsize : table.size.toUInt64.toNat = table.size := Word.toNat_toUInt64 (by omega)
  obtain ⟨touched, htouched, htouchedNat⟩ := Word.exists_addExact (a := region.start.pageNum)
    (b := pages) (by omega)
  obtain ⟨last, hlast, hlastNat⟩ := Word.exists_addExact (a := firstNum)
    (b := table.size.toUInt64) (by omega)
  have hfirst := Word.toNat_max region.start.pageNum firstNum
  have hstop := Word.toNat_min touched last
  by_cases hnone : min touched last ≤ max region.start.pageNum firstNum
  · refine ⟨0, 0, 0, .bind (Action.yields_peek _ _) (.bind (Action.yields_liftM hpages _)
      (.bind (Action.yields_liftM htouched _) (.bind (Action.yields_liftM hlast _) ?_))), rfl,
      Nat.zero_le _, ?_⟩
    · rw [if_pos hnone, setStatus_of_le (Nat.le_refl 0)]
      exact Action.yields_pure _ _
    · rw [UInt64.le_iff_toNat_le] at hnone
      intro i hi
      rw [htouches]
      omega
  · have hsome : (max region.start.pageNum firstNum).toNat < (min touched last).toNat := by
      rw [← Nat.not_le, ← UInt64.le_iff_toNat_le]
      exact hnone
    obtain ⟨low, hlow, hlowNat⟩ := Word.exists_subExact
      (a := max region.start.pageNum firstNum) (b := firstNum) (by omega)
    obtain ⟨high, hhigh, hhighNat⟩ := Word.exists_subExact
      (a := min touched last) (b := firstNum) (by omega)
    obtain ⟨count, hcount, hcountNat⟩ := Word.exists_subExact
      (a := min touched last) (b := max region.start.pageNum firstNum) (by omega)
    refine ⟨count, low.toNat, high.toNat, .bind (Action.yields_peek _ _)
      (.bind (Action.yields_liftM hpages _) (.bind (Action.yields_liftM htouched _)
        (.bind (Action.yields_liftM hlast _) ?_))), by omega, by omega, ?_⟩
    · rw [if_neg hnone]
      exact .bind (Action.yields_liftM hlow _) (.bind (Action.yields_liftM hhigh _)
        (.bind (Action.yields_change _ _) (Action.yields_liftM hcount _)))
    · intro i hi
      rw [htouches]
      omega

/-- **After a mark** a page is in use if the mark says so, or if the mark does not concern it and
it was in use before. -/
theorem exists_mark {mark : Mark} (hfits : mark.Fits)
    (hroom : firstNum.toNat + table.size ≤ 2 ^ 52) :
    ∃ count table', (Table.mark firstNum mark).Yields table (.ok count) table' ∧
      table'.size = table.size ∧
      ∀ p : Page, p.toNat < table.size → (table'.IsUsed p ↔ mark.Uses (firstNum.toNat + p.toNat) ∨
        ¬ mark.Touches (firstNum.toNat + p.toNat) ∧ table.IsUsed p) := by
  cases mark with
  | used region =>
    obtain ⟨count, low, high, hyields, -, -, htouches⟩ := exists_markRegion hfits hroom .used
    refine ⟨count, _, hyields, size_setStatus _ _ _ _, ?_⟩
    intro p hp
    rw [isUsed_setStatus hp, ← htouches _ hp]
    simp [Mark.Uses, Mark.Touches]
  | free region =>
    obtain ⟨count, low, high, hyields, -, -, htouches⟩ := exists_markRegion hfits hroom .free
    refine ⟨count, _, hyields, size_setStatus _ _ _ _, ?_⟩
    intro p hp
    rw [isUsed_setStatus hp, ← htouches _ hp]
    simp [Mark.Uses, Mark.Touches]
  | total =>
    refine ⟨_, table, Action.yields_peek _ _, rfl, ?_⟩
    intro p hp
    simp [Mark.Uses, Mark.Touches]

/-- **After several marks** a page is in use if the last one that concerns it says so, or if none
concerns it and it was in use before. -/
theorem exists_markAll {marks : List Mark} (hfits : ∀ mark ∈ marks, mark.Fits)
    (hroom : firstNum.toNat + table.size ≤ 2 ^ 52) :
    ∃ counts table', (markAll firstNum marks).Yields table (.ok counts) table' ∧
      table'.size = table.size ∧
      ∀ p : Page, p.toNat < table.size →
        (table'.IsUsed p ↔ Mark.LastUses marks (firstNum.toNat + p.toNat) ∨
          (∀ mark ∈ marks, ¬ mark.Touches (firstNum.toNat + p.toNat)) ∧ table.IsUsed p) := by
  induction marks generalizing table with
  | nil =>
    refine ⟨[], table, Action.yields_pure _ _, rfl, ?_⟩
    intro p hp
    simp [Mark.not_lastUses_nil]
  | cons mark marks ih =>
    rw [List.forall_mem_cons] at hfits
    obtain ⟨count, table₁, hmark, hsize₁, hused₁⟩ := exists_mark hfits.1 hroom
    obtain ⟨counts, table₂, hmarks, hsize₂, hused₂⟩ := ih hfits.2 (by rw [hsize₁]; exact hroom)
    refine ⟨count :: counts, table₂, .bind hmark (.bind hmarks (Action.yields_pure _ _)),
      hsize₂.trans hsize₁, ?_⟩
    intro p hp
    rw [hused₂ p (by rw [hsize₁]; exact hp), hused₁ p hp, Mark.lastUses_cons_iff,
      List.forall_mem_cons]
    tauto

/-! ## 4. One mark, exactly -/

/-- The second table is what becomes of the first when the pages that the region touches are given
the status, where the first row has the page number `firstNum`.  The answer is `count`. -/
structure Marked (firstNum : Word) (status : Status) (region : Region) (table table' : Table)
    (count : Word) : Prop where
  size : table'.size = table.size
  touched : ∀ (i : Nat) (row : Descriptor), table[i]? = some row →
    region.Touches (firstNum.toNat + i) → table'[i]? = some { row with status }
  others : ∀ i, ¬ region.Touches (firstNum.toNat + i) → table'[i]? = table[i]?
  /-- The answer is the number of rows whose pages are touched. -/
  counted : ∃ rows : Finset Nat,
    (∀ i, i ∈ rows ↔ i < table.size ∧ region.Touches (firstNum.toNat + i)) ∧
      count.toNat = rows.card
  /-- The pages touched are as many as the region counts, from that of its start on. -/
  numbered : ∃ pages, region.pageCount = .ok pages ∧ ∀ num, region.Touches num ↔
    region.start.pageNum.toNat ≤ num ∧ num < region.start.pageNum.toNat + pages.toNat

/-- **A mark does what it says and nothing else,** wherever its region begins and ends, as long as
it does not run past the top.  The pages that it touches are counted from the last address of the
region, which fits a word even if the region ends at the top, and cut down to the pages of the table
before any row is set. -/
theorem exists_marked {region : Region} (hfits : region.Fits)
    (hroom : firstNum.toNat + table.size ≤ 2 ^ 52) (status : Status) :
    ∃ count table', (mark firstNum (.giving status region)).Yields table (.ok count) table' ∧
      Marked firstNum status region table table' count := by
  have hmark : mark firstNum (.giving status region) = markRegion firstNum status region := by
    cases status <;> rfl
  obtain ⟨count, low, high, hyields, hcount, hhigh, htouches⟩ :=
    exists_markRegion hfits hroom status
  obtain ⟨pages, hpages, -, hnum⟩ := hfits.exists_pageCount
  rw [← Addr.toNat_pageNum] at hnum
  refine ⟨count, _, hmark ▸ hyields, size_setStatus _ _ _ _, ?_, ?_,
    ⟨Finset.Ico low high, ?_, ?_⟩, pages, hpages, hnum⟩
  · intro i row hrow htouched
    have hin := (htouches i (Array.getElem?_eq_some_iff.mp hrow).1).mp htouched
    rw [getElem?_setStatus, hrow, Option.map_some, if_pos hin]
  · intro i hnot
    rw [getElem?_setStatus]
    rcases Nat.lt_or_ge i table.size with hlt | hge
    · rw [htouches i hlt] at hnot
      simp [hnot]
    · simp [hge]
  · intro i
    rw [Finset.mem_Ico]
    constructor
    · intro hin
      have hlt : i < table.size := by omega
      exact ⟨hlt, (htouches i hlt).mpr hin⟩
    · rintro ⟨hlt, htouched⟩
      exact (htouches i hlt).mp htouched
  · rw [Nat.card_Ico, hcount]

/-- The last two pages of the address space, and a region that begins in the page before them and
ends where the address space does. -/
theorem exists_marked_top :
    Region.Fits ⟨0xffffffffffffdfff, 0x2001⟩ ∧
      ∃ count table', (mark 0xffffffffffffe (.giving .used ⟨0xffffffffffffdfff, 0x2001⟩)).Yields
          #[.fresh 0xffffffffffffe000, .fresh 0xfffffffffffff000] (.ok count) table' ∧
        Marked 0xffffffffffffe .used ⟨0xffffffffffffdfff, 0x2001⟩
          #[.fresh 0xffffffffffffe000, .fresh 0xfffffffffffff000] table' count := by
  have hfits : Region.Fits ⟨0xffffffffffffdfff, 0x2001⟩ := by decide
  exact ⟨hfits, exists_marked hfits (by decide) .used⟩

-- the region has no end to stop at
example : Region.stop? ⟨0xffffffffffffdfff, 0x2001⟩ = none ∧
    Region.pageCount ⟨0xffffffffffffdfff, 0x2001⟩ = .ok 3 := by decide +kernel

end Table

end PageFrames
