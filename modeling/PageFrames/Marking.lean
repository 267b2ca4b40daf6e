/-
# Marking pages

When an allocator is set up, all its pages start out free, and those that are in use already are
marked before the free list is built.  A mark covers the pages that a region touches.  Pages
outside the table are passed over, and a page touched by several marks is left as the last one
of them says.

What to mark may have to be found out first, from a state that is not the table.  Each mark is
then found when its turn comes (`Table.markEach`), so a mark that cannot be found leaves the
marks after it unmade and those before it made.  Marks that are known already need no finding
(`Table.markEach_map_pure`).
-/
import PageFrames.Region
import PageFrames.Table

namespace PageFrames

/-- One step of the marking. -/
inductive Mark where
  /-- The pages touched by the region are in use. -/
  | used (region : Region)
  /-- The pages touched by the region are free. -/
  | free (region : Region)
  /-- Marks nothing and asks how many pages there are. -/
  | total
  deriving DecidableEq

namespace Table

/-- Sets the status of the rows from `first` on and before `stop`. -/
def setStatus (status : Status) (first stop : Nat) (table : Table) : Table :=
  table.mapIdx fun index row => if first ≤ index ∧ index < stop then { row with status } else row

@[simp] theorem size_setStatus (status : Status) (first stop : Nat) (table : Table) :
    (setStatus status first stop table).size = table.size := by
  simp [setStatus]

/-- Sets the status of the pages that the region touches, where `firstNum` is the page number of
the first row.  It answers with the number of these pages. -/
def markRegion (firstNum : Word) (status : Status) (region : Region) : Action Table Word := do
  let num := region.start.pageNum
  let size : Word ← .peek (·.size.toUInt64)
  let first := max num firstNum
  let touchedStop ← num.addExact (← region.pageCount)
  let stop := min touchedStop (← firstNum.addExact size)
  if stop ≤ first then
    return 0
  else
    let low ← first.subExact firstNum
    let high ← stop.subExact firstNum
    .change (setStatus status low.toNat high.toNat)
    stop.subExact first

/-- Makes one mark, and answers with its number of pages. -/
def mark (firstNum : Word) : Mark → Action Table Word
  | .used region => markRegion firstNum .used region
  | .free region => markRegion firstNum .free region
  | .total => .peek (·.size.toUInt64)

/-- Makes marks one after the other, and answers with their numbers of pages. -/
def markAll (firstNum : Word) : List Mark → Action Table (List Word)
  | [] => return []
  | first :: rest => do
    let count ← mark firstNum first
    return count :: (← markAll firstNum rest)

/-- Finds marks and makes each of them before the next one is found. -/
def markEach {σ : Type} (firstNum : Word) :
    List (Action σ Mark) → Table → Action σ (List Word × Table)
  | [], table => return ([], table)
  | find :: rest, table => do
    let (count, table) ← (mark firstNum (← find)).apart table
    let (counts, table) ← markEach firstNum rest table
    return (count :: counts, table)

/-- Marks that are known already are made one after the other. -/
theorem markEach_map_pure {σ : Type} (firstNum : Word) (marks : List Mark) (table : Table) :
    markEach firstNum (marks.map Pure.pure) table =
      ((markAll firstNum marks).apart table : Action σ (List Word × Table)) := by
  ext s : 1
  induction marks generalizing table s with
  | nil => rfl
  | cons first rest ih =>
    simp only [List.map_cons, markEach, markAll, pure_bind, Action.run_bind, Action.run_apart, ih]
    cases (mark firstNum first).run table with
    | mk result table log =>
      cases result with
      | error => rfl
      | ok count =>
        cases h : (markAll firstNum rest).run table with
        | mk result table log => cases result <;> simp [Except.map, h]

end Table

end PageFrames
