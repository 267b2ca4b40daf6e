/-
# Runs of a bump allocator

Memory is drawn from a range by a number of pages or by a number of bytes, and what is drawn by
bytes is drawn by the least number of pages that hold them (`Draw.count`).  Throughout, the range
is one of whole pages, of which those that are counted as handed out are the lower ones
(`Bump.InRange`).  Each draw keeps it so, whether it is granted or not (`Bump.InRange.exists_draw`),
and a draw that is granted puts one more piece behind the ones before.  The pieces of a run
therefore tile the range from its start up to the next address (`Tiles`), and everything else that
can be said of them is said of a tiling.
-/
import Mathlib.Algebra.BigOperators.Ring.List
import Mathlib.Algebra.Ring.Nat
import Mathlib.Data.List.ReduceOption
import Mathlib.Order.Bounds.Basic
import PageFrames.Proofs.Bump
import PageFrames.Proofs.Checks

namespace PageFrames

/-! ## 1. Regions that follow each other -/

/-- The first region begins at `low`, each other one where the one before it ends, and the last one
ends at `high`. -/
def Tiles (low : Nat) : List Region → Nat → Prop
  | [], high => low = high
  | region :: regions, high =>
    region.start.toNat = low ∧ Tiles (low + region.size.toNat) regions high

namespace Tiles

variable {low high : Nat} {regions : List Region} {region : Region}

theorem high_eq (h : Tiles low regions high) :
    high = low + (regions.map (·.size.toNat)).sum := by
  induction regions generalizing low with
  | nil => exact h.symm
  | cons region regions ih =>
    rw [ih h.2, List.map_cons, List.sum_cons, Nat.add_assoc]

/-- A region of a tiling lies within it. -/
theorem within_of_mem (h : Tiles low regions high) (hmem : region ∈ regions) :
    low ≤ region.start.toNat ∧ region.start.toNat + region.size.toNat ≤ high := by
  induction regions generalizing low with
  | nil => cases hmem
  | cons first regions ih =>
    obtain ⟨rfl, hrest⟩ := h
    rcases List.mem_cons.mp hmem with rfl | hmem
    · exact ⟨le_rfl, by rw [hrest.high_eq]; omega⟩
    · obtain ⟨hlow, hhigh⟩ := ih hrest hmem
      omega

/-- **The regions of a tiling** have no address in common. -/
theorem pairwise_apart (h : Tiles low regions high) :
    regions.Pairwise fun a b => ∀ x, a.contains x = true → ¬ b.contains x = true := by
  induction regions generalizing low with
  | nil => exact .nil
  | cons first regions ih =>
    obtain ⟨rfl, hrest⟩ := h
    refine .cons ?_ (ih hrest)
    intro region hmem x hfirst hregion
    obtain ⟨hlow, -⟩ := hrest.within_of_mem hmem
    rw [Region.contains_iff] at hfirst hregion
    omega

/-- **The addresses of a tiling** are those from its start on and before its end. -/
theorem exists_contains_iff (h : Tiles low regions high) (x : Addr) :
    (∃ region ∈ regions, region.contains x = true) ↔ low ≤ x.toNat ∧ x.toNat < high := by
  constructor
  · rintro ⟨region, hmem, hx⟩
    obtain ⟨hlow, hhigh⟩ := h.within_of_mem hmem
    rw [Region.contains_iff] at hx
    omega
  · rintro ⟨hlow, hhigh⟩
    induction regions generalizing low with
    | nil =>
      obtain rfl : low = high := h
      omega
    | cons first regions ih =>
      obtain ⟨rfl, hrest⟩ := h
      by_cases hx : x.toNat < first.start.toNat + first.size.toNat
      · exact ⟨first, by simp, Region.contains_iff.mpr ⟨hlow, hx⟩⟩
      · obtain ⟨region, hmem, hregion⟩ := ih hrest (by omega)
        exact ⟨region, List.mem_cons_of_mem _ hmem, hregion⟩

end Tiles

namespace Bump

/-! ## 2. Draws -/

/-- A call that asks a bump allocator for memory. -/
inductive Draw where
  | pages (count : Word)
  | bytes (size : Word)
  deriving DecidableEq

namespace Draw

/-- The number of pages that the draw takes from the range. -/
def count : Draw → Word
  | pages count => count
  | bytes size => pagesFor size

def perform : Draw → Action Bump (Option Region)
  | pages count => allocate count
  | bytes size => reserve size

/-- The draws one after the other, with the answers of all of them. -/
def performAll : List Draw → Action Bump (List (Option Region))
  | [] => return []
  | draw :: draws => do
    let answer ← draw.perform
    let answers ← performAll draws
    return answer :: answers

theorem perform_eq (draw : Draw) : draw.perform = allocate draw.count := by
  cases draw <;> rfl

/-- Bytes take the least number of pages that hold them. -/
theorem isLeast_count_bytes (size : Word) :
    IsLeast {n : Nat | size.toNat ≤ n * 4096} (bytes size).count.toNat := by
  rw [count, toNat_pagesFor]
  refine ⟨?_, fun n (hn : size.toNat ≤ n * 4096) => ?_⟩
  · show size.toNat ≤ (size.toNat + 4095) / 4096 * 4096
    omega
  · omega

/-- What is handed out are whole pages, as many as the draw takes. -/
def Grants (draw : Draw) (answer : Option Region) : Prop :=
  ∀ region, answer = some region →
    4096 ∣ region.start.toNat ∧ region.size.toNat = draw.count.toNat * 4096

end Draw

/-- A range of whole pages, of which those below the next address have been handed out. -/
structure InRange (bump : Bump) : Prop where
  start_dvd : 4096 ∣ bump.start.toNat
  stop_dvd : 4096 ∣ bump.stop.toNat
  next_eq : bump.next.toNat = bump.start.toNat + bump.allocated.toNat * 4096
  next_le : bump.next.toNat ≤ bump.stop.toNat

variable {bump bump' : Bump} {draw : Draw} {draws : List Draw}

/-- The pages that are left are those between the next address and the end of the range. -/
theorem InRange.exists_remaining (h : bump.InRange) :
    ∃ left, bump.remaining = .ok left ∧
      bump.next.toNat + left.toNat * 4096 = bump.stop.toNat := by
  obtain ⟨size, hsize, hnat⟩ := Word.exists_subExact h.next_le
  refine ⟨size / pageSize, ?_, ?_⟩
  · rw [remaining, hsize]
    rfl
  · have hstart := h.start_dvd
    have hstop := h.stop_dvd
    have hnext := h.next_eq
    rw [UInt64.toNat_div, toNat_pageSize]
    omega

theorem InRange.start_le (h : bump.InRange) : bump.start.toNat ≤ bump.next.toNat := by
  rw [h.next_eq]
  exact Nat.le_add_right _ _

/-! ## 3. What a draw does -/

/-- What the draw comes to: the range is the same, and the piece that is handed out, if any, begins
where the last one ended. -/
structure Drew (bump : Bump) (draw : Draw) (answer : Option Region) (bump' : Bump) : Prop where
  inRange : bump'.InRange
  start : bump'.start = bump.start
  stop : bump'.stop = bump.stop
  grants : draw.Grants answer
  tiles : Tiles bump.next.toNat answer.toList bump'.next.toNat

/-- A draw that takes more pages than are left is refused, and changes nothing. -/
theorem yields_refused (hmany : bump.stop.toNat < bump.next.toNat + draw.count.toNat * 4096) :
    draw.perform.Yields bump (.ok none) bump := by
  rw [draw.perform_eq]
  refine yields_allocate_none (Option.eq_none_iff_forall_ne_some.mpr ?_)
  intro next hnext
  obtain ⟨hsum, hle⟩ := next?_eq_some_iff.mp hnext
  omega

/-- **A draw that takes no more pages than are left** is granted. -/
theorem InRange.exists_granted (h : bump.InRange) (draw : Draw)
    (hle : bump.next.toNat + draw.count.toNat * 4096 ≤ bump.stop.toNat) :
    ∃ region bump', draw.perform.Yields bump (.ok (some region)) bump' ∧
      Drew bump draw (some region) bump' := by
  have hstop := bump.stop.toNat_lt
  have hstart := h.start_dvd
  have hnext := h.next_eq
  rw [draw.perform_eq]
  obtain ⟨next, hnat⟩ : ∃ next : Addr, bump.next.toNat + draw.count.toNat * 4096 = next.toNat :=
    ⟨(bump.next.toNat + draw.count.toNat * 4096).toUInt64,
      (Word.toNat_toUInt64 (by omega)).symm⟩
  obtain ⟨bytes, hbytes, hok, -⟩ := exists_allocate_some (next?_eq_some_iff.mpr ⟨hnat, by omega⟩)
  -- the pages handed out are within the range, so their number fits a word
  obtain ⟨allocated, hcount, hsum⟩ := Word.exists_addExact (a := bump.allocated)
    (b := draw.count) (by omega)
  refine ⟨⟨bump.next, bytes⟩, _, hok allocated hcount,
    ⟨h.start_dvd, h.stop_dvd, ?_, ?_⟩, rfl, rfl, ?_, rfl, ?_⟩
  · dsimp only
    omega
  · dsimp only
    omega
  · rintro region hregion
    cases hregion
    exact ⟨by dsimp only; omega, hbytes⟩
  · show bump.next.toNat + bytes.toNat = next.toNat
    omega

/-- **Every draw is answered,** and keeps the range. -/
theorem InRange.exists_draw (h : bump.InRange) (draw : Draw) :
    ∃ answer bump', draw.perform.Yields bump (.ok answer) bump' ∧ Drew bump draw answer bump' := by
  rcases le_or_gt (bump.next.toNat + draw.count.toNat * 4096) bump.stop.toNat with hle | hmany
  · obtain ⟨region, bump', hyields, hdrew⟩ := h.exists_granted draw hle
    exact ⟨some region, bump', hyields, hdrew⟩
  · exact ⟨none, bump, yields_refused hmany, h, rfl, rfl, (fun _ hr => nomatch hr), rfl⟩

/-! ## 4. What a run of draws does -/

/-- What the draws come to: the range is the same, and the pieces that are handed out follow each
other from the next address on. -/
structure DrewAll (bump : Bump) (draws : List Draw) (answers : List (Option Region))
    (bump' : Bump) : Prop where
  inRange : bump'.InRange
  start : bump'.start = bump.start
  stop : bump'.stop = bump.stop
  grants : List.Forall₂ Draw.Grants draws answers
  tiles : Tiles bump.next.toNat answers.reduceOption bump'.next.toNat

/-- A draw before the others puts its piece before theirs. -/
theorem DrewAll.cons {bump'' : Bump} {answer : Option Region} {answers : List (Option Region)}
    (hdrew : Drew bump draw answer bump') (h : DrewAll bump' draws answers bump'') :
    DrewAll bump (draw :: draws) (answer :: answers) bump'' where
  inRange := h.inRange
  start := h.start.trans hdrew.start
  stop := h.stop.trans hdrew.stop
  grants := .cons hdrew.grants h.grants
  tiles := by
    have htiles := hdrew.tiles
    cases answer with
    | none =>
      rw [List.reduceOption_cons_of_none, show bump.next.toNat = bump'.next.toNat from htiles]
      exact h.tiles
    | some region =>
      obtain ⟨hstart, hend⟩ := htiles
      rw [List.reduceOption_cons_of_some]
      exact ⟨hstart, by
        rw [show bump.next.toNat + region.size.toNat = bump'.next.toNat from hend]
        exact h.tiles⟩

/-- **Every run of draws is answered,** and keeps the range. -/
theorem InRange.exists_performAll (h : bump.InRange) (draws : List Draw) :
    ∃ answers bump', (Draw.performAll draws).Yields bump (.ok answers) bump' ∧
      DrewAll bump draws answers bump' := by
  induction draws generalizing bump with
  | nil => exact ⟨[], bump, Action.yields_pure _ _, h, rfl, rfl, .nil, rfl⟩
  | cons draw draws ih =>
    obtain ⟨answer, bump', hyields, hdrew⟩ := h.exists_draw draw
    obtain ⟨answers, bump'', hrest, hall⟩ := ih hdrew.inRange
    exact ⟨answer :: answers, bump'', .bind hyields (.bind hrest (Action.yields_pure _ _)),
      hall.cons hdrew⟩

/-- What is handed out in a run are whole pages. -/
theorem dvd_size_of_grants {answers : List (Option Region)}
    (h : List.Forall₂ Draw.Grants draws answers) :
    ∀ region ∈ answers.reduceOption, 4096 ∣ region.size.toNat := by
  intro region hmem
  rw [List.reduceOption_mem_iff] at hmem
  induction h with
  | nil => cases hmem
  | cons hgrants _ ih =>
    rcases List.mem_cons.mp hmem with hfirst | hmem
    · obtain ⟨-, hsize⟩ := hgrants region hfirst.symm
      exact ⟨_, hsize.trans (Nat.mul_comm _ _)⟩
    · exact ih hmem

/-- Regions of whole pages have as many bytes as their pages. -/
theorem sum_pages_mul {regions : List Region} (h : ∀ region ∈ regions, 4096 ∣ region.size.toNat) :
    (regions.map Region.pages).sum * 4096 = (regions.map (·.size.toNat)).sum := by
  rw [← List.sum_map_mul_right regions Region.pages 4096]
  refine congrArg List.sum (List.map_congr_left fun region hmem => ?_)
  exact Nat.div_mul_cancel (h region hmem)

/-! ## 5. A run from the start on -/

/-- A new bump allocator has the range from the start rounded up to the end rounded down, or none if
that is below. -/
theorem inRange_of_create {start stop : Addr} (h : create start stop = .ok bump) :
    bump.InRange ∧ bump.start.toNat = (start.toNat + 4095) / 4096 * 4096 ∧
      bump.stop.toNat = max (stop.toNat / 4096 * 4096) ((start.toNat + 4095) / 4096 * 4096) := by
  obtain ⟨low, high, hlow, hhigh, -, rfl⟩ := of_create h
  rw [Addr.alignDown_pageSize, Except.ok.injEq] at hhigh
  have hlow := Addr.toNat_of_alignUp_pageSize hlow
  have hhigh : high.toNat = stop.toNat / 4096 * 4096 := by
    rw [← hhigh, Addr.toNat_and_pageMask]
  have hmax := Word.toNat_max high low
  refine ⟨⟨?_, ?_, ?_, ?_⟩, hlow, by rw [← hlow, ← hhigh, ← hmax]⟩
  all_goals dsimp only
  · omega
  · omega
  · rw [UInt64.toNat_zero, Nat.zero_mul, Nat.add_zero]
  · omega

/-- What a run of draws has come to: `answers` is what was handed out, and `bump` is what it leaves
of the range that `first` was created with, between `start` and `stop`. -/
structure Drawing (start stop : Addr) (first : Bump) (draws : List Draw)
    (answers : List (Option Region)) (bump : Bump) : Prop where
  /-- Each draw is handed whole pages, as many as it takes, or nothing. -/
  grants : List.Forall₂ Draw.Grants draws answers
  /-- The pieces follow each other, and the first one begins at the start rounded up. -/
  tiles : Tiles ((start.toNat + 4095) / 4096 * 4096) answers.reduceOption bump.next.toNat
  apart : answers.reduceOption.Pairwise fun a b => ∀ x, a.contains x = true → ¬ b.contains x = true
  within : ∀ region ∈ answers.reduceOption, region.size ≠ 0 →
    start.toNat ≤ region.start.toNat ∧ region.start.toNat + region.size.toNat ≤ stop.toNat
  /-- What is in use is the union of the pieces. -/
  used : ∃ used, bump.used = .ok used ∧
    used.start.toNat = (start.toNat + 4095) / 4096 * 4096 ∧
    used.start.toNat + used.size.toNat = bump.next.toNat ∧
    ∀ x, used.contains x = true ↔ ∃ region ∈ answers.reduceOption, region.contains x = true
  allocated : bump.allocated.toNat = (answers.reduceOption.map Region.pages).sum
  /-- All the pages are handed out or left, which are those up to the end, rounded down, and a draw
  is granted if enough of them are left. -/
  remaining : ∃ total left, first.remaining = .ok total ∧ bump.remaining = .ok left ∧
    bump.allocated.toNat + left.toNat = total.toNat ∧
    bump.next.toNat + left.toNat * 4096 =
      max (stop.toNat / 4096 * 4096) ((start.toNat + 4095) / 4096 * 4096) ∧ ∀ draw : Draw,
      (draw.count.toNat ≤ left.toNat →
        ∃ region bump', draw.perform.Yields bump (.ok (some region)) bump') ∧
      (left.toNat < draw.count.toNat → draw.perform.Yields bump (.ok none) bump)

/-- What is known of a run of draws from a new bump allocator. -/
theorem DrewAll.drawing {start stop : Addr} {answers : List (Option Region)}
    (h : DrewAll bump draws answers bump') (hcreate : create start stop = .ok bump) :
    Drawing start stop bump draws answers bump' := by
  obtain ⟨hrange, hlow, hhigh⟩ := inRange_of_create hcreate
  have hnext := next_of_create hcreate
  have htiles := h.tiles
  rw [hnext, hlow] at htiles
  have hend := h.inRange.next_eq
  have hle := h.inRange.next_le
  have hstart := congrArg UInt64.toNat h.start
  have hstop := congrArg UInt64.toNat h.stop
  refine ⟨h.grants, htiles, htiles.pairwise_apart, ?_, ?_, ?_, ?_⟩
  · intro region hmem hne
    obtain ⟨hbegin, hfits⟩ := htiles.within_of_mem hmem
    have hpos : region.size.toNat ≠ 0 := fun hzero => hne (UInt64.toNat_inj.mp hzero)
    omega
  · obtain ⟨used, hused, hbegin, hsum⟩ := exists_used_of_le h.inRange.start_le
    have hsame : used.start.toNat = (start.toNat + 4095) / 4096 * 4096 := by
      rw [hbegin, hstart, hlow]
    refine ⟨used, hused, hsame, hsum, fun x => ?_⟩
    rw [htiles.exists_contains_iff, Region.contains_iff, hsum, hsame]
  · have hsum := htiles.high_eq
    rw [← sum_pages_mul (dvd_size_of_grants h.grants)] at hsum
    omega
  · obtain ⟨total, htotal, hwhole⟩ := hrange.exists_remaining
    obtain ⟨left, hleft, hrest⟩ := h.inRange.exists_remaining
    rw [hnext] at hwhole
    refine ⟨total, left, htotal, hleft, by omega, by omega,
      fun draw => ⟨fun hfew => ?_, fun hmany => ?_⟩⟩
    · obtain ⟨region, bump'', hyields, -⟩ := h.inRange.exists_granted draw (by omega)
      exact ⟨region, bump'', hyields⟩
    · exact yields_refused (by omega)

/-- **A run of draws from a new bump allocator:** whatever is drawn, no draw fails, the pieces that
are handed out follow each other, and what is counted as handed out and as left is so.  A draw by
bytes is one by the least number of pages that hold them.  Each draw moves the next address by what
it hands out, and only as far as the end, so that no sum is too great. -/
theorem exists_drawing {start stop : Addr} (h : create start stop = .ok bump)
    (draws : List Draw) :
    (∃ answers bump', (Draw.performAll draws).Yields bump (.ok answers) bump' ∧
      Drawing start stop bump draws answers bump') ∧
      ∀ size, ∃ count : Word, reserve size = allocate count ∧
        IsLeast {n : Nat | size.toNat ≤ n * 4096} count.toNat := by
  obtain ⟨hrange, -⟩ := inRange_of_create h
  obtain ⟨answers, bump', hyields, hdrew⟩ := hrange.exists_performAll draws
  exact ⟨⟨answers, bump', hyields, hdrew.drawing h⟩,
    fun size => ⟨_, (Draw.bytes size).perform_eq, Draw.isLeast_count_bytes size⟩⟩

/-- Three pages between bounds that are not at the start of a page, of which a draw by bytes takes
two; the next draw is refused, and the last page is handed out after it. -/
theorem exists_drawing_threePages :
    create 0xfff 0x4fff = .ok ⟨0x1000, 0x4000, 0x1000, 0⟩ ∧
      ∃ answers bump', (Draw.performAll [.bytes 4097, .pages 2, .pages 1]).Yields
        ⟨0x1000, 0x4000, 0x1000, 0⟩ (.ok answers) bump' ∧
          Drawing 0xfff 0x4fff ⟨0x1000, 0x4000, 0x1000, 0⟩ [.bytes 4097, .pages 2, .pages 1]
            answers bump' :=
  ⟨by decide +kernel, (exists_drawing (by decide +kernel) _).1⟩

example : ((Draw.performAll [.bytes 4097, .pages 2, .pages 1]).run
    ⟨0x1000, 0x4000, 0x1000, 0⟩).result =
      .ok [some ⟨0x1000, 0x2000⟩, none, some ⟨0x3000, 0x1000⟩] := by decide +kernel

end Bump

end PageFrames
