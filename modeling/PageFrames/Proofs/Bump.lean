/-
# What has been handed out before

A bump allocator hands out one piece behind the other, so what it has handed out so far is one
region, and every piece that it hands out is the end of that region as it is afterwards
(`Bump.of_allocate`).
-/
import Mathlib.Logic.Relation
import PageFrames.Bump
import PageFrames.Proofs.Marking

namespace PageFrames.Bump

variable {bump bump' : Bump} {count : Word}

/-- In between the bump allocator has handed out pages, or refused to, any number of times. -/
def Drawn : Bump → Bump → Prop :=
  Relation.ReflTransGen fun bump bump' => ∃ count r, (allocate count).Yields bump r bump'

/-- The bump allocator was created, and has handed out pages or refused to. -/
def Reached (bump : Bump) : Prop :=
  ∃ start stop first, create start stop = .ok first ∧ Drawn first bump

/-- The address behind more pages is as many bytes further on, if that is not past the range. -/
theorem next?_eq_some_iff {next : Addr} : bump.next? count = some next ↔
    bump.next.toNat + count.toNat * 4096 = next.toNat ∧ next.toNat ≤ bump.stop.toNat := by
  have hlt := next.toNat_lt
  rw [next?, Option.bind_eq_bind, Option.bind_eq_some_iff]
  simp only [Word.mul?_eq_some_iff, toNat_pageSize, Option.bind_eq_some_iff,
    Word.add?_eq_some_iff, UInt64.lt_iff_toNat_lt, Option.ite_none_left_eq_some, Option.some.injEq]
  constructor
  · rintro ⟨bytes, hbytes, sum, hsum, hle, rfl⟩
    omega
  · rintro ⟨hsum, hle⟩
    obtain ⟨bytes, -, hbytes⟩ := Word.exists_mulExact (a := count) (b := pageSize)
      (by rw [toNat_pageSize]; omega)
    rw [toNat_pageSize] at hbytes
    exact ⟨bytes, hbytes.symm, next, by omega, by omega, rfl⟩

/-! ## 1. One allocation -/

/-- Pages that are not within the range are refused. -/
theorem yields_allocate_none (h : bump.next? count = none) :
    (allocate count).Yields bump (.ok none) bump := by
  refine .bind (Action.yields_peek _ _) ?_
  rw [h]
  exact Action.yields_pure _ _

/-- Pages within the range are handed out, and then they are counted. -/
theorem exists_allocate_some {next : Addr} (h : bump.next? count = some next) :
    ∃ bytes, bytes.toNat = count.toNat * 4096 ∧
      (∀ allocated, bump.allocated.addExact count = .ok allocated →
        (allocate count).Yields bump (.ok (some ⟨bump.next, bytes⟩))
          { bump with next, allocated }) ∧
      ∀ fault, bump.allocated.addExact count = .error fault →
        (allocate count).Yields bump (.error fault) { bump with next } := by
  obtain ⟨hsum, -⟩ := next?_eq_some_iff.mp h
  have hlt := next.toNat_lt
  obtain ⟨bytes, hmul, hbytes⟩ := Word.exists_mulExact (a := count) (b := pageSize)
    (by rw [toNat_pageSize]; omega)
  rw [toNat_pageSize] at hbytes
  have hregion : Region.ofPages bump.next count = .ok ⟨bump.next, bytes⟩ := by
    rw [Region.ofPages, hmul]
    rfl
  refine ⟨bytes, hbytes, ?_, ?_⟩
  · intro allocated hcount
    refine .bind (Action.yields_peek _ _) ?_
    rw [h]
    exact .bind (Action.yields_peek _ _) (.bind (Action.yields_liftM hregion _)
      (.bind (Action.yields_change _ _) (.bind (Action.yields_peek _ _)
        (.bind (Action.yields_liftM hcount _) (.bind (Action.yields_change _ _)
          (Action.yields_pure _ _))))))
  · intro fault hcount
    refine .bind (Action.yields_peek _ _) ?_
    rw [h]
    exact .bind (Action.yields_peek _ _) (.bind (Action.yields_liftM hregion _)
      (.bind (Action.yields_change _ _) (.bind (Action.yields_peek _ _)
        (.bind_error (Action.yields_liftM hcount _)))))

/-- **What an allocation does:** nothing, or it hands out a piece that begins where the last one
ended. -/
theorem of_allocate {r : Except Fault (Option Region)} (h : (allocate count).Yields bump r bump') :
    bump'.start = bump.start ∧ bump.next.toNat ≤ bump'.next.toNat ∧
      ∀ region, r = .ok (some region) → region.start = bump.next ∧
        region.start.toNat + region.size.toNat = bump'.next.toNat := by
  cases hnext : bump.next? count with
  | none =>
    obtain ⟨rfl, rfl⟩ := (yields_allocate_none hnext).unique h
    exact ⟨rfl, le_rfl, fun _ h => nomatch h⟩
  | some next =>
    obtain ⟨hsum, -⟩ := next?_eq_some_iff.mp hnext
    obtain ⟨bytes, hbytes, hok, herror⟩ := exists_allocate_some hnext
    -- the count may come to its end, but then the piece is handed out already
    cases hcount : bump.allocated.addExact count with
    | error fault =>
      obtain ⟨rfl, rfl⟩ := (herror fault hcount).unique h
      exact ⟨rfl, by dsimp only; omega, fun _ h => nomatch h⟩
    | ok allocated =>
      obtain ⟨rfl, rfl⟩ := (hok allocated hcount).unique h
      refine ⟨rfl, by dsimp only; omega, ?_⟩
      rintro region hr
      cases hr
      exact ⟨rfl, by dsimp only; omega⟩

/-! ## 2. What has been handed out -/

/-- The range stays where it is, and what has been handed out of it stays so. -/
theorem Drawn.start_eq_and_le (h : Drawn bump bump') :
    bump'.start = bump.start ∧ bump.next.toNat ≤ bump'.next.toNat := by
  induction h with
  | refl => exact ⟨rfl, le_rfl⟩
  | tail _ step ih =>
    obtain ⟨count, r, hallocate⟩ := step
    obtain ⟨hstart, hle, -⟩ := of_allocate hallocate
    exact ⟨hstart.trans ih.1, ih.2.trans hle⟩

/-- The whole pages between the two addresses, and none of them handed out. -/
theorem of_create {start stop : Addr} (h : create start stop = .ok bump) :
    ∃ low high, start.alignUp pageSize = .ok low ∧ stop.alignDown pageSize = .ok high ∧
      start.toNat ≤ stop.toNat ∧
      bump = { start := low, stop := max high low, next := low, allocated := 0 } := by
  rw [create] at h
  split at h <;> rename_i hle
  · cases h
  · rw [UInt64.lt_iff_toNat_lt] at hle
    obtain ⟨low, hlow, h⟩ := exists_of_bind_eq_ok h
    obtain ⟨high, hhigh, h⟩ := exists_of_bind_eq_ok h
    cases h
    exact ⟨low, high, hlow, hhigh, by omega, rfl⟩

/-- Nothing has been handed out at first. -/
theorem next_of_create {start stop : Addr} (h : create start stop = .ok bump) :
    bump.next = bump.start := by
  obtain ⟨low, high, -, -, -, rfl⟩ := of_create h
  rfl

theorem Reached.drawn (h : Reached bump) (hdrawn : Drawn bump bump') : Reached bump' := by
  obtain ⟨start, stop, first, hcreate, hfirst⟩ := h
  exact ⟨start, stop, first, hcreate, hfirst.trans hdrawn⟩

/-- Nothing below the start of the range is ever handed out. -/
theorem Reached.start_le (h : Reached bump) : bump.start.toNat ≤ bump.next.toNat := by
  obtain ⟨start, stop, first, hcreate, hdrawn⟩ := h
  obtain ⟨hstart, hle⟩ := hdrawn.start_eq_and_le
  rw [hstart, ← next_of_create hcreate]
  exact hle

/-- The region between the start of the range and the next address exists, if they are in order. -/
theorem exists_used_of_le (h : bump.start.toNat ≤ bump.next.toNat) :
    ∃ used, bump.used = .ok used ∧ used.start = bump.start ∧
      used.start.toNat + used.size.toNat = bump.next.toNat := by
  obtain ⟨size, hsize, hnat⟩ := Word.exists_subExact h
  refine ⟨⟨bump.start, size⟩, ?_, rfl, by dsimp only; omega⟩
  rw [used, hsize]
  rfl

/-- **What has been handed out** is the region between the start of the range and the next
address. -/
theorem Reached.exists_used (h : Reached bump) :
    ∃ used, bump.used = .ok used ∧ used.start = bump.start ∧
      used.start.toNat + used.size.toNat = bump.next.toNat :=
  exists_used_of_le h.start_le

end PageFrames.Bump
