/-
# Exact arithmetic

The arithmetic of the allocators does not wrap: where a result does not fit its word, the
operation ends with a fault.  So a result, where there is one, is the result in the natural
numbers, which is what the statements below say for each operation; the fault is raised in
exactly the remaining cases.
-/
import PageFrames.Fault

namespace PageFrames

/-- What is there, or else the fault. -/
def orFault {α : Type} (fault : Fault) : Option α → Except Fault α
  | some a => .ok a
  | none => .error fault

@[simp] theorem orFault_eq_ok_iff {α : Type} {fault : Fault} {x : Option α} {a : α} :
    orFault fault x = .ok a ↔ x = some a := by
  cases x <;> simp [orFault]

namespace Word

/-- The sum. -/
def addExact (a b : Word) : Except Fault Word := orFault .addOverflow (a.add? b)

/-- The difference. -/
def subExact (a b : Word) : Except Fault Word := orFault .subOverflow (a.sub? b)

/-- The product. -/
def mulExact (a b : Word) : Except Fault Word := orFault .mulOverflow (a.mul? b)

theorem addExact_eq_ok_iff {a b c : Word} :
    a.addExact b = .ok c ↔ a.toNat + b.toNat = c.toNat := by
  rw [addExact, orFault_eq_ok_iff, add?_eq_some_iff]

theorem subExact_eq_ok_iff {a b c : Word} :
    a.subExact b = .ok c ↔ c.toNat + b.toNat = a.toNat := by
  rw [subExact, orFault_eq_ok_iff, sub?_eq_some_iff]

theorem mulExact_eq_ok_iff {a b c : Word} :
    a.mulExact b = .ok c ↔ a.toNat * b.toNat = c.toNat := by
  rw [mulExact, orFault_eq_ok_iff, mul?_eq_some_iff]

end Word

/-- The handle after this one. -/
def Page.succExact (page : Page) : Except Fault Page :=
  if page = .nil then .error .addOverflow else .ok (page + 1)

theorem Page.succExact_eq_ok_iff {page next : Page} :
    page.succExact = .ok next ↔ page.toNat + 1 = next.toNat := by
  have hpage := page.toNat_lt
  have hnext := next.toNat_lt
  have hnil : Page.nil.toNat = 4294967295 := rfl
  unfold succExact
  split <;> rename_i h
  · subst h
    exact ⟨fun h' => (nomatch h'), fun h' => by omega⟩
  · have hne : page.toNat ≠ Page.nil.toNat := fun h' => h (UInt32.toNat_inj.mp h')
    have hone : (1 : Page).toNat = 1 := rfl
    rw [Except.ok.injEq, ← UInt32.toNat_inj, UInt32.toNat_add, hone,
      Nat.mod_eq_of_lt (by omega)]

end PageFrames
