/-
# Actions

An action works on a state.  It ends with an answer or with a fault, in a new state either way,
and it leaves some records for the log.  Two things about this are not negotiable and are
therefore in the type:

* a fault keeps the state it was raised in (what was changed before it stays changed);
* the log is only written, so no action can depend on what is in it.

Actions are composed in sequence: the second one starts in the state that the first one left,
and is left out if the first one ended with a fault (`Action.run_bind`).  An action on a part of
a state is an action on the whole of it (`Action.onPart`).
-/
import PageFrames.Fault
import PageFrames.Log

namespace PageFrames

/-! ## 1. What an action comes to -/

/-- What an action comes to: its answer or fault, the state it left, and its log records. -/
structure Outcome (σ α : Type) where
  result : Except Fault α
  state : σ
  log : List LogRecord

/-- An action on states `σ` that answers with an `α`. -/
structure Action (σ α : Type) where
  run : σ → Outcome σ α

namespace Action

variable {σ τ α β γ : Type}

@[ext] theorem ext {m n : Action σ α} (h : ∀ s, m.run s = n.run s) : m = n := by
  cases m; cases n
  exact congrArg Action.mk (funext h)

/-! ## 2. Sequencing -/

/-- Answers with `a` and does nothing. -/
def pure (a : α) : Action σ α := ⟨fun s => ⟨.ok a, s, []⟩⟩

/-- Runs `m`, then what its answer says. -/
def bind (m : Action σ α) (f : α → Action σ β) : Action σ β :=
  ⟨fun s =>
    match m.run s with
    | ⟨.ok a, s', log⟩ =>
      match (f a).run s' with
      | ⟨result, s'', log'⟩ => ⟨result, s'', log ++ log'⟩
    | ⟨.error fault, s', log⟩ => ⟨.error fault, s', log⟩⟩

instance : Monad (Action σ) where
  pure := pure
  bind := bind

@[simp] theorem run_pure (a : α) (s : σ) : (Pure.pure a : Action σ α).run s = ⟨.ok a, s, []⟩ := rfl

theorem run_bind (m : Action σ α) (f : α → Action σ β) (s : σ) :
    (m >>= f).run s =
      match m.run s with
      | ⟨.ok a, s', log⟩ =>
        ⟨((f a).run s').result, ((f a).run s').state, log ++ ((f a).run s').log⟩
      | ⟨.error fault, s', log⟩ => ⟨.error fault, s', log⟩ := by
  show (bind m f).run s = _
  simp only [bind]

theorem run_bind_ok {m : Action σ α} {f : α → Action σ β} {s s' : σ} {a : α}
    {log : List LogRecord} (h : m.run s = ⟨.ok a, s', log⟩) :
    (m >>= f).run s =
      ⟨((f a).run s').result, ((f a).run s').state, log ++ ((f a).run s').log⟩ := by
  rw [run_bind, h]

theorem run_bind_error {m : Action σ α} {f : α → Action σ β} {s s' : σ} {fault : Fault}
    {log : List LogRecord} (h : m.run s = ⟨.error fault, s', log⟩) :
    (m >>= f).run s = ⟨.error fault, s', log⟩ := by
  rw [run_bind, h]

/-- An action followed by nothing but its answer is that action. -/
theorem bind_pure (m : Action σ α) : (m >>= fun a => Pure.pure a) = m := by
  ext s : 1
  rw [run_bind]
  split <;> simp_all

/-- An answer given at once is handed on. -/
theorem pure_bind (a : α) (f : α → Action σ β) : (Pure.pure a >>= f) = f a := by
  ext s : 1
  rw [run_bind]
  rfl

/-- Three actions in sequence can be grouped either way. -/
theorem bind_assoc (m : Action σ α) (f : α → Action σ β) (g : β → Action σ γ) :
    m >>= f >>= g = m >>= fun a => f a >>= g := by
  ext s : 1
  rw [run_bind, run_bind, run_bind]
  cases m.run s with
  | mk result s' log =>
    cases result with
    | error fault => rfl
    | ok a =>
      simp only [run_bind]
      cases (f a).run s' with
      | mk result s'' log' => cases result <;> simp [List.append_assoc]

instance : LawfulMonad (Action σ) := .mk' _ bind_pure pure_bind bind_assoc

/-- A function of the answer changes nothing else. -/
@[simp] theorem run_map (f : α → β) (m : Action σ α) (s : σ) :
    (f <$> m).run s = ⟨(m.run s).result.map f, (m.run s).state, (m.run s).log⟩ := by
  rw [map_eq_pure_bind, run_bind]
  cases m.run s with
  | mk result s' log => cases result <;> simp [Except.map]

/-! ## 3. Single actions -/

/-- Ends with the fault. -/
def fault (cause : Fault) : Action σ α := ⟨fun s => ⟨.error cause, s, []⟩⟩

/-- Ends as the computation did, which has no state. -/
def ofExcept (result : Except Fault α) : Action σ α := ⟨fun s => ⟨result, s, []⟩⟩

instance : MonadLift (Except Fault) (Action σ) := ⟨ofExcept⟩

/-- Looks something up in the state, which may fault. -/
def look (f : σ → Except Fault α) : Action σ α := ⟨fun s => ⟨f s, s, []⟩⟩

/-- Answers with something read off the state. -/
def peek (f : σ → α) : Action σ α := ⟨fun s => ⟨.ok (f s), s, []⟩⟩

/-- Changes the state. -/
def change (f : σ → σ) : Action σ Unit := ⟨fun s => ⟨.ok (), f s, []⟩⟩

/-- Leaves a record for the log. -/
def emit (level : LogLevel) (text : String) : Action σ Unit :=
  ⟨fun s => ⟨.ok (), s, [⟨level, text⟩]⟩⟩

@[simp] theorem run_fault (cause : Fault) (s : σ) :
    (fault cause : Action σ α).run s = ⟨.error cause, s, []⟩ := rfl

@[simp] theorem run_liftM (result : Except Fault α) (s : σ) :
    (liftM result : Action σ α).run s = ⟨result, s, []⟩ := rfl

@[simp] theorem run_look (f : σ → Except Fault α) (s : σ) : (look f).run s = ⟨f s, s, []⟩ := rfl

@[simp] theorem run_peek (f : σ → α) (s : σ) : (peek f).run s = ⟨.ok (f s), s, []⟩ := rfl

@[simp] theorem run_change (f : σ → σ) (s : σ) : (change f).run s = ⟨.ok (), f s, []⟩ := rfl

@[simp] theorem run_emit (level : LogLevel) (text : String) (s : σ) :
    (emit level text).run s = ⟨.ok (), s, [⟨level, text⟩]⟩ := rfl

/-! ## 4. Parts of a state -/

/-- An action on a part of the state.  `split` takes the state apart into the part and what puts
a new part back in its place. -/
def onPart (split : τ → σ × (σ → τ)) (m : Action σ α) : Action τ α :=
  ⟨fun t =>
    match split t with
    | (s, restore) =>
      match m.run s with
      | ⟨result, s', log⟩ => ⟨result, restore s', log⟩⟩

@[simp] theorem run_onPart (split : τ → σ × (σ → τ)) (m : Action σ α) (t : τ) :
    (onPart split m).run t =
      ⟨(m.run (split t).1).result, (split t).2 (m.run (split t).1).state,
        (m.run (split t).1).log⟩ := rfl

/-- An action on a state of its own, which is part of the answer.  A fault has no answer, so the
state is lost with it. -/
def apart (m : Action τ α) (t : τ) : Action σ (α × τ) :=
  ⟨fun s =>
    match m.run t with
    | ⟨.ok a, t', log⟩ => ⟨.ok (a, t'), s, log⟩
    | ⟨.error cause, _, log⟩ => ⟨.error cause, s, log⟩⟩

theorem run_apart (m : Action τ α) (t : τ) (s : σ) :
    (apart m t).run s =
      ⟨(m.run t).result.map ((·, (m.run t).state)), s, (m.run t).log⟩ := by
  simp only [apart]
  cases m.run t with
  | mk result t' log => cases result <;> rfl

end Action

end PageFrames
