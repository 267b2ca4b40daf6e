/-
# Where an action ends

Most of what is said of an action does not concern the log: with which result it ends, and in
which state.  `Action.Yields` says both at once, and the rules below put the end of an action
together from the ends of its parts, in the order in which they are run.

Where the log does matter, it is put together in the same way (`Action.Yields.log_bind`), and most
parts add nothing to it (`Action.Quiet`).  Nor is a fault the end of a sequence that is the end of
none of its parts (`Action.Avoids`).
-/
import PageFrames.Action

namespace PageFrames.Action

variable {σ τ α β : Type}

/-- The action, started in `s`, ends with `result` in the state `s'`. -/
def Yields (m : Action σ α) (s : σ) (result : Except Fault α) (s' : σ) : Prop :=
  (m.run s).result = result ∧ (m.run s).state = s'

/-- An action ends in one way only. -/
theorem Yields.unique {m : Action σ α} {s s₁ s₂ : σ} {r₁ r₂ : Except Fault α}
    (h₁ : m.Yields s r₁ s₁) (h₂ : m.Yields s r₂ s₂) : r₁ = r₂ ∧ s₁ = s₂ :=
  ⟨h₁.1.symm.trans h₂.1, h₁.2.symm.trans h₂.2⟩

/-- Every action ends in some way. -/
theorem yields_run (m : Action σ α) (s : σ) : m.Yields s (m.run s).result (m.run s).state :=
  ⟨rfl, rfl⟩

/-! ## 1. Sequences -/

theorem yields_pure (a : α) (s : σ) : (Pure.pure a : Action σ α).Yields s (.ok a) s := ⟨rfl, rfl⟩

/-- An answer is handed on, with the state it was given in. -/
theorem Yields.bind {m : Action σ α} {f : α → Action σ β} {s s₁ s₂ : σ} {a : α}
    {r : Except Fault β} (hm : m.Yields s (.ok a) s₁) (hf : (f a).Yields s₁ r s₂) :
    (m >>= f).Yields s r s₂ := by
  obtain ⟨hr, hs⟩ := hm
  subst hs
  have h : m.run s = ⟨.ok a, (m.run s).state, (m.run s).log⟩ := by rw [← hr]
  rw [Yields, run_bind_ok h]
  exact hf

/-- A fault ends the sequence. -/
theorem Yields.bind_error {m : Action σ α} {f : α → Action σ β} {s s₁ : σ} {fault : Fault}
    (hm : m.Yields s (.error fault) s₁) : (m >>= f).Yields s (.error fault) s₁ := by
  obtain ⟨hr, hs⟩ := hm
  subst hs
  have h : m.run s = ⟨.error fault, (m.run s).state, (m.run s).log⟩ := by rw [← hr]
  rw [Yields, run_bind_error h]
  exact ⟨rfl, rfl⟩

/-- Once its first part has ended, what is to be found of the end of a sequence is to be found of
the end of its second part. -/
theorem Yields.exists_bind {m : Action σ α} {f : α → Action σ β} {s s₁ : σ} {a : α}
    {P : Except Fault β → σ → Prop} (hm : m.Yields s (.ok a) s₁)
    (hf : ∃ r s₂, (f a).Yields s₁ r s₂ ∧ P r s₂) : ∃ r s₂, (m >>= f).Yields s r s₂ ∧ P r s₂ := by
  obtain ⟨r, s₂, hf, hP⟩ := hf
  exact ⟨r, s₂, hm.bind hf, hP⟩

/-- A function of the answer changes nothing else. -/
theorem Yields.map {m : Action σ α} {s s' : σ} {r : Except Fault α} (h : m.Yields s r s')
    (f : α → β) : (f <$> m).Yields s (r.map f) s' := by
  obtain ⟨hr, hs⟩ := h
  rw [Yields, run_map, hr, hs]
  exact ⟨rfl, rfl⟩

/-- A sequence ends in the fault of its first part, or as its second part does. -/
theorem Yields.of_bind {m : Action σ α} {f : α → Action σ β} {s s₂ : σ} {r : Except Fault β}
    (h : (m >>= f).Yields s r s₂) :
    (∃ fault, m.Yields s (.error fault) s₂ ∧ r = .error fault) ∨
      ∃ a s₁, m.Yields s (.ok a) s₁ ∧ (f a).Yields s₁ r s₂ := by
  cases hr : (m.run s).result with
  | error fault =>
    have hm : m.Yields s (.error fault) (m.run s).state := ⟨hr, rfl⟩
    obtain ⟨h₁, h₂⟩ := h.unique hm.bind_error
    exact .inl ⟨fault, h₂ ▸ hm, h₁⟩
  | ok a =>
    have hm : m.Yields s (.ok a) (m.run s).state := ⟨hr, rfl⟩
    obtain ⟨h₁, h₂⟩ := h.unique (hm.bind (yields_run (f a) _))
    exact .inr ⟨a, _, hm, h₁ ▸ h₂ ▸ yields_run (f a) _⟩

/-- A sequence that ends with an answer has run both of its parts. -/
theorem Yields.of_bind_ok {m : Action σ α} {f : α → Action σ β} {s s₂ : σ} {b : β}
    (h : (m >>= f).Yields s (.ok b) s₂) :
    ∃ a s₁, m.Yields s (.ok a) s₁ ∧ (f a).Yields s₁ (.ok b) s₂ := by
  rcases h.of_bind with ⟨fault, -, hr⟩ | hparts
  · cases hr
  · exact hparts

/-! ## 2. Single actions -/

theorem yields_fault (cause : Fault) (s : σ) :
    (fault cause : Action σ α).Yields s (.error cause) s := ⟨rfl, rfl⟩

theorem yields_liftM {result r : Except Fault α} (h : result = r) (s : σ) :
    (liftM result : Action σ α).Yields s r s := ⟨h, rfl⟩

theorem yields_look {f : σ → Except Fault α} {s : σ} {r : Except Fault α} (h : f s = r) :
    (look f).Yields s r s := ⟨h, rfl⟩

theorem yields_peek (f : σ → α) (s : σ) : (peek f).Yields s (.ok (f s)) s := ⟨rfl, rfl⟩

theorem yields_change (f : σ → σ) (s : σ) : (change f).Yields s (.ok ()) (f s) := ⟨rfl, rfl⟩

theorem yields_emit (level : LogLevel) (text : String) (s : σ) :
    (emit level text).Yields s (.ok ()) s := ⟨rfl, rfl⟩

/-- An action on a part ends as it does on the part alone, with the part put back. -/
theorem Yields.onPart {split : τ → σ × (σ → τ)} {m : Action σ α} {t : τ} {s' : σ}
    {r : Except Fault α} (h : m.Yields (split t).1 r s') :
    (onPart split m).Yields t r ((split t).2 s') := by
  obtain ⟨hr, hs⟩ := h
  subst hs
  exact ⟨hr, rfl⟩

/-- A state of its own, with its new value, is part of the answer. -/
theorem Yields.apart {m : Action τ α} {t t' : τ} {a : α} (h : m.Yields t (.ok a) t') (s : σ) :
    (Action.apart m t : Action σ (α × τ)).Yields s (.ok (a, t')) s := by
  obtain ⟨hr, hs⟩ := h
  rw [Yields, run_apart, hr, hs]
  exact ⟨rfl, rfl⟩

/-- A fault on a state of its own is a fault. -/
theorem Yields.apart_error {m : Action τ α} {t t' : τ} {fault : Fault}
    (h : m.Yields t (.error fault) t') (s : σ) :
    (Action.apart m t : Action σ (α × τ)).Yields s (.error fault) s := by
  obtain ⟨hr, -⟩ := h
  rw [Yields, run_apart, hr]
  exact ⟨rfl, rfl⟩

/-- An answer that holds a state of its own is where an action on that state ended. -/
theorem Yields.of_apart {m : Action τ α} {t t' : τ} {a : α} {s s' : σ}
    (h : (Action.apart m t : Action σ (α × τ)).Yields s (.ok (a, t')) s') :
    m.Yields t (.ok a) t' := by
  obtain ⟨hr, -⟩ := h
  rw [run_apart] at hr
  cases hresult : (m.run t).result with
  | error fault => simp [hresult, Except.map] at hr
  | ok b =>
    simp only [hresult, Except.map, Except.ok.injEq, Prod.mk.injEq] at hr
    exact ⟨hr.1 ▸ hresult, hr.2⟩

/-! ## 3. What an action maintains -/

/-- However the action ends, `P` holds in the state it leaves if it held before. -/
def Maintains (P : σ → Prop) (m : Action σ α) : Prop :=
  ∀ s r s', m.Yields s r s' → P s → P s'

section Maintains

variable {P : σ → Prop}

theorem Maintains.bind {m : Action σ α} {f : α → Action σ β} (hm : m.Maintains P)
    (hf : ∀ a, (f a).Maintains P) : (m >>= f).Maintains P := by
  intro s r s' h hs
  rcases h.of_bind with ⟨fault, hm', -⟩ | ⟨a, s₁, hm', hf'⟩
  · exact hm s _ s' hm' hs
  · exact hf a s₁ r s' hf' (hm s _ s₁ hm' hs)

theorem maintains_pure (a : α) : (Pure.pure a : Action σ α).Maintains P := by
  rintro s r s' ⟨-, rfl⟩ hs
  exact hs

theorem maintains_liftM (result : Except Fault α) : (liftM result : Action σ α).Maintains P := by
  rintro s r s' ⟨-, rfl⟩ hs
  exact hs

theorem maintains_peek (f : σ → α) : (peek f).Maintains P := by
  rintro s r s' ⟨-, rfl⟩ hs
  exact hs

theorem maintains_look (f : σ → Except Fault α) : (look f).Maintains P := by
  rintro s r s' ⟨-, rfl⟩ hs
  exact hs

theorem maintains_emit (level : LogLevel) (text : String) : (emit level text).Maintains P := by
  rintro s r s' ⟨-, rfl⟩ hs
  exact hs

theorem maintains_fault (cause : Fault) : (fault cause : Action σ α).Maintains P := by
  rintro s r s' ⟨-, rfl⟩ hs
  exact hs

theorem maintains_change {f : σ → σ} (h : ∀ s, P s → P (f s)) : (change f).Maintains P := by
  rintro s r s' ⟨-, rfl⟩ hs
  exact h s hs

end Maintains

/-! ## 4. What an action tells -/

/-- The action leaves no records for the log, however it ends. -/
def Quiet (m : Action σ α) : Prop := ∀ s, (m.run s).log = []

/-- The records of a sequence are those of its parts. -/
theorem Yields.log_bind {m : Action σ α} {f : α → Action σ β} {s s₁ : σ} {a : α}
    (hm : m.Yields s (.ok a) s₁) :
    ((m >>= f).run s).log = (m.run s).log ++ ((f a).run s₁).log := by
  obtain ⟨hr, hs⟩ := hm
  subst hs
  have h : m.run s = ⟨.ok a, (m.run s).state, (m.run s).log⟩ := by rw [← hr]
  rw [run_bind_ok h]

theorem Quiet.bind {m : Action σ α} {f : α → Action σ β} (hm : m.Quiet)
    (hf : ∀ a, (f a).Quiet) : (m >>= f).Quiet := by
  intro s
  cases hr : (m.run s).result with
  | error fault =>
    have h : m.run s = ⟨.error fault, (m.run s).state, (m.run s).log⟩ := by rw [← hr]
    rw [run_bind_error h]
    exact hm s
  | ok a =>
    have hyields : m.Yields s (.ok a) (m.run s).state := ⟨hr, rfl⟩
    rw [hyields.log_bind, hm s, hf a]
    rfl

theorem quiet_pure (a : α) : (Pure.pure a : Action σ α).Quiet := fun _ => rfl

theorem quiet_look (f : σ → Except Fault α) : (look f).Quiet := fun _ => rfl

theorem quiet_peek (f : σ → α) : (peek f).Quiet := fun _ => rfl

theorem quiet_change (f : σ → σ) : (change f).Quiet := fun _ => rfl

theorem quiet_liftM (result : Except Fault α) : (liftM result : Action σ α).Quiet := fun _ => rfl

theorem quiet_fault (cause : Fault) : (fault cause : Action σ α).Quiet := fun _ => rfl

theorem Quiet.onPart {m : Action σ α} (hm : m.Quiet) (split : τ → σ × (σ → τ)) :
    (onPart split m).Quiet := fun t => hm (split t).1

/-! ## 5. Faults that an action does not end with -/

/-- The action does not end with the fault, whatever the state it is started in. -/
def Avoids (cause : Fault) (m : Action σ α) : Prop := ∀ s, (m.run s).result ≠ .error cause

section Avoids

variable {cause : Fault}

theorem Avoids.bind {m : Action σ α} {f : α → Action σ β} (hm : m.Avoids cause)
    (hf : ∀ a, (f a).Avoids cause) : (m >>= f).Avoids cause := by
  intro s
  rcases (yields_run (m >>= f) s).of_bind with ⟨fault, hfault, hr⟩ | ⟨a, s₁, -, hrest⟩
  · rw [hr]
    rintro ⟨⟩
    exact hm s hfault.1
  · rw [← hrest.1]
    exact hf a s₁

theorem avoids_pure (a : α) : (Pure.pure a : Action σ α).Avoids cause := by
  intro s
  simp

theorem avoids_peek (f : σ → α) : (peek f).Avoids cause := by
  intro s
  simp

theorem avoids_change (f : σ → σ) : (change f).Avoids cause := by
  intro s
  simp

theorem avoids_look {f : σ → Except Fault α} (h : ∀ s, f s ≠ .error cause) :
    (look f).Avoids cause := h

theorem avoids_liftM {result : Except Fault α} (h : result ≠ .error cause) :
    (liftM result : Action σ α).Avoids cause := fun _ => h

theorem Avoids.onPart {m : Action σ α} (hm : m.Avoids cause) (split : τ → σ × (σ → τ)) :
    (onPart split m).Avoids cause := fun t => hm (split t).1

end Avoids

end PageFrames.Action
