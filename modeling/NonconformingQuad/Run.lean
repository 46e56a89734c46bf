import NonconformingQuad.Notice

/-! Computations that report notices and may stop with a fault. `Run` yields a value.
`Attempt` works on a state and leaves it behind whatever the outcome, so a fault half way
keeps what was done before it. -/
namespace NonconformingQuad

/-- A value or a fault, with the notices given on the way. -/
structure Run (K : Type) (α : Type) where
  notices : List (Notice K)
  outcome : Except (Fault K) α

namespace Run

variable {K α β : Type}

/-- The outcome without notices. -/
def ofExcept (outcome : Except (Fault K) α) : Run K α := ⟨[], outcome⟩

/-- The outcome without notices of what may only be a misuse. -/
def ofMisuse (outcome : Except Misuse α) : Run K α := ofExcept (outcome.mapError .misuse)

def fail (f : Fault K) : Run K α := ⟨[], .error f⟩

/-- A computation that only reports. -/
def notify (n : Notice K) : Run K Unit := ⟨[n], .ok ()⟩

/-- The second computation goes on from the value of the first; a fault ends both. -/
def bind (r : Run K α) (f : α → Run K β) : Run K β :=
  match r.outcome with
  | .error e => ⟨r.notices, .error e⟩
  | .ok a => ⟨r.notices ++ (f a).notices, (f a).outcome⟩

instance instMonad : Monad (Run K) where
  pure a := ⟨[], .ok a⟩
  bind := bind

@[simp] theorem outcome_pure (a : α) : (pure a : Run K α).outcome = .ok a := rfl

@[simp] theorem outcome_ofExcept (r : Except (Fault K) α) : (ofExcept r).outcome = r := rfl

@[simp] theorem ofMisuse_ok_bind (a : α) (f : α → Run K β) : (ofMisuse (.ok a) >>= f) = f a := rfl

theorem outcome_bind_eq_ok_iff {r : Run K α} {f : α → Run K β} {b : β} :
    (r >>= f).outcome = .ok b ↔ ∃ a, r.outcome = .ok a ∧ (f a).outcome = .ok b := by
  change (bind r f).outcome = .ok b ↔ _
  cases h : r.outcome with
  | error e => simp [bind, h]
  | ok a => simp [bind, h]

theorem outcome_bind_eq_error_iff {r : Run K α} {f : α → Run K β} {e : Fault K} :
    (r >>= f).outcome = .error e ↔
      r.outcome = .error e ∨ ∃ a, r.outcome = .ok a ∧ (f a).outcome = .error e := by
  change (bind r f).outcome = .error e ↔ _
  cases h : r.outcome with
  | error e => simp [bind, h]
  | ok a => simp [bind, h]

end Run

/-- What an operation on a state leaves behind. -/
structure Attempt (K : Type) (σ : Type) where
  state : σ
  notices : List (Notice K)
  fault? : Option (Fault K)

namespace Attempt

variable {K σ τ : Type}

def done (s : σ) : Attempt K σ := ⟨s, [], none⟩

def stop (s : σ) (f : Fault K) : Attempt K σ := ⟨s, [], some f⟩

/-- The new state of a computation that yields one, the old state after a fault. -/
def ofRun (s : σ) (r : Run K σ) : Attempt K σ :=
  match r.outcome with
  | .ok t => ⟨t, r.notices, none⟩
  | .error f => ⟨s, r.notices, some f⟩

/-- Goes on from the value of a computation that leaves the state as it is. -/
def after {α : Type} (s : σ) (r : Run K α) (f : α → Attempt K σ) : Attempt K σ :=
  match r.outcome with
  | .ok a => ⟨(f a).state, r.notices ++ (f a).notices, (f a).fault?⟩
  | .error e => ⟨s, r.notices, some e⟩

/-- A further operation, unless this one stopped. -/
def next (a : Attempt K σ) (f : σ → Attempt K σ) : Attempt K σ :=
  match a.fault? with
  | some _ => a
  | none => ⟨(f a.state).state, a.notices ++ (f a.state).notices, (f a.state).fault?⟩

def within (put : σ → τ) (a : Attempt K σ) : Attempt K τ := ⟨put a.state, a.notices, a.fault?⟩

@[simp] theorem done_next (s : σ) (f : σ → Attempt K σ) : (done s).next f = f s := rfl

theorem fault?_next_eq_none_iff {a : Attempt K σ} {f : σ → Attempt K σ} :
    (a.next f).fault? = none ↔ a.fault? = none ∧ (f a.state).fault? = none := by
  cases h : a.fault? <;> simp [next, h]

theorem next_of_fault {a : Attempt K σ} {e : Fault K} (f : σ → Attempt K σ)
    (h : a.fault? = some e) : a.next f = a := by
  simp [next, h]

/-- What both operations preserve their sequence preserves, whatever the outcome. -/
theorem state_next_induction {P : σ → Prop} {a : Attempt K σ} {f : σ → Attempt K σ}
    (first : P a.state) (second : ∀ s, P s → P (f s).state) : P (a.next f).state := by
  cases h : a.fault? with
  | some e => rwa [next_of_fault f h]
  | none => simpa only [next, h] using second _ first

theorem state_next_of_success {a : Attempt K σ} (f : σ → Attempt K σ) (h : a.fault? = none) :
    (a.next f).state = (f a.state).state := by
  simp [next, h]

end Attempt
end NonconformingQuad
