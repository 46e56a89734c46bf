import Mathlib.Data.List.Induction
import NonconformingQuad.Run

/-! Outcomes of chains of checks, and of computations with notices. A chain succeeds exactly when
each of its steps does. -/
namespace NonconformingQuad

namespace Outcome
variable {ε ε' α β : Type}

theorem pure_eq_ok_iff {a b : α} : (pure a : Except ε α) = .ok b ↔ a = b := by
  simp [pure, Except.pure]

theorem bind_eq_ok_iff {r : Except ε α} {f : α → Except ε β} {b : β} :
    (r >>= f) = .ok b ↔ ∃ a, r = .ok a ∧ f a = .ok b := by
  cases r with
  | error e => simp [bind, Except.bind]
  | ok a => simp [bind, Except.bind]

theorem mapError_eq_ok_iff {r : Except ε α} {f : ε → ε'} {a : α} :
    r.mapError f = .ok a ↔ r = .ok a := by
  cases r with
  | error e => exact ⟨nofun, nofun⟩
  | ok b => exact ⟨fun same => congrArg _ (Except.ok.inj same), fun same =>
      congrArg _ (Except.ok.inj same)⟩

theorem map_eq_ok_iff {r : Except ε α} {f : α → β} {b : β} :
    r.map f = .ok b ↔ ∃ a, r = .ok a ∧ f a = b := by
  cases r <;> simp [Except.map]

theorem mapM_eq_error {f : α → Except ε β} {xs : List α} {e : ε}
    (failed : xs.mapM f = .error e) : ∃ x ∈ xs, f x = .error e := by
  induction xs with
  | nil => cases failed
  | cons x rest ih =>
    cases first : f x with
    | error e' =>
      simp only [List.mapM_cons, first, bind, Except.bind, Except.error.injEq] at failed
      subst e'
      exact ⟨x, List.mem_cons_self, first⟩
    | ok y =>
      cases others : rest.mapM f with
      | ok ys =>
        simp [List.mapM_cons, first, others, bind, Except.bind, pure, Except.pure] at failed
      | error e' =>
        simp only [List.mapM_cons, first, others, bind, Except.bind, Except.error.injEq] at failed
        subst e'
        obtain ⟨z, member, refused⟩ := ih others
        exact ⟨z, List.mem_cons_of_mem x member, refused⟩

/-- Where each step succeeds on exactly the images under `put` of good results, a chain of steps
succeeds on exactly the lists of such images. -/
theorem mapM_eq_ok_iff {f : α → Except ε β} {put : β → α} {Good : β → Prop}
    (step : ∀ x y, f x = .ok y ↔ Good y ∧ x = put y) (xs : List α) (ys : List β) :
    xs.mapM f = .ok ys ↔ (∀ y ∈ ys, Good y) ∧ xs = ys.map put := by
  induction xs generalizing ys with
  | nil =>
    rw [List.mapM_nil, pure_eq_ok_iff]
    constructor
    · rintro rfl
      simp
    · rintro ⟨_, same⟩
      exact (List.map_eq_nil_iff.mp same.symm).symm
  | cons x rest ih =>
    simp only [List.mapM_cons, bind_eq_ok_iff, pure_eq_ok_iff, step, ih]
    constructor
    · rintro ⟨y, ⟨good, rfl⟩, zs, ⟨others, rfl⟩, rfl⟩
      exact ⟨List.forall_mem_cons.mpr ⟨good, others⟩, rfl⟩
    · rintro ⟨good, same⟩
      cases ys with
      | nil => cases same
      | cons y zs =>
        obtain ⟨rfl, rfl⟩ := List.cons.inj same
        obtain ⟨first, others⟩ := List.forall_mem_cons.mp good
        exact ⟨y, ⟨first, rfl⟩, zs, ⟨others, rfl⟩, rfl⟩

/-- Steps that all succeed make a chain that gives what each of them gives. -/
theorem mapM_eq_ok_map {f : α → Except ε β} {g : α → β} {xs : List α}
    (each : ∀ x ∈ xs, f x = .ok (g x)) : xs.mapM f = .ok (xs.map g) := by
  induction xs with
  | nil => rfl
  | cons x rest ih =>
    obtain ⟨first, others⟩ := List.forall_mem_cons.mp each
    simp only [List.mapM_cons, bind_eq_ok_iff, pure_eq_ok_iff]
    exact ⟨g x, first, rest.map g, ih others, rfl⟩

/-- A chain over the numbers below the length of a list goes through the list when each step looks
at one entry. -/
theorem foldlM_range_eq_ok {step : β → Nat → Except ε β} {f : β → α → β} {xs : List α} {b : β}
    (each : ∀ b q (bound : q < xs.length), step b q = .ok (f b xs[q])) :
    (List.range xs.length).foldlM step b = .ok (xs.foldl f b) := by
  induction xs using List.reverseRecOn with
  | nil => rfl
  | append_singleton front last ih =>
    have before : (List.range front.length).foldlM step b = .ok (front.foldl f b) := by
      refine ih fun b q bound => ?_
      have inside : q < (front ++ [last]).length := by
        rw [List.length_append]
        omega
      rw [each b q inside, List.getElem_append_left bound]
    have final : step (front.foldl f b) front.length = .ok (f (front.foldl f b) last) := by
      rw [each _ front.length (by simp)]
      simp only [List.getElem_concat_length]
    rw [List.length_append, List.length_singleton, List.range_succ, List.foldlM_append, before,
      List.foldl_append]
    simp only [List.foldlM_cons, List.foldlM_nil, List.foldl_cons, List.foldl_nil, bind,
      Except.bind, final, pure, Except.pure]

end Outcome

namespace Run
variable {K α β : Type} {r : Run K α}

/-- The fault with which a computation ends, if it ends with one. -/
def fault? (r : Run K α) : Option (Fault K) :=
  match r.outcome with
  | .ok _ => none
  | .error e => some e

theorem fault?_eq_none_iff : r.fault? = none ↔ ∃ a, r.outcome = .ok a := by
  cases found : r.outcome <;> simp [fault?, found]

theorem fault?_eq_some_iff {e : Fault K} : r.fault? = some e ↔ r.outcome = .error e := by
  cases found : r.outcome <;> simp [fault?, found]

/-- A sequence stops with the fault of its first part, or else with that of its second part. -/
theorem fault?_bind {f : α → Run K β} {e? : Option (Fault K)}
    (second : ∀ a, r.outcome = .ok a → (f a).fault? = e?) : (r >>= f).fault? = r.fault?.or e? := by
  change (bind r f).fault? = _
  cases found : r.outcome with
  | error e => simp [bind, fault?, found]
  | ok a =>
    rw [← second a found]
    simp [bind, fault?, found]

theorem fault?_map (f : α → β) (r : Run K α) :
    (r >>= fun a => pure (f a) : Run K β).fault? = r.fault? := by
  change (bind r _).fault? = _
  cases found : r.outcome <;> simp [bind, fault?, found]

end Run

namespace Attempt
variable {K σ α β : Type} {s t : σ} {r : Run K α} {a : Attempt K σ}

theorem fault?_ofRun (s : σ) (r : Run K σ) : (ofRun s r).fault? = r.fault? := by
  cases found : r.outcome <;> simp [ofRun, Run.fault?, found]

theorem state_ofRun_of_ok {r : Run K σ} (found : r.outcome = .ok t) : (ofRun s r).state = t := by
  simp [ofRun, found]

theorem state_ofRun_of_error {r : Run K σ} {e : Fault K} (found : r.outcome = .error e) :
    (ofRun s r).state = s := by
  simp [ofRun, found]

theorem ofRun_bind (s : σ) (r : Run K α) (f : α → Run K σ) :
    ofRun s (r >>= f) = after s r fun a => ofRun s (f a) := by
  change ofRun s (Run.bind r f) = _
  cases found : r.outcome with
  | error e => simp [ofRun, after, Run.bind, found]
  | ok a => cases next : (f a).outcome <;> simp [ofRun, after, Run.bind, found, next]

theorem ofRun_map_bind (s : σ) (put : α → β) (r : Run K α) (f : β → Run K σ) :
    ofRun s (put <$> r >>= f) = after s r fun a => ofRun s (f (put a)) := by
  rw [ofRun_bind]
  change after s (Run.bind r fun a => pure (put a)) _ = _
  cases found : r.outcome with
  | error e => simp [after, Run.bind, found]
  | ok a => simp [after, Run.bind, found, pure]

theorem after_pure (s : σ) (a : α) (f : α → Attempt K σ) : after s (pure a) f = f a := rfl

theorem after_congr {f g : α → Attempt K σ} (same : ∀ a, r.outcome = .ok a → f a = g a) :
    after s r f = after s r g := by
  cases found : r.outcome with
  | error e => simp only [after, found]
  | ok a => simp only [after, found, same a found]

theorem after_next (s : σ) (r : Run K α) (f : α → Attempt K σ) (g : σ → Attempt K σ) :
    (after s r f).next g = after s r fun a => (f a).next g := by
  cases found : r.outcome with
  | error e => simp [after, next, found]
  | ok a => cases stopped : (f a).fault? <;> simp [after, next, found, stopped]

theorem next_congr {f g : σ → Attempt K σ} (same : a.fault? = none → f a.state = g a.state) :
    a.next f = a.next g := by
  cases stopped : a.fault? with
  | some e => simp only [next, stopped]
  | none => simp only [next, stopped, same stopped]

theorem next_done : a.next done = a := by
  obtain ⟨s, notices, fault?⟩ := a
  cases fault? <;> simp [next, done]

theorem state_next_stop (e : Fault K) : (a.next fun s => .stop s e).state = a.state := by
  cases stopped : a.fault? <;> simp only [next, stopped, stop]

theorem fault?_next_stop_ne_none (e : Fault K) : (a.next fun s => .stop s e).fault? ≠ none := by
  cases stopped : a.fault? <;> simp [next, stopped, stop]

theorem fault?_next_of_success {f : σ → Attempt K σ} (succeeded : a.fault? = none) :
    (a.next f).fault? = (f a.state).fault? := by
  simp only [next, succeeded]

end Attempt
end NonconformingQuad
