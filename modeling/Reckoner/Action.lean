import Reckoner.Event

/-!
# Actions (state, faults and a log)

An action works on a state and either has a result or ends with a fault. It also
reports events. Two things about it matter everywhere. The state that a failed action
leaves behind is kept, because the next action starts from it. And events are only ever
produced: no action can look at what was reported before, so the log never bears on a
result.
-/

namespace Reckoner

/-- Outcomes can be told apart if results and faults can. -/
instance outcomeDecidableEq {α β : Type} [DecidableEq α] [DecidableEq β] :
    DecidableEq (Except α β)
  | .ok a, .ok b => decidable_of_iff (a = b) ⟨congrArg _, Except.ok.inj⟩
  | .error a, .error b => decidable_of_iff (a = b) ⟨congrArg _, Except.error.inj⟩
  | .ok _, .error _ => .isFalse nofun
  | .error _, .ok _ => .isFalse nofun

/-- What running an action comes to. -/
structure Step (σ α : Type) where
  /-- The result, or why there is none. -/
  outcome : Except Fault α
  /-- The state left behind, after a failure too. -/
  state : σ
  /-- What was reported, in order. -/
  events : List Event

/-- Work on a state of type `σ` that results in an `α` or a fault. -/
def Action (σ α : Type) : Type := σ → Step σ α

namespace Action

variable {σ τ α β : Type}

/-- The action as it comes out from the state `s`. -/
def run (x : Action σ α) (s : σ) : Step σ α := x s

/-- An action given by what it comes to. -/
def of (f : σ → Step σ α) : Action σ α := f

/-- The second action starts from the state that the first leaves behind, and only if
the first has a result. -/
instance : Monad (Action σ) where
  pure a := .of fun s => ⟨.ok a, s, []⟩
  bind x f := .of fun s =>
    match x.run s with
    | ⟨.ok a, s', events⟩ =>
      let rest := (f a).run s'
      { rest with events := events ++ rest.events }
    | ⟨.error e, s', events⟩ => ⟨.error e, s', events⟩

/-- End with the fault `e`. -/
def fail (e : Fault) : Action σ α := .of fun s => ⟨.error e, s, []⟩

/-- The state. -/
def state : Action σ σ := .of fun s => ⟨.ok s, s, []⟩

/-- Change the state. -/
def change (f : σ → σ) : Action σ Unit := .of fun s => ⟨.ok (), f s, []⟩

/-- Report an event. -/
def report (e : Event) : Action σ Unit := .of fun s => ⟨.ok (), s, [e]⟩

/-- The result of a computation without state, or its fault. -/
def lift : Except Fault α → Action σ α
  | .ok a => pure a
  | .error e => fail e

/-- Run an action whatever it comes to, and have its outcome as the result. -/
def attempt (x : Action σ α) : Action σ (Except Fault α) := .of fun s =>
  let step := x.run s
  ⟨.ok step.outcome, step.state, step.events⟩

/-- Run an action on a part of the state. -/
def within (part : σ → τ) (replace : σ → τ → σ) (x : Action τ α) : Action σ α := .of fun s =>
  let step := x.run (part s)
  ⟨step.outcome, replace s step.state, step.events⟩

/-! ## What running comes to -/

@[simp] theorem run_of (f : σ → Step σ α) (s : σ) : (Action.of f).run s = f s := rfl

@[simp] theorem run_pure (a : α) (s : σ) :
    (pure a : Action σ α).run s = ⟨.ok a, s, []⟩ := rfl

@[simp] theorem run_fail (e : Fault) (s : σ) :
    (fail e : Action σ α).run s = ⟨.error e, s, []⟩ := rfl

/-- Behind an action that has a result, the next one runs. -/
theorem run_bind_ok {x : Action σ α} {f : α → Action σ β} {s : σ} {a : α}
    (h : (x.run s).outcome = .ok a) :
    (x >>= f).run s =
      { (f a).run (x.run s).state with
        events := (x.run s).events ++ ((f a).run (x.run s).state).events } := by
  show (match x.run s with | ⟨.ok a, s', events⟩ => _ | ⟨.error e, s', events⟩ => _) = _
  revert h
  rcases x.run s with ⟨_ | _, s', events⟩
  · intro h; cases h
  · intro h; cases h; rfl

/-- Behind an action that has a result and reports nothing, the run is that of the next
one. -/
theorem run_bind_silent {x : Action σ α} {f : α → Action σ β} {s s' : σ} {a : α}
    (h : x.run s = ⟨.ok a, s', []⟩) : (x >>= f).run s = (f a).run s' := by
  rw [run_bind_ok (a := a) (by rw [h]), h]
  rfl

theorem outcome_bind_ok {x : Action σ α} {f : α → Action σ β} {s : σ} {a : α}
    (h : (x.run s).outcome = .ok a) :
    ((x >>= f).run s).outcome = ((f a).run (x.run s).state).outcome := by
  rw [run_bind_ok h]

/-- Behind an action that fails, nothing runs. -/
theorem run_bind_error {x : Action σ α} {f : α → Action σ β} {s : σ} {e : Fault}
    (h : (x.run s).outcome = .error e) :
    (x >>= f).run s = ⟨.error e, (x.run s).state, (x.run s).events⟩ := by
  show (match x.run s with | ⟨.ok a, s', events⟩ => _ | ⟨.error e, s', events⟩ => _) = _
  revert h
  rcases x.run s with ⟨_ | _, s', events⟩
  · intro h; cases h; rfl
  · intro h; cases h

theorem outcome_bind_error {x : Action σ α} {f : α → Action σ β} {s : σ} {e : Fault}
    (h : (x.run s).outcome = .error e) : ((x >>= f).run s).outcome = .error e := by
  rw [run_bind_error h]

/-- Behind a change, the next action runs on the changed state. -/
theorem run_bind_change (g : σ → σ) (f : Unit → Action σ β) (s : σ) :
    (change g >>= f).run s = (f ()).run (g s) :=
  run_bind_silent rfl

theorem run_bind_state (f : σ → Action σ β) (s : σ) :
    ((state : Action σ σ) >>= f).run s = (f s).run s :=
  run_bind_silent rfl

/-- How actions are put together does not depend on where the brackets stand. -/
instance : LawfulMonad (Action σ) :=
  .mk' (Action σ)
    (fun x => by
      funext s
      show (x >>= pure).run s = x.run s
      cases h : (x.run s).outcome with
      | ok a =>
        rw [run_bind_ok h, run_pure, List.append_nil, ← h]
      | error e =>
        rw [run_bind_error h, ← h])
    (fun a f => by
      funext s
      exact run_bind_silent rfl)
    (fun x f g => by
      funext s
      show (x >>= f >>= g).run s = (x >>= fun a => f a >>= g).run s
      cases hx : (x.run s).outcome with
      | error e =>
        rw [run_bind_error hx, run_bind_error (by rw [run_bind_error hx]), run_bind_error hx]
      | ok a =>
        rw [run_bind_ok hx]
        cases hf : ((f a).run (x.run s).state).outcome with
        | error e =>
          rw [run_bind_error hf, run_bind_error (by rw [run_bind_ok hx, hf]), run_bind_ok hx]
        | ok b =>
          rw [run_bind_ok hf, run_bind_ok (a := b) (by rw [run_bind_ok hx, hf]), run_bind_ok hx,
            List.append_assoc])

end Action

end Reckoner
