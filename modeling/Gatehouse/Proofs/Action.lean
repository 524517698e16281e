import Gatehouse.Tracker

/-!
# Runs of steps

What a step comes to from a given state. Steps in turn are run one after the other, and the
first failure is the failure of all, with the state as it was then.

## Main definitions

* `Action.exec`: The outcome of a step from a state, and the state that it leaves.
* `Action.recorded`, `Tracker.recorded`: Steps and searches that are written down.
* `Action.Records`: What a step comes to in writing.

## Theorems

* `Action.ext`: Steps are told by what they come to.
* `Action.exec_bind`, `Action.exec_bind_ok`, `Action.exec_bind_error`, `Action.exec_bind_pure`,
  `Action.exec_bind_eq_ok`: The run of two steps in turn.
* `Action.exec_bind_of_ok`, `Action.exec_bind_of_error`: The first step's outcome is given.
* `Action.exec_recorded`: What is written down is what happened.
* `Action.Records.bind`: What two steps in turn write.
-/

namespace Gatehouse

namespace Action

variable {σ α β γ : Type}

/-- The outcome of a step from a state, and the state that it leaves. -/
def exec (action : Action σ α) (s : σ) : Except Error α × σ := action.run s

/-- Steps that come to the same from every state are the same. -/
theorem ext {x y : Action σ α} (h : ∀ s, exec x s = exec y s) : x = y := funext h

theorem exec_of (outcome : Except Error α) (s : σ) :
    exec (Action.of outcome) s = (outcome, s) := rfl

/-- A step that cannot fail. -/
theorem exec_lift (x : StateM σ α) (s : σ) :
    exec (liftM x : Action σ α) s = (.ok (x.run s).1, (x.run s).2) := rfl

theorem exec_bind_ok {x : Action σ α} {f : α → Action σ β} {a : α} {s s' : σ}
    (h : exec x s = (.ok a, s')) : exec (x >>= f) s = exec (f a) s' := by
  have hx : (x.run s : Except Error α × σ) = (.ok a, s') := h
  -- A bind runs its first step and goes on from the outcome.
  change (match (x.run s : Except Error α × σ) with
    | (outcome, s') => (ExceptT.bindCont f outcome s' : Except Error β × σ)) = _
  rw [hx]
  rfl

theorem exec_bind_error {x : Action σ α} {f : α → Action σ β} {e : Error} {s s' : σ}
    (h : exec x s = (.error e, s')) : exec (x >>= f) s = (.error e, s') := by
  have hx : (x.run s : Except Error α × σ) = (.error e, s') := h
  change (match (x.run s : Except Error α × σ) with
    | (outcome, s') => (ExceptT.bindCont f outcome s' : Except Error β × σ)) = _
  rw [hx]
  rfl

/-- The second of two steps is run where the first one succeeds. -/
theorem exec_bind (x : Action σ α) (f : α → Action σ β) (s : σ) :
    exec (x >>= f) s = match exec x s with
      | (.ok a, s') => exec (f a) s'
      | (.error e, s') => (.error e, s') := by
  rcases h : exec x s with ⟨e | a, s'⟩
  · exact exec_bind_error h
  · exact exec_bind_ok h

/-- Two steps in turn succeed when both of them do. -/
theorem exec_bind_eq_ok {x : Action σ α} {f : α → Action σ β} {b : β} {s t : σ}
    (h : exec (x >>= f) s = (.ok b, t)) :
    ∃ a s', exec x s = (.ok a, s') ∧ exec (f a) s' = (.ok b, t) := by
  rcases hx : exec x s with ⟨e | a, s'⟩
  · rw [exec_bind_error hx] at h
    exact nomatch (Prod.mk.inj h).1
  · rw [exec_bind_ok hx] at h
    exact ⟨a, s', rfl, h⟩

/-- A step with a given outcome passes it on. -/
theorem exec_bind_of_ok {outcome : Except Error α} {a : α} (h : outcome = .ok a)
    (f : α → Action σ β) (s : σ) : exec (Action.of outcome >>= f) s = exec (f a) s := by
  rw [h]
  rfl

theorem exec_bind_of_error {outcome : Except Error α} {e : Error} (h : outcome = .error e)
    (f : α → Action σ β) (s : σ) : exec (Action.of outcome >>= f) s = (.error e, s) := by
  rw [h]
  rfl

theorem exec_bind_pure (x : Action σ α) (f : α → β) (s : σ) :
    exec (x >>= fun a => pure (f a)) s = ((exec x s).1.map f, (exec x s).2) := by
  rcases h : exec x s with ⟨e | a, s'⟩
  · exact exec_bind_error h
  · rw [exec_bind_ok h]
    rfl

theorem exec_map (f : α → β) (x : Action σ α) (s : σ) :
    exec (f <$> x) s = ((exec x s).1.map f, (exec x s).2) := by
  rw [map_eq_pure_bind]
  exact exec_bind_pure x f s

/-- A step with its outcome written down behind those of the steps before it, under a tag. -/
def recorded (tag : γ) (action : Action σ α) : Action (σ × List (γ × Except Error α)) α :=
  fun state => ((exec action state.1).1, ((exec action state.1).2,
    state.2 ++ [(tag, (exec action state.1).1)]))

theorem exec_recorded {tag : γ} {action : Action σ α} {s s' : σ} {outcome : Except Error α}
    (h : exec action s = (outcome, s')) (before : List (γ × Except Error α)) :
    exec (recorded tag action) (s, before) = (outcome, (s', before ++ [(tag, outcome)])) := by
  have hr : exec (recorded tag action) (s, before) =
      ((exec action s).1, ((exec action s).2, before ++ [(tag, (exec action s).1)])) := rfl
  rw [hr, h]

/-- A step and its written-down form do the same, and the second one writes these lines. -/
def Records {δ : Type} (action : Action σ α) (written : Action (σ × List δ) α) (s : σ)
    (lines : List δ) : Prop :=
  ∀ before, exec written (s, before) =
    ((exec action s).1, ((exec action s).2, before ++ lines))

theorem Records.recorded (tag : γ) (action : Action σ α) (s : σ) :
    Records action (Action.recorded tag action) s [(tag, (exec action s).1)] := fun _ => rfl

theorem Records.pure {δ : Type} (a : α) (s : σ) :
    Records (pure a) (pure a : Action (σ × List δ) α) s [] := by
  intro before
  rw [List.append_nil]
  rfl

/-- Two steps in turn write what each of them writes. -/
theorem Records.bind {δ : Type} {x : Action σ α} {x' : Action (σ × List δ) α}
    {f : α → Action σ β} {f' : α → Action (σ × List δ) β} {s : σ} {lines : List δ}
    (h : Records x x' s lines)
    (hf : ∀ a s', exec x s = (.ok a, s') → ∃ more, Records (f a) (f' a) s' more) :
    ∃ all, Records (x >>= f) (x' >>= f') s all := by
  rcases hx : exec x s with ⟨e | a, s'⟩
  · -- A step that fails is the last one, and nothing more is written.
    refine ⟨lines, fun before => ?_⟩
    have hx' := h before
    rw [hx] at hx'
    rw [exec_bind_error hx, exec_bind_error hx']
  · -- The second step writes behind what the first one wrote.
    obtain ⟨more, hmore⟩ := hf a s' hx
    refine ⟨lines ++ more, fun before => ?_⟩
    have hx' := h before
    rw [hx] at hx'
    rw [exec_bind_ok hx, exec_bind_ok hx', ← List.append_assoc]
    exact hmore (before ++ lines)

/-- A step that nothing is written down about. -/
def unrecorded {δ : Type} (action : Action σ α) : Action (σ × List δ) α :=
  fun state => ((exec action state.1).1, ((exec action state.1).2, state.2))

end Action

/-- A search as it is written down: the cursor that it followed and what came of it. -/
abbrev Searched := Option String × Except Error Page

/-- A tracker whose searches are written down in the order in which they are made. -/
def Tracker.recorded {σ : Type} (tracker : Tracker σ) : Tracker (σ × List Searched) where
  runExperiment run := Action.unrecorded (tracker.runExperiment run)
  loggedModelExperiment model := Action.unrecorded (tracker.loggedModelExperiment model)
  experimentNamed name := Action.unrecorded (tracker.experimentNamed name)
  searchExperiments query token :=
    Action.recorded token (tracker.searchExperiments query token)
  searchModels query token := Action.recorded token (tracker.searchModels query token)
  searchLoggedModels query token :=
    Action.recorded token (tracker.searchLoggedModels query token)

end Gatehouse
