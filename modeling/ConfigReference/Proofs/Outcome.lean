import ConfigReference.Session

/-!
# Outcomes of actions

An action ends with a value or with a failure, and in both cases with a state.
The first lemmas take a finished run apart into the runs of its steps; what
holds at the end, whichever it is, follows step by step as well.  The last ones
put runs together: an action yields a value between two views of the
state if it does so from every state with the first view, so that what the view
does not show, such as the events reported so far, does not matter.
-/

namespace ConfigReference

variable {ε σ τ α β : Type}

/-! ## Runs taken apart -/

theorem bind_eq_ok_iff {action : EStateM ε σ α} {next : α → EStateM ε σ β} {start finish : σ}
    {result : β} :
    (action >>= next) start = .ok result finish ↔
      ∃ value middle, action start = .ok value middle ∧ next value middle = .ok result finish := by
  change EStateM.bind action next start = _ ↔ _
  unfold EStateM.bind
  cases action start <;> simp [and_assoc]

theorem bind_eq_error_iff {action : EStateM ε σ α} {next : α → EStateM ε σ β} {start finish : σ}
    {failure : ε} :
    (action >>= next) start = .error failure finish ↔
      action start = .error failure finish ∨
        ∃ value middle,
          action start = .ok value middle ∧ next value middle = .error failure finish := by
  change EStateM.bind action next start = _ ↔ _
  unfold EStateM.bind
  cases action start <;> simp [and_assoc]

/-- The failure that an outcome shows, if it is one. -/
def failure? : EStateM.Result ε σ α → Option ε
  | .ok _ _ => none
  | .error failure _ => some failure

/-- The value that an outcome shows, if it has one. -/
def value? : EStateM.Result ε σ α → Option α
  | .ok value _ => some value
  | .error _ _ => none

/-- The state that an outcome leaves. -/
def stateOf : EStateM.Result ε σ α → σ
  | .ok _ finish => finish
  | .error _ finish => finish

theorem failure?_eq_some {outcome : EStateM.Result ε σ α} {failure : ε}
    (hfailure : failure? outcome = some failure) : outcome = .error failure (stateOf outcome) := by
  cases outcome with
  | ok value finish => cases hfailure
  | error cause finish =>
    cases hfailure
    rfl

theorem value?_eq_some {outcome : EStateM.Result ε σ α} {value : α}
    (hvalue : value? outcome = some value) : outcome = .ok value (stateOf outcome) := by
  cases outcome with
  | ok result finish =>
    cases hvalue
    rfl
  | error cause finish => cases hvalue

theorem value?_isSome {outcome : EStateM.Result ε σ α} (hvalue : (value? outcome).isSome = true) :
    ∃ value, outcome = .ok value (stateOf outcome) := by
  cases outcome with
  | ok value finish => exact ⟨value, rfl⟩
  | error cause finish => cases hvalue

/-- A row of steps that fails has a step that fails, after steps that end well. -/
theorem foldlM_eq_error {step : β → α → EStateM ε σ β} {items : List α} {value : β}
    {start finish : σ} {failure : ε}
    (hrun : items.foldlM step value start = .error failure finish) :
    ∃ earlier item later reached middle, items = earlier ++ item :: later ∧
      earlier.foldlM step value start = .ok reached middle ∧
      step reached item middle = .error failure finish := by
  induction items generalizing value start with
  | nil => cases hrun
  | cons first rest ih =>
    rw [List.foldlM_cons] at hrun
    rcases bind_eq_error_iff.mp hrun with hfirst | ⟨next, between, hfirst, hrest⟩
    · exact ⟨[], first, rest, value, start, rfl, rfl, hfirst⟩
    · obtain ⟨earlier, item, later, reached, middle, rfl, hearlier, hitem⟩ := ih hrest
      refine ⟨first :: earlier, item, later, reached, middle, rfl, ?_, hitem⟩
      rw [List.foldlM_cons]
      exact bind_eq_ok_iff.mpr ⟨next, between, hfirst, hearlier⟩

/-! ## Ends of runs -/

/-- What holds when an action ends: of its value and the state, or of its
failure and the state. -/
structure Ends (action : EStateM ε σ α) (start : σ) (onValue : α → σ → Prop)
    (onFailure : ε → σ → Prop) : Prop where
  holds : match action start with
    | .ok value finish => onValue value finish
    | .error failure finish => onFailure failure finish

section Ends

variable {action : EStateM ε σ α} {start finish : σ} {onValue : α → σ → Prop}
  {onFailure : ε → σ → Prop}

theorem Ends.of_ok (hends : Ends action start onValue onFailure) {value : α}
    (hrun : action start = .ok value finish) : onValue value finish := by
  have hholds := hends.holds
  rwa [hrun] at hholds

theorem Ends.of_error (hends : Ends action start onValue onFailure) {failure : ε}
    (hrun : action start = .error failure finish) : onFailure failure finish := by
  have hholds := hends.holds
  rwa [hrun] at hholds

theorem Ends.of_runs
    (hvalue : ∀ value finish, action start = .ok value finish → onValue value finish)
    (hfailure : ∀ failure finish, action start = .error failure finish → onFailure failure finish) :
    Ends action start onValue onFailure := by
  constructor
  cases hrun : action start with
  | ok value finish => exact hvalue value finish hrun
  | error failure finish => exact hfailure failure finish hrun

theorem Ends.mono {onValue' : α → σ → Prop} {onFailure' : ε → σ → Prop}
    (hends : Ends action start onValue onFailure)
    (hvalue : ∀ value finish, onValue value finish → onValue' value finish)
    (hfailure : ∀ failure finish, onFailure failure finish → onFailure' failure finish) :
    Ends action start onValue' onFailure' :=
  Ends.of_runs (fun value finish hrun => hvalue value finish (hends.of_ok hrun))
    fun failure finish hrun => hfailure failure finish (hends.of_error hrun)

/-- The run itself can be kept with what holds of its value. -/
theorem Ends.and_run (hends : Ends action start onValue onFailure) :
    Ends action start
      (fun value finish => action start = .ok value finish ∧ onValue value finish) onFailure :=
  Ends.of_runs (fun _ _ hrun => ⟨hrun, hends.of_ok hrun⟩) fun _ _ hrun => hends.of_error hrun

theorem Ends.bind {between : α → σ → Prop} {next : α → EStateM ε σ β} {onResult : β → σ → Prop}
    (hends : Ends action start between onFailure)
    (hnext : ∀ value middle, between value middle → Ends (next value) middle onResult onFailure) :
    Ends (action >>= next) start onResult onFailure := by
  apply Ends.of_runs
  · intro result finish hrun
    obtain ⟨value, middle, hvalue, hresult⟩ := bind_eq_ok_iff.mp hrun
    exact (hnext value middle (hends.of_ok hvalue)).of_ok hresult
  · intro failure finish hrun
    rcases bind_eq_error_iff.mp hrun with hfailed | ⟨value, middle, hvalue, hfailed⟩
    · exact hends.of_error hfailed
    · exact (hnext value middle (hends.of_ok hvalue)).of_error hfailed

/-- What every step keeps holds when the last one is done. -/
theorem Ends.foldlM {step : β → α → EStateM ε σ β} {holds : β → σ → Prop} {items : List α}
    (hstep : ∀ item ∈ items, ∀ value start,
      holds value start → Ends (step value item) start holds onFailure)
    {value : β} (hstart : holds value start) :
    Ends (items.foldlM step value) start holds onFailure := by
  induction items generalizing value start with
  | nil => exact ⟨hstart⟩
  | cons item rest ih =>
    rw [List.foldlM_cons]
    apply (hstep item List.mem_cons_self value start hstart).bind
    intro next middle hnext
    exact ih (fun other hother => hstep other (List.mem_cons_of_mem item hother)) hnext

end Ends

/-! ## Runs put together -/

/-- From every state with the one view, the action gives the value and ends in a
state with the other view. -/
def Yields (view : σ → τ) (action : EStateM ε σ α) (before : τ) (value : α) (after : τ) : Prop :=
  ∀ start, view start = before → ∃ finish, action start = .ok value finish ∧ view finish = after

variable {view : σ → τ} {before middle after : τ}

theorem Yields.pure (value : α) :
    Yields view (Pure.pure value : EStateM ε σ α) before value before :=
  fun start hstart => ⟨start, rfl, hstart⟩

theorem Yields.bind {action : EStateM ε σ α} {next : α → EStateM ε σ β} {value : α} {result : β}
    (haction : Yields view action before value middle)
    (hnext : Yields view (next value) middle result after) :
    Yields view (action >>= next) before result after := by
  intro start hstart
  obtain ⟨between, hvalue, hbetween⟩ := haction start hstart
  obtain ⟨finish, hresult, hfinish⟩ := hnext between hbetween
  exact ⟨finish, bind_eq_ok_iff.mpr ⟨value, between, hvalue, hresult⟩, hfinish⟩

end ConfigReference
