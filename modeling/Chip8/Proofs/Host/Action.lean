import Chip8.Host.Basic

/-!
# Reasoning about actions

How an action runs, what it keeps of its state, and how actions on two states mirror each other.
-/

namespace Chip8

namespace Action

variable {σ τ α β : Type} {state : σ}

theorem run_bind (action : Action σ α) (next : α → Action σ β) :
    (action >>= next).run.run state =
      match action.run.run state with
      | (.ok value, after) => (next value).run.run after
      | (.error error, after) => (.error error, after) := by
  rw [ExceptT.run_bind, StateT.run_bind]
  cases action.run.run state with
  | mk outcome after => cases outcome <;> rfl

theorem run_get (next : σ → Action σ α) :
    (MonadState.get >>= next).run.run state = (next state).run.run state := rfl

theorem ok_of_bind {action : Action σ α} {next : α → Action σ β} {value : β}
    (ok : ((action >>= next).run.run state).1 = .ok value) :
    ∃ first, (action.run.run state).1 = .ok first ∧
      ((next first).run.run (action.run.run state).2).1 = .ok value ∧
      (action >>= next).run.run state = (next first).run.run (action.run.run state).2 := by
  rw [run_bind] at ok ⊢
  cases ran : action.run.run state with
  | mk outcome after =>
      rw [ran] at ok
      cases outcome with
      | error error => cases ok
      | ok first => exact ⟨first, rfl, ok, rfl⟩

theorem run_thenAlways (body cleanup : Action σ Unit) (state : σ) :
    (thenAlways body cleanup).run.run state =
      ((cleanup.run.run (body.run.run state).2).1.bind fun _ => (body.run.run state).1,
        (cleanup.run.run (body.run.run state).2).2) := by
  change thenAlways body cleanup state = _
  rw [thenAlways]
  cases body.run.run state with
  | mk outcome reached =>
      dsimp only
      cases cleanup.run.run reached with
      | mk cleaned final => cases cleaned <;> rfl

theorem ok_of_thenAlways {body cleanup : Action σ Unit}
    (ok : ((thenAlways body cleanup).run.run state).1 = .ok ()) :
    (body.run.run state).1 = .ok () := by
  rw [run_thenAlways] at ok
  cases cleaned : (cleanup.run.run (body.run.run state).2).1 with
  | error error =>
      rw [cleaned] at ok
      cases ok
  | ok _ =>
      rw [cleaned] at ok
      exact ok

/-- A sequence ends where its first part fails or where its second part ends. -/
theorem reached_of_bind {reached : σ → Prop} {action : Action σ α} {next : α → Action σ β}
    (first : reached (action.run.run state).2)
    (goesOn : ∀ value, reached ((next value).run.run (action.run.run state).2).2) :
    reached ((action >>= next).run.run state).2 := by
  rw [run_bind]
  cases ran : action.run.run state with
  | mk outcome after =>
      rw [ran] at first goesOn
      cases outcome with
      | error error => exact first
      | ok value => exact goesOn value

/-- The action relates the state before it to the one after it, however it ends. -/
def Keeps (relation : σ → σ → Prop) (action : Action σ α) : Prop :=
  ∀ state, relation state (action.run.run state).2

section Keeps

variable {relation : σ → σ → Prop}

theorem Keeps.bind
    (trans : ∀ {first second third}, relation first second → relation second third →
      relation first third)
    {action : Action σ α} {next : α → Action σ β} (keeps : Keeps relation action)
    (keepsNext : ∀ value, Keeps relation (next value)) : Keeps relation (action >>= next) :=
  fun state => reached_of_bind (keeps state) fun value => trans (keeps state) (keepsNext value _)

theorem Keeps.get {next : σ → Action σ α} (keepsNext : ∀ state, Keeps relation (next state)) :
    Keeps relation (MonadState.get >>= next) := fun state => keepsNext state state

end Keeps

/-- From a state with the invariant the action leads to another one, or it fails in a way that is
foreseen. -/
def Safe (invariant : σ → Prop) (foreseen : HostError → σ → Prop) (action : Action σ α) : Prop :=
  ∀ state, invariant state →
    match action.run.run state with
    | (.ok _, after) => invariant after
    | (.error error, after) => foreseen error after

section Safe

variable {invariant : σ → Prop} {foreseen : HostError → σ → Prop}

theorem Safe.bind {action : Action σ α} {next : α → Action σ β}
    (safe : Safe invariant foreseen action) (safeNext : ∀ value, Safe invariant foreseen (next value)) :
    Safe invariant foreseen (action >>= next) := by
  intro state holds
  have first := safe state holds
  rw [run_bind]
  cases ran : action.run.run state with
  | mk outcome after =>
      rw [ran] at first
      cases outcome with
      | error error => exact first
      | ok value => exact safeNext value after first

theorem Safe.get {next : σ → Action σ α} (safeNext : ∀ state, Safe invariant foreseen (next state)) :
    Safe invariant foreseen (MonadState.get >>= next) := fun state => safeNext state state

theorem Safe.pure (value : α) : Safe invariant foreseen (Pure.pure value : Action σ α) :=
  fun _ holds => holds

theorem Safe.imp {foreseen' : HostError → σ → Prop} {action : Action σ α}
    (safe : Safe invariant foreseen action)
    (weaker : ∀ error state, foreseen error state → foreseen' error state) :
    Safe invariant foreseen' action := by
  intro state holds
  have first := safe state holds
  cases ran : action.run.run state with
  | mk outcome after =>
      rw [ran] at first
      cases outcome with
      | error error => exact weaker error after first
      | ok value => exact first

theorem Safe.thenAlways {body cleanup : Action σ Unit} (safe : Safe invariant foreseen body)
    (safeCleanup : Safe invariant foreseen cleanup)
    (stable : ∀ error, Safe (foreseen error) foreseen cleanup) :
    Safe invariant foreseen (Chip8.thenAlways body cleanup) := by
  intro state holds
  have first := safe state holds
  rw [run_thenAlways]
  cases ran : body.run.run state with
  | mk outcome middle =>
      rw [ran] at first
      cases outcome with
      | error reason =>
          have second := stable reason middle first
          cases cleaned : cleanup.run.run middle with
          | mk result final =>
              rw [cleaned] at second
              cases result with
              | error error => exact second
              | ok _ => exact second
      | ok _ =>
          have second := safeCleanup middle first
          cases cleaned : cleanup.run.run middle with
          | mk result final =>
              rw [cleaned] at second
              cases result with
              | error error => exact second
              | ok _ => exact second

end Safe

/-- From every state with one property the action succeeds, and in a state with another. -/
def Leads (start goal : σ → Prop) (action : Action σ α) : Prop :=
  ∀ state, start state →
    ∃ value after, action.run.run state = (.ok value, after) ∧ goal after

section Leads

variable {start middle goal : σ → Prop}

theorem Leads.bind {action : Action σ α} {next : α → Action σ β}
    (leads : Leads start middle action) (leadsNext : ∀ value, Leads middle goal (next value)) :
    Leads start goal (action >>= next) := by
  intro state holds
  obtain ⟨value, between, ran, reached⟩ := leads state holds
  rw [run_bind, ran]
  exact leadsNext value between reached

theorem Leads.get {next : σ → Action σ α}
    (leadsNext : ∀ state, start state → Leads (· = state) goal (next state)) :
    Leads start goal (MonadState.get >>= next) :=
  fun state holds => leadsNext state holds state rfl

theorem Leads.forM {list : List β} {step : β → Action σ PUnit}
    (leads : ∀ value, Leads start start (step value)) : Leads start start (list.forM step) := by
  induction list with
  | nil => exact fun state holds => ⟨_, state, rfl, holds⟩
  | cons first rest ih => exact (leads first).bind fun _ => ih

end Leads

/-- However the action ends, it leads from a state with one property to a state with another. -/
def Ends (start goal : σ → Prop) (action : Action σ α) : Prop :=
  ∀ state, start state → goal (action.run.run state).2

section Ends

variable {start middle goal : σ → Prop}

/-- What fails half way has come as far as it has to. -/
theorem Ends.bind {action : Action σ α} {next : α → Action σ β} (ends : Ends start middle action)
    (enough : ∀ state, middle state → goal state) (endsNext : ∀ value, Ends middle goal (next value)) :
    Ends start goal (action >>= next) := fun state holds =>
  have first := ends state holds
  reached_of_bind (enough _ first) fun value => endsNext value _ first

theorem Leads.ends_bind {action : Action σ α} {next : α → Action σ β}
    (leads : Leads start middle action) (endsNext : ∀ value, Ends middle goal (next value)) :
    Ends start goal (action >>= next) := by
  intro state holds
  obtain ⟨value, between, ran, reached⟩ := leads state holds
  rw [run_bind, ran]
  exact endsNext value between reached

theorem Ends.get {next : σ → Action σ α}
    (endsNext : ∀ state, start state → Ends (· = state) goal (next state)) :
    Ends start goal (MonadState.get >>= next) := fun state holds => endsNext state holds state rfl

theorem Ends.thenAlways {body cleanup : Action σ Unit} (ends : Ends start middle body)
    (endsCleanup : Ends middle goal cleanup) : Ends start goal (Chip8.thenAlways body cleanup) := by
  intro state holds
  rw [run_thenAlways]
  exact endsCleanup _ (ends state holds)

end Ends

/-- The action never fails with an error of a machine. -/
def Outer (action : Action σ α) : Prop :=
  Safe (fun _ => True) (fun error _ => ∀ reason, error ≠ .machine reason) action

/-- The first action does to a state what the second does to its image. -/
def Mirrors (image : σ → τ) (action : Action σ α) (mirrored : Action τ α) : Prop :=
  ∀ state, mirrored.run.run (image state) =
    ((action.run.run state).1, image (action.run.run state).2)

section Mirrors

variable {image : σ → τ}

theorem Mirrors.pure (value : α) :
    Mirrors image (Pure.pure value : Action σ α) (Pure.pure value : Action τ α) := fun _ => rfl

theorem Mirrors.bind {action : Action σ α} {mirrored : Action τ α} {next : α → Action σ β}
    {mirroredNext : α → Action τ β} (mirrors : Mirrors image action mirrored)
    (mirrorsNext : ∀ value, Mirrors image (next value) (mirroredNext value)) :
    Mirrors image (action >>= next) (mirrored >>= mirroredNext) := by
  intro state
  rw [run_bind, run_bind, mirrors state]
  cases action.run.run state with
  | mk outcome after =>
      cases outcome with
      | error error => rfl
      | ok value => exact mirrorsNext value after

theorem Mirrors.get {next : σ → Action σ α} {mirroredNext : τ → Action τ α}
    (mirrorsNext : ∀ state, Mirrors image (next state) (mirroredNext (image state))) :
    Mirrors image (MonadState.get >>= next) (MonadState.get >>= mirroredNext) :=
  fun state => mirrorsNext state state

end Mirrors

/-- Done to related states, the two actions end alike, and in related states. -/
def Parallel (related : σ → τ → Prop) (action : Action σ α) (other : Action τ α) : Prop :=
  ∀ state twin, related state twin →
    (action.run.run state).1 = (other.run.run twin).1 ∧
      related (action.run.run state).2 (other.run.run twin).2

section Parallel

variable {related : σ → τ → Prop}

theorem parallel_iff_mirrors {image : σ → τ} {action : Action σ α} {other : Action τ α} :
    Parallel (fun state twin => image state = twin) action other ↔ Mirrors image action other := by
  constructor
  · intro parallel state
    obtain ⟨outcome, after⟩ := parallel state (image state) rfl
    exact Prod.ext outcome.symm after.symm
  · rintro mirrors state _ rfl
    rw [mirrors state]
    exact ⟨rfl, rfl⟩

/-- What an action keeps of one state it keeps side by side with itself. -/
theorem parallel_iff_ends {holds : σ → Prop} {action : Action σ α} :
    Parallel (fun state twin => state = twin ∧ holds state) action action ↔
      Ends holds holds action := by
  constructor
  · intro parallel state held
    exact (parallel state state ⟨rfl, held⟩).2.2
  · rintro ends state _ ⟨rfl, held⟩
    exact ⟨rfl, rfl, ends state held⟩

theorem Parallel.pure (value : α) :
    Parallel related (Pure.pure value : Action σ α) (Pure.pure value : Action τ α) :=
  fun _ _ alike => ⟨rfl, alike⟩

theorem Parallel.throw (error : HostError) :
    Parallel related (throw error : Action σ α) (throw error : Action τ α) :=
  fun _ _ alike => ⟨rfl, alike⟩

theorem Parallel.bind {action : Action σ α} {other : Action τ α} {next : α → Action σ β}
    {otherNext : α → Action τ β} (parallel : Parallel related action other)
    (parallelNext : ∀ value, Parallel related (next value) (otherNext value)) :
    Parallel related (action >>= next) (other >>= otherNext) := by
  intro state twin alike
  obtain ⟨outcome, after⟩ := parallel state twin alike
  rw [run_bind, run_bind]
  cases ran : action.run.run state with
  | mk result reached =>
      cases otherRan : other.run.run twin with
      | mk otherResult otherReached =>
          rw [ran, otherRan] at outcome after
          cases outcome
          cases result with
          | error error => exact ⟨rfl, after⟩
          | ok value => exact parallelNext value reached otherReached after

theorem Parallel.get {next : σ → Action σ α} {otherNext : τ → Action τ α}
    (parallelNext : ∀ state twin, related state twin →
      Parallel related (next state) (otherNext twin)) :
    Parallel related (MonadState.get >>= next) (MonadState.get >>= otherNext) :=
  fun state twin alike => parallelNext state twin alike state twin alike

theorem Parallel.forM {list : List β} {step : β → Action σ PUnit} {otherStep : β → Action τ PUnit}
    (parallel : ∀ value, Parallel related (step value) (otherStep value)) :
    Parallel related (list.forM step) (list.forM otherStep) := by
  induction list with
  | nil => exact .pure _
  | cons first rest ih => exact (parallel first).bind fun _ => ih

theorem Parallel.thenAlways {body cleanup : Action σ Unit} {otherBody otherCleanup : Action τ Unit}
    (parallel : Parallel related body otherBody)
    (parallelCleanup : Parallel related cleanup otherCleanup) :
    Parallel related (Chip8.thenAlways body cleanup) (Chip8.thenAlways otherBody otherCleanup) := by
  intro state twin alike
  obtain ⟨outcome, after⟩ := parallel state twin alike
  obtain ⟨cleaned, final⟩ := parallelCleanup _ _ after
  rw [run_thenAlways, run_thenAlways, outcome, cleaned]
  exact ⟨rfl, final⟩

end Parallel

end Action

theorem Host.run_now {δ : Type} (host : Host δ) : now.run.run host =
    (match Clock.seconds? host.clock.afterReading.micros with
      | some seconds => .ok seconds
      | none => .error .timeTooLarge, { host with clock := host.clock.afterReading }) := by
  rw [now, Action.run_bind]
  refine (Action.run_get _).trans ?_
  dsimp only
  cases Clock.seconds? host.clock.afterReading.micros <;> rfl

end Chip8
