import Interception.Proofs.Host.Calling

/-!
How a run may end. While a call sleeps others take steps of theirs; what a run
comes to depends on what they did to the state in the meantime and on which
sleeps ran out of time.
-/

namespace Interception.Run

variable {State Value Result : Type} {others : State → State → Prop}

/-- A run comes to an end in some state with some value, with steps of others
during its sleeps. -/
inductive Ends (others : State → State → Prop) : Run State Value → State → Value → Prop
  | done (state : State) (value : Value) : Ends others (.done state value) state value
  | woken {state later final : State} {sleep : Sleep} {resume : Bool → State → Run State Value}
      {value : Value} (expired : Bool) (meanwhile : others state later)
      (ended : Ends others (resume expired later) final value) :
      Ends others (.asleep state sleep resume) final value

theorem ends_done {state final : State} {value result : Value}
    (ended : Ends others (.done state value) final result) : final = state ∧ result = value := by
  cases ended
  exact ⟨rfl, rfl⟩

theorem ends_bind {run : Run State Value} {next : Value → State → Run State Result}
    {final : State} {result : Result} :
    Ends others (bind next run) final result ↔
      ∃ middle value, Ends others run middle value ∧ Ends others (next value middle) final result := by
  constructor
  · intro ended
    induction run with
    | done state value => exact ⟨state, value, .done state value, ended⟩
    | asleep state sleep resume resumed =>
        cases ended with
        | woken expired meanwhile ended =>
            obtain ⟨middle, value, first, second⟩ := resumed expired _ ended
            exact ⟨middle, value, .woken expired meanwhile first, second⟩
  · rintro ⟨middle, value, first, second⟩
    induction first with
    | done state value => exact second
    | woken expired meanwhile _ ended => exact .woken expired meanwhile (ended second)

/-- What a run keeps, whatever the others do, it has kept when it ends. -/
theorem meets_ends {during : State → Prop} {after : State → Value → Prop} {run : Run State Value}
    {final : State} {value : Value} (met : Meets during after run)
    (kept : ∀ state later, others state later → during state → during later)
    (ended : Ends others run final value) : during final ∧ after final value := by
  induction ended with
  | done state value => exact met
  | woken expired meanwhile _ ended =>
      exact ended (met.2 expired _ (kept _ _ meanwhile met.1))

/-- A run with notes beside its state that only others write. -/
def noting {Note : Type} (note : Note) : Run State Value → Run (State × Note) Value
  | done state value => .done (state, note) value
  | asleep state sleep resume =>
      .asleep (state, note) sleep fun expired later => noting later.2 (resume expired later.1)

/-- A run that sleeps so many times at most, each time for a limited time. -/
def Within : Nat → Run State Value → Prop
  | _, done _ _ => True
  | 0, asleep .. => False
  | sleeps + 1, asleep _ sleep resume =>
      sleep.deadline.isSome = true ∧ ∀ expired later, Within sleeps (resume expired later)

/-- Each stride of a run, from where it starts or wakes up to where it sleeps,
is within a relation, and the last one within a relation of its own. -/
def Strides (within : State → State → Prop) (last : State → State → Value → Prop) :
    State → Run State Value → Prop
  | start, done state value => last start state value
  | start, asleep state _ resume =>
      within start state ∧ ∀ expired later, Strides within last later (resume expired later)

variable {within : State → State → Prop}

/-- What follows goes on with the stride that it is reached in. -/
theorem strides_bind {middle : State → State → Value → Prop} {last : State → State → Result → Prop}
    {run : Run State Value} {next : Value → State → Run State Result}
    (second : ∀ start state value, middle start state value →
      Strides within last start (next value state)) :
    ∀ start, Strides within middle start run → Strides within last start (bind next run) := by
  induction run with
  | done state value => exact fun start first => second start state value first
  | asleep state sleep resume resumed =>
      intro start first
      exact ⟨first.1, fun expired later => resumed expired later later (first.2 expired later)⟩

theorem strides_imp {wider : State → State → Prop} {first last : State → State → Value → Prop}
    {run : Run State Value} (during : ∀ start state, within start state → wider start state)
    (ends : ∀ start state value, first start state value → last start state value) :
    ∀ start, Strides within first start run → Strides wider last start run := by
  induction run with
  | done state value => exact fun start => ends start state value
  | asleep state sleep resume resumed =>
      intro start strides
      exact ⟨during start state strides.1,
        fun expired later => resumed expired later later (strides.2 expired later)⟩

/-- The first stride may as well start from where another stride has come from. -/
theorem strides_from {last : State → State → Value → Prop} {run : Run State Value}
    {start other : State} (reaches : ∀ state, within start state → within other state)
    (ends : ∀ state value, last start state value → last other state value)
    (strides : Strides within last start run) : Strides within last other run := by
  cases run with
  | done state value => exact ends state value strides
  | asleep state sleep resume => exact ⟨reaches state strides.1, strides.2⟩

/-- What no stride breaks, the run keeps. -/
theorem strides_meets {during : State → Prop} {last : State → State → Value → Prop}
    {run : Run State Value} (kept : ∀ start state, within start state → during start → during state)
    (ends : ∀ start state value, last start state value → during start → during state) :
    ∀ start, during start → Strides within last start run → Meets during (fun _ _ => True) run := by
  induction run with
  | done state value => exact fun start before strides => ⟨ends start state value strides before, trivial⟩
  | asleep state sleep resume resumed =>
      intro start before strides
      refine ⟨kept start state strides.1 before, ?_⟩
      exact fun expired later there => resumed expired later later there (strides.2 expired later)

/-- What a run ends with in every case, its last stride ends with. -/
theorem strides_ends {last : State → State → Value → Prop} {after : State → Value → Prop}
    {run : Run State Value} (met : Meets (fun _ => True) after run) :
    ∀ start, Strides within last start run →
      Strides within (fun start state value => last start state value ∧ after state value) start run := by
  induction run with
  | done state value => exact fun start strides => ⟨strides, met.2⟩
  | asleep state sleep resume resumed =>
      intro start strides
      exact ⟨strides.1, fun expired later =>
        resumed expired later (met.2 expired later trivial) later (strides.2 expired later)⟩

/-- Each stride of a run is within a relation, until sooner or later the rest of the
run, from the start of a stride of its own, is the turn that is due. -/
inductive Until (awake : State → Prop) (within : State → State → Prop)
    (turn : State → Run State Value → Prop) : State → Run State Value → Prop
  | now {start : State} {run : Run State Value} (due : turn start run) :
      Until awake within turn start run
  | sleeps {start state : State} {sleep : Sleep} {resume : Bool → State → Run State Value}
      (stride : within start state)
      (further : ∀ expired later, awake later →
        Until awake within turn later (resume expired later)) :
      Until awake within turn start (.asleep state sleep resume)

theorem until_imp {wider narrower : State → Prop} {turn : State → Run State Value → Prop}
    {start : State} {run : Run State Value} (fewer : ∀ state, narrower state → wider state)
    (due : Until wider within turn start run) : Until narrower within turn start run := by
  induction due with
  | now due => exact .now due
  | sleeps stride _ further =>
      exact .sleeps stride fun expired later awake => further expired later (fewer later awake)

/-- What follows takes its turn in the last stride of what it follows. -/
theorem until_bind {awake : State → Prop} {last : State → State → Value → Prop}
    {turn : State → Run State Result → Prop} {run : Run State Value}
    {next : Value → State → Run State Result}
    (due : ∀ start state value, awake start → last start state value →
      turn start (next value state)) :
    ∀ start, awake start → Strides within last start run →
      Until awake within turn start (bind next run) := by
  induction run with
  | done state value => exact fun start woken strides => .now (due start state value woken strides)
  | asleep state sleep resume resumed =>
      intro start _ strides
      exact .sleeps strides.1 fun expired later awake =>
        resumed expired later later awake (strides.2 expired later)

end Interception.Run

namespace Interception.Call

variable {State Value Result : Type} {within : State → State → Prop}

/-- All strides of a call are within a relation, whatever it starts from and
wakes up to. -/
def Strides (within : State → State → Prop) (call : Call State Value) : Prop :=
  ∀ start state, within start state →
    Run.Strides within (fun first final _ => within first final) start (call state)

theorem strides_pure (value : Value) : Strides within (pure value : Call State Value) :=
  fun _ _ reached => reached

theorem strides_bind {call : Call State Value} {next : Value → Call State Result}
    (first : Strides within call) (second : ∀ value, Strides within (next value)) :
    Strides within (call >>= next) :=
  fun start state reached => Run.strides_bind
    (fun start state value reached => second value start state reached) start
    (first start state reached)

theorem strides_get : Strides within (get : Call State State) :=
  fun _ _ reached => reached

theorem strides_modifyGet {step : State → Value × State}
    (kept : ∀ start state, within start state → within start (step state).2) :
    Strides within (modifyGet step : Call State Value) :=
  fun start state reached => kept start state reached

theorem strides_modify {step : State → State}
    (kept : ∀ start state, within start state → within start (step state)) :
    Strides within (modify step : Call State PUnit) :=
  strides_modifyGet kept

theorem strides_sleep (still : ∀ state, within state state) (wait : Wait) (deadline : Option Nat) :
    Strides within (Call.sleep wait deadline) :=
  fun _ _ reached => ⟨reached, fun _ later => still later⟩

theorem keeps_of_strides {during : State → Prop} {call : Call State Value}
    (still : ∀ state, within state state)
    (kept : ∀ start state, within start state → during start → during state)
    (strides : Strides within call) : Keeps during (fun _ => True) call :=
  fun state before => Run.strides_meets kept (fun start state _ => kept start state) state before
    (strides state state (still state))

end Interception.Call
