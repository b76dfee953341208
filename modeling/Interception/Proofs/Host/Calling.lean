import Interception.Host.Syscalls

/-!
How calls run. A run is followed through its sleeps: whatever the state has
become when it goes on, it keeps its promises as long as the others have kept
theirs. Hook calls, entries held in use and native functions are turned into
plain equations about runs.
-/

namespace Interception

namespace Run

variable {State Value Result Final : Type}

@[simp]
theorem bind_done (next : Value → State → Run State Result) (state : State) (value : Value) :
    bind next (.done state value) = next value state := rfl

theorem bind_assoc (run : Run State Value) (next : Value → State → Run State Result)
    (last : Result → State → Run State Final) :
    bind last (bind next run) = bind (fun value later => bind last (next value later)) run := by
  induction run with
  | done state value => rfl
  | asleep state sleep resume resumed =>
      simp only [bind]
      congr 1
      funext expired later
      exact resumed expired later

theorem bind_pure (run : Run State Value) : bind (fun value later => .done later value) run = run := by
  induction run with
  | done state value => rfl
  | asleep state sleep resume resumed =>
      simp only [bind]
      congr 1
      funext expired later
      exact resumed expired later

/-- A run keeps a property of the state at every sleep, if it holds again
whenever the run goes on, and ends in the ways that are allowed. -/
def Meets (during : State → Prop) (after : State → Value → Prop) : Run State Value → Prop
  | .done state value => during state ∧ after state value
  | .asleep state _ resume =>
      during state ∧ ∀ expired later, during later → Meets during after (resume expired later)

theorem meets_bind {during : State → Prop} {middle : State → Value → Prop}
    {after : State → Result → Prop} {run : Run State Value}
    {next : Value → State → Run State Result} (first : Meets during middle run)
    (second : ∀ value later, during later → middle later value →
      Meets during after (next value later)) :
    Meets during after (bind next run) := by
  -- What follows a sleep is a run of its own, whatever state it wakes up in.
  induction run with
  | done state value => exact second value state first.1 first.2
  | asleep state sleep resume resumed =>
      refine ⟨first.1, ?_⟩
      intro expired later kept
      exact resumed expired later (first.2 expired later kept)

theorem meets_true (run : Run State Value) : Meets (fun _ => True) (fun _ _ => True) run := by
  induction run with
  | done state value => exact ⟨trivial, trivial⟩
  | asleep state sleep resume resumed => exact ⟨trivial, fun expired later _ => resumed expired later⟩

theorem meets_imp {during : State → Prop} {middle after : State → Value → Prop}
    {run : Run State Value} (met : Meets during middle run)
    (implied : ∀ state value, during state → middle state value → after state value) :
    Meets during after run := by
  induction run with
  | done state value => exact ⟨met.1, implied state value met.1 met.2⟩
  | asleep state sleep resume resumed =>
      exact ⟨met.1, fun expired later kept => resumed expired later (met.2 expired later kept)⟩

end Run

namespace Call

variable {State Value Result : Type} {during : State → Prop}

instance : LawfulMonad (Call State) :=
  LawfulMonad.mk' (Call State) (fun call => funext fun state => Run.bind_pure (call state))
    (fun _ _ => rfl) (fun call _ _ => funext fun state => Run.bind_assoc (call state) _ _)

theorem get_bind (next : State → Call State Value) (state : State) :
    (get >>= next) state = next state state := rfl

theorem map_on (f : Value → Result) (call : Call State Value) (state : State) :
    (f <$> call) state = (call state).bind fun value later => .done later (f value) := rfl

theorem bind_done {call : Call State Value} {state later : State} {value : Value}
    (ran : call state = .done later value) (next : Value → Call State Result) :
    (call >>= next) state = next value later := by
  show (call state).bind _ = _
  rw [ran]
  rfl

/-- From a state with a property the call keeps it, sleeping or not, and
answers in the ways that are allowed. -/
def Keeps (during : State → Prop) (after : Value → Prop) (call : Call State Value) : Prop :=
  ∀ state, during state → Run.Meets during (fun _ value => after value) (call state)

theorem keeps_pure {after : Value → Prop} {value : Value} (fine : after value) :
    Keeps during after (pure value : Call State Value) :=
  fun _ kept => ⟨kept, fine⟩

theorem keeps_bind {middle : Value → Prop} {after : Result → Prop} {call : Call State Value}
    {next : Value → Call State Result} (first : Keeps during middle call)
    (second : ∀ value, middle value → Keeps during after (next value)) :
    Keeps during after (call >>= next) :=
  fun state kept => Run.meets_bind (first state kept)
    fun value later there fine => second value fine later there

theorem keeps_then {after : Result → Prop} {call : Call State Value}
    {next : Value → Call State Result} (first : Keeps during (fun _ => True) call)
    (second : ∀ value, Keeps during after (next value)) : Keeps during after (call >>= next) :=
  keeps_bind first fun value _ => second value

theorem keeps_get : Keeps during (fun _ => True) (get : Call State State) :=
  fun _ kept => ⟨kept, trivial⟩

theorem keeps_modifyGet {step : State → Value × State}
    (kept : ∀ state, during state → during (step state).2) :
    Keeps during (fun _ => True) (modifyGet step : Call State Value) :=
  fun state before => ⟨kept state before, trivial⟩

theorem keeps_modify {step : State → State} (kept : ∀ state, during state → during (step state)) :
    Keeps during (fun _ => True) (modify step : Call State PUnit) :=
  keeps_modifyGet kept

theorem keeps_sleep (wait : Wait) (deadline : Option Nat) :
    Keeps during (fun _ => True) (Call.sleep wait deadline) :=
  fun _ kept => ⟨kept, fun _ _ later => ⟨later, trivial⟩⟩

end Call

namespace Syscall

variable {State Value Result : Type}

/-- The run of a call that may fail. -/
def on (call : Syscall State Value) (state : State) : Run State (Except Errno Value) :=
  call.run state

/-- What comes after a call that succeeded; a failure stands. -/
def andThen (next : Value → State → Run State (Except Errno Result)) :
    Except Errno Value → State → Run State (Except Errno Result)
  | .ok value, later => next value later
  | .error errno, later => .done later (.error errno)

@[simp]
theorem on_pure (value : Value) (state : State) :
    on (pure value) state = .done state (.ok value) := rfl

@[simp]
theorem on_throw (errno : Errno) (state : State) :
    on (throw errno : Syscall State Value) state = .done state (.error errno) := rfl

theorem on_bind (call : Syscall State Value) (next : Value → Syscall State Result)
    (state : State) :
    on (call >>= next) state = (on call state).bind (andThen fun value => on (next value)) := by
  show Run.bind _ _ = _
  congr 1
  funext result later
  cases result <;> rfl

@[simp]
theorem on_get (state : State) : on (get : Syscall State State) state = .done state (.ok state) := rfl

@[simp]
theorem on_modify (step : State → State) (state : State) :
    on (modify step : Syscall State PUnit) state = .done (step state) (.ok ()) := rfl

theorem on_get_bind (next : State → Syscall State Result) (state : State) :
    on (get >>= next) state = on (next state) state := by
  rw [on_bind, on_get]
  rfl

theorem on_modify_bind (step : State → State) (next : PUnit → Syscall State Result)
    (state : State) :
    on (modify step >>= next) state = on (next ()) (step state) := by
  rw [on_bind, on_modify]
  rfl

/-- A call that cannot fail, inside one that can. -/
theorem on_lift (call : Call State Value) (state : State) :
    on (ExceptT.lift call : Syscall State Value) state =
      (call state).bind fun value later => .done later (.ok value) := rfl

/-- Running a call for its answer hands the failure on as a value. -/
theorem on_answer (call : Syscall State Value) (state : State) :
    on (ExceptT.lift call.run : Syscall State (Except Errno Value)) state =
      (on call state).bind fun result later => .done later (.ok result) := rfl

/-! ### What calls keep -/

/-- From a state with a property the call keeps it, sleeping or not, and
fails with allowed errors only. -/
def Keeps (during : State → Prop) (allowed : Errno → Prop) (call : Syscall State Value) : Prop :=
  ∀ state, during state →
    Run.Meets during (fun _ answer => ∀ errno, answer = .error errno → allowed errno) (on call state)

variable {during : State → Prop} {allowed : Errno → Prop}

/-- A run that has ended without failing fails with no error. -/
theorem meets_ok {state : State} {value : Value} (kept : during state) :
    Run.Meets during (fun _ answer => ∀ errno, answer = Except.error errno → allowed errno)
      (.done state (.ok value)) := by
  refine ⟨kept, ?_⟩
  intro errno impossible
  cases impossible

theorem keeps_pure (value : Value) : Keeps during allowed (pure value : Syscall State Value) :=
  fun _ kept => meets_ok kept

theorem keeps_throw {errno : Errno} (fine : allowed errno) :
    Keeps during allowed (throw errno : Syscall State Value) := by
  intro state kept
  refine ⟨kept, ?_⟩
  intro other same
  obtain rfl := Except.error.inj same
  exact fine

theorem keeps_get : Keeps during allowed (get : Syscall State State) :=
  fun _ kept => meets_ok kept

theorem keeps_modify {step : State → State} (kept : ∀ state, during state → during (step state)) :
    Keeps during allowed (modify step : Syscall State PUnit) :=
  fun state before => meets_ok (kept state before)

theorem keeps_bind {call : Syscall State Value} {next : Value → Syscall State Result}
    (first : Keeps during allowed call) (second : ∀ value, Keeps during allowed (next value)) :
    Keeps during allowed (call >>= next) := by
  intro state kept
  rw [on_bind]
  apply Run.meets_bind (first state kept)
  intro result later there fine
  cases result with
  | ok value => exact second value later there
  | error errno =>
      refine ⟨there, ?_⟩
      intro other same
      exact fine other (by simpa using same)

theorem keeps_ite {condition : Prop} [Decidable condition] {left right : Syscall State Value}
    (first : Keeps during allowed left) (second : Keeps during allowed right) :
    Keeps during allowed (if condition then left else right) := by
  split
  · exact first
  · exact second

/-- A failure that is handed on as a value may be any. -/
theorem keeps_answer {call : Syscall State Value} (first : Keeps during (fun _ => True) call) :
    Keeps during allowed (ExceptT.lift call.run : Syscall State (Except Errno Value)) := by
  intro state kept
  rw [on_answer]
  exact Run.meets_bind (first state kept) fun _ _ there _ => meets_ok there

theorem keeps_lift {call : Call State Value}
    (first : ∀ state, during state → Run.Meets during (fun _ _ => True) (call state)) :
    Keeps during allowed (ExceptT.lift call : Syscall State Value) := by
  intro state kept
  rw [on_lift]
  exact Run.meets_bind (first state kept) fun _ _ there _ => meets_ok there

end Syscall

namespace Host

open Syscall

variable {Value : Type}

theorem liftExcept_on (result : Except Errno Value) (host : Host) :
    on (native.liftExcept result) host = .done host result := by
  cases result <;> rfl

/-- A native function changes the kernel only, and never sleeps. -/
theorem native_on (step : Kernel → Except Errno Value × Kernel) (host : Host) :
    on (native step) host =
      .done { host with kernel := (step host.kernel).2 } (step host.kernel).1 := by
  have stepped : on (modifyGet fun host : Host =>
      ((step host.kernel).1, { host with kernel := (step host.kernel).2 }) :
        Syscall Host (Except Errno Value)) host =
      .done { host with kernel := (step host.kernel).2 } (.ok (step host.kernel).1) := rfl
  rw [native, on_bind]
  exact (congrArg (Run.bind _) stepped).trans (liftExcept_on _ _)

/-- The host while one more call is inside a hook. -/
def entered (label : String) (host : Host) : Host :=
  { host with hookCalls := host.hookCalls.bump [label], active := host.active + 1 }

def leaving (host : Host) : Host := { host with active := host.active - 1 }

theorem gated_on (label : String) (body : Syscall Host Value) (host : Host) :
    on (gated label body) host =
      (on body (host.entered label)).bind fun result later => .done later.leaving result := by
  rw [gated, on_modify_bind, on_bind, on_answer, Run.bind_assoc]
  congr 1
  funext result later
  cases result <;> rfl

def takingUse (id : Nat) (host : Host) : Host := { host with table := host.table.acquire id }

def givingUse (id : Nat) (host : Host) : Host := { host with table := host.table.release id }

theorem holding_on (id : Nat) (body : Syscall Host Value) (host : Host) :
    on (holding (some id) body) host =
      (on body (host.takingUse id)).bind fun result later => .done (later.givingUse id) result := by
  rw [holding, on_modify_bind, on_bind, on_answer, Run.bind_assoc]
  congr 1
  funext result later
  cases result <;> rfl

/-! ### What host calls keep -/

variable {during : Host → Prop} {allowed : Errno → Prop}

theorem keeps_native {step : Kernel → Except Errno Value × Kernel}
    (kept : ∀ host, during host → during { host with kernel := (step host.kernel).2 })
    (fine : ∀ kernel errno, (step kernel).1 = .error errno → allowed errno) :
    Keeps during allowed (native step) := by
  intro host before
  rw [native_on]
  exact ⟨kept host before, fun errno same => fine host.kernel errno same⟩

theorem meets_ending {run : Run Host (Except Errno Value)} {last : Host → Host}
    (met : Run.Meets during (fun _ answer => ∀ errno, answer = .error errno → allowed errno) run)
    (kept : ∀ host, during host → during (last host)) :
    Run.Meets during (fun _ answer => ∀ errno, answer = .error errno → allowed errno)
      (run.bind fun result later => .done (last later) result) := by
  apply Run.meets_bind met
  intro result later there fine
  exact ⟨kept later there, fine⟩

theorem keeps_gated {label : String} {body : Syscall Host Value}
    (entering : ∀ host, during host → during (host.entered label))
    (exiting : ∀ host, during host → during host.leaving) (inside : Keeps during allowed body) :
    Keeps during allowed (gated label body) := by
  intro host before
  rw [gated_on]
  exact meets_ending (inside _ (entering host before)) exiting

theorem keeps_holding {entry : Option Nat} {body : Syscall Host Value}
    (taking : ∀ id host, during host → during (host.takingUse id))
    (giving : ∀ id host, during host → during (host.givingUse id))
    (inside : Keeps during allowed body) : Keeps during allowed (holding entry body) := by
  cases entry with
  | none => exact inside
  | some id =>
      intro host before
      rw [holding_on]
      exact meets_ending (inside _ (taking id host before)) (giving id)

theorem keeps_ignoringFailure {body : Syscall Host Unit}
    (inside : Keeps during (fun _ => True) body) :
    Keeps during allowed (ignoringFailure body) :=
  keeps_bind (keeps_answer inside) fun _ => keeps_pure ()

end Host

end Interception
