import Interception.Vetting.Clients
import Interception.Vetting.Request

/-!
Calls that may sleep. A call runs on a shared state until it returns or
falls asleep; asleep, it names what it waits for and how it goes on, on
whatever the state has become by then. The flag given to a sleeper says that
its time is up. Between two sleeps a call is one uninterrupted step.
-/

namespace Interception

/-- What a sleeping call waits for. -/
inductive Wait
  /-- The end of a ticket's vetting, or an interrupt of its waiter. -/
  | verdict (ticket : Vetting.TicketId) (token : Option String)
  /-- A ticket for a client of some groups. -/
  | work (client : Vetting.ClientId) (groups : Vetting.GroupMask)
  /-- The last use in flight of a removed patch entry. -/
  | drained (entry : Nat)
  /-- No call inside any hook. -/
  | idle
  deriving DecidableEq, Repr

structure Sleep where
  wait : Wait
  deadline : Option Nat
  deriving DecidableEq, Repr

inductive Run (State Value : Type) : Type
  | done (state : State) (value : Value)
  | asleep (state : State) (sleep : Sleep) (resume : Bool → State → Run State Value)

namespace Run

variable {State Value Result : Type}

def bind (next : Value → State → Run State Result) : Run State Value → Run State Result
  | done state value => next value state
  | asleep state sleep resume =>
      asleep state sleep fun expired later => bind next (resume expired later)

def state : Run State Value → State
  | done state _ => state
  | asleep state _ _ => state

end Run

def Call (State Value : Type) : Type := State → Run State Value

namespace Call

variable {State Value Result : Type}

def start (call : Call State Value) (state : State) : Run State Value := call state

instance : Monad (Call State) where
  pure value := fun state => .done state value
  bind call next := fun state => (call state).bind fun value later => next value later

instance : MonadStateOf State (Call State) where
  get := fun state => .done state state
  set state := fun _ => .done state ()
  modifyGet change := fun state => .done (change state).2 (change state).1

/-- Sleeps once; the answer says whether the deadline ended the sleep. -/
def sleep (wait : Wait) (deadline : Option Nat) : Call State Bool :=
  fun state => .asleep state ⟨wait, deadline⟩ fun expired later => .done later expired

end Call

/-- A call that may fail with an error number and keeps its effects then. -/
abbrev Syscall (State Value : Type) := ExceptT Errno (Call State) Value

end Interception
