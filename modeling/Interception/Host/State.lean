import Interception.Call
import Interception.Filter.ActionLog
import Interception.Filter.Chain
import Interception.Filter.Degraded
import Interception.Kernel.Natives
import Interception.NameSet
import Interception.Patch.Table
import Interception.Vetting.Controller

/-!
The whole host as one value: a kernel, the patch table, the hook
interceptor, the filter chain with its filters, and a clock. Calls share
this value and change it in steps.
-/

namespace Interception

/-- A filter in the chain, by the component behind it. A scripted filter has
a number. -/
inductive FilterRef
  | actionLog
  | degraded
  | vetting
  | scripted (index : Nat)
  deriving DecidableEq, Repr

/-- A filter that says the same about every event and remembers what it
saw. -/
structure Scripted where
  name : String
  action : Action
  code : Option Errno
  vetted : Bool
  timeouts : Nat
  enabled : Bool
  seen : Nat
  concluded : List (Option String)

inductive Component
  | hook
  | vetting
  | degraded
  | actionLog
  deriving DecidableEq, Repr

/-- An interrupt that may be raised while its bearer waits for a ticket. -/
structure Token where
  raised : Bool
  waiting : Option Vetting.TicketId
  deriving DecidableEq, Repr

structure HookSettings where
  enabled : Bool
  ops : OperationSet
  good : NameSet
  skip : NameSet
  noScan : NameSet
  hookDentries : NameSet
  noScanOnLoad : Bool

structure Host where
  kernel : Kernel
  table : Patch.Table
  hook : HookSettings
  /-- Calls inside a hook. -/
  active : Nat
  chain : List FilterRef
  policy : ErrorPolicy
  log : ActionLog
  degraded : Degraded
  vetting : Vetting.Controller
  scripted : List Scripted
  components : List Component
  tokens : List (String × Token)
  hookCalls : Tally
  verdicts : Tally
  rejected : Tally
  clock : Nat
  /-- Audit records, the latest first, each with the thread that wrote it. -/
  trail : List (String × AuditRecord)

/-- What a call knows about the thread it runs on. -/
structure Caller where
  origin : String
  token : Option String
  internal : Bool
  deriving DecidableEq, Repr

namespace Host

def note (caller : Caller) (host : Host) (records : List AuditRecord) : Host :=
  { host with trail := (records.map fun record => (caller.origin, record)).reverse ++ host.trail }

/-- Runs a change of the patch table on the host. -/
def change {Value : Type} (change : Patch.Change Value) :
    Call Host (Except Patch.PatchError Value) :=
  modifyGet fun host =>
    let (result, world) := change.run.run ⟨host.kernel.memory, host.table⟩
    (result, { host with kernel.memory := world.memory, table := world.table })

/-- Runs a native function on the host's kernel. -/
def native {Value : Type} (step : Kernel → Except Errno Value × Kernel) :
    Syscall Host Value := do
  let result ← (modifyGet fun host =>
    let (result, kernel) := step host.kernel
    (result, { host with kernel }))
  liftExcept result
where
  liftExcept : Except Errno Value → Syscall Host Value
    | .ok value => pure value
    | .error errno => throw errno

/-! ### Interrupt tokens -/

def token (host : Host) (name : String) : Token :=
  (host.tokens.lookup name).getD ⟨false, none⟩

def setToken (host : Host) (name : String) (token : Token) : Host :=
  { host with tokens := (name, token) :: host.tokens.filter (·.1 != name) }

def raised (host : Host) (name : Option String) : Bool :=
  match name with
  | some name => (host.token name).raised
  | none => false

def awaitWith (host : Host) (name : Option String) (ticket : Option Vetting.TicketId) :
    Host :=
  match name with
  | some name => host.setToken name { host.token name with waiting := ticket }
  | none => host

/-- Raises an interrupt and stirs the ticket its bearer waits for. -/
def interrupt (host : Host) (name : String) : Host :=
  let token := host.token name
  let raised := host.setToken name { token with raised := true }
  match token.waiting with
  | some ticket =>
      { raised with vetting.board := raised.vetting.board.setStirred ticket true }
  | none => raised

def clearInterrupt (host : Host) (name : String) : Host :=
  host.setToken name { host.token name with raised := false }

end Host

end Interception
