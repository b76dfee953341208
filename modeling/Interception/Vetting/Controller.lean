import Interception.Audit
import Interception.Duration
import Interception.Report
import Interception.Settings
import Interception.Switch
import Interception.Tally
import Interception.Vetting.Board

/-!
The vetting controller: settings, registered clients and the ticket board.
An event goes to the group that the routing table names, unless its
operation is not vetted, its task belongs to a client, or nobody serves the
group. The operations here are the single steps of a vetting round; the
caller sleeps between them.
-/

namespace Interception

inductive NoClient
  | next
  | allow
  | deny
  deriving DecidableEq, Repr

namespace NoClient

def name : NoClient → String
  | next => "next"
  | allow => "allow"
  | deny => "deny"

def ofWord? (word : String) : Option NoClient :=
  [next, allow, deny].find? fun choice => choice.name = Text.lower word

end NoClient

namespace Vetting

inductive VettingError
  | duplicateClient (name : String)
  | invalidGroupMask (bits : UInt8)
  | unknownClient (client : ClientId)
  | shutdown
  deriving DecidableEq, Repr

def VettingError.message : VettingError → String
  | duplicateClient name => "client " ++ name ++ " is already registered"
  | invalidGroupMask bits => "invalid group mask " ++ Text.hexByte bits.toNat
  | unknownClient client => "unknown client " ++ toString client
  | shutdown => "vetting controller is shut down"

structure Rules where
  timeout : Nat
  fsTimeout : Nat
  timeoutDeny : Bool
  interruptible : Bool
  ops : OperationSet
  routing : RoutingTable
  noClient : NoClient

structure Controller where
  enabled : Bool
  rules : Rules
  clients : Clients
  board : Board
  outcomes : Tally
  stale : Nat
  gauge : Nat

/-- Where an event goes before any client sees it. -/
inductive Placement
  | pass
  | settle (action : Action) (code : Option Errno)
  | vet (group wait : Nat)
  deriving DecidableEq, Repr

namespace Controller

def name : String := "VettingController"

def ofRules (enabled : Bool) (rules : Rules) : Controller :=
  ⟨enabled, rules, Clients.none, Board.empty, [], 0, 0⟩

/-! ### Clients -/

def register (control : Controller) (name : String) (bits : UInt8) (pid : Int32) :
    Except VettingError (ClientId × Controller × List AuditRecord) :=
  if control.board.closed then .error .shutdown
  else
    match GroupMask.ofBits? bits with
    | none => .error (.invalidGroupMask bits)
    | some groups =>
        match control.clients.register? name groups pid with
        | none => .error (.duplicateClient name)
        | some (id, clients) =>
            .ok (id,
              { control with clients, board := control.board.attach id, gauge := clients.count },
              [.clientChange name id true])

/-- Groups of a former client that nobody serves any more. -/
def orphaned (clients : Clients) (client : Client) : List Nat :=
  client.groups.groups.filter fun group => !clients.serves group

/-- Takes a client off the list, together with the groups that lost their
last client. Its tickets are still to be failed. -/
def dropClient (control : Controller) (id : ClientId) :
    Option (Client × List Nat × Controller) :=
  (control.clients.get? id).map fun client =>
    let clients := control.clients.unregister id
    (client, orphaned clients client, { control with clients, gauge := clients.count })

def unregister (control : Controller) (id : ClientId) :
    Bool × Controller × List AuditRecord :=
  match control.dropClient id with
  | none => (false, control, [])
  | some (client, groups, dropped) =>
      (true, { dropped with board := dropped.board.failClient id groups },
        [.clientChange client.name id false])

/-- The groups a client may fetch from. -/
def fetchGroups (control : Controller) (id : ClientId) : Except VettingError GroupMask :=
  match control.clients.get? id with
  | some client => .ok client.groups
  | none => .error (.unknownClient id)

/-- One pass of a fetching client. -/
def fetchPass (control : Controller) (id : ClientId) (groups : GroupMask) :
    Except VettingError (Option Request) × Controller :=
  match control.board.fetch id groups with
  | (.ok request, board) => (.ok request, { control with board })
  | (.error .closed, board) => (.error .shutdown, { control with board })
  | (.error (.unknownClient client), board) =>
      (.error (.unknownClient client), { control with board })

/-- An answer that no ticket takes counts as stale. -/
def respond (control : Controller) (id : ClientId) (response : Response) : Bool × Controller :=
  match control.board.respond id response with
  | (true, board) => (true, { control with board })
  | (false, board) => (false, { control with board, stale := control.stale + 1 })

def shutdown (control : Controller) : Controller :=
  { control with board := control.board.shutdown }

/-! ### Vetting rounds -/

def waitFor (rules : Rules) (operation : Operation) : Nat :=
  if operation.onFile then rules.timeout else rules.fsTimeout

def unserved (choice : NoClient) : Placement :=
  match choice with
  | .next => .pass
  | .allow => .settle .allow none
  | .deny => .settle .deny (some Errno.EACCES)

def place (control : Controller) (task : Personality) (event : Event) : Placement :=
  if !control.rules.ops event.operation then .pass
  else if control.clients.hasPid task.pid then .pass
  else
    match control.rules.routing.route event with
    | .unrouted => .settle .allow none
    | .group group =>
        if control.clients.serves group then
          .vet group (waitFor control.rules event.operation)
        else unserved control.rules.noClient

def submit (control : Controller) (group : Nat) (task : Personality) (event : Event) :
    TicketId × Controller :=
  let (ticket, board) := control.board.submit group task event
  (ticket, { control with board })

/-- Fails a new ticket whose group has lost its last client meanwhile. -/
def recheck (control : Controller) (group : Nat) (ticket : TicketId) : Controller :=
  if control.clients.serves group then control
  else { control with board := control.board.failQueued ticket }

def outcomeLabel : Outcome → String
  | .answered .allow _ => "allow"
  | .answered .deny _ => "deny"
  | .timedOut => "timeout"
  | .interrupted => "interrupted"
  | .failed => "failed"

/-- What the end of a round writes into the report. -/
def applyOutcome (timeoutDeny : Bool) (report : Report) : Outcome → Report
  | .answered .allow _ => (report.conclude .allow none).setVetted true
  | .answered .deny code =>
      (report.conclude .deny (some (code.getD Errno.EACCES))).setVetted true
  | .timedOut =>
      report.recordTimeout.conclude .timeout (if timeoutDeny then some Errno.ETIME else none)
  | .interrupted => report.conclude .restart (some Errno.ERESTARTSYS)
  | .failed => report.conclude .error (some Errno.ECONNRESET)

/-- The waiter leaves: its ticket is retired and the outcome counted. -/
def finish (control : Controller) (ticket : TicketId) (outcome : Outcome) : Controller :=
  { control with
    board := control.board.retire ticket
    outcomes := control.outcomes.bump [outcomeLabel outcome] }

/-! ### Settings -/

def settings (control : Controller) : List Setting :=
  let rules := control.rules
  [.free "status" (Switch.render control.enabled),
    .free "timeout" (toString rules.timeout),
    .free "fs-timeout" (toString rules.fsTimeout),
    .free "timeout-deny" (toString rules.timeoutDeny),
    .free "interruptible" (toString rules.interruptible),
    .free "ops" rules.ops.render,
    .free "routing" rules.routing.render,
    .free "default-group" (toString rules.routing.defaultGroup),
    .free "unrouted-allow" (toString rules.routing.unroutedAllow),
    .free "no-client" rules.noClient.name,
    .lockedAt "groups" control.clients.renderGroups,
    .lockedAt "clients" control.clients.render]

def parseTimeout (value : String) : Except Refusal Nat :=
  match Duration.parse value with
  | .ok 0 => .error .notPositive
  | .ok timeout => .ok timeout
  | .error cause => .error (.badDuration cause)

def parseFlag (value : String) : Except Refusal Bool :=
  match Switch.parse? value with
  | some flag => .ok flag
  | none => .error .notFlag

def parseGroup (value : String) : Except Refusal Nat :=
  match Text.readNat Text.limit8 (Text.trim value) with
  | .ok group => if group < groupCount then .ok group else .error .groupRange
  | .error _ => .error .notNumber

def parseRouting (routing : RoutingTable) (value : String) : Except Refusal RoutingTable :=
  match routing.setRules value with
  | .ok routing => .ok routing
  | .error cause => .error (.badRule cause)

def parseNoClient (value : String) : Except Refusal NoClient :=
  match NoClient.ofWord? value with
  | some choice => .ok choice
  | none => .error (.badNoClient value)

def updateRules (rules : Rules) (value : String) : String → Option (Except Refusal Rules)
  | "timeout" => some ((parseTimeout value).map fun timeout => { rules with timeout })
  | "fs-timeout" => some ((parseTimeout value).map fun fsTimeout => { rules with fsTimeout })
  | "timeout-deny" =>
      some ((parseFlag value).map fun timeoutDeny => { rules with timeoutDeny })
  | "interruptible" =>
      some ((parseFlag value).map fun interruptible => { rules with interruptible })
  | "ops" => some ((rules.ops.apply value).map fun ops => { rules with ops })
  | "routing" =>
      some ((parseRouting rules.routing value).map fun routing => { rules with routing })
  | "default-group" => some ((parseGroup value).map fun defaultGroup =>
      { rules with routing := { rules.routing with defaultGroup } })
  | "unrouted-allow" => some ((parseFlag value).map fun unroutedAllow =>
      { rules with routing := { rules.routing with unroutedAllow } })
  | "no-client" => some ((parseNoClient value).map fun noClient => { rules with noClient })
  | _ => none

def set (control : Controller) (key value : String) : Except SettingError Controller :=
  if key = "groups" ∨ key = "clients" then .error (.readOnly key)
  else if key = "status" then
    match Switch.parse? value with
    | some enabled => .ok { control with enabled }
    | none => .error (.invalidValue key value .notSwitch)
  else
    match updateRules control.rules value key with
    | some (.ok rules) => .ok { control with rules }
    | some (.error reason) => .error (.invalidValue key value reason)
    | none => .error (.unknownKey name key)

end Controller

end Vetting

end Interception
