import Interception.Host.State

/-!
Vetting rounds and client fetches as calls. A round submits a ticket, sleeps
until the ticket's vetting ends and writes the outcome into the report. A
fetch sleeps until one of the client's groups has work.
-/

namespace Interception.Host

open Vetting

def modifyVetting (change : Controller → Controller) : Call Host Unit :=
  modify fun host => { host with vetting := change host.vetting }

/-- How the wait for a ticket ends now, if it does. -/
def ending (host : Host) (token : Option String) (ticket : TicketId) (expired : Bool) :
    Option Outcome :=
  host.vetting.board.verdict? ticket (host.raised token) expired

def awaitOutcome (token : Option String) (ticket : TicketId) (deadline : Nat) :
    Call Host Outcome := do
  modify fun host => host.awaitWith token (some ticket)
  match (← get).ending token ticket false with
  | some outcome => return outcome
  | none =>
      let expired ← Call.sleep (.verdict ticket token) (some deadline)
      return ((← get).ending token ticket expired).getD .timedOut

/-- Sends an event to a group and waits for the verdict. -/
def vet (caller : Caller) (report : Report) (task : Personality) (event : Event)
    (group wait : Nat) : Call Host Report := do
  let rules := (← get).vetting.rules
  let token := if rules.interruptible then caller.token else none
  let ticket ← modifyGet fun host =>
    let (ticket, vetting) := host.vetting.submit group task event
    (ticket, { host with vetting })
  modifyVetting (·.recheck group ticket)
  let outcome ← awaitOutcome token ticket ((← get).clock + wait)
  modify fun host => host.awaitWith token none
  modifyVetting (·.finish ticket outcome)
  return Controller.applyOutcome rules.timeoutDeny report outcome

def vetEvent (caller : Caller) (task : Personality) (event : Event) (report : Report) :
    Call Host Report := do
  match (← get).vetting.place task event with
  | .pass => return report
  | .settle action code => return report.conclude action code
  | .vet group wait => vet caller report task event group wait

/-- One pass of a fetching client over the board. -/
def fetchPass (client : ClientId) (groups : GroupMask) :
    Call Host (Except VettingError (Option Request)) :=
  modifyGet fun host =>
    let (result, vetting) := host.vetting.fetchPass client groups
    (result, { host with vetting })

/-- The next request for a client, waiting for one if there is none. -/
def fetch (client : ClientId) (wait : Nat) :
    Call Host (Except VettingError (Option Request)) := do
  match (← get).vetting.fetchGroups client with
  | .error error => return .error error
  | .ok groups =>
      match ← fetchPass client groups with
      | .ok none =>
          let expired ← Call.sleep (.work client groups) (some ((← get).clock + wait))
          if expired then return .ok none else fetchPass client groups
      | result => return result

def respond (client : ClientId) (response : Response) : Call Host Bool :=
  modifyGet fun host =>
    let (taken, vetting) := host.vetting.respond client response
    (taken, { host with vetting })

def registerClient (caller : Caller) (name : String) (groups : UInt8) (pid : Int32) :
    Call Host (Except VettingError ClientId) :=
  modifyGet fun host =>
    match host.vetting.register name groups pid with
    | .error error => (.error error, host)
    | .ok (id, vetting, records) => (.ok id, { host with vetting }.note caller records)

def unregisterClient (caller : Caller) (client : ClientId) : Call Host Bool :=
  modifyGet fun host =>
    let (gone, vetting, records) := host.vetting.unregister client
    (gone, { host with vetting }.note caller records)

end Interception.Host
