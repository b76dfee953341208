import Interception.Vetting.Clients
import Interception.Vetting.Request

/-!
The ticket board. A ticket is created for every event sent to vetting, waits
in the queue of its group, is handed to one client and ends with that
client's answer or with a failure, unless its waiter gives up. The live list
holds the tickets that still have a waiter, oldest first. Each operation is
one step; sleeping in between is the callers' business.
-/

namespace Interception.Vetting

inductive TicketState
  | queued
  | assigned (client : ClientId)
  | answered (decision : Decision) (code : Option Errno)
  | failed
  deriving DecidableEq, Repr

/-- `stirred` says that something happened to the ticket since its waiter
last looked at it. -/
structure Ticket where
  id : TicketId
  group : Nat
  request : Request
  state : TicketState
  stirred : Bool
  deriving DecidableEq, Repr

inductive Outcome
  | answered (decision : Decision) (code : Option Errno)
  | failed
  | timedOut
  | interrupted
  deriving DecidableEq, Repr

structure Board where
  live : List Ticket
  queue : Nat → List TicketId
  departed : List ClientId
  closed : Bool
  nextId : TicketId

inductive FetchError
  | unknownClient (client : ClientId)
  | closed
  deriving DecidableEq, Repr

namespace Board

def empty : Board := ⟨[], fun _ => [], [], false, 1⟩

def get? (board : Board) (id : TicketId) : Option Ticket :=
  board.live.find? (·.id == id)

def setQueue (board : Board) (group : Nat) (ids : List TicketId) : Board :=
  { board with queue := fun other => if other = group then ids else board.queue other }

def setState (board : Board) (id : TicketId) (state : TicketState) : Board :=
  { board with live := board.live.map fun ticket =>
      if ticket.id = id then { ticket with state, stirred := true } else ticket }

def setStirred (board : Board) (id : TicketId) (stirred : Bool) : Board :=
  { board with live := board.live.map fun ticket =>
      if ticket.id = id then { ticket with stirred } else ticket }

/-- The queue that holds tickets of a group. -/
def slot (group : Nat) : Nat := group % groupCount

/-- Creates a ticket and queues it. -/
def submit (board : Board) (group : Nat) (task : Personality) (event : Event) :
    TicketId × Board :=
  let (id, nextId) := Identifier.allocate (board.live.map (·.id)) board.nextId
  let ticket : Ticket := ⟨id, group, Request.ofEvent id task event, .queued, false⟩
  let queued := { board with live := board.live ++ [ticket], nextId }
  (id, queued.setQueue (slot group) (board.queue (slot group) ++ [id]))

def isQueued (board : Board) (id : TicketId) : Bool :=
  match board.get? id with
  | some ticket => ticket.state == .queued
  | none => false

/-- Drops what is no longer queued from the front of a queue and takes the
first ticket that is. -/
def takeQueued (board : Board) : List TicketId → Option TicketId × List TicketId
  | [] => (none, [])
  | id :: rest => if board.isQueued id then (some id, rest) else takeQueued board rest

/-- Scans the queues of some groups in order for a ticket to hand out. -/
def scan (board : Board) : List Nat → Option TicketId × Board
  | [] => (none, board)
  | group :: rest =>
      match takeQueued board (board.queue group) with
      | (some id, left) => (some id, board.setQueue group left)
      | (none, left) => scan (board.setQueue group left) rest

/-- One pass of a client looking for work. -/
def fetch (board : Board) (client : ClientId) (groups : GroupMask) :
    Except FetchError (Option Request) × Board :=
  if board.closed then (.error .closed, board)
  else if client ∈ board.departed then (.error (.unknownClient client), board)
  else
    match board.scan groups.groups with
    | (none, scanned) => (.ok none, scanned)
    | (some id, scanned) =>
        (.ok ((scanned.get? id).map (·.request)), scanned.setState id (.assigned client))

/-- Records an answer. It counts only for a live ticket that this client
holds. -/
def respond (board : Board) (client : ClientId) (response : Response) : Bool × Board :=
  match board.get? response.ticket with
  | some ticket =>
      if ticket.state = .assigned client then
        (true, board.setState response.ticket (.answered response.decision response.errno))
      else (false, board)
  | none => (false, board)

/-- Lets a client fetch, whatever happened to an earlier bearer of its
identifier. -/
def attach (board : Board) (client : ClientId) : Board :=
  { board with departed := board.departed.filter (· != client) }

def failWhere (board : Board) (doomed : Ticket → Bool) : Board :=
  { board with live := board.live.map fun ticket =>
      if doomed ticket then { ticket with state := .failed, stirred := true } else ticket }

/-- Fails the tickets a departing client holds and the queued ones of groups
that lost their last client. -/
def failClient (board : Board) (client : ClientId) (orphaned : List Nat) : Board :=
  let marked := { board with departed := client :: board.departed.filter (· != client) }
  marked.failWhere fun ticket =>
    ticket.state == .assigned client || (ticket.state == .queued && ticket.group ∈ orphaned)

/-- Fails a ticket that no client has taken yet. -/
def failQueued (board : Board) (id : TicketId) : Board :=
  if board.isQueued id then board.setState id .failed else board

/-- Fails every pending ticket and ends all fetching. -/
def shutdown (board : Board) : Board :=
  { board with queue := fun _ => [], closed := true }.failWhere fun ticket =>
    match ticket.state with
    | .queued | .assigned _ => true
    | _ => false

/-- Removes a ticket whose waiter has gone. -/
def retire (board : Board) (id : TicketId) : Board :=
  match board.get? id with
  | none => board
  | some ticket =>
      let left := { board with live := board.live.filter (·.id != id) }
      left.setQueue (slot ticket.group) ((board.queue (slot ticket.group)).filter (· != id))

/-- How a wait ends now, if it does: an answer or a failure comes first, then
an interrupt, then the deadline. -/
def verdict? (board : Board) (id : TicketId) (interrupted expired : Bool) : Option Outcome :=
  match (board.get? id).map Ticket.state with
  | some (TicketState.answered decision code) => some (.answered decision code)
  | some TicketState.failed => some .failed
  | _ =>
      if expired then some .timedOut
      else if interrupted then some .interrupted
      else none

end Board

end Interception.Vetting
