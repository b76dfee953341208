import Interception.Host.Service
import Interception.Proofs.Vetting.Waiting
import Mathlib.Logic.Relation

/-!
A service that lets nothing pass by default, and the turns that clients,
waiters and others take on it in any order, each with what is recorded of it.
No turn breaks the ticket protocol, and none but its own waiter's takes a
ticket off the board.
-/

namespace Interception.Host

open Vetting

variable {host later : Host}

/-- The settings under which nothing passes by default. -/
structure FailClosed (host : Host) : Prop where
  chain : host.chain = serviceChain
  policy : host.policy = .deny
  enabled : host.vetting.enabled = true
  noClient : host.vetting.rules.noClient = .deny
  timeoutDeny : host.vetting.rules.timeoutDeny = true
  unrouted : host.vetting.rules.routing.unroutedAllow = false
  fallback : host.degraded.fallback = .deny

/-! ### Turns -/

def withBoard (host : Host) (board : Board) : Host := { host with vetting.board := board }

/-- What anybody else does, with what is recorded of it: a move on the board,
a stir of a ticket, or a change of anything but the board that lets nothing
pass by default. Only its own waiter may take a kept ticket off the board. -/
inductive Turn (kept : Option TicketId) : Host × List Record → Host × List Record → Prop
  | move {host : Host} {log : List Record} (move : Move)
      (spared : ∀ ticket interrupted expired, kept = some ticket →
        move ≠ .finish ticket interrupted expired) :
      Turn kept (host, log)
        (host.withBoard (move.on host.vetting.board).1, (move.on host.vetting.board).2 ++ log)
  | stir {host : Host} {log : List Record} (ticket : TicketId) (stirred : Bool) :
      Turn kept (host, log) (host.withBoard (host.vetting.board.setStirred ticket stirred), log)
  | apart {host later : Host} {log : List Record} (closed : FailClosed later)
      (board : later.vetting.board = host.vetting.board) : Turn kept (host, log) (later, log)

abbrev Turns (kept : Option TicketId) : Host × List Record → Host × List Record → Prop :=
  Relation.ReflTransGen (Turn kept)

/-- Closed services as they come to be, from a board without tickets. -/
def Reached (host : Host) (log : List Record) : Prop :=
  ∃ first : Host, FailClosed first ∧ first.vetting.board = Board.empty ∧
    Turns none (first, []) (host, log)

/-! ### Who takes turns -/

/-- A controller after a move on its board, with the settings it had. -/
structure Moved (move : Move) (before after : Controller) : Prop where
  enabled : after.enabled = before.enabled
  rules : after.rules = before.rules
  board : after.board = (move.on before.board).1

theorem fetchPass_moved (control : Controller) (client : ClientId) (groups : GroupMask) :
    Moved (.fetch client groups) control (control.fetchPass client groups).2 := by
  have later : (control.fetchPass client groups).2 =
      { control with board := (control.board.fetch client groups).2 } := by
    unfold Controller.fetchPass
    split <;> rename_i found <;> rw [found]
  rw [later]
  exact ⟨rfl, rfl, (fetch_moves control.board client groups).symm⟩

theorem respond_moved (control : Controller) (client : ClientId) (response : Response) :
    Moved (.respond client response) control (control.respond client response).2 := by
  have board := respond_moves control.board client response
  unfold Controller.respond
  split <;> rename_i found <;> rw [found] at board <;> exact ⟨rfl, rfl, board.symm⟩

theorem register_moved {control later : Controller} {name : String} {bits : UInt8} {pid : Int32}
    {id : ClientId} {records : List AuditRecord}
    (registered : control.register name bits pid = .ok (id, later, records)) :
    Moved (.attach id) control later := by
  unfold Controller.register at registered
  split at registered
  · cases registered
  · split at registered
    · cases registered
    · split at registered
      · cases registered
      · obtain ⟨rfl, rest⟩ := Prod.mk.inj (Except.ok.inj registered)
        obtain ⟨rfl, _⟩ := Prod.mk.inj rest
        exact ⟨rfl, rfl, rfl⟩

theorem unregister_moved {control later : Controller} {id : ClientId} {records : List AuditRecord}
    (left : control.unregister id = (true, later, records)) :
    ∃ orphaned, Moved (.failClient id orphaned) control later := by
  unfold Controller.unregister at left
  split at left
  · cases left
  · rename_i client groups dropped found
    obtain ⟨_, _, same⟩ := Option.map_eq_some_iff.mp found
    obtain ⟨_, rest⟩ := Prod.mk.inj same
    obtain ⟨_, rfl⟩ := Prod.mk.inj rest
    obtain ⟨_, ends⟩ := Prod.mk.inj left
    obtain ⟨rfl, _⟩ := Prod.mk.inj ends
    exact ⟨groups, rfl, rfl, rfl⟩

theorem submit_moved {control : Controller} {group : Nat} {task : Personality} {event : Event}
    (granted : (control.board.submit group task event).1 ≠ 0) :
    Moved (.submit group task event) control (control.submit group task event).2 := by
  refine ⟨rfl, rfl, ?_⟩
  simp [Move.on, granted, Controller.submit]

theorem finish_moved {control : Controller} {id : TicketId} {ticket : Ticket}
    {interrupted expired : Bool} {outcome : Outcome} (got : control.board.get? id = some ticket)
    (verdict : control.board.verdict? id interrupted expired = some outcome) :
    Moved (.finish id interrupted expired) control (control.finish id outcome) := by
  refine ⟨rfl, rfl, ?_⟩
  simp [Move.on, got, verdict, Controller.finish]

theorem shutdown_moved (control : Controller) : Moved .shutdown control control.shutdown :=
  ⟨rfl, rfl, rfl⟩

theorem moved_turns {kept : Option TicketId} {log : List Record} (closed : FailClosed host)
    {move : Move} {vetting : Controller} (moved : Moved move host.vetting vetting)
    (spared : ∀ ticket interrupted expired, kept = some ticket →
      move ≠ .finish ticket interrupted expired) :
    Turns kept (host, log) ({ host with vetting }, (move.on host.vetting.board).2 ++ log) := by
  have later : FailClosed { host with vetting } :=
    ⟨closed.chain, closed.policy, moved.enabled.trans closed.enabled,
      (congrArg Rules.noClient moved.rules).trans closed.noClient,
      (congrArg Rules.timeoutDeny moved.rules).trans closed.timeoutDeny,
      (congrArg (·.routing.unroutedAllow) moved.rules).trans closed.unrouted, closed.fallback⟩
  exact (Relation.ReflTransGen.single (.move move spared)).tail (.apart later moved.board)

/-! ### What turns keep -/

theorem withBoard_closed (closed : FailClosed host) (board : Board) :
    FailClosed (host.withBoard board) :=
  ⟨closed.chain, closed.policy, closed.enabled, closed.noClient, closed.timeoutDeny,
    closed.unrouted, closed.fallback⟩

theorem turn_closed {kept : Option TicketId} {before after : Host × List Record}
    (turn : Turn kept before after) (closed : FailClosed before.1) : FailClosed after.1 := by
  cases turn with
  | move move spared => exact withBoard_closed closed _
  | stir ticket stirred => exact withBoard_closed closed _
  | apart closedLater board => exact closedLater

theorem turn_consistent {kept : Option TicketId} {before after : Host × List Record}
    (turn : Turn kept before after) (consistent : Consistent before.1.vetting.board before.2) :
    Consistent after.1.vetting.board after.2 := by
  cases turn with
  | move move spared => exact consistent_move consistent move
  | stir ticket stirred => exact consistent_setStirred consistent ticket stirred
  | apart closed board => exact board ▸ consistent

theorem turn_nonzero {kept : Option TicketId} {before after : Host × List Record}
    (turn : Turn kept before after) (nonzero : Nonzero before.1.vetting.board) :
    Nonzero after.1.vetting.board := by
  cases turn with
  | move move spared => exact nonzero_move nonzero move
  | stir ticket stirred => exact nonzero_restated (restates_stirred ticket stirred) rfl nonzero
  | apart closed board => exact board ▸ nonzero

theorem turn_waits {ticket : TicketId} {group : Nat} {request : Request}
    {before after : Host × List Record} (turn : Turn (some ticket) before after)
    (waits : Waits before.1.vetting.board ticket group request) :
    Waits after.1.vetting.board ticket group request := by
  cases turn with
  | move move spared =>
      exact waits_move waits fun interrupted expired => spared ticket interrupted expired rfl
  | stir other stirred => exact waits_restated (restates_stirred other stirred) rfl waits
  | apart closed board => exact board ▸ waits

/-- Turns add to what was recorded and do not depend on it. -/
theorem turns_news {kept : Option TicketId} {before after : Host × List Record}
    (turns : Turns kept before after) : ∃ news, after.2 = news ++ before.2 ∧
      ∀ log, Turns kept (before.1, log) (after.1, news ++ log) := by
  induction turns with
  | refl => exact ⟨[], rfl, fun _ => .refl⟩
  | tail turns turn all =>
      obtain ⟨news, same, anyhow⟩ := all
      cases turn with
      | @move host records move spared =>
          obtain rfl : records = news ++ before.2 := same
          refine ⟨(move.on host.vetting.board).2 ++ news, (List.append_assoc _ _ _).symm, ?_⟩
          intro log
          have last : Turn kept (host, news ++ log) _ := .move move spared
          rw [← List.append_assoc] at last
          exact (anyhow log).tail last
      | stir ticket stirred => exact ⟨news, same, fun log => (anyhow log).tail (.stir ticket stirred)⟩
      | apart closed board => exact ⟨news, same, fun log => (anyhow log).tail (.apart closed board)⟩

/-- What holds of every closed service. -/
theorem reached_law {log : List Record} (reached : Reached host log) :
    FailClosed host ∧ Consistent host.vetting.board log ∧ Nonzero host.vetting.board := by
  obtain ⟨first, closed, empty, turns⟩ := reached
  have start : FailClosed first ∧ Consistent first.vetting.board [] ∧
      Nonzero first.vetting.board := by
    rw [empty]
    exact ⟨closed, consistent_start, by simp [Nonzero, Board.empty]⟩
  have further : ∀ after, Turns none (first, []) after → FailClosed after.1 ∧
      Consistent after.1.vetting.board after.2 ∧ Nonzero after.1.vetting.board := by
    intro after turns
    induction turns with
    | refl => exact start
    | tail turns turn law =>
        exact ⟨turn_closed turn law.1, turn_consistent turn law.2.1, turn_nonzero turn law.2.2⟩
  exact further _ turns

/-- What a waiter can rely on while the others have their turns. -/
theorem turns_kept {ticket : TicketId} {group : Nat} {request : Request}
    {before after : Host × List Record} (turns : Turns (some ticket) before after)
    (closed : FailClosed before.1) (consistent : Consistent before.1.vetting.board before.2)
    (waits : Waits before.1.vetting.board ticket group request) :
    FailClosed after.1 ∧ Consistent after.1.vetting.board after.2 ∧
      Waits after.1.vetting.board ticket group request := by
  induction turns with
  | refl => exact ⟨closed, consistent, waits⟩
  | tail turns turn law =>
      exact ⟨turn_closed turn law.1, turn_consistent turn law.2.1, turn_waits turn law.2.2⟩

end Interception.Host
