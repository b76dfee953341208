import Interception.Vetting.Board

/-!
The moves that waiters, clients and the service make on a ticket board, in
any order, and the record they leave. Only what a party learns is recorded:
the ticket it submitted, the ticket it was handed, the answer that counted,
the end of its wait. A ticket number may come round again, so the life of a
ticket is what was recorded of its number since it was last submitted.
-/

namespace Interception.Vetting

inductive Move
  | submit (group : Nat) (task : Personality) (event : Event)
  | fetch (client : ClientId) (groups : GroupMask)
  | respond (client : ClientId) (response : Response)
  | failClient (client : ClientId) (orphaned : List Nat)
  | failQueued (ticket : TicketId)
  | attach (client : ClientId)
  | shutdown
  | finish (ticket : TicketId) (interrupted expired : Bool)

inductive Record
  | submitted (ticket : TicketId) (group : Nat)
  | handed (ticket : TicketId) (client : ClientId) (groups : GroupMask)
  | taken (client : ClientId) (response : Response)
  | ended (ticket : TicketId) (outcome : Outcome)

def Record.ticket : Record → TicketId
  | submitted ticket _ | handed ticket _ _ | ended ticket _ => ticket
  | taken _ response => response.ticket

/-- What a move does and what its party learns. A submission waits for a free
number, and a wait that has no verdict yet goes on. -/
def Move.on (board : Board) : Move → Board × List Record
  | submit group task event =>
      if (board.submit group task event).1 = 0 then (board, [])
      else
        ((board.submit group task event).2,
          [.submitted (board.submit group task event).1 group])
  | fetch client groups =>
      match board.fetch client groups with
      | (.ok (some request), later) => (later, [.handed request.ticket client groups])
      | (_, later) => (later, [])
  | respond client response =>
      match board.respond client response with
      | (true, later) => (later, [.taken client response])
      | (false, later) => (later, [])
  | failClient client orphaned => (board.failClient client orphaned, [])
  | failQueued ticket => (board.failQueued ticket, [])
  | attach client => (board.attach client, [])
  | shutdown => (board.shutdown, [])
  | finish ticket interrupted expired =>
      match board.get? ticket, board.verdict? ticket interrupted expired with
      | some _, some outcome => (board.retire ticket, [.ended ticket outcome])
      | _, _ => (board, [])

/-- A board and everything recorded so far, the latest first. -/
structure Play where
  board : Board
  log : List Record

def Play.start : Play := ⟨Board.empty, []⟩

def Play.move (play : Play) (move : Move) : Play :=
  ⟨(move.on play.board).1, (move.on play.board).2 ++ play.log⟩

def Play.after (moves : List Move) : Play := moves.foldl Play.move Play.start

/-- What was recorded of a ticket since it was last submitted, the latest
first. -/
def life (ticket : TicketId) : List Record → List Record
  | [] => []
  | record :: earlier =>
      if record.ticket = ticket then
        match record with
        | .submitted .. => [record]
        | _ => record :: life ticket earlier
      else life ticket earlier

/-! ### Lives -/

theorem life_other {ticket : TicketId} {record : Record} (earlier : List Record)
    (other : record.ticket ≠ ticket) : life ticket (record :: earlier) = life ticket earlier := by
  simp [life, other]

theorem life_submitted (ticket : TicketId) (group : Nat) (earlier : List Record) :
    life ticket (.submitted ticket group :: earlier) = [.submitted ticket group] := by
  simp [life, Record.ticket]

theorem life_handed (ticket : TicketId) (client : ClientId) (groups : GroupMask)
    (earlier : List Record) :
    life ticket (.handed ticket client groups :: earlier) =
      .handed ticket client groups :: life ticket earlier := by
  simp [life, Record.ticket]

theorem life_taken (client : ClientId) (response : Response) (earlier : List Record) :
    life response.ticket (.taken client response :: earlier) =
      .taken client response :: life response.ticket earlier := by
  simp [life, Record.ticket]

theorem life_ended (ticket : TicketId) (outcome : Outcome) (earlier : List Record) :
    life ticket (.ended ticket outcome :: earlier) =
      .ended ticket outcome :: life ticket earlier := by
  simp [life, Record.ticket]

/-! ### Single operations of the board -/

namespace Board

variable {board : Board}

theorem get?_live {ticket : TicketId} {found : Ticket} (same : board.get? ticket = some found) :
    found ∈ board.live ∧ found.id = ticket := by
  have named := List.find?_some same
  exact ⟨List.mem_of_find?_eq_some same, by simpa using named⟩

theorem get?_none {ticket : TicketId} :
    board.get? ticket = none ↔ ∀ live ∈ board.live, live.id ≠ ticket := by
  simp [get?]

theorem isQueued_live {ticket : TicketId} (queued : board.isQueued ticket = true) :
    ∃ found ∈ board.live, found.id = ticket ∧ found.state = .queued := by
  unfold isQueued at queued
  cases same : board.get? ticket with
  | none => simp [same] at queued
  | some found =>
      obtain ⟨member, named⟩ := get?_live same
      exact ⟨found, member, named, by simpa [same] using queued⟩

theorem takeQueued_rest (ids : List TicketId) :
    ∀ id ∈ (board.takeQueued ids).2, id ∈ ids := by
  induction ids with
  | nil => simp [takeQueued]
  | cons first rest rest_taken =>
      intro id member
      unfold takeQueued at member
      split at member
      · exact List.mem_cons_of_mem first member
      · exact List.mem_cons_of_mem first (rest_taken id member)

theorem takeQueued_found {ids : List TicketId} {id : TicketId}
    (found : (board.takeQueued ids).1 = some id) : id ∈ ids ∧ board.isQueued id = true := by
  induction ids with
  | nil => simp [takeQueued] at found
  | cons first rest rest_taken =>
      unfold takeQueued at found
      split at found
      · rename_i queued
        obtain rfl := Option.some.inj found
        exact ⟨List.mem_cons_self, queued⟩
      · obtain ⟨member, queued⟩ := rest_taken found
        exact ⟨List.mem_cons_of_mem first member, queued⟩

theorem setQueue_shrunk {group : Nat} {ids : List TicketId}
    (fewer : ∀ id ∈ ids, id ∈ board.queue group) (other : Nat) :
    ∀ id ∈ (board.setQueue group ids).queue other, id ∈ board.queue other := by
  intro id member
  unfold setQueue at member
  by_cases same : other = group
  · simp only [same, if_true] at member ⊢
    exact fewer id member
  · simpa only [same, if_false] using member

/-- A scan only takes tickets out of queues, and finds a queued one in the
queue of a group that was asked for. -/
structure Scanned (board : Board) (groups : List Nat) (found : Option TicketId) (later : Board) :
    Prop where
  live : later.live = board.live
  shrunk : ∀ group, ∀ id ∈ later.queue group, id ∈ board.queue group
  origin : ∀ id, found = some id →
    ∃ group ∈ groups, id ∈ board.queue group ∧ board.isQueued id = true

theorem scan_scanned (groups : List Nat) :
    ∀ board : Board, Scanned board groups (board.scan groups).1 (board.scan groups).2 := by
  induction groups with
  | nil =>
      intro board
      exact ⟨rfl, fun _ _ member => member, by simp [scan]⟩
  | cons group rest rest_scanned =>
      intro board
      have left := board.takeQueued_rest (board.queue group)
      have shrunk := setQueue_shrunk left
      unfold scan
      split
      · rename_i id ids taken
        rw [taken] at shrunk
        refine ⟨rfl, shrunk, ?_⟩
        intro other same
        obtain rfl := Option.some.inj same
        obtain ⟨member, queued⟩ := takeQueued_found (congrArg Prod.fst taken)
        exact ⟨group, List.mem_cons_self, member, queued⟩
      · rename_i ids taken
        rw [taken] at shrunk
        -- Later groups are scanned on a board whose queues have shrunk already.
        have further := rest_scanned (board.setQueue group ids)
        refine ⟨further.live, ?_, ?_⟩
        · intro other id member
          exact shrunk other id (further.shrunk other id member)
        · intro id same
          obtain ⟨found, asked, member, queued⟩ := further.origin id same
          exact ⟨found, List.mem_cons_of_mem group asked, shrunk found id member, queued⟩

end Board

end Interception.Vetting
