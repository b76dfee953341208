import Interception.Proofs.Vetting.Moves
import Mathlib.Data.List.Nodup

/-!
The ticket protocol. The state of a live ticket tells what was recorded in
its life, and a number that is not live was never submitted or its last life
has ended. Every move keeps the two in step, so each life is a submission,
then perhaps one client, then perhaps that client's answer, then the end of
the wait.
-/

namespace Interception.Vetting

/-- A client may take a ticket if one of its groups has the ticket's queue. -/
def Fits (groups : GroupMask) (group : Nat) : Prop := groups.contains (Board.slot group) = true

inductive Lived (ticket : TicketId) (group : Nat) : TicketState → List Record → Prop
  | queued : Lived ticket group .queued [.submitted ticket group]
  | assigned {client : ClientId} {groups : GroupMask} (fits : Fits groups group) :
      Lived ticket group (.assigned client)
        [.handed ticket client groups, .submitted ticket group]
  | answered {client : ClientId} {groups : GroupMask} {response : Response}
      (fits : Fits groups group) (own : response.ticket = ticket) :
      Lived ticket group (.answered response.decision response.errno)
        [.taken client response, .handed ticket client groups, .submitted ticket group]
  | untaken : Lived ticket group .failed [.submitted ticket group]
  | abandoned {client : ClientId} {groups : GroupMask} (fits : Fits groups group) :
      Lived ticket group .failed [.handed ticket client groups, .submitted ticket group]

/-- A wait ends with an answer exactly if the ticket has that answer. -/
def Concludes (state : TicketState) (outcome : Outcome) : Prop :=
  ∀ decision code, outcome = .answered decision code ↔ state = .answered decision code

inductive Gone (ticket : TicketId) : List Record → Prop
  | unknown : Gone ticket []
  | ended {group : Nat} {state : TicketState} {outcome : Outcome} {records : List Record}
      (lived : Lived ticket group state records) (concludes : Concludes state outcome) :
      Gone ticket (.ended ticket outcome :: records)

structure Consistent (board : Board) (log : List Record) : Prop where
  ids : (board.live.map (·.id)).Nodup
  queues : ∀ group, ∀ id ∈ board.queue group,
    ∃ ticket ∈ board.live, ticket.id = id ∧ Board.slot ticket.group = group
  requests : ∀ ticket ∈ board.live, ticket.request.ticket = ticket.id
  lives : ∀ ticket ∈ board.live,
    Lived ticket.id ticket.group ticket.state (life ticket.id log)
  gone : ∀ id, (∀ ticket ∈ board.live, ticket.id ≠ id) → Gone id (life id log)

variable {board later : Board} {log : List Record}

theorem consistent_start : Consistent Board.empty [] := by
  refine ⟨by simp [Board.empty], by simp [Board.empty], by simp [Board.empty],
    by simp [Board.empty], ?_⟩
  intro id _
  exact .unknown

theorem consistent_unique (consistent : Consistent board log) {left right : Ticket}
    (leftMember : left ∈ board.live) (rightMember : right ∈ board.live)
    (same : left.id = right.id) : left = right :=
  List.inj_on_of_nodup_map consistent.ids leftMember rightMember same

/-! ### Moves that only change states -/

/-- A change of a ticket that leaves alone all but its state. -/
structure Restates (change : Ticket → Ticket) : Prop where
  id : ∀ ticket, (change ticket).id = ticket.id
  group : ∀ ticket, (change ticket).group = ticket.group
  request : ∀ ticket, (change ticket).request = ticket.request

theorem consistent_restated (consistent : Consistent board log) {change : Ticket → Ticket}
    (restates : Restates change) (record : List Record)
    (live : later.live = board.live.map change)
    (shrunk : ∀ group, ∀ id ∈ later.queue group, id ∈ board.queue group)
    (lives : ∀ ticket ∈ board.live, Lived ticket.id ticket.group (change ticket).state
      (life ticket.id (record ++ log)))
    (others : ∀ id, (∀ ticket ∈ board.live, ticket.id ≠ id) →
      life id (record ++ log) = life id log) :
    Consistent later (record ++ log) := by
  have members {ticket : Ticket} (member : ticket ∈ later.live) :
      ∃ old ∈ board.live, change old = ticket := by
    rw [live] at member
    exact List.mem_map.mp member
  constructor
  case ids =>
    have same : later.live.map (·.id) = board.live.map (·.id) := by
      simp [live, Function.comp_def, restates.id]
    rw [same]
    exact consistent.ids
  case queues =>
    intro group id member
    obtain ⟨ticket, inside, named, queued⟩ := consistent.queues group id (shrunk group id member)
    refine ⟨change ticket, ?_, (restates.id ticket).trans named, ?_⟩
    · rw [live]
      exact List.mem_map_of_mem inside
    · rw [restates.group ticket]
      exact queued
  case requests =>
    intro ticket member
    obtain ⟨old, inside, rfl⟩ := members member
    rw [restates.request, restates.id]
    exact consistent.requests old inside
  case lives =>
    intro ticket member
    obtain ⟨old, inside, rfl⟩ := members member
    rw [restates.id, restates.group]
    exact lives old inside
  case gone =>
    intro id absent
    have before : ∀ ticket ∈ board.live, ticket.id ≠ id := by
      intro ticket inside named
      refine absent (change ticket) ?_ ((restates.id ticket).trans named)
      rw [live]
      exact List.mem_map_of_mem inside
    rw [others id before]
    exact consistent.gone id before

/-- A ticket that nobody has answered may fail. -/
theorem lived_failed {ticket : Ticket} {records : List Record}
    (pending : ticket.state = .queued ∨ ∃ client, ticket.state = .assigned client)
    (lived : Lived ticket.id ticket.group ticket.state records) :
    Lived ticket.id ticket.group .failed records := by
  rcases pending with queued | ⟨client, assigned⟩
  · rw [queued] at lived
    cases lived
    exact .untaken
  · rw [assigned] at lived
    cases lived with
    | assigned fits => exact .abandoned fits

theorem consistent_failWhere (consistent : Consistent board log) (doomed : Ticket → Bool)
    (pending : ∀ ticket ∈ board.live, doomed ticket = true →
      ticket.state = .queued ∨ ∃ client, ticket.state = .assigned client)
    (live : later.live = (board.failWhere doomed).live)
    (shrunk : ∀ group, ∀ id ∈ later.queue group, id ∈ board.queue group) :
    Consistent later log := by
  have restates : Restates fun ticket =>
      if doomed ticket then { ticket with state := .failed, stirred := true } else ticket := by
    constructor <;> intro ticket <;> by_cases falls : doomed ticket = true <;> simp [falls]
  refine consistent_restated consistent restates [] live shrunk ?_ fun _ _ => rfl
  intro ticket member
  have lived := consistent.lives ticket member
  by_cases falls : doomed ticket = true
  · simpa [falls] using lived_failed (pending ticket member falls) lived
  · simpa [falls] using lived

/-- One live ticket changes its state, and what is recorded concerns it. -/
theorem consistent_setState (consistent : Consistent board log) {ticket : Ticket}
    (member : ticket ∈ board.live) (state : TicketState) {record : Record}
    (own : record.ticket = ticket.id)
    (live : later.live = (board.setState ticket.id state).live)
    (shrunk : ∀ group, ∀ id ∈ later.queue group, id ∈ board.queue group)
    (lived : Lived ticket.id ticket.group state (life ticket.id (record :: log))) :
    Consistent later (record :: log) := by
  have restates : Restates fun other =>
      if other.id = ticket.id then { other with state, stirred := true } else other := by
    constructor <;> intro other <;> by_cases same : other.id = ticket.id <;> simp [same]
  refine consistent_restated consistent restates [record] live shrunk ?_ ?_
  · intro other inside
    by_cases same : other.id = ticket.id
    · rw [consistent_unique consistent inside member same]
      simpa using lived
    · have different : record.ticket ≠ other.id := fun equal => same (equal.symm.trans own)
      simpa [same, life_other log different] using consistent.lives other inside
  · intro id absent
    apply life_other log
    rw [own]
    exact absent ticket member

/-! ### Submissions -/

section

variable {Id : Type} [DecidableEq Id] [Add Id] [OfNat Id 0] [OfNat Id 1] {live : List Id}

theorem search_free {tries : Nat} {counter : Id} {found : Id × Id}
    (same : Identifier.search live tries counter = some found) :
    found.1 ≠ 0 ∧ found.1 ∉ live := by
  induction tries generalizing counter with
  | zero => simp [Identifier.search] at same
  | succ tries tries_free =>
      unfold Identifier.search at same
      split at same
      · rename_i free
        obtain rfl := Option.some.inj same
        exact free
      · exact tries_free same

theorem allocate_free {counter : Id} (granted : (Identifier.allocate live counter).1 ≠ 0) :
    (Identifier.allocate live counter).1 ∉ live := by
  unfold Identifier.allocate at granted ⊢
  cases same : Identifier.search live (live.length + 2) counter with
  | none => simp [same] at granted
  | some found => exact (search_free same).2

end

theorem submit_live (board : Board) (group : Nat) (task : Personality) (event : Event) :
    (board.submit group task event).2.live = board.live ++
      [⟨(board.submit group task event).1, group,
        Request.ofEvent (board.submit group task event).1 task event, .queued, false⟩] := rfl

theorem submit_queue {group : Nat} {task : Personality} {event : Event} {other : Nat}
    {id : TicketId} (member : id ∈ (board.submit group task event).2.queue other) :
    id ∈ board.queue other ∨
      (id = (board.submit group task event).1 ∧ other = Board.slot group) := by
  unfold Board.submit Board.setQueue at member
  by_cases same : other = Board.slot group
  · simp only [same, if_true, List.mem_append, List.mem_singleton] at member
    rcases member with old | new
    · exact .inl (same ▸ old)
    · exact .inr ⟨new, same⟩
  · simp only [same, if_false] at member
    exact .inl member

theorem ofEvent_ticket (id : TicketId) (task : Personality) (event : Event) :
    (Request.ofEvent id task event).ticket = id := by
  cases event <;> rfl

theorem consistent_submit (consistent : Consistent board log) (group : Nat) (task : Personality)
    (event : Event) (free : (board.submit group task event).1 ∉ board.live.map (·.id)) :
    Consistent (board.submit group task event).2
      (.submitted (board.submit group task event).1 group :: log) := by
  have live := submit_live board group task event
  have queue : ∀ other id, id ∈ (board.submit group task event).2.queue other →
      id ∈ board.queue other ∨
        (id = (board.submit group task event).1 ∧ other = Board.slot group) :=
    fun _ _ => submit_queue
  generalize (board.submit group task event).1 = id at free live queue ⊢
  generalize (board.submit group task event).2 = later at live queue ⊢
  -- The number is free, so no ticket of the board is meant.
  have fresh : ∀ ticket ∈ board.live, ticket.id ≠ id := by
    intro ticket member same
    exact free (same ▸ List.mem_map_of_mem member)
  have members {ticket : Ticket} (member : ticket ∈ later.live) :
      ticket ∈ board.live ∨ ticket = ⟨id, group, Request.ofEvent id task event, .queued, false⟩ := by
    simpa [live] using member
  constructor
  case ids =>
    rw [live, List.map_append, List.nodup_append]
    refine ⟨consistent.ids, by simp, ?_⟩
    intro old inside new last
    obtain ⟨ticket, member, rfl⟩ := List.mem_map.mp inside
    have same : new = id := by simpa using last
    exact same ▸ fresh ticket member
  case queues =>
    intro other found member
    rcases queue other found member with old | ⟨rfl, rfl⟩
    · obtain ⟨ticket, inside, named, queued⟩ := consistent.queues other found old
      exact ⟨ticket, by simp [live, inside], named, queued⟩
    · exact ⟨_, by rw [live]; exact List.mem_append_right _ (List.mem_singleton_self _), rfl, rfl⟩
  case requests =>
    intro ticket member
    rcases members member with old | rfl
    · exact consistent.requests ticket old
    · exact ofEvent_ticket id task event
  case lives =>
    intro ticket member
    rcases members member with old | rfl
    · have different : (Record.submitted id group).ticket ≠ ticket.id := (fresh ticket old).symm
      rw [life_other log different]
      exact consistent.lives ticket old
    · rw [life_submitted]
      exact .queued
  case gone =>
    intro other absent
    have different : (Record.submitted id group).ticket ≠ other := by
      intro same
      exact absent _ (by rw [live]; exact List.mem_append_right _ (List.mem_singleton_self _)) same
    rw [life_other log different]
    exact consistent.gone other fun ticket inside => absent ticket (by simp [live, inside])

/-! ### Fetches, answers and the ends of waits -/

theorem consistent_shrunk (consistent : Consistent board log) (live : later.live = board.live)
    (shrunk : ∀ group, ∀ id ∈ later.queue group, id ∈ board.queue group) :
    Consistent later log := by
  refine ⟨live ▸ consistent.ids, ?_, live ▸ consistent.requests, live ▸ consistent.lives,
    live ▸ consistent.gone⟩
  intro group id member
  rw [live]
  exact consistent.queues group id (shrunk group id member)

/-- A scan that finds a ticket finds one the client may take. -/
theorem scanned_fits (consistent : Consistent board log) {groups : GroupMask} {id : TicketId}
    (scanned : Board.Scanned board groups.groups (some id) later) :
    ∃ ticket ∈ board.live, ticket.id = id ∧ ticket.state = .queued ∧ Fits groups ticket.group ∧
      later.get? id = some ticket := by
  obtain ⟨group, asked, waiting, queued⟩ := scanned.origin id rfl
  obtain ⟨ticket, member, named, state⟩ := Board.isQueued_live queued
  -- The queue and the state may name the ticket apart; numbers are unique.
  obtain ⟨other, inside, same, slot⟩ := consistent.queues group id waiting
  obtain rfl := consistent_unique consistent inside member (same.trans named.symm)
  refine ⟨other, inside, same, state, ?_, ?_⟩
  · rw [Fits, slot]
    exact (List.mem_filter.mp asked).2
  · cases got : later.get? id with
    | none => exact absurd same (Board.get?_none.mp got other (scanned.live ▸ inside))
    | some found =>
        obtain ⟨there, called⟩ := Board.get?_live got
        rw [consistent_unique consistent (scanned.live ▸ there) inside (called.trans same.symm)]

theorem consistent_fetch (consistent : Consistent board log) (client : ClientId)
    (groups : GroupMask) :
    Consistent ((Move.fetch client groups).on board).1
      (((Move.fetch client groups).on board).2 ++ log) := by
  have scanned := Board.scan_scanned groups.groups board
  simp only [Move.on, Board.fetch]
  by_cases closed : board.closed = true
  · simpa [closed] using consistent
  · by_cases departed : client ∈ board.departed
    · simpa [closed, departed] using consistent
    · simp only [closed, departed, if_false]
      cases found : board.scan groups.groups with
      | mk id later =>
          rw [found] at scanned
          cases id with
          | none => exact consistent_shrunk consistent scanned.live scanned.shrunk
          | some id =>
              obtain ⟨ticket, member, rfl, queued, fits, got⟩ := scanned_fits consistent scanned
              have asked := consistent.requests ticket member
              have lived := consistent.lives ticket member
              simp only [got, Option.map_some]
              show Consistent (later.setState ticket.id (.assigned client))
                (.handed ticket.request.ticket client groups :: log)
              rw [asked]
              refine consistent_setState consistent member (.assigned client) rfl ?_ scanned.shrunk ?_
              · exact congrArg (List.map _) scanned.live
              · rw [life_handed]
                generalize life ticket.id log = records at lived ⊢
                rw [queued] at lived
                cases lived
                exact .assigned fits

theorem consistent_respond (consistent : Consistent board log) (client : ClientId)
    (response : Response) :
    Consistent ((Move.respond client response).on board).1
      (((Move.respond client response).on board).2 ++ log) := by
  simp only [Move.on, Board.respond]
  cases same : board.get? response.ticket with
  | none => exact consistent
  | some ticket =>
      obtain ⟨member, named⟩ := Board.get?_live same
      -- Only the client that holds the ticket is heard.
      by_cases assigned : ticket.state = .assigned client
      · have lived := consistent.lives ticket member
        simp only [assigned, if_true]
        rw [← named]
        refine consistent_setState consistent member _ named.symm rfl (fun _ _ inside => inside) ?_
        rw [named, life_taken, ← named]
        generalize life ticket.id log = records at lived ⊢
        rw [assigned] at lived
        cases lived with
        | assigned fits => exact .answered fits named.symm
      · simpa [assigned] using consistent

theorem verdict?_concludes {ticket : Ticket} {id : TicketId} {interrupted expired : Bool}
    {outcome : Outcome} (got : board.get? id = some ticket)
    (verdict : board.verdict? id interrupted expired = some outcome) :
    Concludes ticket.state outcome := by
  unfold Board.verdict? at verdict
  rw [got] at verdict
  intro decision code
  cases state : ticket.state with
  | answered other number =>
      simp only [Option.map_some, state, Option.some.injEq] at verdict
      simp [← verdict]
  | failed =>
      simp only [Option.map_some, state, Option.some.injEq] at verdict
      simp [← verdict]
  | queued | assigned client =>
      simp only [Option.map_some, state] at verdict
      -- Nobody has answered: the wait ends by its deadline or an interrupt.
      cases expired <;> cases interrupted <;> simp at verdict <;> simp [← verdict]

theorem retire_queue {ticket : Ticket} (got : board.get? ticket.id = some ticket) {group : Nat}
    {id : TicketId} (member : id ∈ (board.retire ticket.id).queue group) :
    id ∈ board.queue group ∧ (group = Board.slot ticket.group → id ≠ ticket.id) := by
  simp only [Board.retire, got, Board.setQueue] at member
  by_cases same : group = Board.slot ticket.group
  · simp only [same, if_true, List.mem_filter, bne_iff_ne] at member ⊢
    exact ⟨member.1, fun _ => member.2⟩
  · simp only [same, if_false] at member
    exact ⟨member, fun equal => absurd equal same⟩

theorem consistent_retire (consistent : Consistent board log) {ticket : Ticket}
    (got : board.get? ticket.id = some ticket) {outcome : Outcome}
    (concludes : Concludes ticket.state outcome) :
    Consistent (board.retire ticket.id) (.ended ticket.id outcome :: log) := by
  obtain ⟨member, _⟩ := Board.get?_live got
  have live : (board.retire ticket.id).live = board.live.filter (·.id != ticket.id) := by
    simp only [Board.retire, got]
    rfl
  have stays {other : Ticket} : other ∈ (board.retire ticket.id).live ↔
      other ∈ board.live ∧ other.id ≠ ticket.id := by simp [live]
  constructor
  case ids =>
    rw [live]
    exact (List.filter_sublist.map _).nodup consistent.ids
  case queues =>
    intro group id queued
    obtain ⟨before, gone⟩ := retire_queue got queued
    obtain ⟨other, inside, named, slot⟩ := consistent.queues group id before
    refine ⟨other, stays.mpr ⟨inside, ?_⟩, named, slot⟩
    -- A queue holds a ticket of its own group only, so the retired one is out.
    intro same
    rw [consistent_unique consistent inside member same] at slot
    exact gone slot.symm (named.symm.trans same)
  case requests => exact fun other left => consistent.requests other (stays.mp left).1
  case lives =>
    intro other left
    obtain ⟨inside, different⟩ := stays.mp left
    have another : (Record.ended ticket.id outcome).ticket ≠ other.id := different.symm
    rw [life_other log another]
    exact consistent.lives other inside
  case gone =>
    intro id absent
    by_cases same : ticket.id = id
    · subst same
      rw [life_ended]
      exact .ended (consistent.lives ticket member) concludes
    · have another : (Record.ended ticket.id outcome).ticket ≠ id := same
      rw [life_other log another]
      apply consistent.gone id
      intro other inside named
      exact absent other (stays.mpr ⟨inside, fun equal => same (equal.symm.trans named)⟩) named

theorem consistent_finish (consistent : Consistent board log) (id : TicketId)
    (interrupted expired : Bool) :
    Consistent ((Move.finish id interrupted expired).on board).1
      (((Move.finish id interrupted expired).on board).2 ++ log) := by
  simp only [Move.on]
  cases got : board.get? id with
  | none => exact consistent
  | some ticket =>
      obtain ⟨_, rfl⟩ := Board.get?_live got
      cases verdict : board.verdict? ticket.id interrupted expired with
      | none => exact consistent
      | some outcome => exact consistent_retire consistent got (verdict?_concludes got verdict)

/-! ### Any move -/

theorem consistent_move (consistent : Consistent board log) (move : Move) :
    Consistent (move.on board).1 ((move.on board).2 ++ log) := by
  cases move with
  | submit group task event =>
      by_cases refused : (board.submit group task event).1 = 0
      · simpa [Move.on, refused] using consistent
      · have submitted := consistent_submit consistent group task event (allocate_free refused)
        simpa [Move.on, refused] using submitted
  | fetch client groups => exact consistent_fetch consistent client groups
  | respond client response => exact consistent_respond consistent client response
  | failClient client orphaned =>
      refine consistent_failWhere consistent _ ?_ rfl fun _ _ member => member
      intro ticket _ doomed
      simp only [Bool.or_eq_true, Bool.and_eq_true, beq_iff_eq] at doomed
      rcases doomed with assigned | ⟨queued, _⟩
      · exact .inr ⟨client, assigned⟩
      · exact .inl queued
  | failQueued id =>
      by_cases queued : board.isQueued id = true
      · obtain ⟨ticket, member, rfl, state⟩ := Board.isQueued_live queued
        simp only [Move.on, Board.failQueued, queued, if_true]
        refine consistent_failWhere consistent (·.id == ticket.id) ?_ ?_
          fun _ _ inside => inside
        · intro other inside doomed
          rw [consistent_unique consistent inside member (by simpa using doomed)]
          exact .inl state
        · simp [Board.setState, Board.failWhere]
      · simpa [Move.on, Board.failQueued, queued] using consistent
  | attach client => exact consistent_shrunk consistent rfl fun _ _ member => member
  | shutdown =>
      refine consistent_failWhere consistent _ ?_ rfl ?_
      · intro ticket _ doomed
        cases state : ticket.state with
        | queued => exact .inl rfl
        | assigned client => exact .inr ⟨client, rfl⟩
        | answered decision code => simp [state] at doomed
        | failed => simp [state] at doomed
      · intro group id member
        simp [Move.on, Board.shutdown, Board.failWhere] at member
  | finish id interrupted expired => exact consistent_finish consistent id interrupted expired

theorem consistent_after (moves : List Move) :
    Consistent (Play.after moves).board (Play.after moves).log := by
  have further (moves : List Move) : ∀ play : Play, Consistent play.board play.log →
      Consistent (moves.foldl Play.move play).board (moves.foldl Play.move play).log := by
    induction moves with
    | nil => exact fun play consistent => consistent
    | cons move rest rest_further =>
        intro play consistent
        exact rest_further (play.move move) (consistent_move consistent move)
  exact further moves Play.start consistent_start

/-! ### Lives of tickets -/

def Record.isHanded : Record → Bool
  | handed .. => true
  | _ => false

def Record.isTaken : Record → Bool
  | taken .. => true
  | _ => false

/-- The error number an answer carries: a code counts when it is positive. -/
def positiveCode (response : Response) : Option Errno :=
  match response.code with
  | some code => if 0 < code then some ⟨code⟩ else none
  | none => none

theorem errno_positiveCode (response : Response) : response.errno = positiveCode response := by
  unfold Response.errno positiveCode
  cases response.code with
  | none => rfl
  | some code => by_cases positive : 0 < code <;> simp [Option.filter, positive]

/-- What holds of a life at any time: one client at most, with a group of the
ticket, and one answer at most, which is how the wait ends if it ends. -/
structure Proper (ticket : TicketId) (records : List Record) : Prop where
  handed_once : records.countP Record.isHanded ≤ 1
  taken_once : records.countP Record.isTaken ≤ 1
  handed_fits : ∀ client groups, .handed ticket client groups ∈ records →
    ∃ group, .submitted ticket group ∈ records ∧ groups.contains (Board.slot group) = true ∧
      (group < groupCount → groups.contains group = true)
  ended_answered : ∀ outcome, .ended ticket outcome ∈ records → ∀ decision code,
    outcome = .answered decision code ↔ ∃ client response, .taken client response ∈ records ∧
      response.decision = decision ∧ positiveCode response = code

theorem fits_group {groups : GroupMask} {group : Nat} (fits : Fits groups group) :
    groups.contains (Board.slot group) = true ∧
      (group < groupCount → groups.contains group = true) := by
  refine ⟨fits, ?_⟩
  intro small
  rw [Fits, Board.slot, Nat.mod_eq_of_lt small] at fits
  exact fits

theorem lived_proper {ticket : TicketId} {group : Nat} {state : TicketState}
    {records : List Record} (lived : Lived ticket group state records) : Proper ticket records := by
  cases lived with
  | queued | untaken => constructor <;> simp [Record.isHanded, Record.isTaken]
  | assigned fits | abandoned fits | answered fits own =>
      refine ⟨by simp [List.countP_cons, Record.isHanded],
        by simp [List.countP_cons, Record.isTaken], ?_, by simp⟩
      intro client groups member
      simp only [List.mem_cons, Record.handed.injEq, reduceCtorEq, List.not_mem_nil, or_false,
        false_or] at member
      obtain ⟨_, _, rfl⟩ := member
      exact ⟨group, by simp, fits_group fits⟩

/-- The answer of a ticket is the one that was taken in its life. -/
theorem lived_answered {ticket : TicketId} {group : Nat} {state : TicketState}
    {records : List Record} (lived : Lived ticket group state records) (decision : Decision)
    (code : Option Errno) :
    state = .answered decision code ↔ ∃ client response, .taken client response ∈ records ∧
      response.decision = decision ∧ positiveCode response = code := by
  cases lived with
  | queued | untaken | assigned fits | abandoned fits => simp
  | answered fits own => simp [errno_positiveCode]

theorem lived_unended {ticket : TicketId} {group : Nat} {state : TicketState}
    {records : List Record} (lived : Lived ticket group state records) (outcome : Outcome) :
    .ended ticket outcome ∉ records := by
  cases lived <;> simp

theorem gone_proper {ticket : TicketId} {records : List Record} (gone : Gone ticket records) :
    Proper ticket records := by
  cases gone with
  | unknown => constructor <;> simp
  | @ended group state last lives lived concludes =>
      have proper := lived_proper lived
      constructor
      case handed_once => simpa [List.countP_cons, Record.isHanded] using proper.handed_once
      case taken_once => simpa [List.countP_cons, Record.isTaken] using proper.taken_once
      case handed_fits =>
        intro client groups member
        obtain ⟨group, submitted, fits⟩ := proper.handed_fits client groups (by simpa using member)
        exact ⟨group, List.mem_cons_of_mem _ submitted, fits⟩
      case ended_answered =>
        intro outcome member decision code
        have unended : .ended ticket outcome ∉ lives := lived_unended lived outcome
        obtain rfl : outcome = last := by simpa [unended] using member
        rw [concludes decision code, lived_answered lived decision code]
        simp

theorem respond_taken {client : ClientId} {response : Response}
    (taken : (board.respond client response).1 = true) :
    ∃ ticket ∈ board.live, ticket.id = response.ticket ∧ ticket.state = .assigned client := by
  unfold Board.respond at taken
  cases got : board.get? response.ticket with
  | none => simp [got] at taken
  | some ticket =>
      obtain ⟨member, named⟩ := Board.get?_live got
      by_cases assigned : ticket.state = .assigned client
      · exact ⟨ticket, member, named, assigned⟩
      · simp [got, assigned] at taken

theorem respond_refused {client : ClientId} {response : Response}
    (refused : (board.respond client response).1 = false) :
    (board.respond client response).2 = board := by
  unfold Board.respond at refused ⊢
  cases got : board.get? response.ticket with
  | none => rfl
  | some ticket =>
      by_cases assigned : ticket.state = .assigned client
      · simp [got, assigned] at refused
      · simp [assigned]

/-- In every run of a board, wherever it stops, each ticket has been handed
out once at most, to a client that has its group; an answer counts only from
the client that holds the ticket, before its wait has ended and at most once,
and otherwise leaves the board alone; and a wait ends with an answer exactly
if one counted. -/
theorem ticket_protocol_safe (moves : List Move) :
    (∀ ticket, Proper ticket (life ticket (Play.after moves).log)) ∧
      ∀ client response,
        (((Play.after moves).board.respond client response).1 = true →
          ∃ ticket ∈ (Play.after moves).board.live, ticket.id = response.ticket ∧ ∃ groups,
            life response.ticket (Play.after moves).log =
              [.handed response.ticket client groups, .submitted response.ticket ticket.group]) ∧
        (((Play.after moves).board.respond client response).1 = false →
          ((Play.after moves).board.respond client response).2 = (Play.after moves).board) := by
  have consistent := consistent_after moves
  constructor
  · intro id
    -- A ticket is on the board, or its life is over, or there never was one.
    by_cases live : ∃ ticket ∈ (Play.after moves).board.live, ticket.id = id
    · obtain ⟨ticket, member, rfl⟩ := live
      exact lived_proper (consistent.lives ticket member)
    · refine gone_proper (consistent.gone id ?_)
      exact fun ticket member named => live ⟨ticket, member, named⟩
  · intro client response
    generalize (Play.after moves).board = board at consistent ⊢
    constructor
    · intro taken
      obtain ⟨ticket, member, named, state⟩ := respond_taken taken
      have lived := consistent.lives ticket member
      rw [state, named] at lived
      generalize life response.ticket (Play.after moves).log = records at lived ⊢
      cases lived with
      | assigned fits => exact ⟨ticket, member, named, _, rfl⟩
    · exact respond_refused

/-! There are as many queues as there are groups a client can have. A ticket of
a group beyond them waits in the queue of a smaller one, and goes to a client
that has only that one. -/

def beyondMoves : List Move :=
  [.submit 9 ⟨1, 1, 0, 0, 0, 0, "sh"⟩
      (.file ⟨.openFile, some "/srv/a.txt", 0, false, 0, 0, "ext4"⟩),
    .fetch 1 ⟨2⟩]

theorem handed_beyond_mask :
    (Play.after beyondMoves).log = [.handed 1 1 ⟨2⟩, .submitted 1 9] ∧
      (⟨2⟩ : GroupMask).contains 9 = false :=
  ⟨rfl, by decide⟩

end Interception.Vetting
