import Interception.Proofs.Vetting.Waiting

/-!
Tickets that wait to be handed out or answered. A queued ticket stands once in
the queue of its group until a client takes it. What a move may do to a ticket
is said here once for all later laws: it leaves the ticket as it was, creates
it, hands it out, answers it or fails it.
-/

namespace Interception.Vetting

variable {board later : Board} {log : List Record}

/-- Nobody has answered the ticket yet, and it has not failed. -/
def Ticket.Pending (ticket : Ticket) : Prop :=
  ticket.state = .queued ∨ ∃ client, ticket.state = .assigned client

theorem pending_not_failed {ticket : Ticket} (pending : ticket.Pending) :
    ticket.state ≠ .failed := by
  rcases pending with queued | ⟨client, assigned⟩
  · simp [queued]
  · simp [assigned]

/-! ### Queues -/

structure Placed (board : Board) : Prop where
  nodup : ∀ group, (board.queue group).Nodup
  queued : ∀ ticket ∈ board.live, ticket.state = .queued →
    ticket.id ∈ board.queue (Board.slot ticket.group)

theorem placed_start : Placed Board.empty := by
  constructor <;> simp [Board.empty]

theorem placed_once (placed : Placed board) {ticket : Ticket} (member : ticket ∈ board.live)
    (queued : ticket.state = .queued) :
    (board.queue (Board.slot ticket.group)).count ticket.id = 1 :=
  List.count_eq_one_of_mem (placed.nodup _) (placed.queued ticket member queued)

/-- States change, none of them to queued, and the queues stay. -/
theorem placed_restated (placed : Placed board) {change : Ticket → Ticket}
    (restates : Restates change) (live : later.live = board.live.map change)
    (queue : later.queue = board.queue)
    (before : ∀ ticket, (change ticket).state = .queued → ticket.state = .queued) :
    Placed later := by
  refine ⟨queue ▸ placed.nodup, ?_⟩
  intro ticket member queued
  rw [live] at member
  obtain ⟨old, inside, rfl⟩ := List.mem_map.mp member
  rw [restates.id, restates.group, queue]
  exact placed.queued old inside (before old queued)

theorem failed_before (doomed : Ticket → Bool) (ticket : Ticket)
    (queued : (if doomed ticket then { ticket with state := .failed, stirred := true }
      else ticket).state = .queued) : ticket.state = .queued := by
  by_cases falls : doomed ticket = true
  · simp [falls] at queued
  · simpa [falls] using queued

theorem stated_before (id : TicketId) {state : TicketState} (other : state ≠ .queued)
    (ticket : Ticket)
    (queued : (if ticket.id = id then { ticket with state, stirred := true }
      else ticket).state = .queued) : ticket.state = .queued := by
  by_cases own : ticket.id = id
  · simp only [own, if_true] at queued
    exact absurd queued other
  · simpa [own] using queued

theorem takeQueued_sublist (board : Board) (ids : List TicketId) :
    (board.takeQueued ids).2.Sublist ids := by
  induction ids with
  | nil => exact .slnil
  | cons first rest rest_taken =>
      unfold Board.takeQueued
      split
      · exact List.sublist_cons_self first rest
      · exact rest_taken.trans (List.sublist_cons_self first rest)

/-- Only what is no longer queued is dropped without being taken. -/
theorem takeQueued_keeps {ids : List TicketId} {id : TicketId} (member : id ∈ ids)
    (queued : board.isQueued id = true) :
    (board.takeQueued ids).1 = some id ∨ id ∈ (board.takeQueued ids).2 := by
  induction ids with
  | nil => simp at member
  | cons first rest rest_taken =>
      unfold Board.takeQueued
      split
      · rcases List.mem_cons.mp member with rfl | inside
        · exact .inl rfl
        · exact .inr inside
      · rename_i dropped
        rcases List.mem_cons.mp member with rfl | inside
        · exact absurd queued dropped
        · exact rest_taken inside

theorem scan_placed (groups : List Nat) : ∀ board : Board, (∀ group, (board.queue group).Nodup) →
    (∀ group, ((board.scan groups).2.queue group).Nodup) ∧
      ∀ group, ∀ id ∈ board.queue group, board.isQueued id = true →
        (board.scan groups).1 = some id ∨ id ∈ (board.scan groups).2.queue group := by
  induction groups with
  | nil => exact fun board nodup => ⟨nodup, fun _ _ member _ => .inr member⟩
  | cons group rest rest_placed =>
      intro board nodup
      have shorter := takeQueued_sublist board (board.queue group)
      have keeps {id : TicketId} (member : id ∈ board.queue group)
          (queued : board.isQueued id = true) := takeQueued_keeps member queued
      -- The queue of this group after its front has been looked through.
      have nodupLeft : ∀ other, ((board.setQueue group
          (board.takeQueued (board.queue group)).2).queue other).Nodup := by
        intro other
        by_cases same : other = group
        · simpa [Board.setQueue, same] using shorter.nodup (nodup group)
        · simpa [Board.setQueue, same] using nodup other
      unfold Board.scan
      split
      · rename_i found ids taken
        rw [taken] at nodupLeft keeps
        refine ⟨nodupLeft, ?_⟩
        intro other id member queued
        by_cases same : other = group
        · subst same
          simpa [Board.setQueue] using keeps member queued
        · exact .inr (by simpa [Board.setQueue, same] using member)
      · rename_i ids taken
        rw [taken] at nodupLeft keeps
        obtain ⟨nodupLater, keepsLater⟩ := rest_placed (board.setQueue group ids) nodupLeft
        refine ⟨nodupLater, ?_⟩
        intro other id member queued
        refine keepsLater other id ?_ queued
        by_cases same : other = group
        · subst same
          simpa [Board.setQueue] using keeps member queued
        · simpa [Board.setQueue, same] using member

/-! ### Fetches -/

theorem get?_of_live (consistent : Consistent board log) {ticket : Ticket}
    (member : ticket ∈ board.live) : board.get? ticket.id = some ticket := by
  cases got : board.get? ticket.id with
  | none => exact absurd rfl (Board.get?_none.mp got ticket member)
  | some found =>
      obtain ⟨inside, named⟩ := Board.get?_live got
      rw [consistent_unique consistent inside member named]

theorem isQueued_of_live (consistent : Consistent board log) {ticket : Ticket}
    (member : ticket ∈ board.live) (queued : ticket.state = .queued) :
    board.isQueued ticket.id = true := by
  simp [Board.isQueued, get?_of_live consistent member, queued]

/-- The ways in which one pass of a fetch may go. -/
inductive Fetched (board : Board) (client : ClientId) (groups : GroupMask) :
    Except FetchError (Option Request) → Board → Prop
  | closed (shut : board.closed = true) : Fetched board client groups (.error .closed) board
  | departed (opened : board.closed = false) (gone : client ∈ board.departed) :
      Fetched board client groups (.error (.unknownClient client)) board
  | nothing {left : Board} (opened : board.closed = false) (present : client ∉ board.departed)
      (scan : board.scan groups.groups = (none, left)) : Fetched board client groups (.ok none) left
  | handed {ticket : Ticket} {left : Board} (opened : board.closed = false)
      (present : client ∉ board.departed)
      (scan : board.scan groups.groups = (some ticket.id, left)) (member : ticket ∈ board.live)
      (queued : ticket.state = .queued) (fits : Fits groups ticket.group) :
      Fetched board client groups (.ok (some ticket.request))
        (left.setState ticket.id (.assigned client))

theorem fetch_fetched (consistent : Consistent board log) (client : ClientId)
    (groups : GroupMask) :
    Fetched board client groups (board.fetch client groups).1 (board.fetch client groups).2 := by
  have scanned := Board.scan_scanned groups.groups board
  unfold Board.fetch
  by_cases shut : board.closed = true
  · simp only [shut, if_true]
    exact .closed shut
  · have opened : board.closed = false := by simpa using shut
    by_cases gone : client ∈ board.departed
    · simp only [opened, Bool.false_eq_true, if_false, gone, if_true]
      exact .departed opened gone
    · simp only [opened, Bool.false_eq_true, if_false, gone]
      cases found : board.scan groups.groups with
      | mk id left =>
          cases id with
          | none => exact .nothing opened gone found
          | some id =>
              rw [found] at scanned
              obtain ⟨ticket, member, rfl, queued, fits, got⟩ := scanned_fits consistent scanned
              simp only [got, Option.map_some]
              exact .handed opened gone found member queued fits

/-! ### Moves keep tickets in their queues -/

theorem submit_queues (board : Board) (group : Nat) (task : Personality) (event : Event)
    (other : Nat) : (board.submit group task event).2.queue other =
      if other = Board.slot group then
        board.queue (Board.slot group) ++ [(board.submit group task event).1]
      else board.queue other := rfl

theorem placed_submit (placed : Placed board) (consistent : Consistent board log) (group : Nat)
    (task : Personality) (event : Event)
    (free : (board.submit group task event).1 ∉ board.live.map (·.id)) :
    Placed (board.submit group task event).2 := by
  have queues := submit_queues board group task event
  have live := submit_live board group task event
  generalize (board.submit group task event).1 = id at free queues live
  generalize (board.submit group task event).2 = later at queues live
  -- A free number stands in no queue.
  have unqueued : ∀ other, id ∉ board.queue other := by
    intro other member
    obtain ⟨ticket, inside, rfl, _⟩ := consistent.queues other id member
    exact free (List.mem_map_of_mem inside)
  constructor
  case nodup =>
    intro other
    rw [queues]
    split
    · rw [List.nodup_append]
      refine ⟨placed.nodup _, List.nodup_singleton id, ?_⟩
      rintro old inside _ last rfl
      exact unqueued _ (List.mem_singleton.mp last ▸ inside)
    · exact placed.nodup other
  case queued =>
    intro ticket member state
    rw [live] at member
    rw [queues]
    rcases List.mem_append.mp member with old | new
    · have stands := placed.queued ticket old state
      split
      · rename_i same
        exact List.mem_append_left _ (same ▸ stands)
      · exact stands
    · obtain rfl := List.mem_singleton.mp new
      simp

theorem placed_fetch (placed : Placed board) (consistent : Consistent board log)
    (client : ClientId) (groups : GroupMask) : Placed (board.fetch client groups).2 := by
  have scanned := Board.scan_scanned groups.groups board
  obtain ⟨nodup, keeps⟩ := scan_placed groups.groups board placed.nodup
  have fetched := fetch_fetched consistent client groups
  generalize (board.fetch client groups).1 = result at fetched
  generalize (board.fetch client groups).2 = later at fetched ⊢
  cases fetched with
  | closed shut => exact placed
  | departed opened gone => exact placed
  | nothing opened present scan =>
      rw [scan] at scanned nodup keeps
      refine ⟨nodup, ?_⟩
      intro ticket member queued
      have before := scanned.live ▸ member
      have stands := keeps _ ticket.id (placed.queued ticket before queued)
        (isQueued_of_live consistent before queued)
      simpa using stands
  | @handed taken left opened present scan member state fits =>
      rw [scan] at scanned nodup keeps
      refine ⟨nodup, ?_⟩
      intro ticket inside queued
      obtain ⟨old, before, rfl⟩ := List.mem_map.mp inside
      have before := scanned.live ▸ before
      by_cases own : old.id = taken.id
      · simp [own] at queued
      · simp only [own, if_false] at queued ⊢
        rcases keeps _ old.id (placed.queued old before queued)
          (isQueued_of_live consistent before queued) with found | stands
        · exact absurd (Option.some.inj found).symm own
        · exact stands

theorem placed_retire (placed : Placed board) {ticket : Ticket}
    (got : board.get? ticket.id = some ticket) : Placed (board.retire ticket.id) := by
  have queues : ∀ group, (board.retire ticket.id).queue group =
      if group = Board.slot ticket.group then
        (board.queue (Board.slot ticket.group)).filter (· != ticket.id)
      else board.queue group := by
    intro group
    simp only [Board.retire, got]
    rfl
  constructor
  case nodup =>
    intro group
    rw [queues]
    split
    · exact (placed.nodup _).filter _
    · exact placed.nodup group
  case queued =>
    intro other member queued
    rw [retire_live got] at member
    obtain ⟨inside, different⟩ := List.mem_filter.mp member
    have stands := placed.queued other inside queued
    rw [queues]
    split
    · rename_i same
      exact List.mem_filter.mpr ⟨same ▸ stands, different⟩
    · exact stands

theorem placed_move (placed : Placed board) (consistent : Consistent board log) (move : Move) :
    Placed (move.on board).1 := by
  cases move with
  | submit group task event =>
      by_cases refused : (board.submit group task event).1 = 0
      · simpa [Move.on, refused] using placed
      · have submitted := placed_submit placed consistent group task event (allocate_free refused)
        simpa [Move.on, refused] using submitted
  | fetch client groups =>
      rw [fetch_moves]
      exact placed_fetch placed consistent client groups
  | respond client response =>
      rw [respond_moves]
      unfold Board.respond
      split
      · split
        · exact placed_restated placed (restates_state _ _) rfl rfl
            (stated_before _ TicketState.noConfusion)
        · exact placed
      · exact placed
  | failClient client orphaned =>
      exact placed_restated placed (restates_failed _) rfl rfl (failed_before _)
  | failQueued id =>
      simp only [Move.on, Board.failQueued]
      split
      · exact placed_restated placed (restates_state _ _) rfl rfl
          (stated_before _ TicketState.noConfusion)
      · exact placed
  | attach client => exact ⟨placed.nodup, placed.queued⟩
  | shutdown =>
      refine ⟨fun _ => List.nodup_nil, ?_⟩
      intro ticket member queued
      -- Whatever was queued has failed.
      obtain ⟨old, _, rfl⟩ := List.mem_map.mp member
      cases state : old.state <;> simp [state] at queued
  | finish id interrupted expired =>
      simp only [Move.on]
      split
      · rename_i ticket outcome got verdict
        obtain ⟨_, rfl⟩ := Board.get?_live got
        exact placed_retire placed got
      · exact placed

/-! ### Marks on the board -/

theorem scan_marks (groups : List Nat) : ∀ board : Board,
    (board.scan groups).2.departed = board.departed ∧
      (board.scan groups).2.closed = board.closed := by
  induction groups with
  | nil => exact fun board => ⟨rfl, rfl⟩
  | cons group rest rest_marks =>
      intro board
      unfold Board.scan
      split
      · exact ⟨rfl, rfl⟩
      · exact rest_marks _

/-- Whether a move changes who has departed or whether the board is closed. -/
def Move.marks : Move → Bool
  | .attach _ | .failClient .. | .shutdown => true
  | _ => false

theorem move_marks (board : Board) {move : Move} (unmarked : move.marks = false) :
    (move.on board).1.departed = board.departed ∧ (move.on board).1.closed = board.closed := by
  cases move with
  | submit group task event =>
      simp only [Move.on]
      split <;> exact ⟨rfl, rfl⟩
  | fetch client groups =>
      have marks := scan_marks groups.groups board
      rw [fetch_moves]
      unfold Board.fetch
      split
      · exact ⟨rfl, rfl⟩
      · split
        · exact ⟨rfl, rfl⟩
        · split <;> rename_i found <;> rw [found] at marks <;> exact marks
  | respond client response =>
      rw [respond_moves]
      unfold Board.respond
      split
      · split <;> exact ⟨rfl, rfl⟩
      · exact ⟨rfl, rfl⟩
  | failClient | attach | shutdown => cases unmarked
  | failQueued id =>
      simp only [Move.on, Board.failQueued]
      split <;> exact ⟨rfl, rfl⟩
  | finish id interrupted expired =>
      simp only [Move.on]
      split
      · rename_i ticket outcome got verdict
        simp only [Board.retire, got]
        exact ⟨rfl, rfl⟩
      · exact ⟨rfl, rfl⟩

/-- A closed board stays closed. -/
theorem move_closed (move : Move) (closed : board.closed = true) :
    (move.on board).1.closed = true := by
  cases marks : move.marks with
  | false => rw [(move_marks board marks).2, closed]
  | true =>
      cases move with
      | attach | failClient => exact closed
      | shutdown => rfl
      | submit | fetch | respond | failQueued | finish => cases marks

/-! ### What becomes of tickets -/

/-- Whether a move leaves a ticket alone if it is pending. -/
def Spares : Move → Ticket → Prop
  | .failClient client orphaned, ticket =>
      ticket.state ≠ .assigned client ∧ (ticket.state = .queued → ticket.group ∉ orphaned)
  | .failQueued id, ticket => ticket.id = id → ticket.state ≠ .queued
  | .shutdown, ticket => ¬ ticket.Pending
  | _, _ => True

/-- Where a ticket comes from that is on the board after a move. -/
inductive Became (board : Board) : Move → Ticket → Prop
  | stays {move : Move} {ticket : Ticket} (member : ticket ∈ board.live)
      (spared : Spares move ticket) : Became board move ticket
  | submitted {group : Nat} {task : Personality} {event : Event}
      (granted : (board.submit group task event).1 ≠ 0) :
      Became board (.submit group task event)
        ⟨(board.submit group task event).1, group,
          Request.ofEvent (board.submit group task event).1 task event, .queued, false⟩
  | handed {client : ClientId} {groups : GroupMask} {ticket : Ticket}
      (opened : board.closed = false) (present : client ∉ board.departed)
      (member : ticket ∈ board.live) (queued : ticket.state = .queued) :
      Became board (.fetch client groups) { ticket with state := .assigned client, stirred := true }
  | answered {client : ClientId} {response : Response} {ticket : Ticket}
      (member : ticket ∈ board.live) (held : ticket.state = .assigned client) :
      Became board (.respond client response)
        { ticket with state := .answered response.decision response.errno, stirred := true }
  | failed {move : Move} {ticket : Ticket} (member : ticket ∈ board.live)
      (pending : ticket.Pending) (doomed : ¬ Spares move ticket) :
      Became board move { ticket with state := .failed, stirred := true }

/-- Whether a move may put a ticket into a pending state. -/
def Move.pends : Move → Bool
  | .submit .. | .fetch .. => true
  | _ => false

theorem became_pending {move : Move} {ticket : Ticket} (passive : move.pends = false)
    (became : Became board move ticket) (pending : ticket.Pending) :
    ticket ∈ board.live ∧ Spares move ticket := by
  cases became with
  | stays member spared => exact ⟨member, spared⟩
  | submitted | handed => cases passive
  | answered member held => simp [Ticket.Pending] at pending
  | failed member _ doomed => exact absurd rfl (pending_not_failed pending)

/-- A move that fails tickets fails the pending ones that it does not spare. -/
theorem failWhere_became {doomed : Ticket → Bool} {move : Move} {ticket : Ticket}
    (member : ticket ∈ (board.failWhere doomed).live)
    (exact : ∀ old, doomed old = true ↔ ¬ Spares move old)
    (pending : ∀ old, doomed old = true → old.Pending) : Became board move ticket := by
  obtain ⟨old, inside, rfl⟩ := List.mem_map.mp member
  split
  · rename_i falls
    exact .failed inside (pending old falls) ((exact old).mp falls)
  · rename_i stands
    exact .stays inside (not_not.mp (mt (exact old).mpr stands))

theorem submit_became {group : Nat} {task : Personality} {event : Event} {ticket : Ticket}
    (member : ticket ∈ ((Move.submit group task event).on board).1.live) :
    Became board (.submit group task event) ticket := by
  by_cases refused : (board.submit group task event).1 = 0
  · simp only [Move.on, refused, if_true] at member
    exact .stays member trivial
  · simp only [Move.on, refused, if_false, submit_live] at member
    rcases List.mem_append.mp member with old | new
    · exact .stays old trivial
    · rw [List.mem_singleton.mp new]
      exact .submitted refused

theorem fetch_became (consistent : Consistent board log) {client : ClientId} {groups : GroupMask}
    {ticket : Ticket} (member : ticket ∈ (board.fetch client groups).2.live) :
    Became board (.fetch client groups) ticket := by
  have scanned := Board.scan_scanned groups.groups board
  have fetched := fetch_fetched consistent client groups
  generalize (board.fetch client groups).1 = result at fetched
  generalize (board.fetch client groups).2 = later at fetched member
  cases fetched with
  | closed shut => exact .stays member trivial
  | departed opened gone => exact .stays member trivial
  | nothing opened present scan =>
      rw [scan] at scanned
      exact .stays (scanned.live ▸ member) trivial
  | @handed taken left opened present scan inside queued fits =>
      rw [scan] at scanned
      obtain ⟨old, before, rfl⟩ := List.mem_map.mp member
      have before := scanned.live ▸ before
      by_cases own : old.id = taken.id
      · obtain rfl := consistent_unique consistent before inside own
        simp only [if_true]
        exact .handed opened present inside queued
      · simp only [own, if_false]
        exact .stays before trivial

theorem respond_became (consistent : Consistent board log) {client : ClientId} {response : Response}
    {ticket : Ticket} (member : ticket ∈ (board.respond client response).2.live) :
    Became board (.respond client response) ticket := by
  cases taken : (board.respond client response).1 with
  | false =>
      rw [respond_refused taken] at member
      exact .stays member trivial
  | true =>
      obtain ⟨holder, held, named, state⟩ := respond_taken taken
      have got := get?_of_live consistent held
      rw [named] at got
      simp only [Board.respond, got, state, if_true] at member
      obtain ⟨old, inside, rfl⟩ := List.mem_map.mp member
      split
      · rename_i own
        obtain rfl := consistent_unique consistent inside held (own.trans named.symm)
        exact .answered inside state
      · exact .stays inside trivial

theorem failQueued_became (consistent : Consistent board log) {id : TicketId} {ticket : Ticket}
    (member : ticket ∈ (board.failQueued id).live) : Became board (.failQueued id) ticket := by
  unfold Board.failQueued at member
  split at member
  · rename_i queued
    obtain ⟨fallen, falls, named, state⟩ := Board.isQueued_live queued
    obtain ⟨old, inside, rfl⟩ := List.mem_map.mp member
    split
    · rename_i own
      obtain rfl := consistent_unique consistent inside falls (own.trans named.symm)
      exact .failed inside (.inl state) fun spared => spared own state
    · rename_i other
      exact .stays inside fun own => absurd own other
  · rename_i unqueued
    refine .stays member ?_
    rintro rfl queued
    exact unqueued (isQueued_of_live consistent member queued)

theorem shutdown_became {ticket : Ticket} (member : ticket ∈ board.shutdown.live) :
    Became board .shutdown ticket := by
  refine failWhere_became member (fun old => ?_) fun old falls => ?_
  · cases state : old.state <;> simp [Spares, Ticket.Pending, state]
  · cases state : old.state <;> simp_all [Ticket.Pending]

theorem move_became (consistent : Consistent board log) {move : Move} {ticket : Ticket}
    (member : ticket ∈ (move.on board).1.live) : Became board move ticket := by
  cases move with
  | submit group task event => exact submit_became member
  | fetch client groups => exact fetch_became consistent (fetch_moves board client groups ▸ member)
  | respond client response =>
      exact respond_became consistent (respond_moves board client response ▸ member)
  | failClient client orphaned =>
      refine failWhere_became member (fun old => ?_) fun old falls => ?_
      · simp only [Spares, Bool.or_eq_true, Bool.and_eq_true, beq_iff_eq, decide_eq_true_eq]
        tauto
      · simp only [Bool.or_eq_true, Bool.and_eq_true, beq_iff_eq] at falls
        exact falls.symm.imp And.left fun held => ⟨client, held⟩
  | failQueued id => exact failQueued_became consistent member
  | attach client => exact .stays member trivial
  | shutdown => exact shutdown_became member
  | finish id interrupted expired =>
      simp only [Move.on] at member
      split at member
      · rename_i found outcome got verdict
        rw [retire_live got] at member
        exact .stays (List.mem_filter.mp member).1 trivial
      · exact .stays member trivial

end Interception.Vetting
