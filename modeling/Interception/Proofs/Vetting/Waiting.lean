import Interception.Proofs.Vetting.Protocol

/-!
Tickets whose waiters wait. Whatever clients and other waiters do, a ticket
stays on the board, for the same group and with the same request, until its
own waiter takes it off. When that waiter looks at it, the outcome is an
answer exactly if one was taken in the life of the ticket.
-/

namespace Interception.Vetting

variable {board later : Board} {log : List Record}

/-! ### Changes of the live tickets -/

theorem restates_state (id : TicketId) (state : TicketState) : Restates fun ticket =>
    if ticket.id = id then { ticket with state, stirred := true } else ticket := by
  constructor <;> intro ticket <;> by_cases own : ticket.id = id <;> simp [own]

theorem restates_failed (doomed : Ticket → Bool) : Restates fun ticket =>
    if doomed ticket then { ticket with state := .failed, stirred := true } else ticket := by
  constructor <;> intro ticket <;> by_cases falls : doomed ticket = true <;> simp [falls]

theorem restates_none : Restates id := ⟨fun _ => rfl, fun _ => rfl, fun _ => rfl⟩

/-- What a move may do to the live tickets: change states, put one more under
a number of its own, or take one off whose waiter leaves. -/
inductive Reshaped (board later : Board) : Move → Prop
  | restated {move : Move} {change : Ticket → Ticket} (restates : Restates change)
      (live : later.live = board.live.map change) : Reshaped board later move
  | added {move : Move} (ticket : Ticket) (numbered : ticket.id ≠ 0)
      (live : later.live = board.live ++ [ticket]) : Reshaped board later move
  | finished (id : TicketId) (interrupted expired : Bool)
      (live : later.live = board.live.filter (·.id != id)) :
      Reshaped board later (.finish id interrupted expired)

theorem reshaped_same {move : Move} (live : later.live = board.live) : Reshaped board later move :=
  .restated restates_none (live.trans (List.map_id _).symm)

theorem fetch_reshaped (board : Board) (client : ClientId) (groups : GroupMask) (move : Move) :
    Reshaped board (board.fetch client groups).2 move := by
  have scanned := (Board.scan_scanned groups.groups board).live
  unfold Board.fetch
  split
  · exact reshaped_same rfl
  · split
    · exact reshaped_same rfl
    · split
      · rename_i left found
        rw [found] at scanned
        exact reshaped_same scanned
      · rename_i id left found
        rw [found] at scanned
        exact .restated (restates_state id (.assigned client)) (congrArg (List.map _) scanned)

theorem respond_reshaped (board : Board) (client : ClientId) (response : Response) (move : Move) :
    Reshaped board (board.respond client response).2 move := by
  unfold Board.respond
  split
  · split
    · exact .restated (restates_state _ _) rfl
    · exact reshaped_same rfl
  · exact reshaped_same rfl

theorem failQueued_reshaped (board : Board) (id : TicketId) (move : Move) :
    Reshaped board (board.failQueued id) move := by
  unfold Board.failQueued
  split
  · exact .restated (restates_state id .failed) rfl
  · exact reshaped_same rfl

theorem retire_live {id : TicketId} {ticket : Ticket} (got : board.get? id = some ticket) :
    (board.retire id).live = board.live.filter (·.id != id) := by
  simp only [Board.retire, got]
  rfl

theorem fetch_moves (board : Board) (client : ClientId) (groups : GroupMask) :
    ((Move.fetch client groups).on board).1 = (board.fetch client groups).2 := by
  simp only [Move.on]
  split <;> rename_i found <;> rw [found]

theorem respond_moves (board : Board) (client : ClientId) (response : Response) :
    ((Move.respond client response).on board).1 = (board.respond client response).2 := by
  simp only [Move.on]
  split <;> rename_i found <;> rw [found]

theorem move_reshaped (board : Board) (move : Move) : Reshaped board (move.on board).1 move := by
  cases move with
  | submit group task event =>
      by_cases refused : (board.submit group task event).1 = 0
      · exact reshaped_same (by simp [Move.on, refused])
      · have moved : ((Move.submit group task event).on board).1 =
            (board.submit group task event).2 := by simp [Move.on, refused]
        exact .added _ refused ((congrArg Board.live moved).trans (submit_live board group task event))
  | fetch client groups =>
      rw [fetch_moves]
      exact fetch_reshaped board client groups _
  | respond client response =>
      rw [respond_moves]
      exact respond_reshaped board client response _
  | failClient client orphaned => exact .restated (restates_failed _) rfl
  | failQueued id => exact failQueued_reshaped board id _
  | attach client => exact reshaped_same rfl
  | shutdown => exact .restated (restates_failed _) rfl
  | finish id interrupted expired =>
      simp only [Move.on]
      split
      · rename_i ticket outcome got verdict
        exact .finished id interrupted expired (retire_live got)
      · exact reshaped_same rfl

/-! ### Tickets that are waited for -/

/-- The ticket is on the board, for this group and with this request. -/
def Waits (board : Board) (id : TicketId) (group : Nat) (request : Request) : Prop :=
  ∃ ticket ∈ board.live, ticket.id = id ∧ ticket.group = group ∧ ticket.request = request

variable {id : TicketId} {group : Nat} {request : Request}

theorem waits_restated {change : Ticket → Ticket} (restates : Restates change)
    (live : later.live = board.live.map change) (waits : Waits board id group request) :
    Waits later id group request := by
  obtain ⟨ticket, member, named, grouped, asked⟩ := waits
  rw [Waits, live]
  exact ⟨change ticket, List.mem_map_of_mem member, (restates.id ticket).trans named,
    (restates.group ticket).trans grouped, (restates.request ticket).trans asked⟩

/-- Only the end of its own wait takes a ticket off the board. -/
theorem waits_move (waits : Waits board id group request) {move : Move}
    (spared : ∀ interrupted expired, move ≠ .finish id interrupted expired) :
    Waits (move.on board).1 id group request := by
  cases move_reshaped board move with
  | restated restates live => exact waits_restated restates live waits
  | added ticket numbered live =>
      obtain ⟨own, member, same⟩ := waits
      rw [Waits, live]
      exact ⟨own, List.mem_append_left _ member, same⟩
  | finished other interrupted expired live =>
      obtain ⟨own, member, named, same⟩ := waits
      have different : own.id ≠ other := by
        intro equal
        exact spared interrupted expired (by rw [← named, equal])
      rw [Waits, live]
      exact ⟨own, List.mem_filter.mpr ⟨member, by simpa using different⟩, named, same⟩

theorem waits_submit (board : Board) (group : Nat) (task : Personality) (event : Event) :
    Waits (board.submit group task event).2 (board.submit group task event).1 group
      (Request.ofEvent (board.submit group task event).1 task event) := by
  rw [Waits, submit_live]
  exact ⟨_, List.mem_append_right _ (List.mem_singleton_self _), rfl, rfl, rfl⟩

/-- No ticket has the number that stands for none. -/
def Nonzero (board : Board) : Prop := ∀ ticket ∈ board.live, ticket.id ≠ 0

theorem nonzero_restated {change : Ticket → Ticket} (restates : Restates change)
    (live : later.live = board.live.map change) (nonzero : Nonzero board) : Nonzero later := by
  intro ticket member
  rw [live] at member
  obtain ⟨old, inside, rfl⟩ := List.mem_map.mp member
  rw [restates.id]
  exact nonzero old inside

theorem nonzero_move (nonzero : Nonzero board) (move : Move) : Nonzero (move.on board).1 := by
  cases move_reshaped board move with
  | restated restates live => exact nonzero_restated restates live nonzero
  | added ticket numbered live =>
      intro other member
      rw [live] at member
      rcases List.mem_append.mp member with old | new
      · exact nonzero other old
      · exact List.mem_singleton.mp new ▸ numbered
  | finished gone interrupted expired live =>
      intro other member
      rw [live] at member
      exact nonzero other (List.mem_filter.mp member).1

/-- A submission goes under a number that no live ticket has. -/
theorem submit_free (nonzero : Nonzero board) (group : Nat) (task : Personality) (event : Event) :
    (board.submit group task event).1 ∉ board.live.map (·.id) := by
  by_cases granted : (board.submit group task event).1 = 0
  · rw [granted]
    intro member
    obtain ⟨ticket, inside, zero⟩ := List.mem_map.mp member
    exact nonzero ticket inside zero
  · exact allocate_free granted

/-! ### Stirring -/

theorem restates_stirred (id : TicketId) (stirred : Bool) : Restates fun ticket =>
    if ticket.id = id then { ticket with stirred } else ticket := by
  constructor <;> intro ticket <;> by_cases own : ticket.id = id <;> simp [own]

theorem consistent_setStirred (consistent : Consistent board log) (id : TicketId) (stirred : Bool) :
    Consistent (board.setStirred id stirred) log := by
  refine consistent_restated consistent (restates_stirred id stirred) [] rfl
    (fun _ _ member => member) ?_ fun _ _ => rfl
  intro ticket member
  have lived := consistent.lives ticket member
  by_cases own : ticket.id = id
  · simpa [own] using own ▸ lived
  · simpa [own] using lived

/-! ### What a waiter learns -/

theorem waits_got (consistent : Consistent board log) (waits : Waits board id group request) :
    ∃ ticket ∈ board.live, board.get? id = some ticket ∧ ticket.id = id ∧ ticket.group = group := by
  obtain ⟨ticket, member, named, grouped, _⟩ := waits
  cases got : board.get? id with
  | none => exact absurd named (Board.get?_none.mp got ticket member)
  | some found =>
      obtain ⟨inside, called⟩ := Board.get?_live got
      obtain rfl := consistent_unique consistent inside member (called.trans named.symm)
      exact ⟨found, inside, rfl, called, grouped⟩

theorem verdict?_pending {ticket : Ticket} {interrupted expired : Bool}
    (got : board.get? id = some ticket) (pending : board.verdict? id interrupted expired = none) :
    ∀ decision code, ticket.state ≠ .answered decision code := by
  intro decision code answered
  simp [Board.verdict?, got, answered] at pending

/-- A waiter that looks at its ticket, and gives up if it learns nothing,
finds an answer exactly if one was taken from the client that got the ticket. -/
theorem outcome_answered (consistent : Consistent board log) (waits : Waits board id group request)
    (interrupted expired : Bool) (decision : Decision) (code : Option Errno) :
    (board.verdict? id interrupted expired).getD .timedOut = .answered decision code ↔
      ∃ client groups response, life id log =
          [.taken client response, .handed id client groups, .submitted id group] ∧
        Fits groups group ∧ response.decision = decision ∧ positiveCode response = code := by
  obtain ⟨ticket, member, got, named, grouped⟩ := waits_got consistent waits
  have lived := consistent.lives ticket member
  have concludes : (board.verdict? id interrupted expired).getD .timedOut =
      .answered decision code ↔ ticket.state = .answered decision code := by
    cases verdict : board.verdict? id interrupted expired with
    | some outcome => exact verdict?_concludes got verdict decision code
    | none => simp [verdict?_pending got verdict decision code]
  rw [concludes, ← named, ← grouped]
  generalize life ticket.id log = records at lived ⊢
  generalize ticket.state = state at lived ⊢
  cases lived with
  | queued | untaken | assigned fits | abandoned fits => simp
  | @answered client groups response fits own =>
      rw [TicketState.answered.injEq, errno_positiveCode]
      constructor
      · rintro ⟨same, number⟩
        exact ⟨client, groups, response, rfl, fits, same, number⟩
      · rintro ⟨_, _, other, same, _, decided, number⟩
        simp only [List.cons.injEq, Record.taken.injEq] at same
        obtain ⟨⟨_, rfl⟩, _⟩ := same
        exact ⟨decided, number⟩

end Interception.Vetting
