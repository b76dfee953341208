import Interception.Proofs.Vetting.Queueing

/-!
The order in which tickets are handed out. Every queue holds its tickets in
the order of their submission, and a fetch takes the first queued one of the
lowest of its groups that has any. So it hands out the oldest ticket of one
queue, and the oldest of all its groups exactly if no lower queue has a
younger one.
-/

namespace Interception.Vetting

variable {board later : Board} {log : List Record}

/-! ### Ages -/

/-- How many records were made since a ticket was last submitted. -/
def age (ticket : TicketId) : List Record → Nat
  | [] => 0
  | .submitted other _ :: earlier => if other = ticket then 0 else age ticket earlier + 1
  | _ :: earlier => age ticket earlier + 1

/-- The left ticket was submitted before the right one. -/
def Before (log : List Record) (left right : TicketId) : Prop := age right log < age left log

def Record.isSubmission : Record → Bool
  | submitted .. => true
  | _ => false

theorem age_later (ticket : TicketId) {records : List Record}
    (none : ∀ record ∈ records, record.isSubmission = false) :
    age ticket (records ++ log) = age ticket log + records.length := by
  induction records with
  | nil => rfl
  | cons record rest rest_later =>
      have further := rest_later fun other member => none other (List.mem_cons_of_mem _ member)
      have silent := none record List.mem_cons_self
      cases record with
      | submitted => cases silent
      | handed | taken | ended =>
          simp only [List.cons_append, age, further, List.length_cons]
          omega

theorem before_later {records : List Record} {left right : TicketId}
    (none : ∀ record ∈ records, record.isSubmission = false) :
    Before (records ++ log) left right ↔ Before log left right := by
  rw [Before, Before, age_later left none, age_later right none]
  omega

theorem before_submitted {group : Nat} {new left right : TicketId} (old : left ≠ new)
    (before : right = new ∨ Before log left right) :
    Before (.submitted new group :: log) left right := by
  have passed : age left (.submitted new group :: log) = age left log + 1 := by
    simp [age, old.symm]
  rw [Before, passed]
  by_cases last : right = new
  · simp [age, last]
  · have order := before.resolve_left last
    simp only [Before] at order
    simp only [age, Ne.symm last, if_false]
    omega

/-! ### Lists in the order of submission -/

structure Aged (board : Board) (log : List Record) : Prop where
  live : (board.live.map (·.id)).Pairwise (Before log)
  queues : ∀ group, (board.queue group).Pairwise (Before log)

theorem aged_start : Aged Board.empty [] := by
  constructor <;> simp [Board.empty]

/-- Tickets leave the lists, and none is submitted. -/
structure Shrunk (board later : Board) (records : List Record) : Prop where
  live : (later.live.map (·.id)).Sublist (board.live.map (·.id))
  queues : ∀ group, (later.queue group).Sublist (board.queue group)
  records : ∀ record ∈ records, record.isSubmission = false

theorem aged_shrunk (aged : Aged board log) {records : List Record}
    (shrunk : Shrunk board later records) : Aged later (records ++ log) := by
  constructor
  case live =>
    exact (aged.live.sublist shrunk.live).imp (before_later shrunk.records).mpr
  case queues =>
    intro group
    exact ((aged.queues group).sublist (shrunk.queues group)).imp
      (before_later shrunk.records).mpr

theorem shrunk_restated {change : Ticket → Ticket} {records : List Record}
    (restates : Restates change) (live : later.live = board.live.map change)
    (queues : ∀ group, (later.queue group).Sublist (board.queue group))
    (silent : ∀ record ∈ records, record.isSubmission = false) :
    Shrunk board later records := by
  refine ⟨?_, queues, silent⟩
  simp [live, Function.comp_def, restates.id]

theorem scan_sublist (groups : List Nat) : ∀ (board : Board) (group : Nat),
    ((board.scan groups).2.queue group).Sublist (board.queue group) := by
  have taken (board : Board) (first group : Nat) :
      ((board.setQueue first (board.takeQueued (board.queue first)).2).queue group).Sublist
        (board.queue group) := by
    by_cases same : group = first
    · simpa [Board.setQueue, same] using takeQueued_sublist board (board.queue first)
    · simp [Board.setQueue, same]
  induction groups with
  | nil => exact fun board group => List.Sublist.refl _
  | cons first rest rest_shorter =>
      intro board group
      have shorter := taken board first group
      unfold Board.scan
      split
      · rename_i id left found
        rwa [found] at shorter
      · rename_i left found
        rw [found] at shorter
        exact (rest_shorter _ group).trans shorter

theorem shrunk_fetch (board : Board) (client : ClientId) (groups : GroupMask) {records : List Record}
    (silent : ∀ record ∈ records, record.isSubmission = false) :
    Shrunk board (board.fetch client groups).2 records := by
  have scanned := (Board.scan_scanned groups.groups board).live
  have queues := scan_sublist groups.groups board
  have stays : Shrunk board board records :=
    ⟨List.Sublist.refl _, fun _ => List.Sublist.refl _, silent⟩
  unfold Board.fetch
  split
  · exact stays
  · split
    · exact stays
    · split <;> rename_i found <;> rw [found] at scanned queues
      · exact shrunk_restated restates_none (scanned.trans (List.map_id _).symm) queues silent
      · exact shrunk_restated (restates_state _ (.assigned client)) (congrArg (List.map _) scanned)
          queues silent

theorem shrunk_respond (board : Board) (client : ClientId) (response : Response)
    {records : List Record} (silent : ∀ record ∈ records, record.isSubmission = false) :
    Shrunk board (board.respond client response).2 records := by
  have stays : Shrunk board board records :=
    ⟨List.Sublist.refl _, fun _ => List.Sublist.refl _, silent⟩
  unfold Board.respond
  split
  · split
    · exact shrunk_restated (restates_state _ _) rfl (fun _ => List.Sublist.refl _) silent
    · exact stays
  · exact stays

theorem shrunk_retire {ticket : Ticket} (got : board.get? ticket.id = some ticket)
    {records : List Record} (silent : ∀ record ∈ records, record.isSubmission = false) :
    Shrunk board (board.retire ticket.id) records := by
  refine ⟨?_, ?_, silent⟩
  · rw [retire_live got]
    exact List.filter_sublist.map _
  · intro group
    simp only [Board.retire, got, Board.setQueue]
    split
    · rename_i same
      exact same ▸ List.filter_sublist
    · exact List.Sublist.refl _

/-- Only a submission puts a ticket on the board. -/
theorem move_shrunk (board : Board) {move : Move}
    (other : ∀ group task event, move ≠ .submit group task event) :
    Shrunk board (move.on board).1 (move.on board).2 := by
  have same (group : Nat) : (board.queue group).Sublist (board.queue group) := List.Sublist.refl _
  cases move with
  | submit group task event => exact absurd rfl (other group task event)
  | fetch client groups =>
      rw [fetch_moves]
      refine shrunk_fetch board client groups ?_
      simp only [Move.on]
      split <;> simp [Record.isSubmission]
  | respond client response =>
      rw [respond_moves]
      refine shrunk_respond board client response ?_
      simp only [Move.on]
      split <;> simp [Record.isSubmission]
  | failClient client orphaned => exact shrunk_restated (restates_failed _) rfl same (by simp [Move.on])
  | failQueued id =>
      simp only [Move.on, Board.failQueued]
      split
      · exact shrunk_restated (restates_state id .failed) rfl same (by simp)
      · exact shrunk_restated restates_none (List.map_id _).symm same (by simp)
  | attach client => exact shrunk_restated restates_none (List.map_id _).symm same (by simp [Move.on])
  | shutdown =>
      exact shrunk_restated (restates_failed _) rfl (fun _ => List.nil_sublist _) (by simp [Move.on])
  | finish id interrupted expired =>
      simp only [Move.on]
      split
      · rename_i ticket outcome got verdict
        obtain ⟨_, rfl⟩ := Board.get?_live got
        exact shrunk_retire got (by simp [Record.isSubmission])
      · exact shrunk_restated restates_none (List.map_id _).symm same (by simp)

theorem aged_submit (aged : Aged board log) (consistent : Consistent board log) (group : Nat)
    (task : Personality) (event : Event)
    (free : (board.submit group task event).1 ∉ board.live.map (·.id)) :
    Aged (board.submit group task event).2
      (.submitted (board.submit group task event).1 group :: log) := by
  have queues := submit_queues board group task event
  have live := submit_live board group task event
  generalize (board.submit group task event).1 = new at free queues live
  generalize (board.submit group task event).2 = later at queues live
  -- What is added last to a list of older tickets is the youngest of it.
  have extended {ids : List TicketId} (order : ids.Pairwise (Before log))
      (known : ∀ id ∈ ids, id ∈ board.live.map (·.id)) :
      (ids ++ [new]).Pairwise (Before (.submitted new group :: log)) := by
    have old {id : TicketId} (member : id ∈ ids) : id ≠ new :=
      fun equal => free (equal ▸ known id member)
    refine List.pairwise_append.mpr ⟨?_, List.pairwise_singleton _ _, ?_⟩
    · refine order.imp_of_mem ?_
      intro left right member _ before
      exact before_submitted (old member) (.inr before)
    · intro left member right last
      exact before_submitted (old member) (.inl (List.mem_singleton.mp last))
  have queued (other : Nat) : ∀ id ∈ board.queue other, id ∈ board.live.map (·.id) := by
    intro id member
    obtain ⟨ticket, inside, rfl, _⟩ := consistent.queues other id member
    exact List.mem_map_of_mem inside
  constructor
  case live =>
    rw [live]
    simpa using extended aged.live fun _ member => member
  case queues =>
    intro other
    rw [queues]
    split
    · exact extended (aged.queues _) (queued _)
    · exact (List.pairwise_append.mp (extended (aged.queues other) (queued other))).1

theorem aged_move (aged : Aged board log) (consistent : Consistent board log) (move : Move) :
    Aged (move.on board).1 ((move.on board).2 ++ log) := by
  cases move with
  | submit group task event =>
      by_cases refused : (board.submit group task event).1 = 0
      · simpa [Move.on, refused] using aged
      · have submitted := aged_submit aged consistent group task event (allocate_free refused)
        simpa [Move.on, refused] using submitted
  | fetch | respond | failClient | failQueued | attach | shutdown | finish =>
      exact aged_shrunk aged (move_shrunk board fun _ _ _ => Move.noConfusion)

/-- What holds of a board and its log in every run. -/
structure Ordered (board : Board) (log : List Record) : Prop where
  consistent : Consistent board log
  placed : Placed board
  aged : Aged board log

theorem ordered_after (moves : List Move) :
    Ordered (Play.after moves).board (Play.after moves).log := by
  have further (moves : List Move) : ∀ play : Play, Ordered play.board play.log →
      Ordered (moves.foldl Play.move play).board (moves.foldl Play.move play).log := by
    induction moves with
    | nil => exact fun play ordered => ordered
    | cons move rest rest_further =>
        intro play ordered
        refine rest_further (play.move move) ⟨?_, ?_, ?_⟩
        · exact consistent_move ordered.consistent move
        · exact placed_move ordered.placed ordered.consistent move
        · exact aged_move ordered.aged ordered.consistent move
  exact further moves Play.start ⟨consistent_start, placed_start, aged_start⟩

/-! ### What a scan finds -/

/-- The first of a kind in a list in some order comes before all others of it. -/
theorem find?_before {α : Type} {order : α → α → Prop} {kind : α → Bool} {items : List α}
    (ordered : items.Pairwise order) {first : α} (found : items.find? kind = some first)
    {other : α} (member : other ∈ items) (same : kind other = true) (different : other ≠ first) :
    order first other := by
  obtain ⟨_, passed, rest, split, unlike⟩ := List.find?_eq_some_iff_append.mp found
  rw [split] at ordered member
  have behind : other ∈ rest := by
    rcases List.mem_append.mp member with ahead | here
    · simpa [same] using unlike other ahead
    · exact (List.mem_cons.mp here).resolve_left different
  exact (List.pairwise_cons.mp (List.pairwise_append.mp ordered).2.1).1 other behind

theorem takeQueued_first (board : Board) (ids : List TicketId) :
    (board.takeQueued ids).1 = ids.find? board.isQueued := by
  induction ids with
  | nil => rfl
  | cons first rest rest_first =>
      unfold Board.takeQueued
      cases queued : board.isQueued first with
      | true => simp [queued]
      | false => simpa [queued] using rest_first

/-- A scan finds the first queued ticket of the first queue that has one. -/
theorem scan_first {groups : List Nat} {front : Nat → Option TicketId} : ∀ board : Board,
    groups.Nodup → (∀ group ∈ groups, (board.queue group).find? board.isQueued = front group) →
      (board.scan groups).1 = groups.findSome? front := by
  induction groups with
  | nil => exact fun _ _ _ => rfl
  | cons group rest rest_first =>
      intro board once fronts
      obtain ⟨new, further⟩ := List.nodup_cons.mp once
      have taken := takeQueued_first board (board.queue group)
      rw [fronts group List.mem_cons_self] at taken
      unfold Board.scan
      split
      · rename_i id left found
        rw [found] at taken
        simp [← taken]
      · rename_i left found
        rw [found] at taken
        rw [List.findSome?_cons, ← taken]
        refine rest_first _ further ?_
        -- The queues that are still to be scanned have not changed.
        intro other member
        have different : other ≠ group := fun equal => new (equal ▸ member)
        have untouched : (board.setQueue group left).queue other = board.queue other := by
          simp [Board.setQueue, different]
        rw [untouched]
        exact fronts other (List.mem_cons_of_mem group member)

theorem groups_ascending (groups : GroupMask) : groups.groups.Pairwise (· < ·) :=
  List.pairwise_lt_range.filter _

theorem mem_groups (groups : GroupMask) (group : Nat) :
    group ∈ groups.groups ↔ group < groupCount ∧ groups.contains group = true := by
  simp [GroupMask.groups]


/-- A live ticket that a client with some groups may be handed. -/
structure Offered (board : Board) (groups : GroupMask) (ticket : Ticket) : Prop where
  member : ticket ∈ board.live
  queued : ticket.state = .queued
  fits : Fits groups ticket.group

theorem slot_small (group : Nat) : Board.slot group < groupCount := Nat.mod_lt group (by decide)

theorem offered_listed {groups : GroupMask} {ticket : Ticket}
    (offered : Offered board groups ticket) : Board.slot ticket.group ∈ groups.groups :=
  (mem_groups groups _).mpr ⟨slot_small _, offered.fits⟩

theorem offered_stands (ordered : Ordered board log) {groups : GroupMask} {ticket : Ticket}
    (offered : Offered board groups ticket) :
    ticket.id ∈ board.queue (Board.slot ticket.group) ∧ board.isQueued ticket.id = true :=
  ⟨ordered.placed.queued ticket offered.member offered.queued,
    isQueued_of_live ordered.consistent offered.member offered.queued⟩

/-- The one that was submitted before all others of its kind. -/
structure Eldest (log : List Record) (kind : Ticket → Prop) (ticket : Ticket) : Prop where
  own : kind ticket
  older : ∀ other, kind other → other ≠ ticket → Before log ticket.id other.id

theorem eldest_unique {kind : Ticket → Prop} {left right : Ticket}
    (first : Eldest log kind left) (same : Eldest log kind right) : left = right := by
  by_contra different
  have before := first.older right same.own (Ne.symm different)
  have after := same.older left first.own different
  exact absurd (Nat.lt_trans before after) (Nat.lt_irrefl _)

/-- Live tickets stand in the order of their submission, so one of the offered
ones was submitted first. -/
theorem eldest_offered (ordered : Ordered board log) {groups : GroupMask}
    (some : ∃ ticket, Offered board groups ticket) :
    ∃ ticket, Eldest log (Offered board groups) ticket := by
  let kind (ticket : Ticket) : Bool :=
    ticket.state == .queued && groups.contains (Board.slot ticket.group)
  have offered_iff (ticket : Ticket) :
      Offered board groups ticket ↔ ticket ∈ board.live ∧ kind ticket = true := by
    constructor
    · rintro ⟨member, queued, fits⟩
      exact ⟨member, by simpa [kind, queued] using (show groups.contains _ = true from fits)⟩
    · rintro ⟨member, same⟩
      simp only [kind, Bool.and_eq_true, beq_iff_eq] at same
      exact ⟨member, same.1, same.2⟩
  cases found : board.live.find? kind with
  | none =>
      obtain ⟨ticket, offered⟩ := some
      obtain ⟨member, same⟩ := (offered_iff ticket).mp offered
      exact absurd same (List.find?_eq_none.mp found ticket member)
  | some first =>
      refine ⟨first, ?_, ?_⟩
      · exact (offered_iff first).mpr ⟨List.mem_of_find?_eq_some found, List.find?_some found⟩
      · intro other offered different
        obtain ⟨member, same⟩ := (offered_iff other).mp offered
        exact find?_before (List.pairwise_map.mp ordered.aged.live) found member same different

/-- An offered ticket with none offered in a lower queue. -/
structure Lowest (board : Board) (groups : GroupMask) (ticket : Ticket) : Prop where
  offered : Offered board groups ticket
  lowest : ∀ other, Offered board groups other → Board.slot ticket.group ≤ Board.slot other.group

theorem scan_eldest (ordered : Ordered board log) {groups : GroupMask} {ticket : Ticket}
    {left : Board} (scan : board.scan groups.groups = (some ticket.id, left))
    (offered : Offered board groups ticket) : Eldest log (Lowest board groups) ticket := by
  have ascending := groups_ascending groups
  have found := scan_first board (ascending.imp Nat.ne_of_lt) fun _ _ => rfl
  rw [scan] at found
  obtain ⟨before, group, after, split, front, empty⟩ := List.findSome?_eq_some_iff.mp found.symm
  have own : Board.slot ticket.group = group := by
    obtain ⟨holder, member, named, slot⟩ :=
      ordered.consistent.queues group ticket.id (List.mem_of_find?_eq_some front)
    rwa [consistent_unique ordered.consistent member offered.member named] at slot
  have lowest : ∀ other, Offered board groups other →
      Board.slot ticket.group ≤ Board.slot other.group := by
    intro other waiting
    obtain ⟨stands, queued⟩ := offered_stands ordered waiting
    have listed := offered_listed waiting
    rw [split] at listed ascending
    have rising := (List.pairwise_cons.mp (List.pairwise_append.mp ascending).2.1).1
    -- Were its queue lower, it would have been scanned and found empty.
    rcases List.mem_append.mp listed with ahead | here
    · exact absurd queued (List.find?_eq_none.mp (empty _ ahead) other.id stands)
    · rcases List.mem_cons.mp here with same | behind
      · exact Nat.le_of_eq (own.trans same.symm)
      · exact Nat.le_of_lt (own ▸ rising _ behind)
  refine ⟨⟨offered, lowest⟩, ?_⟩
  intro other waiting different
  obtain ⟨stands, queued⟩ := offered_stands ordered waiting.offered
  have same : Board.slot other.group = group :=
    own ▸ Nat.le_antisymm (waiting.lowest ticket offered) (lowest other waiting.offered)
  refine find?_before (ordered.aged.queues group) front (same ▸ stands) queued fun equal => ?_
  exact different (consistent_unique ordered.consistent waiting.offered.member offered.member equal)

theorem scan_empty (ordered : Ordered board log) {groups : GroupMask} {left : Board}
    (scan : board.scan groups.groups = (none, left)) (ticket : Ticket) :
    ¬ Offered board groups ticket := by
  intro offered
  have found := scan_first board
    ((groups_ascending groups).imp Nat.ne_of_lt) fun _ _ => rfl
  rw [scan] at found
  obtain ⟨stands, queued⟩ := offered_stands ordered offered
  have empty := List.findSome?_eq_none_iff.mp found.symm _ (offered_listed offered)
  exact List.find?_eq_none.mp empty ticket.id stands queued

/-! ### Who is served first -/

/-- One pass of a fetch gives a client this ticket and changes no other. -/
structure Hands (board : Board) (client : ClientId) (groups : GroupMask) (ticket : Ticket) :
    Prop where
  request : (board.fetch client groups).1 = .ok (some ticket.request)
  live : (board.fetch client groups).2.live = board.live.map fun other =>
    if other.id = ticket.id then { other with state := .assigned client, stirred := true }
    else other

theorem hands_one (consistent : Consistent board log) {client : ClientId} {groups : GroupMask}
    {left right : Ticket} (inside : left ∈ board.live) (member : right ∈ board.live)
    (first : Hands board client groups left) (other : Hands board client groups right) :
    left = right := by
  have same := first.request.symm.trans other.request
  simp only [Except.ok.injEq, Option.some.injEq] at same
  apply consistent_unique consistent inside member
  rw [← consistent.requests left inside, ← consistent.requests right member, same]

/-- What a pass does that is let through. -/
theorem fetch_hands (ordered : Ordered board log) {client : ClientId} (groups : GroupMask)
    (opened : board.closed = false) (present : client ∉ board.departed) :
    ((∀ ticket, ¬ Offered board groups ticket) ∧ (board.fetch client groups).1 = .ok none ∧
        (board.fetch client groups).2.live = board.live) ∨
      ∃ ticket, Eldest log (Lowest board groups) ticket ∧ Hands board client groups ticket := by
  have scanned := (Board.scan_scanned groups.groups board).live
  have fetched := fetch_fetched ordered.consistent client groups
  generalize same : board.fetch client groups = pass at fetched
  obtain ⟨result, later⟩ := pass
  cases fetched with
  | closed shut => exact absurd (opened.symm.trans shut) Bool.false_ne_true
  | departed _ gone => exact absurd gone present
  | nothing _ _ scan =>
      rw [scan] at scanned
      exact .inl ⟨scan_empty ordered scan, rfl, scanned⟩
  | @handed ticket left _ _ scan member queued fits =>
      rw [scan] at scanned
      refine .inr ⟨ticket, scan_eldest ordered scan ⟨member, queued, fits⟩, ?_, ?_⟩
      · rw [same]
      · rw [same]
        exact congrArg (List.map _) scanned

/-- In every run of a board and for every client that may fetch: a pass with
nothing offered returns none and changes no ticket. Otherwise it hands out the
oldest ticket of the lowest queue that has one to offer, so the oldest offered
ticket is the one handed out exactly if no lower queue offers another. -/
theorem eldest_handed_iff (moves : List Move) {client : ClientId} (groups : GroupMask)
    (opened : (Play.after moves).board.closed = false)
    (present : client ∉ (Play.after moves).board.departed) :
    ((¬ ∃ ticket, Offered (Play.after moves).board groups ticket) →
        ((Play.after moves).board.fetch client groups).1 = .ok none ∧
        ((Play.after moves).board.fetch client groups).2.live = (Play.after moves).board.live) ∧
      ((∃ ticket, Offered (Play.after moves).board groups ticket) →
        ∃ first eldest, Hands (Play.after moves).board client groups first ∧
          Eldest (Play.after moves).log (Lowest (Play.after moves).board groups) first ∧
          Eldest (Play.after moves).log (Offered (Play.after moves).board groups) eldest ∧
          (Hands (Play.after moves).board client groups eldest ↔
            ∀ other, Offered (Play.after moves).board groups other →
              Board.slot eldest.group ≤ Board.slot other.group)) := by
  have ordered := ordered_after moves
  generalize (Play.after moves).board = board at opened present ordered ⊢
  generalize (Play.after moves).log = log at ordered ⊢
  rcases fetch_hands ordered groups opened present with
    ⟨empty, nothing, same⟩ | ⟨first, oldest, handed⟩
  · exact ⟨fun _ => ⟨nothing, same⟩, fun ⟨ticket, offered⟩ => absurd offered (empty ticket)⟩
  · have offered := oldest.own.offered
    obtain ⟨eldest, senior⟩ := eldest_offered ordered ⟨first, offered⟩
    refine ⟨fun empty => absurd ⟨first, offered⟩ empty,
      fun _ => ⟨first, eldest, handed, oldest, senior, ?_, ?_⟩⟩
    · intro other
      obtain rfl := hands_one ordered.consistent offered.member senior.own.member handed other
      exact oldest.own.lowest
    · intro lowest
      have alone : Eldest log (Lowest board groups) eldest :=
        ⟨⟨senior.own, lowest⟩, fun other waiting => senior.older other waiting.offered⟩
      exact eldest_unique oldest alone ▸ handed

/-- Two events are sent to vetting, the later one in a lower group. -/
def crossedMoves : List Move :=
  [.submit 1 ⟨100, 100, 0, 0, 0, 0, "sh"⟩
      (.file ⟨.openFile, some "/srv/old.txt", 0, false, 0, 0, "ext4"⟩),
    .submit 0 ⟨101, 101, 0, 0, 0, 0, "sh"⟩
      (.file ⟨.openFile, some "/srv/new.txt", 0, false, 0, 0, "ext4"⟩)]

/-- A client of both groups is handed the younger ticket, and not the oldest. -/
theorem younger_ticket_handed :
    ∃ first eldest, Hands (Play.after crossedMoves).board 1 ⟨3⟩ first ∧ first.id = 2 ∧
      Eldest (Play.after crossedMoves).log (Offered (Play.after crossedMoves).board ⟨3⟩) eldest ∧
      eldest.id = 1 ∧ ¬ Hands (Play.after crossedMoves).board 1 ⟨3⟩ eldest := by
  obtain ⟨old, new, live, oldId, newId, oldSlot, newSlot, oldQueued, newQueued⟩ :
      ∃ old new : Ticket, (Play.after crossedMoves).board.live = [old, new] ∧ old.id = 1 ∧
        new.id = 2 ∧ Board.slot old.group = 1 ∧ Board.slot new.group = 0 ∧
        old.state = .queued ∧ new.state = .queued := ⟨_, _, rfl, rfl, rfl, rfl, rfl, rfl, rfl⟩
  have oldOffered : Offered (Play.after crossedMoves).board ⟨3⟩ old :=
    ⟨by simp [live], oldQueued, by rw [Fits, oldSlot]; decide⟩
  have newOffered : Offered (Play.after crossedMoves).board ⟨3⟩ new :=
    ⟨by simp [live], newQueued, by rw [Fits, newSlot]; decide⟩
  have present : 1 ∉ (Play.after crossedMoves).board.departed := List.not_mem_nil
  obtain ⟨first, eldest, handed, oldest, senior, exactly⟩ :=
    (eldest_handed_iff crossedMoves ⟨3⟩ rfl present).2 ⟨new, newOffered⟩
  have lower : ¬ Board.slot old.group ≤ Board.slot new.group := by simp [oldSlot, newSlot]
  have known {ticket : Ticket} (offered : Offered (Play.after crossedMoves).board ⟨3⟩ ticket) :
      ticket = old ∨ ticket = new := by simpa [live] using offered.member
  obtain rfl : first = new := by
    refine (known oldest.own.offered).resolve_left ?_
    rintro rfl
    exact lower (oldest.own.lowest new newOffered)
  obtain rfl : eldest = old := by
    refine (known senior.own).resolve_right ?_
    rintro rfl
    have before := senior.older old oldOffered (by rintro rfl; simp [oldId] at newId)
    rw [newId, oldId, Before] at before
    exact absurd before (by decide +kernel)
  exact ⟨first, eldest, handed, newId, senior, oldId,
    fun hands => lower (exactly.mp hands first newOffered)⟩

end Interception.Vetting
