import Interception.Proofs.Control.Calls

/-!
No ticket is stranded. As long as a ticket is queued, a client of its group is
on the list, or its submitter has still to look again, or a departure that
left the group without a client has still to fail it. A client that holds a
ticket is on the list or its departure is not over. Every step keeps this, so
once no vetting call and no departure is half done, each queued ticket has a
client of its group and each assigned one its client.
-/

namespace Interception.Vetting

variable {desk later : Desk}

/-! ### What the steps of a registration and a departure do -/

/-- A registration puts one client, under a number of its own, at the end. -/
theorem register_admits {control next : Controller} {name : String} {bits : UInt8} {pid : Int32}
    {id : ClientId} {records : List AuditRecord}
    (registered : control.register name bits pid = .ok (id, next, records)) :
    ∃ client, next.clients.members = control.clients.members ++ [client] ∧ client.id = id ∧
      id = (Identifier.allocate (control.clients.members.map (·.id)) control.clients.nextId).1 ∧
      next.clients.nextId =
        (Identifier.allocate (control.clients.members.map (·.id)) control.clients.nextId).2 := by
  unfold Controller.register at registered
  split at registered
  · cases registered
  · split at registered
    · cases registered
    · rename_i groups _
      split at registered
      · cases registered
      · rename_i admitted clients found
        unfold Clients.register? at found
        split at found
        · cases found
        · cases found
          cases registered
          exact ⟨_, rfl, rfl, rfl, rfl⟩

/-- A departing client is off the list, and the groups it leaves without a
client are known. -/
theorem dropClient_drops {control next : Controller} {id : ClientId} {former : Client}
    {orphaned : List Nat} (dropped : control.dropClient id = some (former, orphaned, next)) :
    former ∈ control.clients.members ∧ former.id = id ∧
      next = { control with clients := control.clients.unregister id, gauge := next.gauge } ∧
      orphaned = Controller.orphaned (control.clients.unregister id) former := by
  obtain ⟨client, got, same⟩ := Option.map_eq_some_iff.mp dropped
  cases same
  exact ⟨List.mem_of_find?_eq_some got, by simpa using List.find?_some got, rfl, rfl⟩

/-- Two clients of one number are one client. -/
theorem client_unique {clients : Clients} (numbered : (clients.members.map (·.id)).Nodup)
    {left right : Client} (leftMember : left ∈ clients.members)
    (rightMember : right ∈ clients.members) (same : left.id = right.id) : left = right :=
  List.inj_on_of_nodup_map numbered leftMember rightMember same

theorem serves_iff {clients : Clients} {group : Nat} :
    clients.serves group = true ↔
      ∃ client ∈ clients.members, client.groups.contains group = true := by
  simp [Clients.serves]

theorem contains_below {groups : GroupMask} {group : Nat}
    (contains : groups.contains group = true) : group < groupCount := by
  simp only [GroupMask.contains, Bool.and_eq_true, decide_eq_true_eq] at contains
  exact contains.1

theorem mem_unregister {clients : Clients} {id : ClientId} {client : Client} :
    client ∈ (clients.unregister id).members ↔ client ∈ clients.members ∧ client.id ≠ id := by
  simp [Clients.unregister]

/-- A group served before a departure is served after it or left orphaned. -/
theorem served_or_orphaned {clients : Clients} (numbered : (clients.members.map (·.id)).Nodup)
    {former : Client} (member : former ∈ clients.members) {group : Nat}
    (served : clients.serves group = true) :
    (clients.unregister former.id).serves group = true ∨
      group ∈ Controller.orphaned (clients.unregister former.id) former := by
  by_cases still : (clients.unregister former.id).serves group = true
  · exact .inl still
  · obtain ⟨client, inside, contains⟩ := serves_iff.mp served
    -- The client that served the group was the one that left.
    have own : client.id = former.id := by
      by_contra other
      exact still (serves_iff.mpr ⟨client, mem_unregister.mpr ⟨inside, other⟩, contains⟩)
    obtain rfl := client_unique numbered inside member own
    refine .inr (List.mem_filter.mpr ⟨?_, by simpa using still⟩)
    exact List.mem_filter.mpr ⟨List.mem_range.mpr (contains_below contains), contains⟩

/-! ### Who stands behind a ticket -/

namespace Desk

def Registered (desk : Desk) (client : ClientId) : Prop :=
  ∃ member ∈ desk.clients.members, member.id = client

/-- A client that is on the list or whose departure is not over. -/
def Known (desk : Desk) (client : ClientId) : Prop :=
  desk.Registered client ∨ ∃ departure ∈ desk.leaving, departure.1 = client

/-- Somebody will take the ticket or fail it. -/
def Expected (desk : Desk) (ticket : Ticket) : Prop :=
  desk.clients.serves ticket.group = true ∨ (ticket.id, ticket.group) ∈ desk.unchecked ∨
    ∃ departure ∈ desk.leaving, ticket.group ∈ departure.2

structure Staffed (desk : Desk) : Prop where
  consistent : ∃ log, Consistent desk.board log
  placed : Placed desk.board
  numbered : (desk.clients.members.map (·.id)).Nodup
  queued : ∀ ticket ∈ desk.board.live, ticket.state = .queued → desk.Expected ticket
  assigned : ∀ ticket ∈ desk.board.live, ∀ client, ticket.state = .assigned client →
    desk.Known client
  fetching : ∀ call ∈ desk.fetching, desk.Known call.1 ∨ call.1 ∈ desk.board.departed

theorem staffed_start (enabled : Bool) (rules : Rules) : Staffed (start enabled rules) := by
  refine ⟨⟨[], consistent_start⟩, placed_start, by simp [start, Controller.ofRules, Clients.none],
    ?_, ?_, by simp [start]⟩
  · simp [start, Controller.ofRules, Board.empty]
  · simp [start, Controller.ofRules, Board.empty]

theorem staffed_moved (staffed : Staffed desk) {move : Move}
    (board : later.board = (move.on desk.board).1)
    (numbered : (later.clients.members.map (·.id)).Nodup)
    (queued : ∀ ticket, Became desk.board move ticket → ticket.state = .queued →
      later.Expected ticket)
    (assigned : ∀ ticket client, Became desk.board move ticket → ticket.state = .assigned client →
      later.Known client)
    (fetching : ∀ call ∈ later.fetching, later.Known call.1 ∨ call.1 ∈ later.board.departed) :
    Staffed later := by
  obtain ⟨log, consistent⟩ := staffed.consistent
  have became {ticket : Ticket} (member : ticket ∈ later.board.live) :
      Became desk.board move ticket := move_became consistent (board ▸ member)
  refine ⟨⟨(move.on desk.board).2 ++ log, board ▸ consistent_move consistent move⟩,
    board ▸ placed_move staffed.placed consistent move, numbered, ?_, ?_, fetching⟩
  · exact fun ticket member state => queued ticket (became member) state
  · exact fun ticket member client state => assigned ticket client (became member) state

/-- A move that neither hands out nor creates a ticket. -/
theorem staffed_passive (staffed : Staffed desk) {move : Move} (passive : move.pends = false)
    (board : later.board = (move.on desk.board).1)
    (numbered : (later.clients.members.map (·.id)).Nodup)
    (queued : ∀ ticket ∈ desk.board.live, Spares move ticket → ticket.state = .queued →
      later.Expected ticket)
    (assigned : ∀ ticket ∈ desk.board.live, Spares move ticket → ∀ client,
      ticket.state = .assigned client → later.Known client)
    (fetching : ∀ call ∈ later.fetching, later.Known call.1 ∨ call.1 ∈ later.board.departed) :
    Staffed later := by
  refine staffed_moved staffed board numbered ?_ ?_ fetching
  · intro ticket became state
    obtain ⟨member, spared⟩ := became_pending passive became (.inl state)
    exact queued ticket member spared state
  · intro ticket client became state
    obtain ⟨member, spared⟩ := became_pending passive became (.inr ⟨client, state⟩)
    exact assigned ticket member spared client state

/-- A move that neither marks a client nor hands out or creates a ticket. -/
theorem staffed_quiet (staffed : Staffed desk) {move : Move}
    (board : later.board = (move.on desk.board).1) (clients : later.clients = desk.clients)
    (unchecked : later.unchecked = desk.unchecked) (leaving : later.leaving = desk.leaving)
    (fetching : later.fetching = desk.fetching)
    (departed : (move.on desk.board).1.departed = desk.board.departed)
    (passive : move.pends = false) : Staffed later := by
  have expected : later.Expected = desk.Expected := by
    unfold Expected
    rw [clients, unchecked, leaving]
  have known : later.Known = desk.Known := by
    unfold Known Registered
    rw [clients, leaving]
  refine staffed_passive staffed passive board (clients ▸ staffed.numbered) ?_ ?_ ?_
  · rw [expected]
    exact fun ticket member _ => staffed.queued ticket member
  · rw [known]
    exact fun ticket member _ => staffed.assigned ticket member
  · rw [fetching, known, board, departed]
    exact staffed.fetching

theorem staffed_submit (staffed : Staffed desk) (group : Nat) (task : Personality) (event : Event)
    (granted : (desk.control.submit group task event).1 ≠ 0) :
    Staffed (desk.submit group task event) := by
  have moved : Host.Moved (.submit group task event) desk.control
      (desk.control.submit group task event).2 := Host.submit_moved granted
  refine staffed_moved staffed moved.board staffed.numbered ?_ ?_ staffed.fetching
  · intro ticket became state
    cases became with
    | stays member spared =>
        rcases staffed.queued ticket member state with served | unchecked | orphaned
        · exact .inl served
        · exact .inr (.inl (List.mem_cons_of_mem _ unchecked))
        · exact .inr (.inr orphaned)
    | submitted granted => exact .inr (.inl List.mem_cons_self)
    | failed member pending doomed => cases state
  · intro ticket client became state
    cases became with
    | stays member spared => exact staffed.assigned ticket member client state
    | submitted granted => cases state
    | failed member pending doomed => cases state

theorem staffed_recheck (staffed : Staffed desk) (id : TicketId) (group : Nat) :
    Staffed (desk.step (.recheck id group)) := by
  simp only [step]
  split
  · -- Another ticket's recheck is still to come if it was.
    have others {ticket : Ticket} (other : (ticket.id, ticket.group) ≠ (id, group))
        (unchecked : (ticket.id, ticket.group) ∈ desk.unchecked) :
        (ticket.id, ticket.group) ∈ desk.unchecked.erase (id, group) :=
      (List.mem_erase_of_ne other).mpr unchecked
    by_cases served : desk.clients.serves group = true
    · rw [Controller.recheck, if_pos served]
      refine ⟨staffed.consistent, staffed.placed, staffed.numbered, ?_, staffed.assigned,
        staffed.fetching⟩
      intro ticket member state
      rcases staffed.queued ticket member state with standing | unchecked | orphaned
      · exact .inl standing
      · by_cases own : (ticket.id, ticket.group) = (id, group)
        · obtain ⟨_, rfl⟩ := Prod.mk.inj own
          exact .inl served
        · exact .inr (.inl (others own unchecked))
      · exact .inr (.inr orphaned)
    · rw [Controller.recheck, if_neg served]
      have departed : ((Move.failQueued id).on desk.board).1.departed = desk.board.departed :=
        (move_marks desk.board rfl).1
      have board : (desk.board.failQueued id) = ((Move.failQueued id).on desk.board).1 := rfl
      refine staffed_passive staffed rfl board staffed.numbered ?_ ?_ ?_
      · intro ticket member spared state
        rcases staffed.queued ticket member state with standing | unchecked | orphaned
        · exact .inl standing
        · by_cases own : (ticket.id, ticket.group) = (id, group)
          · exact absurd state (spared (Prod.mk.inj own).1)
          · exact .inr (.inl (others own unchecked))
        · exact .inr (.inr orphaned)
      · exact fun ticket member _ => staffed.assigned ticket member
      · intro call waiting
        rcases staffed.fetching call waiting with known | gone
        · exact .inl known
        · exact .inr (departed ▸ gone)
  · exact staffed

theorem staffed_register (staffed : Staffed desk) (name : String) (bits : UInt8) (pid : Int32) :
    Staffed (desk.step (.register name bits pid)) := by
  simp only [step]
  split
  · rename_i id next records registered
    split
    · exact staffed
    · rename_i granted
      have moved := Host.register_moved registered
      obtain ⟨client, members, named, drawn, _⟩ := register_admits registered
      -- Whoever was on the list still is.
      have registered {client : ClientId} (before : desk.Registered client) :
          (desk.withControl next).Registered client := by
        obtain ⟨member, inside, same⟩ := before
        exact ⟨member, members ▸ List.mem_append_left _ inside, same⟩
      have known {client : ClientId} (before : desk.Known client) :
          (desk.withControl next).Known client := before.imp_left registered
      refine staffed_passive staffed rfl moved.board ?_ ?_ ?_ ?_
      · have fresh : id ∉ desk.clients.members.map (·.id) := by
          rw [drawn] at granted ⊢
          exact allocate_free granted
        show (next.clients.members.map (·.id)).Nodup
        rw [members, List.map_append, List.nodup_append]
        refine ⟨staffed.numbered, by simp, ?_⟩
        rintro old inside _ last rfl
        rw [List.map_singleton, List.mem_singleton, named] at last
        exact fresh (last ▸ inside)
      · intro ticket member _ state
        rcases staffed.queued ticket member state with served | waits
        · obtain ⟨client, inside, contains⟩ := serves_iff.mp served
          have stays := members ▸ List.mem_append_left _ inside
          exact .inl (serves_iff.mpr ⟨client, stays, contains⟩)
        · exact .inr waits
      · intro ticket member _ client state
        exact known (staffed.assigned ticket member client state)
      · intro call waiting
        rcases staffed.fetching call waiting with before | departed
        · exact .inl (known before)
        · by_cases own : call.1 = id
          · exact .inl (.inl ⟨client, members ▸ List.mem_append_right _ (List.mem_singleton_self _),
              named.trans own.symm⟩)
          · refine .inr ?_
            show call.1 ∈ next.board.departed
            rw [moved.board]
            exact List.mem_filter.mpr ⟨departed, by simpa using own⟩
  · exact staffed

/-- A client is off the list and has its departure before it. -/
structure Left (desk later : Desk) (former : Client) : Prop where
  member : former ∈ desk.clients.members
  clients : later.clients = desk.clients.unregister former.id
  leaving : later.leaving =
    (former.id, Controller.orphaned (desk.clients.unregister former.id) former) :: desk.leaving
  board : later.board = desk.board
  unchecked : later.unchecked = desk.unchecked
  fetching : later.fetching = desk.fetching

theorem drop_left (desk : Desk) (id : ClientId) :
    desk.step (.drop id) = desk ∨ ∃ former, Left desk (desk.step (.drop id)) former := by
  simp only [step]
  split
  · rename_i former orphaned next dropped
    obtain ⟨member, rfl, same, rfl⟩ := dropClient_drops dropped
    have clients : next.clients = desk.clients.unregister former.id := by rw [same]
    have board : next.board = desk.board := by rw [same]
    exact .inr ⟨former, member, clients, rfl, board, rfl, rfl⟩
  · exact .inl rfl

theorem staffed_left (staffed : Staffed desk) {former : Client} (left : Left desk later former) :
    Staffed later := by
  have known {client : ClientId} (before : desk.Known client) : later.Known client := by
    rcases before with ⟨other, inside, named⟩ | ⟨departure, under, named⟩
    · by_cases own : other.id = former.id
      · exact .inr ⟨_, left.leaving ▸ List.mem_cons_self, own.symm.trans named⟩
      · exact .inl ⟨other, left.clients ▸ mem_unregister.mpr ⟨inside, own⟩, named⟩
    · exact .inr ⟨departure, left.leaving ▸ List.mem_cons_of_mem _ under, named⟩
  constructor
  case consistent => exact left.board ▸ staffed.consistent
  case placed => exact left.board ▸ staffed.placed
  case numbered =>
    rw [left.clients]
    exact (List.filter_sublist.map _).nodup staffed.numbered
  case queued =>
    intro ticket inside state
    rw [Expected, left.clients, left.unchecked, left.leaving]
    rcases staffed.queued ticket (left.board ▸ inside) state with served | waits | lost
    · rcases served_or_orphaned staffed.numbered left.member served with still | lost
      · exact .inl still
      · exact .inr (.inr ⟨_, List.mem_cons_self, lost⟩)
    · exact .inr (.inl waits)
    · obtain ⟨departure, under, lost⟩ := lost
      exact .inr (.inr ⟨departure, List.mem_cons_of_mem _ under, lost⟩)
  case assigned =>
    intro ticket inside client state
    exact known (staffed.assigned ticket (left.board ▸ inside) client state)
  case fetching =>
    rw [left.fetching, left.board]
    exact fun call waiting => (staffed.fetching call waiting).imp_left known

theorem staffed_drop (staffed : Staffed desk) (id : ClientId) :
    Staffed (desk.step (.drop id)) := by
  rcases drop_left desk id with idle | ⟨former, left⟩
  · rw [idle]
    exact staffed
  · exact staffed_left staffed left

theorem staffed_fail (staffed : Staffed desk) (id : ClientId) (orphaned : List Nat) :
    Staffed (desk.step (.fail id orphaned)) := by
  simp only [step]
  split
  · have board : desk.board.failClient id orphaned =
        ((Move.failClient id orphaned).on desk.board).1 := rfl
    refine staffed_passive staffed rfl board staffed.numbered ?_ ?_ ?_
    · intro ticket member spared state
      rcases staffed.queued ticket member state with served | unchecked | waits
      · exact .inl served
      · exact .inr (.inl unchecked)
      · obtain ⟨departure, under, lost⟩ := waits
        -- A ticket of an orphaned group has just failed.
        have other : departure ≠ (id, orphaned) := by
          rintro rfl
          exact spared.2 state lost
        exact .inr (.inr ⟨departure, (List.mem_erase_of_ne other).mpr under, lost⟩)
    · intro ticket member spared client state
      rcases staffed.assigned ticket member client state with listed | ⟨departure, under, rfl⟩
      · exact .inl listed
      · have other : departure ≠ (id, orphaned) := by
          rintro rfl
          exact spared.1 state
        exact .inr ⟨departure, (List.mem_erase_of_ne other).mpr under, rfl⟩
    · intro call waiting
      have departed {client : ClientId} (before : client = id ∨ client ∈ desk.board.departed) :
          client ∈ (desk.board.failClient id orphaned).departed := by
        by_cases own : client = id
        · exact own ▸ List.mem_cons_self
        · exact List.mem_cons_of_mem _
            (List.mem_filter.mpr ⟨before.resolve_left own, by simpa using own⟩)
      rcases staffed.fetching call waiting with (listed | ⟨departure, under, named⟩) | gone
      · exact .inl (.inl listed)
      · by_cases own : departure = (id, orphaned)
        · exact .inr (departed (.inl (named ▸ congrArg Prod.fst own)))
        · exact .inl (.inr ⟨departure, (List.mem_erase_of_ne own).mpr under, named⟩)
      · exact .inr (departed (.inr gone))
  · exact staffed

theorem staffed_look (staffed : Staffed desk) (id : ClientId) :
    Staffed (desk.step (.look id)) := by
  simp only [step]
  split
  · rename_i groups found
    refine { staffed with fetching := ?_ }
    intro call waiting
    rcases List.mem_cons.mp waiting with rfl | before
    · unfold Controller.fetchGroups at found
      split at found
      · rename_i client got
        have named : client.id = id := by simpa using List.find?_some got
        exact .inl (.inl ⟨client, List.mem_of_find?_eq_some got, named⟩)
      · cases found
    · exact staffed.fetching call before
  · exact staffed

theorem staffed_pass (staffed : Staffed desk) (id : ClientId) (groups : GroupMask) :
    Staffed (desk.step (.pass id groups)) := by
  simp only [step]
  split
  · rename_i waiting
    have board : (desk.withControl (desk.control.fetchPass id groups).2).board =
        ((Move.fetch id groups).on desk.board).1 :=
      (Host.fetchPass_moved desk.control id groups).board
    have departed : ((Move.fetch id groups).on desk.board).1.departed = desk.board.departed :=
      (move_marks desk.board rfl).1
    have clients : (desk.withControl (desk.control.fetchPass id groups).2).clients =
        desk.clients := fetchPass_clients desk.control id groups
    have known {client : ClientId} (before : desk.Known client) :
        (desk.withControl (desk.control.fetchPass id groups).2).Known client := by
      rcases before with listed | departing
      · obtain ⟨member, inside, named⟩ := listed
        exact .inl ⟨member, clients ▸ inside, named⟩
      · exact .inr departing
    refine staffed_moved staffed board (clients ▸ staffed.numbered) ?_ ?_ ?_
    · intro ticket became state
      cases became with
      | stays member spared =>
          exact (staffed.queued ticket member state).imp_left fun served => clients ▸ served
      | handed opened present member queued => cases state
      | failed member pending doomed => cases state
    · intro ticket client became state
      cases became with
      | stays member spared => exact known (staffed.assigned ticket member client state)
      | handed opened present member queued =>
          cases state
          exact known ((staffed.fetching _ waiting).resolve_right present)
      | failed member pending doomed => cases state
    · rw [board, departed]
      exact fun call under => (staffed.fetching call under).imp_left known
  · exact staffed

theorem staffed_finish (staffed : Staffed desk) (id : TicketId) (interrupted expired : Bool) :
    Staffed (desk.step (.finish id interrupted expired)) := by
  simp only [step]
  split
  · exact staffed
  · split
    · rename_i ticket outcome got verdict
      exact staffed_quiet staffed (Host.finish_moved got verdict).board rfl rfl rfl rfl
        (move_marks desk.board rfl).1 rfl
    · exact staffed

theorem staffed_respond (staffed : Staffed desk) (id : ClientId) (response : Response) :
    Staffed (desk.step (.respond id response)) := by
  have moved := Host.respond_moved desk.control id response
  exact staffed_quiet staffed moved.board (respond_clients desk.control id response) rfl rfl rfl
    (move_marks desk.board rfl).1 rfl

theorem staffed_shutdown (staffed : Staffed desk) : Staffed (desk.step .shutdown) :=
  staffed_quiet staffed (Host.shutdown_moved desk.control).board rfl rfl rfl rfl rfl rfl

theorem staffed_step (staffed : Staffed desk) (step : Step) : Staffed (desk.step step) := by
  cases step with
  | submit group task event =>
      have submits : (Step.submit group task event).submits = true := rfl
      rcases step_submits desk submits with idle | ⟨_, _, _, granted, submitted⟩
      · rw [idle]
        exact staffed
      · rw [submitted]
        exact staffed_submit staffed _ _ _ granted
  | recheck ticket group => exact staffed_recheck staffed ticket group
  | finish ticket interrupted expired => exact staffed_finish staffed ticket interrupted expired
  | register name bits pid => exact staffed_register staffed name bits pid
  | drop client => exact staffed_drop staffed client
  | fail client orphaned => exact staffed_fail staffed client orphaned
  | look client => exact staffed_look staffed client
  | pass client groups => exact staffed_pass staffed client groups
  | respond client response => exact staffed_respond staffed client response
  | shutdown => exact staffed_shutdown staffed

theorem staffed_after (enabled : Bool) (rules : Rules) (steps : List Step) :
    Staffed (after enabled rules steps) :=
  run_keeps Staffed (fun _ step staffed => staffed_step staffed step) steps _
    (staffed_start enabled rules)

/-- In every run, whenever no vetting call stands between its two looks and no
departure is half done, each queued ticket is exactly once in the queue of its
own group and in no other, a client on the list serves that group, and each
ticket that was handed out is held by a client on the list. -/
theorem no_ticket_stranded (enabled : Bool) (rules : Rules) (steps : List Step)
    (checked : (after enabled rules steps).unchecked = [])
    (left : (after enabled rules steps).leaving = []) :
    let desk := after enabled rules steps
    ∀ ticket ∈ desk.board.live,
      (ticket.state = .queued →
        (∀ group, (desk.board.queue group).count ticket.id =
          if group = ticket.group then 1 else 0) ∧
        desk.clients.serves ticket.group = true) ∧
      ∀ client, ticket.state = .assigned client → desk.Registered client := by
  intro desk ticket member
  have staffed : Staffed desk := staffed_after enabled rules steps
  constructor
  · intro queued
    have served : desk.clients.serves ticket.group = true := by
      simpa [Expected, checked, left, desk] using staffed.queued ticket member queued
    refine ⟨fun group => ?_, served⟩
    -- A group that is served is one of the eight, so its queue is its own.
    have own : Board.slot ticket.group = ticket.group := by
      obtain ⟨client, _, contains⟩ := serves_iff.mp served
      exact Nat.mod_eq_of_lt (contains_below contains)
    split
    · rename_i same
      have once := placed_once staffed.placed member queued
      rwa [own, ← same] at once
    · rename_i other
      obtain ⟨log, consistent⟩ := staffed.consistent
      refine List.count_eq_zero.mpr fun inside => ?_
      obtain ⟨found, standing, named, slot⟩ := consistent.queues group ticket.id inside
      obtain rfl := consistent_unique consistent standing member named
      exact other (slot.symm.trans own)
  · intro client assigned
    simpa [Known, left, desk] using staffed.assigned ticket member client assigned

/-! A client holds the first of two tickets and has still to fetch the other. -/

def lenientRules : Rules := ⟨1000, 1000, false, false, fun _ => true, ⟨[], 0, false⟩, .allow⟩

def callingTask : Personality := ⟨1, 1, 0, 0, 0, 0, "sh"⟩

def openEvent : Event := .file ⟨.openFile, some "/srv/a.txt", 0, false, 0, 0, "ext4"⟩

def busySteps : List Step :=
  [.register "scanner" 1 100, .submit 0 callingTask openEvent, .submit 0 callingTask openEvent,
    .recheck 1 0, .recheck 2 0, .look 1, .pass 1 ⟨1⟩]

theorem busy_desk_served :
    let desk := after true lenientRules busySteps
    desk.board.live.map (·.state) = [.assigned 1, .queued] ∧ desk.Registered 1 ∧
      (desk.board.queue 0).count 2 = 1 ∧ desk.clients.serves 0 = true := by
  intro desk
  have states : desk.board.live.map (·.state) = [.assigned 1, .queued] := by decide +kernel
  have attended := no_ticket_stranded true lenientRules busySteps (by decide +kernel)
    (by decide +kernel)
  obtain ⟨_, held⟩ := attended _ List.mem_cons_self
  obtain ⟨waits, _⟩ := attended _ (List.mem_cons_of_mem _ List.mem_cons_self)
  obtain ⟨once, served⟩ := waits (by decide +kernel)
  exact ⟨states, held 1 (by decide +kernel), once 0, served⟩

end Desk

end Interception.Vetting
