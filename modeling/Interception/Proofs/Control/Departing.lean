import Interception.Proofs.Control.Staffing

/-!
What a departure does. It takes one client off the list, fails the tickets
that the client holds and the queued ones of the groups it leaves without a
client, and touches nothing else. From then on, until a client comes on the
list under its number again, it is given no ticket and no answer of its counts.
-/

namespace Interception.Vetting.Desk

variable {desk later : Desk}

/-! ### One departure -/

/-- The tickets that fail when a client leaves. -/
def Falls (desk : Desk) (client : Client) (ticket : Ticket) : Prop :=
  ticket.state = .assigned client.id ∨
    (ticket.state = .queued ∧ client.groups.contains ticket.group = true ∧
      (desk.clients.unregister client.id).serves ticket.group = false)

instance (desk : Desk) (client : Client) (ticket : Ticket) :
    Decidable (desk.Falls client ticket) :=
  inferInstanceAs (Decidable (_ ∨ _))

theorem mem_orphaned {clients : Clients} {client : Client} {group : Nat} :
    group ∈ Controller.orphaned clients client ↔
      client.groups.contains group = true ∧ clients.serves group = false := by
  simp only [Controller.orphaned, GroupMask.groups, List.mem_filter, List.mem_range,
    Bool.not_eq_true']
  constructor
  · rintro ⟨⟨_, contains⟩, unserved⟩
    exact ⟨contains, unserved⟩
  · rintro ⟨contains, unserved⟩
    exact ⟨⟨contains_below contains, contains⟩, unserved⟩

/-- What a departure changes and what it leaves as it was. -/
structure Departs (desk : Desk) (client : Client) (later : Desk) : Prop where
  clients : later.clients = desk.clients.unregister client.id
  live : later.board.live = desk.board.live.map fun ticket =>
    if desk.Falls client ticket then { ticket with state := .failed, stirred := true } else ticket
  departed : later.board.departed =
    client.id :: desk.board.departed.filter (· != client.id)
  board : later.board = { desk.board with
    live := later.board.live, departed := later.board.departed }
  control : later.control = { desk.control with
    clients := later.clients, board := later.board, gauge := later.clients.count }
  calls : later = { desk with control := later.control }

theorem get?_of_listed (staffed : Staffed desk) {client : Client}
    (listed : client ∈ desk.clients.members) : desk.clients.get? client.id = some client := by
  cases got : desk.clients.get? client.id with
  | none => exact absurd (beq_self_eq_true client.id) (List.find?_eq_none.mp got client listed)
  | some found =>
      have named : found.id = client.id := by simpa using List.find?_some got
      rw [client_unique staffed.numbered (List.mem_of_find?_eq_some got) listed named]

theorem dropClient_listed (staffed : Staffed desk) {client : Client}
    (listed : client ∈ desk.clients.members) :
    desk.control.dropClient client.id = some (client,
      Controller.orphaned (desk.clients.unregister client.id) client,
      { desk.control with
        clients := desk.clients.unregister client.id
        gauge := (desk.clients.unregister client.id).count }) := by
  rw [Controller.dropClient, get?_of_listed staffed listed]
  rfl

theorem unregister_departs (staffed : Staffed desk) {client : Client}
    (listed : client ∈ desk.clients.members) : Departs desk client (desk.unregister client.id) := by
  have unregistered : desk.unregister client.id = desk.withControl
      { desk.control with
        clients := desk.clients.unregister client.id
        gauge := (desk.clients.unregister client.id).count
        board := desk.board.failClient client.id
          (Controller.orphaned (desk.clients.unregister client.id) client) } := by
    rw [unregister, Controller.unregister, dropClient_listed staffed listed]
  rw [unregistered]
  refine ⟨rfl, ?_, rfl, rfl, rfl, rfl⟩
  refine List.map_congr_left fun ticket _ => if_congr ?_ rfl rfl
  simp only [Bool.or_eq_true, Bool.and_eq_true, beq_iff_eq, decide_eq_true_eq, mem_orphaned, Falls]

/-- A departure is made of its two steps, so it leaves nothing stranded. -/
theorem staffed_unregister (staffed : Staffed desk) {client : Client}
    (listed : client ∈ desk.clients.members) : Staffed (desk.unregister client.id) := by
  rw [unregister_steps desk (dropClient_listed staffed listed)]
  exact staffed_step (staffed_step staffed _) _

/-- A queued ticket that nobody serves after a departure falls with it, or its
submitter has still to look again, or an earlier departure has still to fail
it. -/
theorem falls_or_expected (staffed : Staffed desk) {client : Client}
    (listed : client ∈ desk.clients.members) {ticket : Ticket} (member : ticket ∈ desk.board.live)
    (queued : ticket.state = .queued)
    (unserved : (desk.clients.unregister client.id).serves ticket.group = false) :
    desk.Falls client ticket ∨ (ticket.id, ticket.group) ∈ desk.unchecked ∨
      ∃ departure ∈ desk.leaving, ticket.group ∈ departure.2 := by
  refine (staffed.queued ticket member queued).imp_left fun served => ?_
  rcases served_or_orphaned staffed.numbered listed served with still | lost
  · exact absurd (still.symm.trans unserved) (by simp)
  · exact .inr ⟨queued, mem_orphaned.mp lost⟩

theorem falls_iff (staffed : Staffed desk) (checked : desk.unchecked = [])
    (settled : desk.leaving = []) {client : Client} (listed : client ∈ desk.clients.members)
    {ticket : Ticket} (member : ticket ∈ desk.board.live) :
    desk.Falls client ticket ↔ ticket.state = .assigned client.id ∨
      (ticket.state = .queued ∧
        (desk.clients.unregister client.id).serves ticket.group = false) := by
  constructor
  · exact Or.imp_right fun ⟨queued, _, unserved⟩ => ⟨queued, unserved⟩
  · rintro (held | ⟨queued, unserved⟩)
    · exact .inl held
    · simpa [checked, settled] using falls_or_expected staffed listed member queued unserved

/-! ### Those who have left -/

/-- Off the list, marked as departed and without a ticket. -/
structure Dismissed (client : ClientId) (desk : Desk) : Prop where
  unlisted : ¬ desk.Registered client
  departed : client ∈ desk.board.departed
  unheld : ∀ ticket ∈ desk.board.live, ticket.state ≠ .assigned client

theorem dismissed_departs {client : Client} (departs : Departs desk client later) :
    Dismissed client.id later := by
  constructor
  case unlisted =>
    rintro ⟨member, listed, named⟩
    rw [departs.clients] at listed
    exact (mem_unregister.mp listed).2 named
  case departed =>
    rw [departs.departed]
    exact List.mem_cons_self
  case unheld =>
    intro ticket member
    rw [departs.live] at member
    obtain ⟨old, _, rfl⟩ := List.mem_map.mp member
    split
    · simp
    · rename_i stands
      exact fun held => stands (.inl held)

/-- A registration lets exactly the client fetch that it puts on the list. -/
theorem attach_registers {id : ClientId} {step : Step}
    (makes : desk.move? step = some (.attach id)) : (desk.step step).Registered id := by
  cases step with
  | register name bits pid =>
      simp only [move?] at makes
      split at makes
      · rename_i number next records registered
        split at makes
        · cases makes
        · rename_i granted
          cases makes
          obtain ⟨client, members, named, _⟩ := register_admits registered
          simp only [Desk.step, registered, granted, if_false]
          exact ⟨client, members ▸ List.mem_append_right _ (List.mem_singleton_self _), named⟩
      · cases makes
  | submit | recheck | finish | fail | pass =>
      simp only [move?] at makes
      split at makes <;> cases makes
  | drop | look | respond | shutdown => cases makes

theorem dismissed_step {client : ClientId} (staffed : Staffed desk)
    (dismissed : Dismissed client desk) {step : Step}
    (away : ¬ (desk.step step).Registered client) : Dismissed client (desk.step step) := by
  obtain ⟨log, consistent⟩ := staffed.consistent
  refine ⟨away, ?_, ?_⟩
  · cases makes : desk.move? step with
    | none => exact step_idle makes ▸ dismissed.departed
    | some move =>
        rw [step_moved makes]
        cases marks : move.marks with
        | false => exact (move_marks desk.board marks).1 ▸ dismissed.departed
        | true =>
            cases move with
            | attach id =>
                have other : client ≠ id := by
                  rintro rfl
                  exact away (attach_registers makes)
                exact List.mem_filter.mpr ⟨dismissed.departed, by simpa using other⟩
            | failClient id orphaned =>
                by_cases own : client = id
                · exact own ▸ List.mem_cons_self
                · exact List.mem_cons_of_mem _
                    (List.mem_filter.mpr ⟨dismissed.departed, by simpa using own⟩)
            | shutdown => exact dismissed.departed
            | _ => cases marks
  · intro ticket member held
    cases makes : desk.move? step with
    | none => exact dismissed.unheld ticket (step_idle makes ▸ member) held
    | some move =>
        cases move_became consistent (step_moved makes ▸ member) with
        | stays inside spared => exact dismissed.unheld _ inside held
        | handed opened present inside queued =>
            cases held
            exact present dismissed.departed
        | submitted | answered | failed => cases held

/-- No step puts a client on the list under this number. -/
def Away (client : ClientId) : Desk → List Step → Prop
  | _, [] => True
  | desk, step :: rest => ¬ (desk.step step).Registered client ∧ Away client (desk.step step) rest

theorem dismissed_run {client : ClientId} (steps : List Step) : ∀ {desk : Desk}, Staffed desk →
    Dismissed client desk → Away client desk steps → Dismissed client (steps.foldl step desk) := by
  induction steps with
  | nil => exact fun _ dismissed _ => dismissed
  | cons first rest rest_dismissed =>
      intro desk staffed dismissed ⟨away, further⟩
      exact rest_dismissed (staffed_step staffed first) (dismissed_step staffed dismissed away)
        further

/-- Nothing a client does gets through, not even its departure. -/
structure Barred (client : ClientId) (desk : Desk) : Prop where
  fetch : desk.control.fetchGroups client = .error (.unknownClient client)
  pass : ∀ groups, desk.control.fetchPass client groups =
    (.error (if desk.board.closed then .shutdown else .unknownClient client), desk.control)
  respond : ∀ response, desk.control.respond client response =
    (false, { desk.control with stale := desk.control.stale + 1 })
  unregister : desk.control.unregister client = (false, desk.control, [])

theorem unlisted_get? {client : ClientId} (unlisted : ¬ desk.Registered client) :
    desk.clients.get? client = none := by
  refine List.find?_eq_none.mpr fun member listed named => ?_
  exact unlisted ⟨member, listed, by simpa using named⟩

theorem barred_dismissed {client : ClientId} (dismissed : Dismissed client desk) :
    Barred client desk := by
  have unknown := unlisted_get? dismissed.unlisted
  constructor
  case fetch => rw [Controller.fetchGroups, unknown]
  case pass =>
    intro groups
    cases closed : desk.board.closed <;>
      simp [Controller.fetchPass, Board.fetch, closed, dismissed.departed]
  case respond =>
    intro response
    have refused : desk.board.respond client response = (false, desk.board) := by
      unfold Board.respond
      split
      · rename_i ticket got
        rw [if_neg (dismissed.unheld ticket (Board.get?_live got).1)]
      · rfl
    rw [Controller.respond, refused]
  case unregister => rw [Controller.unregister, Controller.dropClient, unknown]; rfl

/-- In every run and for every client on the list: its departure answers true,
takes off the list this client alone and changes of the tickets exactly those
that fall, which between other calls are the ones it holds and the queued ones
that no remaining client serves. In whatever way the run goes on, as long as
the client is not on the list again, it can neither fetch nor answer, and
another departure of it answers false and does nothing. -/
theorem unregister_fails_exactly (enabled : Bool) (rules : Rules) (steps : List Step)
    {client : Client} (listed : client ∈ (after enabled rules steps).clients.members) :
    let desk := after enabled rules steps
    desk.control.unregister client.id =
        (true, (desk.unregister client.id).control, [.clientChange client.name client.id false]) ∧
      Departs desk client (desk.unregister client.id) ∧
      (∀ ticket ∈ desk.board.live, ticket.state = .queued →
        (desk.clients.unregister client.id).serves ticket.group = false →
        desk.Falls client ticket ∨ (ticket.id, ticket.group) ∈ desk.unchecked ∨
          ∃ departure ∈ desk.leaving, ticket.group ∈ departure.2) ∧
      (desk.unchecked = [] → desk.leaving = [] → ∀ ticket ∈ desk.board.live,
        (desk.Falls client ticket ↔ ticket.state = .assigned client.id ∨
          (ticket.state = .queued ∧
            (desk.clients.unregister client.id).serves ticket.group = false))) ∧
      ∀ later, Away client.id (desk.unregister client.id) later →
        Barred client.id (later.foldl step (desk.unregister client.id)) := by
  intro desk
  have staffed : Staffed desk := staffed_after enabled rules steps
  have departs := unregister_departs staffed listed
  refine ⟨?_, departs, ?_, ?_, ?_⟩
  · rw [unregister, Controller.unregister, dropClient_listed staffed listed]
    rfl
  · exact fun ticket member => falls_or_expected staffed listed member
  · exact fun checked settled ticket member => falls_iff staffed checked settled listed member
  · intro later away
    exact barred_dismissed (dismissed_run later (staffed_unregister staffed listed)
      (dismissed_departs departs) away)

/-! Two tickets have come to groups that nobody serves, and their submitters have
not looked again. -/

def uncheckedSteps : List Step :=
  [.register "scanner" 1 100, .register "backup" 2 200, .submit 5 callingTask openEvent,
    .submit 9 callingTask openEvent]

/-- A client that leaves then does not fail them: neither was of its groups. -/
theorem scanner_spares_unserved :
    let desk := after true lenientRules uncheckedSteps
    desk.clients.members = [⟨1, "scanner", ⟨1⟩, 100⟩, ⟨2, "backup", ⟨2⟩, 200⟩] ∧
      ((desk.clients.unregister 1).serves 5 = false ∧
        (desk.clients.unregister 1).serves 9 = false) ∧
      desk.board.live.map (fun ticket => (ticket.group, ticket.state)) =
        [(5, .queued), (9, .queued)] ∧
      (desk.unregister 1).board.live = desk.board.live := by
  decide +kernel

/-! Of two clients one serves both groups. It holds a ticket when it leaves;
another one waits in each group. -/

def sharedSteps : List Step :=
  [.register "scanner" 3 100, .register "backup" 1 200, .submit 0 callingTask openEvent,
    .submit 0 callingTask openEvent, .submit 1 callingTask openEvent, .recheck 1 0, .recheck 2 0,
    .recheck 3 1, .look 1, .pass 1 ⟨3⟩]

theorem scanner_departs :
    let desk := after true lenientRules sharedSteps
    let scanner : Client := ⟨1, "scanner", ⟨3⟩, 100⟩
    desk.board.live.map (·.state) = [.assigned 1, .queued, .queued] ∧
      (∀ ticket ∈ desk.board.live, (desk.Falls scanner ticket ↔ ticket.state = .assigned 1 ∨
        (ticket.state = .queued ∧ (desk.clients.unregister 1).serves ticket.group = false))) ∧
      (desk.unregister 1).board.live.map (·.state) = [.failed, .queued, .failed] ∧
      Barred 1 ((desk.unregister 1).step (.pass 1 ⟨3⟩)) := by
  intro desk scanner
  have listed : scanner ∈ (after true lenientRules sharedSteps).clients.members := by decide +kernel
  obtain ⟨_, departs, _, exactly, barred⟩ :=
    unregister_fails_exactly true lenientRules sharedSteps listed
  refine ⟨by decide +kernel, exactly (by decide +kernel) (by decide +kernel), ?_, ?_⟩
  · rw [departs.live]
    decide +kernel
  · refine barred [.pass 1 ⟨3⟩] ⟨?_, trivial⟩
    unfold Registered
    decide +kernel

end Interception.Vetting.Desk
