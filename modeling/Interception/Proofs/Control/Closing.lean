import Interception.Proofs.Control.Staffing

/-!
What a shutdown leaves behind. Every ticket that was pending fails, and from
then on nobody registers and nothing is handed out. A submission does not look
whether the board is closed. A ticket that comes late fails when its submitter
finds its group without a client or when the last client of the group departs;
as long as the group has a client, it stays queued until its waiter gives up.
-/

namespace Interception.Vetting.Desk

variable {desk : Desk} {struck : TicketId → Prop}

/-! ### Submitters that are to look again -/

/-- The tickets whose submitters are to look again are on the board. -/
def Waited (desk : Desk) : Prop :=
  ∀ call ∈ desk.unchecked, ∃ request, Waits desk.board call.1 call.2 request

theorem waited_submit (waited : Waited desk) (group : Nat) (task : Personality) (event : Event)
    (granted : (desk.control.submit group task event).1 ≠ 0) :
    Waited (desk.submit group task event) := by
  have moved : Host.Moved (.submit group task event) desk.control
      (desk.control.submit group task event).2 := Host.submit_moved granted
  have board : (desk.submit group task event).board =
      ((Move.submit group task event).on desk.board).1 := moved.board
  intro call under
  rcases List.mem_cons.mp under with rfl | before
  · exact ⟨_, waits_submit desk.board group task event⟩
  · obtain ⟨request, waits⟩ := waited call before
    exact ⟨request, board ▸ waits_move waits fun _ _ => Move.noConfusion⟩

theorem waited_step (waited : Waited desk) (step : Step) : Waited (desk.step step) := by
  cases submits : step.submits with
  | true =>
      rcases step_submits desk submits with idle | ⟨group, task, event, granted, submitted⟩
      · rw [idle]
        exact waited
      · rw [submitted]
        exact waited_submit waited group task event granted
  | false =>
      intro call under
      have before := (step_calls desk submits).1 under
      obtain ⟨request, waits⟩ := waited call before
      cases makes : desk.move? step with
      | none => exact ⟨request, step_idle makes ▸ waits⟩
      | some move =>
          refine ⟨request, step_moved makes ▸ waits_move waits ?_⟩
          rintro interrupted expired rfl
          exact move?_allowed makes (List.mem_map_of_mem before)

theorem waited_after (enabled : Bool) (rules : Rules) (steps : List Step) :
    Waited (after enabled rules steps) := by
  refine run_keeps Waited (fun _ step waited => waited_step waited step) steps _ ?_
  intro call under
  cases under

/-! ### Tickets of a closed board -/

/-- The board is closed, and of the tickets that are on it only those that
came late are pending, which nobody holds. -/
structure Shut (struck : TicketId → Prop) (desk : Desk) : Prop where
  staffed : Staffed desk
  waited : Waited desk
  closed : desk.board.closed = true
  early : ∀ ticket ∈ desk.board.live, ticket.Pending → ticket.id ∈ desk.late
  late : ∀ ticket ∈ desk.board.live, ticket.id ∈ desk.late →
    ticket.state = .queued ∨ ticket.state = .failed
  struck : ∀ ticket ∈ desk.board.live, struck ticket.id → ticket.id ∉ desk.late →
    ticket.state = .failed

theorem shut_pending (shut : Shut struck desk) {ticket : Ticket} (member : ticket ∈ desk.board.live)
    (pending : ticket.Pending) : ticket.state = .queued := by
  rcases shut.late ticket member (shut.early ticket member pending) with queued | failed
  · exact queued
  · exact absurd failed (pending_not_failed pending)

/-- On a closed board a ticket stays as it is or fails while it is queued. -/
theorem shut_became (shut : Shut struck desk) {step : Step}
    (other : step.submits = false) {ticket : Ticket}
    (member : ticket ∈ (desk.step step).board.live) :
    ticket ∈ desk.board.live ∨
      ∃ old ∈ desk.board.live, old.state = .queued ∧
        (∃ move, desk.move? step = some move ∧ ¬ Spares move old) ∧
        ticket = { old with state := .failed, stirred := true } := by
  obtain ⟨log, consistent⟩ := shut.staffed.consistent
  cases makes : desk.move? step with
  | none => exact .inl (step_idle makes ▸ member)
  | some move =>
      cases move_became consistent (step_moved makes ▸ member) with
      | stays inside spared => exact .inl inside
      | submitted granted =>
          have submits : step.submits = true := move?_allowed makes
          rw [submits] at other
          cases other
      | handed opened present inside queued =>
          rw [shut.closed] at opened
          cases opened
      | answered inside held =>
          have queued := shut_pending shut inside (.inr ⟨_, held⟩)
          rw [queued] at held
          cases held
      | failed inside pending doomed =>
          exact .inr ⟨_, inside, shut_pending shut inside pending, ⟨_, rfl, doomed⟩, rfl⟩

/-- The new ticket is late, and the others are as late as they were. -/
theorem shut_submitted (shut : Shut struck desk) {group : Nat} {task : Personality} {event : Event}
    (granted : (desk.control.submit group task event).1 ≠ 0) {ticket : Ticket}
    (member : ticket ∈ (desk.submit group task event).board.live) :
    (ticket ∈ desk.board.live ∧
      (ticket.id ∈ (desk.submit group task event).late ↔ ticket.id ∈ desk.late)) ∨
    (ticket.state = .queued ∧ ticket.id ∈ (desk.submit group task event).late) := by
  have fresh : (desk.control.submit group task event).1 ∉ desk.board.live.map (·.id) :=
    allocate_free granted
  have late : (desk.submit group task event).late =
      (desk.control.submit group task event).1 :: desk.late := by
    simp only [submit, shut.closed, if_true]
  rw [late]
  rcases List.mem_append.mp member with old | new
  · have other : ticket.id ≠ (desk.control.submit group task event).1 :=
      fun same => fresh (same ▸ List.mem_map_of_mem old)
    exact .inl ⟨old, by simp [other]⟩
  · obtain rfl := List.mem_singleton.mp new
    exact .inr ⟨rfl, List.mem_cons_self⟩

theorem shut_submit (shut : Shut struck desk) (group : Nat) (task : Personality) (event : Event)
    (granted : (desk.control.submit group task event).1 ≠ 0) :
    Shut struck (desk.submit group task event) := by
  constructor
  case staffed => exact staffed_submit shut.staffed group task event granted
  case waited => exact waited_submit shut.waited group task event granted
  case closed => exact shut.closed
  case early =>
    intro ticket member pending
    rcases shut_submitted shut granted member with ⟨old, same⟩ | ⟨queued, late⟩
    · exact same.mpr (shut.early ticket old pending)
    · exact late
  case late =>
    intro ticket member late
    rcases shut_submitted shut granted member with ⟨old, same⟩ | ⟨queued, _⟩
    · exact shut.late ticket old (same.mp late)
    · exact .inl queued
  case struck =>
    intro ticket member hit early
    rcases shut_submitted shut granted member with ⟨old, same⟩ | ⟨_, late⟩
    · exact shut.struck ticket old hit (mt same.mpr early)
    · exact absurd late early

theorem shut_shutdown (staffed : Staffed desk) (waited : Waited desk)
    (doomed : ∀ ticket ∈ desk.board.live, struck ticket.id →
      ticket.Pending ∨ ticket.state = .failed) : Shut struck (desk.step .shutdown) := by
  obtain ⟨log, consistent⟩ := staffed.consistent
  have ended {ticket : Ticket} (member : ticket ∈ (desk.step .shutdown).board.live) :
      ¬ ticket.Pending ∧ (struck ticket.id → ticket.state = .failed) := by
    have board : (desk.step .shutdown).board = ((Move.shutdown).on desk.board).1 := rfl
    cases move_became consistent (board ▸ member) with
    | stays inside spared =>
        exact ⟨spared, fun hit => (doomed ticket inside hit).resolve_left spared⟩
    | failed inside pending doomed =>
        exact ⟨fun pending => pending_not_failed pending rfl, fun _ => rfl⟩
  constructor
  case staffed => exact staffed_shutdown staffed
  case waited => exact waited_step waited .shutdown
  case closed => rfl
  case early => exact fun ticket member pending => absurd pending (ended member).1
  case late =>
    intro ticket member late
    cases late
  case struck => exact fun ticket member hit _ => (ended member).2 hit

theorem shut_step (shut : Shut struck desk) (step : Step) : Shut struck (desk.step step) := by
  by_cases again : step = .shutdown
  · subst again
    refine shut_shutdown shut.staffed shut.waited fun ticket member hit => ?_
    by_cases late : ticket.id ∈ desk.late
    · exact (shut.late ticket member late).imp_left .inl
    · exact .inr (shut.struck ticket member hit late)
  · cases submits : step.submits with
    | true =>
        rcases step_submits desk submits with idle | ⟨group, task, event, granted, submitted⟩
        · rw [idle]
          exact shut
        · rw [submitted]
          exact shut_submit shut group task event granted
    | false =>
        have late := (step_calls desk submits).2 again
        constructor
        case staffed => exact staffed_step shut.staffed step
        case waited => exact waited_step shut.waited step
        case closed =>
          cases makes : desk.move? step with
          | none => exact step_idle makes ▸ shut.closed
          | some move => exact step_moved makes ▸ move_closed move shut.closed
        case early =>
          intro ticket member pending
          rcases shut_became shut submits member with old | ⟨old, _, _, _, rfl⟩
          · exact late ▸ shut.early ticket old pending
          · exact absurd rfl (pending_not_failed pending)
        case late =>
          intro ticket member came
          rcases shut_became shut submits member with old | ⟨old, _, _, _, rfl⟩
          · exact shut.late ticket old (late ▸ came)
          · exact .inr rfl
        case struck =>
          intro ticket member hit early
          rcases shut_became shut submits member with old | ⟨old, _, _, _, rfl⟩
          · exact shut.struck ticket old hit (late ▸ early)
          · rfl

/-! ### Late tickets -/

/-- No group that a departure left without a client has got one since. -/
def Lost (desk : Desk) : Prop :=
  ∀ departure ∈ desk.leaving, ∀ group ∈ departure.2, desk.clients.serves group = false

theorem register_closed (closed : desk.board.closed = true) (name : String) (bits : UInt8)
    (pid : Int32) : desk.control.register name bits pid = .error .shutdown := by
  rw [Controller.register, if_pos closed]

theorem fetchPass_closed (closed : desk.board.closed = true) (client : ClientId)
    (groups : GroupMask) :
    desk.control.fetchPass client groups = (.error .shutdown, desk.control) := by
  rw [Controller.fetchPass, Board.fetch, if_pos closed]

theorem register_idle (closed : desk.board.closed = true) (name : String) (bits : UInt8)
    (pid : Int32) : desk.step (.register name bits pid) = desk := by
  simp only [step, register_closed closed]

/-- Nobody takes up a group once the board is closed. -/
theorem served_before (closed : desk.board.closed = true) {step : Step} {group : Nat}
    (served : (desk.step step).clients.serves group = true) :
    desk.clients.serves group = true := by
  cases enrols : step.enrols with
  | false => exact (step_clients desk enrols).1 ▸ served
  | true =>
      cases step with
      | register name bits pid => exact register_idle closed name bits pid ▸ served
      | drop client =>
          rcases drop_left desk client with idle | ⟨former, left⟩
          · exact idle ▸ served
          · rw [left.clients] at served
            obtain ⟨member, inside, contains⟩ := serves_iff.mp served
            exact serves_iff.mpr ⟨member, (mem_unregister.mp inside).1, contains⟩
      | _ => cases enrols

theorem lost_step (closed : desk.board.closed = true) (lost : Lost desk) (step : Step) :
    Lost (desk.step step) := by
  -- A group without a client has none later either.
  have unserved {departure : ClientId × List Nat} (before : departure ∈ desk.leaving) {group : Nat}
      (left : group ∈ departure.2) : (desk.step step).clients.serves group = false := by
    refine Bool.eq_false_iff.mpr fun served => ?_
    exact Bool.eq_false_iff.mp (lost departure before group left) (served_before closed served)
  intro departure under group left
  cases enrols : step.enrols with
  | false => exact unserved ((step_clients desk enrols).2 under) left
  | true =>
      cases step with
      | register name bits pid => exact unserved (register_idle closed name bits pid ▸ under) left
      | drop client =>
          rcases drop_left desk client with idle | ⟨former, gone⟩
          · exact unserved (idle ▸ under) left
          · rw [gone.leaving] at under
            rcases List.mem_cons.mp under with rfl | before
            · rw [gone.clients]
              simpa using (List.mem_filter.mp left).2
            · exact unserved before left
      | _ => cases enrols

/-- A late ticket whose group has a client is queued. -/
structure Lasting (struck : TicketId → Prop) (desk : Desk) : Prop where
  shut : Shut struck desk
  lost : Lost desk
  queued : ∀ ticket ∈ desk.board.live, ticket.id ∈ desk.late →
    desk.clients.serves ticket.group = true → ticket.state = .queued

/-- A step other than a shutdown fails no queued ticket of a served group. -/
theorem served_spared (shut : Shut struck desk) (lost : Lost desk) {step : Step}
    (other : step ≠ .shutdown) {move : Move} (makes : desk.move? step = some move)
    {ticket : Ticket} (member : ticket ∈ desk.board.live) (queued : ticket.state = .queued)
    (served : desk.clients.serves ticket.group = true) : Spares move ticket := by
  have allowed := move?_allowed makes
  cases move with
  | submit | fetch | respond | attach | finish => trivial
  | shutdown => exact absurd allowed other
  | failClient client orphaned =>
      refine ⟨by simp [queued], fun _ inside => ?_⟩
      exact Bool.eq_false_iff.mp (lost _ allowed _ inside) served
  | failQueued id =>
      obtain ⟨group, under, unserved⟩ := allowed
      rintro rfl _
      -- The submitter looks at the group of its own ticket.
      obtain ⟨request, found, inside, named, rfl, _⟩ := shut.waited _ under
      obtain ⟨log, consistent⟩ := shut.staffed.consistent
      obtain rfl := consistent_unique consistent inside member named
      exact Bool.eq_false_iff.mp unserved served

theorem lasting_step (lasting : Lasting struck desk) (step : Step) :
    Lasting struck (desk.step step) := by
  have shut := lasting.shut
  refine ⟨shut_step shut step, lost_step shut.closed lasting.lost step, ?_⟩
  intro ticket member late served
  by_cases again : step = .shutdown
  · subst again
    cases late
  · cases submits : step.submits with
    | true =>
        rcases step_submits desk submits with idle | ⟨group, task, event, granted, submitted⟩
        · rw [idle] at member late served
          exact lasting.queued ticket member late served
        · rw [submitted] at member late served
          rcases shut_submitted shut granted member with ⟨old, same⟩ | ⟨queued, _⟩
          · exact lasting.queued ticket old (same.mp late) served
          · exact queued
    | false =>
        rw [(step_calls desk submits).2 again] at late
        have before := served_before shut.closed served
        rcases shut_became shut submits member with
          old | ⟨old, inside, queued, ⟨move, makes, doomed⟩, rfl⟩
        · exact lasting.queued ticket old late before
        · exact absurd (served_spared shut lasting.lost again makes inside queued before)
            doomed

/-! ### Runs with a shutdown -/

/-- What holds ever after a shutdown in the state `first`. -/
structure Aftermath (first desk : Desk) : Prop where
  unfetched : ∀ client groups,
    desk.control.fetchPass client groups = (.error .shutdown, desk.control)
  unregistered : ∀ name bits pid, desk.control.register name bits pid = .error .shutdown
  early : ∀ ticket ∈ desk.board.live, ticket.id ∉ desk.late → ¬ ticket.Pending
  struck : ∀ ticket ∈ desk.board.live, ticket.id ∉ desk.late →
    ∀ old ∈ first.board.live, old.id = ticket.id → old.Pending → ticket.state = .failed
  late : ∀ ticket ∈ desk.board.live, ticket.id ∈ desk.late →
    ticket.state = .failed ∨ (ticket.state = .queued ∧ desk.Expected ticket)
  /-- Once its submitter has looked again and no departure is to fail it, a
  late ticket fails exactly if its group has no client. -/
  exact : Lost first → ∀ ticket ∈ desk.board.live,
    (ticket.id, ticket.group) ∉ desk.unchecked →
    (∀ departure ∈ desk.leaving, ticket.group ∉ departure.2) →
    (ticket.Pending ↔ ticket.id ∈ desk.late ∧ desk.clients.serves ticket.group = true) ∧
    (ticket.id ∈ desk.late → ∀ interrupted expired,
      desk.board.verdict? ticket.id interrupted expired =
        if desk.clients.serves ticket.group then
          if expired then some .timedOut else if interrupted then some .interrupted else none
        else some .failed)

/-- The numbers of the tickets that are pending when a shutdown comes. -/
def Struck (first : Desk) (id : TicketId) : Prop :=
  ∃ old ∈ first.board.live, old.id = id ∧ old.Pending

theorem aftermath_of {first : Desk} (shut : Shut (Struck first) desk)
    (lasting : Lost first → Lasting (Struck first) desk) : Aftermath first desk := by
  have late {ticket : Ticket} (member : ticket ∈ desk.board.live) (late : ticket.id ∈ desk.late) :
      ticket.state = .failed ∨ (ticket.state = .queued ∧ desk.Expected ticket) := by
    rcases shut.late ticket member late with queued | failed
    · exact .inr ⟨queued, shut.staffed.queued ticket member queued⟩
    · exact .inl failed
  constructor
  case unfetched => exact fetchPass_closed shut.closed
  case unregistered => exact register_closed shut.closed
  case early => exact fun ticket member early pending => early (shut.early ticket member pending)
  case struck =>
    exact fun ticket member early old inside same pending =>
      shut.struck ticket member ⟨old, inside, same, pending⟩ early
  case late => exact fun ticket member => late member
  case exact =>
    intro lost ticket member checked stays
    -- Nobody but a client can be expected to take the ticket or to fail it.
    have ends (came : ticket.id ∈ desk.late) : ticket.state =
        if desk.clients.serves ticket.group then .queued else .failed := by
      split
      · rename_i served
        exact (lasting lost).queued ticket member came served
      · rename_i unserved
        refine (late member came).resolve_right fun ⟨_, expected⟩ => ?_
        rcases expected with served | under | ⟨departure, under, left⟩
        · exact unserved served
        · exact checked under
        · exact stays departure under left
    obtain ⟨log, consistent⟩ := shut.staffed.consistent
    refine ⟨⟨fun pending => ?_, fun ⟨came, served⟩ => ?_⟩, fun came interrupted expired => ?_⟩
    · have came := shut.early ticket member pending
      refine ⟨came, ?_⟩
      by_contra unserved
      rw [if_neg unserved] at ends
      exact pending_not_failed pending (ends came)
    · rw [if_pos served] at ends
      exact .inl (ends came)
    · have state := ends came
      have got := get?_of_live consistent member
      split
      · rename_i served
        simp [Board.verdict?, got, state, served]
      · rename_i unserved
        simp [Board.verdict?, got, state, unserved]

theorem struck_shut (staffed : Staffed desk) (waited : Waited desk) :
    Shut (Struck desk) (desk.step .shutdown) := by
  obtain ⟨log, consistent⟩ := staffed.consistent
  refine shut_shutdown staffed waited ?_
  rintro ticket member ⟨old, inside, same, pending⟩
  exact .inl (consistent_unique consistent inside member same ▸ pending)

/-- After a shutdown nobody registers and nothing is handed out, and of the
tickets that were on the board none is pending. A ticket that comes late is not
failed as long as its group has a client: its waiter waits until it gives up. -/
theorem shutdown_aftermath (enabled : Bool) (rules : Rules) (before later : List Step) :
    Aftermath (after enabled rules before)
      (after enabled rules (before ++ .shutdown :: later)) := by
  have run : after enabled rules (before ++ .shutdown :: later) =
      later.foldl step ((after enabled rules before).step .shutdown) := List.foldl_append
  have shut := struck_shut (staffed_after enabled rules before) (waited_after enabled rules before)
  rw [run]
  generalize after enabled rules before = first at shut ⊢
  apply aftermath_of
  · exact run_keeps (Shut (Struck first)) (fun _ step shut => shut_step shut step) later _ shut
  · intro lost
    refine run_keeps (Lasting (Struck first)) (fun _ step lasting => lasting_step lasting step)
      later _ ⟨shut, lost, ?_⟩
    -- Nothing is late yet.
    intro ticket member late
    cases late

/-! A client has registered; a call on its group comes after the shutdown. -/

def servedBefore : List Step := [.register "scanner" 1 100]

def lateCall : List Step := [.submit 0 callingTask openEvent, .recheck 1 0]

theorem late_call_waits :
    let desk := after true lenientRules (servedBefore ++ .shutdown :: lateCall)
    ∃ ticket ∈ desk.board.live, ticket.Pending ∧
      desk.board.verdict? ticket.id false false = none ∧
      desk.board.verdict? ticket.id false true = some .timedOut := by
  intro desk
  have aftermath : Aftermath (after true lenientRules servedBefore) desk :=
    shutdown_aftermath true lenientRules servedBefore lateCall
  have lost : Lost (after true lenientRules servedBefore) := by
    intro departure under
    cases under
  obtain ⟨pending, verdict⟩ := aftermath.exact lost _ List.mem_cons_self (by decide +kernel)
    (by intro departure under; cases under)
  have came : (1 : TicketId) ∈ desk.late := by decide +kernel
  have served : desk.clients.serves 0 = true := by decide +kernel
  exact ⟨_, List.mem_cons_self, pending.mpr ⟨came, served⟩,
    (verdict came false false).trans (if_pos served),
    (verdict came false true).trans (if_pos served)⟩

end Interception.Vetting.Desk
