import Interception.Proofs.Host.Turns
import Interception.Proofs.Vetting.Queueing

/-!
Calls on the vetting controller, taken apart into the steps between which
others may come: a vetting call submits its ticket, looks again whether its
group is served and ends its wait; a departure takes the client off the list
and fails its tickets; a fetch looks up its client's groups and passes over the
board. Any number of calls run at once and their steps come in any order. A
step that no call is ready to take does nothing.
-/

namespace Interception.Vetting

inductive Step
  | submit (group : Nat) (task : Personality) (event : Event)
  | recheck (ticket : TicketId) (group : Nat)
  | finish (ticket : TicketId) (interrupted expired : Bool)
  | register (name : String) (bits : UInt8) (pid : Int32)
  | drop (client : ClientId)
  | fail (client : ClientId) (orphaned : List Nat)
  | look (client : ClientId)
  | pass (client : ClientId) (groups : GroupMask)
  | respond (client : ClientId) (response : Response)
  | shutdown

/-- Whether a step begins a vetting call. -/
def Step.submits : Step → Bool
  | .submit .. => true
  | _ => false

/-- Whether a step changes who is on the list of clients. -/
def Step.enrols : Step → Bool
  | .register .. | .drop _ => true
  | _ => false

/-- A controller and the calls that are under way on it. -/
structure Desk where
  control : Controller
  /-- Tickets whose submitters have not looked again at their groups yet. -/
  unchecked : List (TicketId × Nat)
  /-- Clients that are off the list while their tickets are still to fail,
  with the groups they left without a client. -/
  leaving : List (ClientId × List Nat)
  /-- Fetches that know their client's groups. -/
  fetching : List (ClientId × GroupMask)
  /-- Tickets submitted since the last shutdown, if there was one. -/
  late : List TicketId

theorem recheck_clients (control : Controller) (group : Nat) (ticket : TicketId) :
    (control.recheck group ticket).clients = control.clients := by
  unfold Controller.recheck
  split <;> rfl

theorem fetchPass_clients (control : Controller) (client : ClientId) (groups : GroupMask) :
    (control.fetchPass client groups).2.clients = control.clients := by
  unfold Controller.fetchPass
  split <;> rfl

theorem respond_clients (control : Controller) (client : ClientId) (response : Response) :
    (control.respond client response).2.clients = control.clients := by
  unfold Controller.respond
  split <;> rfl

namespace Desk

def start (enabled : Bool) (rules : Rules) : Desk :=
  ⟨.ofRules enabled rules, [], [], [], []⟩

abbrev board (desk : Desk) : Board := desk.control.board

abbrev clients (desk : Desk) : Clients := desk.control.clients

def withControl (desk : Desk) (control : Controller) : Desk := { desk with control }

def submit (desk : Desk) (group : Nat) (task : Personality) (event : Event) : Desk :=
  let ticket := (desk.control.submit group task event).1
  { desk with
    control := (desk.control.submit group task event).2
    unchecked := (ticket, group) :: desk.unchecked
    late := if desk.board.closed then ticket :: desk.late else desk.late }

/-- A submission and a registration wait for a free number. A vetting call
waits for its ticket's end only once it has looked again at its group, and a
fetch that got nothing passes over the board again. -/
def step (desk : Desk) : Step → Desk
  | .submit group task event =>
      if (desk.control.submit group task event).1 = 0 then desk else desk.submit group task event
  | .recheck ticket group =>
      if (ticket, group) ∈ desk.unchecked then
        { desk with
          control := desk.control.recheck group ticket
          unchecked := desk.unchecked.erase (ticket, group) }
      else desk
  | .finish ticket interrupted expired =>
      if ticket ∈ desk.unchecked.map Prod.fst then desk
      else
        match desk.board.get? ticket, desk.board.verdict? ticket interrupted expired with
        | some _, some outcome => desk.withControl (desk.control.finish ticket outcome)
        | _, _ => desk
  | .register name bits pid =>
      match desk.control.register name bits pid with
      | .ok (id, control, _) => if id = 0 then desk else desk.withControl control
      | .error _ => desk
  | .drop client =>
      match desk.control.dropClient client with
      | some (_, orphaned, control) =>
          { desk with control, leaving := (client, orphaned) :: desk.leaving }
      | none => desk
  | .fail client orphaned =>
      if (client, orphaned) ∈ desk.leaving then
        { desk with
          control := { desk.control with board := desk.board.failClient client orphaned }
          leaving := desk.leaving.erase (client, orphaned) }
      else desk
  | .look client =>
      match desk.control.fetchGroups client with
      | .ok groups => { desk with fetching := (client, groups) :: desk.fetching }
      | .error _ => desk
  | .pass client groups =>
      if (client, groups) ∈ desk.fetching then
        desk.withControl (desk.control.fetchPass client groups).2
      else desk
  | .respond client response => desk.withControl (desk.control.respond client response).2
  | .shutdown => { desk with control := desk.control.shutdown, late := [] }

def after (enabled : Bool) (rules : Rules) (steps : List Step) : Desk :=
  steps.foldl step (start enabled rules)

/-- What every step keeps, every run keeps. -/
theorem run_keeps (Keeps : Desk → Prop) (keeps : ∀ desk step, Keeps desk → Keeps (desk.step step))
    (steps : List Step) : ∀ desk, Keeps desk → Keeps (steps.foldl step desk) := by
  induction steps with
  | nil => exact fun _ kept => kept
  | cons first rest rest_keeps => exact fun desk kept => rest_keeps _ (keeps desk first kept)

/-! ### What a step does -/

/-- The move that a step makes on the board, if it makes one. -/
def move? (desk : Desk) : Step → Option Move
  | .submit group task event =>
      if (desk.control.submit group task event).1 = 0 then none
      else some (.submit group task event)
  | .recheck ticket group =>
      if (ticket, group) ∈ desk.unchecked ∧ desk.clients.serves group = false then
        some (.failQueued ticket)
      else none
  | .finish ticket interrupted expired =>
      if ticket ∈ desk.unchecked.map Prod.fst then none
      else some (.finish ticket interrupted expired)
  | .register name bits pid =>
      match desk.control.register name bits pid with
      | .ok (id, _) => if id = 0 then none else some (.attach id)
      | .error _ => none
  | .drop _ | .look _ => none
  | .fail client orphaned =>
      if (client, orphaned) ∈ desk.leaving then some (.failClient client orphaned) else none
  | .pass client groups =>
      if (client, groups) ∈ desk.fetching then some (.fetch client groups) else none
  | .respond client response => some (.respond client response)
  | .shutdown => some .shutdown

theorem step_board (desk : Desk) (step : Step) :
    (desk.step step).board =
      match desk.move? step with
      | some move => (move.on desk.board).1
      | none => desk.board := by
  cases step with
  | submit group task event =>
      by_cases refused : (desk.control.submit group task event).1 = 0
      · simp [Desk.step, move?, refused]
      · simp only [Desk.step, move?, refused, if_false]
        exact (Host.submit_moved refused).board
  | recheck ticket group =>
      by_cases under : (ticket, group) ∈ desk.unchecked
      · by_cases served : desk.clients.serves group = true
        · simp [Desk.step, move?, under, Controller.recheck, served]
        · simp [Desk.step, move?, under, Controller.recheck, served, Move.on]
      · simp [Desk.step, move?, under]
  | finish ticket interrupted expired =>
      by_cases under : ticket ∈ desk.unchecked.map Prod.fst
      · simp [Desk.step, move?, under]
      · simp only [Desk.step, move?, under, if_false, Move.on]
        cases desk.board.get? ticket <;>
          cases desk.board.verdict? ticket interrupted expired <;> rfl
  | register name bits pid =>
      cases registered : desk.control.register name bits pid with
      | error _ => simp [Desk.step, move?, registered]
      | ok result =>
          obtain ⟨id, next, records⟩ := result
          by_cases refused : id = 0
          · simp [Desk.step, move?, registered, refused]
          · simp only [Desk.step, move?, registered, refused, if_false]
            exact (Host.register_moved registered).board
  | drop client =>
      simp only [Desk.step, move?, Controller.dropClient]
      cases desk.control.clients.get? client <;> rfl
  | fail client orphaned =>
      by_cases under : (client, orphaned) ∈ desk.leaving
      · simp [Desk.step, move?, under, Move.on]
      · simp [Desk.step, move?, under]
  | look client =>
      simp only [Desk.step, move?]
      split <;> rfl
  | pass client groups =>
      by_cases under : (client, groups) ∈ desk.fetching
      · simp only [Desk.step, move?, under, if_true]
        exact (Host.fetchPass_moved desk.control client groups).board
      · simp [Desk.step, move?, under]
  | respond client response => exact (Host.respond_moved desk.control client response).board
  | shutdown => rfl

/-- A submission that gets no number does nothing. -/
theorem step_submits (desk : Desk) {step : Step} (submits : step.submits = true) :
    desk.step step = desk ∨
      ∃ group task event, (desk.control.submit group task event).1 ≠ 0 ∧
        desk.step step = desk.submit group task event := by
  cases step with
  | submit group task event =>
      by_cases refused : (desk.control.submit group task event).1 = 0
      · exact .inl (if_pos refused)
      · exact .inr ⟨group, task, event, refused, if_neg refused⟩
  | _ => cases submits

theorem step_idle {desk : Desk} {step : Step} (idle : desk.move? step = none) :
    (desk.step step).board = desk.board := by
  rw [step_board, idle]

theorem step_moved {desk : Desk} {step : Step} {move : Move} (makes : desk.move? step = some move) :
    (desk.step step).board = (move.on desk.board).1 := by
  rw [step_board, makes]

/-- What a step rests on that makes a move. -/
def Allows (desk : Desk) (step : Step) : Move → Prop
  | .submit .. => step.submits = true
  | .failClient client orphaned => (client, orphaned) ∈ desk.leaving
  | .failQueued id =>
      ∃ group, (id, group) ∈ desk.unchecked ∧ desk.clients.serves group = false
  | .shutdown => step = .shutdown
  | .finish id _ _ => id ∉ desk.unchecked.map Prod.fst
  | .fetch .. | .respond .. | .attach _ => True

theorem move?_allowed {desk : Desk} {step : Step} {move : Move}
    (makes : desk.move? step = some move) : desk.Allows step move := by
  cases step with
  | submit group task event =>
      simp only [move?] at makes
      split at makes
      · cases makes
      · cases makes
        rfl
  | recheck ticket group =>
      simp only [move?] at makes
      split at makes
      · rename_i unserved
        cases makes
        exact ⟨group, unserved⟩
      · cases makes
  | finish ticket interrupted expired =>
      simp only [move?] at makes
      split at makes
      · cases makes
      · rename_i checked
        cases makes
        exact checked
  | fail client orphaned =>
      simp only [move?] at makes
      split at makes
      · rename_i under
        cases makes
        exact under
      · cases makes
  | pass client groups =>
      simp only [move?] at makes
      split at makes <;> cases makes
      trivial
  | register name bits pid =>
      simp only [move?] at makes
      split at makes
      · split at makes
        · cases makes
        · cases makes
          trivial
      · cases makes
  | drop | look => cases makes
  | respond | shutdown =>
      cases makes
      trivial

/-- No step but a submission adds to the tickets whose submitters are to look
again. Only a submission or a shutdown changes which tickets are late. -/
theorem step_calls (desk : Desk) {step : Step} (other : step.submits = false) :
    (desk.step step).unchecked ⊆ desk.unchecked ∧
      (step ≠ .shutdown → (desk.step step).late = desk.late) := by
  have idle : desk.unchecked ⊆ desk.unchecked ∧ (step ≠ .shutdown → desk.late = desk.late) :=
    ⟨List.Subset.refl _, fun _ => rfl⟩
  cases step with
  | submit => cases other
  | recheck ticket group =>
      simp only [Desk.step]
      split
      · exact ⟨List.erase_subset, fun _ => rfl⟩
      · exact idle
  | finish ticket interrupted expired =>
      simp only [Desk.step]
      split
      · exact idle
      · split <;> exact idle
  | register name bits pid =>
      simp only [Desk.step]
      split
      · split <;> exact idle
      · exact idle
  | drop | fail | look | pass =>
      simp only [Desk.step]
      split <;> exact idle
  | respond => exact idle
  | shutdown => exact ⟨List.Subset.refl _, fun other => absurd rfl other⟩

/-- Only a departure that begins adds to the departures under way. -/
theorem step_clients (desk : Desk) {step : Step} (other : step.enrols = false) :
    (desk.step step).clients = desk.clients ∧ (desk.step step).leaving ⊆ desk.leaving := by
  have idle : desk.clients = desk.clients ∧ desk.leaving ⊆ desk.leaving :=
    ⟨rfl, List.Subset.refl _⟩
  cases step with
  | submit =>
      simp only [Desk.step]
      split <;> exact idle
  | recheck ticket group =>
      simp only [Desk.step]
      split
      · exact ⟨recheck_clients _ _ _, List.Subset.refl _⟩
      · exact idle
  | finish ticket interrupted expired =>
      simp only [Desk.step]
      split
      · exact idle
      · split <;> exact idle
  | register | drop => cases other
  | fail client orphaned =>
      simp only [Desk.step]
      split
      · exact ⟨rfl, List.erase_subset⟩
      · exact idle
  | look =>
      simp only [Desk.step]
      split <;> exact idle
  | pass client groups =>
      simp only [Desk.step]
      split
      · exact ⟨fetchPass_clients _ _ _, List.Subset.refl _⟩
      · exact idle
  | respond client response => exact ⟨respond_clients _ _ _, List.Subset.refl _⟩
  | shutdown => exact idle

/-- A whole departure, with no other step in between. -/
def unregister (desk : Desk) (client : ClientId) : Desk :=
  desk.withControl (desk.control.unregister client).2.1

/-- A departure is made of its two steps. -/
theorem unregister_steps (desk : Desk) {client : ClientId} {orphaned : List Nat} {former : Client}
    {control : Controller}
    (dropped : desk.control.dropClient client = some (former, orphaned, control)) :
    desk.unregister client = (desk.step (.drop client)).step (.fail client orphaned) := by
  simp [unregister, withControl, step, dropped, Controller.unregister]

end Desk

end Interception.Vetting
