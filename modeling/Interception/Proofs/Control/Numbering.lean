import Interception.Proofs.Control.Staffing
import Mathlib.Data.Finset.Card
import Mathlib.Data.Nat.Find
import Mathlib.Data.Nat.ModEq

/-!
Numbers of tickets and clients. A number is drawn from a counter that wraps
around, until one is neither zero nor in use. Among one draw for each number in
use and two more no two are equal, so one of them is free and the drawing ends.
Tickets and clients that get their numbers so are told apart by them for good.
-/

namespace Interception

namespace Identifier

variable {Id : Type}

/-! ### A circle of numbers -/

section

variable [Add Id] [OfNat Id 1] {counter : Id} {size : Nat} {place : Id → Nat}

/-- The numbers stand in a circle of some size, each at its place, and one more
is the next place. -/
structure Circle (size : Nat) (place : Id → Nat) : Prop where
  inside : ∀ number, place number < size
  apart : ∀ first second, place first = place second → first = second
  next : ∀ number, place (number + 1) = (place number + 1) % size

theorem circle64 : Circle (2 ^ 64) UInt64.toNat :=
  ⟨UInt64.toNat_lt, fun _ _ => UInt64.toNat_inj.mp, fun number => UInt64.toNat_add number 1⟩

theorem circle32 : Circle (2 ^ 32) UInt32.toNat :=
  ⟨UInt32.toNat_lt, fun _ _ => UInt32.toNat_inj.mp, fun number => UInt32.toNat_add number 1⟩

/-- The counter after some draws. -/
def advanced (counter : Id) : Nat → Id
  | 0 => counter
  | draws + 1 => advanced (counter + 1) draws

theorem advanced_place (circle : Circle size place) (draws : Nat) :
    place (advanced counter draws) = (place counter + draws) % size := by
  induction draws generalizing counter with
  | zero => exact (Nat.mod_eq_of_lt (circle.inside counter)).symm
  | succ draws draws_place =>
      rw [advanced, draws_place, circle.next, Nat.mod_add_mod, Nat.add_right_comm, Nat.add_assoc]

/-- Draws in a row are different until they have been all round. -/
theorem advanced_apart (circle : Circle size place) (counter : Id) {first second : Nat}
    (firstInside : first < size) (secondInside : second < size)
    (same : advanced counter first = advanced counter second) : first = second := by
  have places := congrArg place same
  rw [advanced_place circle, advanced_place circle] at places
  have cancelled : first ≡ second [MOD size] := Nat.ModEq.add_left_cancel' _ places
  exact cancelled.eq_of_lt_of_lt firstInside secondInside

/-- Every number comes round. -/
theorem exists_advanced (circle : Circle size place) (counter number : Id) :
    ∃ draws, draws < size ∧ advanced counter draws = number := by
  have here := circle.inside counter
  have there := circle.inside number
  refine ⟨(place number + (size - place counter)) % size,
    Nat.mod_lt _ (Nat.zero_lt_of_lt here), circle.apart _ _ ?_⟩
  have round : place counter + (place number + (size - place counter)) = place number + size := by
    omega
  rw [advanced_place circle, Nat.add_mod_mod, round, Nat.add_mod_right, Nat.mod_eq_of_lt there]

end

variable [Add Id] [OfNat Id 0] [OfNat Id 1] {live : List Id} {counter : Id} {found : Id × Id}

/-! ### Drawing without a limit -/

def Free (live : List Id) (number : Id) : Prop := number ≠ 0 ∧ number ∉ live

/-- Drawing that ends: how many draws it takes from a counter, the number it
finds and the counter after it. -/
inductive Draws (live : List Id) : Nat → Id → Id × Id → Prop
  | taken {counter : Id} (free : Free live counter) :
      Draws live 1 counter (counter, counter + 1)
  | passed {draws : Nat} {counter : Id} {found : Id × Id} (busy : ¬ Free live counter)
      (later : Draws live draws (counter + 1) found) : Draws live (draws + 1) counter found

theorem draws_free {draws : Nat} (drawn : Draws live draws counter found) :
    Free live found.1 := by
  induction drawn with
  | taken free => exact free
  | passed _ _ found_free => exact found_free

theorem draws_advanced {passed : Nat} (busy : ∀ early < passed, ¬ Free live (advanced counter early))
    (free : Free live (advanced counter passed)) :
    Draws live (passed + 1) counter (advanced counter passed, advanced counter passed + 1) := by
  induction passed generalizing counter with
  | zero => exact .taken free
  | succ passed passed_draws =>
      refine .passed (busy 0 (Nat.succ_pos passed)) (passed_draws ?_ free)
      exact fun early inside => busy (early + 1) (Nat.succ_lt_succ inside)

/-! ### Drawing ends -/

variable [DecidableEq Id] {size : Nat} {place : Id → Nat}

/-- Draws in a row that find nothing are all different, and each is zero or in
use: there are no more of them than that. -/
theorem busy_le (circle : Circle size place) {passed : Nat} (fewer : passed ≤ size)
    (busy : ∀ early < passed, ¬ Free live (advanced counter early)) :
    passed ≤ live.toFinset.card + 1 := by
  have taken : ∀ early ∈ Finset.range passed, advanced counter early ∈ insert 0 live.toFinset := by
    intro early inside
    have held := busy early (Finset.mem_range.mp inside)
    rw [Finset.mem_insert, List.mem_toFinset]
    by_contra neither
    exact held (not_or.mp neither)
  have distinct : Set.InjOn (advanced counter) (Finset.range passed) := by
    intro first firstInside second secondInside same
    have firstBelow := Finset.mem_range.mp firstInside
    have secondBelow := Finset.mem_range.mp secondInside
    exact advanced_apart circle counter (by omega) (by omega) same
  calc
    passed = (Finset.range passed).card := (Finset.card_range passed).symm
    _ ≤ (insert 0 live.toFinset).card := Finset.card_le_card_of_injOn _ taken distinct
    _ ≤ live.toFinset.card + 1 := Finset.card_insert_le 0 _

/-- Drawing ends wherever a number is free, at the latest after two draws more
than there are numbers in use. -/
theorem exists_draws (circle : Circle size place) (counter : Id)
    (free : ∃ number, Free live number) :
    ∃ draws found, draws ≤ live.toFinset.card + 2 ∧ Draws live draws counter found := by
  classical
  obtain ⟨number, unused⟩ := free
  obtain ⟨round, inside, same⟩ := exists_advanced circle counter number
  have reached : ∃ passed, Free live (advanced counter passed) := ⟨round, same ▸ unused⟩
  have busy : ∀ early < Nat.find reached, ¬ Free live (advanced counter early) :=
    fun early before => Nat.find_min reached before
  have fewer : Nat.find reached ≤ size :=
    Nat.le_trans (Nat.find_min' reached (same ▸ unused)) (Nat.le_of_lt inside)
  exact ⟨_, _, Nat.add_le_add_right (busy_le circle fewer busy) 1,
    draws_advanced busy (Nat.find_spec reached)⟩

/-- With two numbers to spare, zero may be one of them and the other is free. -/
theorem exists_free (circle : Circle size place) (counter : Id)
    (spare : live.toFinset.card < size - 1) : ∃ number, Free live number := by
  by_contra none
  have busy : ∀ early < size, ¬ Free live (advanced counter early) :=
    fun early _ free => none ⟨_, free⟩
  have full := busy_le circle (Nat.le_refl size) busy
  omega

/-! ### The search that runs -/

/-- A search with enough tries finds what drawing finds. -/
theorem search_of_draws {draws tries : Nat} (drawn : Draws live draws counter found)
    (enough : draws ≤ tries) : search live tries counter = some found := by
  induction drawn generalizing tries with
  | taken free =>
      obtain ⟨more, rfl⟩ := Nat.exists_eq_add_of_le' enough
      exact if_pos free
  | passed busy _ later_search =>
      obtain ⟨more, rfl⟩ := Nat.exists_eq_add_of_le' (Nat.le_trans (Nat.le_add_left 1 _) enough)
      exact (if_neg busy).trans (later_search (Nat.le_of_succ_le_succ enough))

theorem draws_of_search {tries : Nat} (same : search live tries counter = some found) :
    ∃ draws, Draws live draws counter found := by
  induction tries generalizing counter with
  | zero => cases same
  | succ tries tries_draw =>
      unfold search at same
      split at same
      · rename_i free
        cases same
        exact ⟨1, .taken free⟩
      · rename_i busy
        obtain ⟨draws, drawn⟩ := tries_draw same
        exact ⟨draws + 1, .passed busy drawn⟩

/-- The limit of the search is never in the way of a free number. -/
theorem allocate_drawn (circle : Circle size place) (counter : Id)
    (free : ∃ number, Free live number) :
    ∃ draws ≤ live.toFinset.card + 2, Draws live draws counter (allocate live counter) := by
  obtain ⟨draws, found, few, drawn⟩ := exists_draws circle counter free
  have enough := Nat.le_trans few (Nat.add_le_add_right live.toFinset_card_le 2)
  rw [allocate, search_of_draws drawn enough]
  exact ⟨draws, few, drawn⟩

/-- Zero is the answer exactly where drawing without a limit would not end. -/
theorem allocate_ne_zero_iff (circle : Circle size place) (live : List Id) (counter : Id) :
    (allocate live counter).1 ≠ 0 ↔ ∃ draws found, Draws live draws counter found := by
  constructor
  · intro granted
    unfold allocate at granted
    cases same : search live (live.length + 2) counter with
    | none => simp [same] at granted
    | some found =>
        obtain ⟨draws, drawn⟩ := draws_of_search same
        exact ⟨draws, found, drawn⟩
  · rintro ⟨_, found, drawn⟩
    obtain ⟨_, _, drawn⟩ := allocate_drawn circle counter ⟨found.1, draws_free drawn⟩
    exact (draws_free drawn).1

/-- With two numbers to spare a fresh one is found. -/
theorem allocate_fresh (circle : Circle size place) (counter : Id)
    (spare : live.toFinset.card < size - 1) :
    (∃ draws ≤ live.toFinset.card + 2, Draws live draws counter (allocate live counter)) ∧
      (allocate live counter).1 ≠ 0 ∧ (allocate live counter).1 ∉ live := by
  obtain ⟨draws, few, drawn⟩ := allocate_drawn circle counter (exists_free circle counter spare)
  exact ⟨⟨draws, few, drawn⟩, draws_free drawn⟩

end Identifier

namespace Vetting

open Identifier

def Board.ids (board : Board) : List TicketId := board.live.map (·.id)

def Clients.ids (clients : Clients) : List ClientId := clients.members.map (·.id)

def Clients.names (clients : Clients) : List String := clients.members.map (·.name)

/-! ### Clients and their names -/

theorem register?_unnamed {clients : Clients} {name : String} {groups : GroupMask} {pid : Int32}
    (unnamed : name ∉ clients.names) :
    clients.register? name groups pid =
      some ((Identifier.allocate clients.ids clients.nextId).1,
        ⟨clients.members ++ [⟨(Identifier.allocate clients.ids clients.nextId).1, name, groups, pid⟩],
          (Identifier.allocate clients.ids clients.nextId).2⟩) := by
  have free : clients.members.any (·.name == name) = false := by
    simpa [Clients.names] using unnamed
  unfold Clients.register?
  rw [free]
  rfl

theorem register?_named {clients later : Clients} {name : String} {groups : GroupMask} {pid : Int32}
    {id : ClientId} (registered : clients.register? name groups pid = some (id, later)) :
    name ∉ clients.names ∧ later.names = clients.names ++ [name] := by
  by_cases unnamed : name ∈ clients.names
  · have taken : clients.members.any (·.name == name) = true := by
      simpa [Clients.names] using unnamed
    rw [Clients.register?, taken] at registered
    cases registered
  · rw [register?_unnamed unnamed] at registered
    cases registered
    exact ⟨unnamed, by simp [Clients.names]⟩

theorem register_registers {control next : Controller} {name : String} {bits : UInt8} {pid : Int32}
    {id : ClientId} {records : List AuditRecord}
    (registered : control.register name bits pid = .ok (id, next, records)) :
    ∃ groups, control.clients.register? name groups pid = some (id, next.clients) := by
  unfold Controller.register at registered
  split at registered
  · cases registered
  · split at registered
    · cases registered
    · rename_i groups _
      split at registered
      · cases registered
      · rename_i admitted
        cases registered
        exact ⟨groups, admitted⟩

namespace Desk

variable {desk : Desk}

/-- A desk whose counters have come to any values. -/
def startAt (enabled : Bool) (rules : Rules) (tickets : TicketId) (clients : ClientId) : Desk :=
  { start enabled rules with
    control := { Controller.ofRules enabled rules with
      board := { Board.empty with nextId := tickets }
      clients := ⟨[], clients⟩ } }

theorem staffed_startAt (enabled : Bool) (rules : Rules) (tickets : TicketId)
    (clients : ClientId) : Staffed (startAt enabled rules tickets clients) := by
  -- Where the counters stand is nobody's business but theirs.
  have fresh := staffed_start enabled rules
  obtain ⟨log, consistent⟩ := fresh.consistent
  exact ⟨⟨log, consistent.ids, consistent.queues, consistent.requests, consistent.lives,
    consistent.gone⟩, ⟨fresh.placed.nodup, fresh.placed.queued⟩, fresh.numbered, fresh.queued,
    fresh.assigned, fresh.fetching⟩

theorem names_step (distinct : desk.clients.names.Nodup) (step : Step) :
    (desk.step step).clients.names.Nodup := by
  by_cases enrols : step.enrols = true
  · cases step with
    | register name bits pid =>
        simp only [Desk.step]
        split
        · rename_i registered
          split
          · exact distinct
          · obtain ⟨groups, admitted⟩ := register_registers registered
            obtain ⟨unnamed, names⟩ := register?_named admitted
            have apart : desk.clients.names.Disjoint [name] := List.disjoint_singleton.mpr unnamed
            have longer := distinct.append (List.nodup_singleton name) apart
            rwa [← names] at longer
        · exact distinct
    | drop client =>
        rcases drop_left desk client with idle | ⟨former, left⟩
        · rw [idle]
          exact distinct
        · rw [left.clients]
          exact (List.filter_sublist.map _).nodup distinct
    | _ => cases enrols
  · rw [(step_clients desk (Bool.eq_false_of_not_eq_true enrols)).1]
    exact distinct

theorem distinct_after (enabled : Bool) (rules : Rules) (tickets : TicketId) (clients : ClientId)
    (steps : List Step) :
    let desk := steps.foldl step (startAt enabled rules tickets clients)
    desk.board.ids.Nodup ∧ desk.clients.ids.Nodup ∧ desk.clients.names.Nodup := by
  intro desk
  have staffed : Staffed desk :=
    run_keeps Staffed (fun _ step kept => staffed_step kept step) steps _
      (staffed_startAt enabled rules tickets clients)
  have names : desk.clients.names.Nodup :=
    run_keeps (fun desk => desk.clients.names.Nodup) (fun _ step kept => names_step kept step)
      steps (startAt enabled rules tickets clients) List.nodup_nil
  obtain ⟨_, consistent⟩ := staffed.consistent
  exact ⟨consistent.ids, staffed.numbered, names⟩

/-- Drawing a number always ends while two are to spare, whatever the counter
is, and finds one that no live ticket or no client has; and a search that says
there is none says so only where drawing would go on forever. So in every run,
from any counters, live tickets differ in their numbers and clients in their
numbers and names. -/
theorem numbers_fresh :
    (∀ (board : Board) (group : Nat) (task : Personality) (event : Event),
      let number := (board.submit group task event).1
      let later := (board.submit group task event).2
      (number ≠ 0 ↔ ∃ draws found, Draws board.ids draws board.nextId found) ∧
      (board.ids.toFinset.card < 2 ^ 64 - 1 →
        (∃ draws ≤ board.ids.toFinset.card + 2,
          Draws board.ids draws board.nextId (number, later.nextId)) ∧
        number ≠ 0 ∧ number ∉ board.ids)) ∧
    (∀ (clients : Clients) (name : String) (groups : GroupMask) (pid : Int32),
      name ∉ clients.names → ∃ number later,
      clients.register? name groups pid = some (number, later) ∧
      (number ≠ 0 ↔ ∃ draws found, Draws clients.ids draws clients.nextId found) ∧
      (clients.ids.toFinset.card < 2 ^ 32 - 1 →
        (∃ draws ≤ clients.ids.toFinset.card + 2,
          Draws clients.ids draws clients.nextId (number, later.nextId)) ∧
        number ≠ 0 ∧ number ∉ clients.ids)) ∧
    ∀ (enabled : Bool) (rules : Rules) (tickets : TicketId) (clients : ClientId)
      (steps : List Step),
      let desk := steps.foldl step (startAt enabled rules tickets clients)
      desk.board.ids.Nodup ∧ desk.clients.ids.Nodup ∧ desk.clients.names.Nodup := by
  refine ⟨?tickets, ?clients, distinct_after⟩
  case tickets =>
    intro board group task event
    exact ⟨allocate_ne_zero_iff circle64 board.ids board.nextId,
      allocate_fresh circle64 board.nextId⟩
  case clients =>
    intro clients name groups pid unnamed
    exact ⟨_, _, register?_unnamed unnamed,
      allocate_ne_zero_iff circle32 clients.ids clients.nextId,
      allocate_fresh circle32 clients.nextId⟩

/-! Both counters wrap while two tickets and two clients come; then the second
client leaves, and a third one takes the next number. -/

def roundSteps : List Step :=
  [.register "scanner" 1 100, .register "backup" 1 101, .submit 0 callingTask openEvent,
    .submit 0 callingTask openEvent, .drop 1, .register "backup" 1 101]

theorem round_numbers_fresh :
    let desk := roundSteps.foldl step
      (startAt true lenientRules 18446744073709551615 4294967295)
    desk.board.ids = [18446744073709551615, 1] ∧ desk.clients.ids = [4294967295, 2] ∧
      desk.board.ids.Nodup ∧ desk.clients.ids.Nodup ∧ desk.clients.names.Nodup ∧
      (desk.board.submit 0 callingTask openEvent).1 ∉ desk.board.ids ∧
      ∃ number later, desk.clients.register? "index" ⟨1⟩ 102 = some (number, later) ∧
        number ∉ desk.clients.ids := by
  intro desk
  have tickets : desk.board.ids = [18446744073709551615, 1] := by decide +kernel
  have clients : desk.clients.ids = [4294967295, 2] := by decide +kernel
  have names : desk.clients.names = ["scanner", "backup"] := by decide +kernel
  obtain ⟨submitted, registered, kept⟩ := numbers_fresh
  obtain ⟨distinctTickets, distinctClients, distinctNames⟩ :=
    kept true lenientRules 18446744073709551615 4294967295 roundSteps
  obtain ⟨_, _, freshTicket⟩ :=
    (submitted desk.board 0 callingTask openEvent).2 (by rw [tickets]; decide +kernel)
  obtain ⟨number, later, admitted, _, spare⟩ :=
    registered desk.clients "index" ⟨1⟩ 102 (by rw [names]; decide)
  obtain ⟨_, _, freshClient⟩ := spare (by rw [clients]; decide +kernel)
  exact ⟨tickets, clients, distinctTickets, distinctClients, distinctNames, freshTicket,
    number, later, admitted, freshClient⟩

end Desk

end Vetting

end Interception
