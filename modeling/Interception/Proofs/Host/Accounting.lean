import Interception.Proofs.Host.Refusing
import Interception.Proofs.Patch.Shaping

/-!
Accounts of what the instruments count. An onlooker keeps an account beside the
host: of the vettings that have returned, the answers that were refused, and the
times that degraded mode has come on. The onlooker goes by the calls alone and
never reads an instrument. A call that is made of honest steps and of such
vettings and answers leaves every instrument in agreement with the account and
with what it measures, whenever it sleeps and when it returns.
-/

namespace Interception

/-! ### Notes -/

namespace Run

variable {State Note Value Result : Type}

/-- A run with notes beside its state goes as the run without them goes. -/
def Annotates : Run (State × Note) Value → Run State Value → Prop
  | .done noted value, .done state answer => noted.1 = state ∧ value = answer
  | .asleep noted sleep resume, .asleep state wait go =>
      noted.1 = state ∧ sleep = wait ∧
        ∀ expired later note, Annotates (resume expired (later, note)) (go expired later)
  | _, _ => False

theorem noting_annotates (run : Run State Value) (note : Note) : Annotates (noting note run) run := by
  induction run generalizing note with
  | done state value => exact ⟨rfl, rfl⟩
  | asleep state sleep resume resumed => exact ⟨rfl, rfl, fun expired later => resumed expired later⟩

theorem annotates_bind {noted : Run (State × Note) Value}
    {next : Value → State × Note → Run (State × Note) Result} {go : Value → State → Run State Result}
    (second : ∀ value state note, Annotates (next value (state, note)) (go value state)) :
    ∀ run, Annotates noted run → Annotates (bind next noted) (bind go run) := by
  induction noted with
  | done state value =>
      intro run first
      cases run with
      | done plain answer =>
          obtain ⟨rfl, rfl⟩ := first
          exact second value state.1 state.2
      | asleep plain sleep go => exact first.elim
  | asleep state sleep resume resumed =>
      intro run first
      cases run with
      | done plain answer => exact first.elim
      | asleep plain wait go =>
          obtain ⟨same, waits, further⟩ := first
          exact ⟨same, waits, fun expired later note =>
            resumed expired (later, note) _ (further expired later note)⟩

theorem annotates_state {noted : Run (State × Note) Value} (run : Run State Value)
    (annotates : Annotates noted run) : noted.state.1 = run.state := by
  cases noted with
  | done state value =>
      cases run with
      | done plain answer => exact annotates.1
      | asleep plain sleep go => exact annotates.elim
  | asleep state sleep resume =>
      cases run with
      | done plain answer => exact annotates.elim
      | asleep plain wait go => exact annotates.1

theorem noting_bind (next : Value → State → Run State Result) (run : Run State Value) (note : Note) :
    noting note (bind next run) =
      bind (fun value later => noting later.2 (next value later.1)) (noting note run) := by
  induction run generalizing note with
  | done state value => rfl
  | asleep state sleep resume resumed =>
      simp only [bind, noting]
      congr 1
      funext expired later
      exact resumed expired later.1 later.2

end Run

namespace Tally

theorem total_onward (tally : Tally) (start : Nat) :
    tally.foldl (fun sum entry => sum + entry.2) start = start + tally.total := by
  induction tally generalizing start with
  | nil => rfl
  | cons entry rest further =>
      rw [total, List.foldl_cons, List.foldl_cons, further, further (0 + entry.2)]
      omega

theorem total_cons (entry : List String × Nat) (rest : Tally) :
    total (entry :: rest) = entry.2 + total rest := by
  rw [total, List.foldl_cons, total_onward, Nat.zero_add]

/-- A count more of any kind is one more in all. -/
theorem total_bump (labels : List String) (tally : Tally) :
    (tally.bump labels).total = tally.total + 1 := by
  induction tally with
  | nil => rfl
  | cons entry rest further =>
      rw [bump]
      split
      · rw [total_cons, total_cons]
        omega
      · rw [total_cons, total_cons, further]
        omega

end Tally

namespace Host

open Vetting Patch

variable {Value Result : Type} {host before after : Host}

/-! ### Accounts -/

structure Account where
  /-- Vettings that have returned, with whatever outcome. -/
  returned : Nat
  /-- Answers that no ticket has taken. -/
  refused : Nat
  /-- Times that degraded mode has come on. -/
  trips : Nat
  deriving DecidableEq

namespace Account

def opened : Account := ⟨0, 0, 0⟩

/-- A step before which degraded mode was off and after which it is on. -/
def watching (before after : Degraded) (account : Account) : Account :=
  if !before.active && after.active then { account with trips := account.trips + 1 } else account

def answering (taken : Bool) (account : Account) : Account :=
  if taken then account else { account with refused := account.refused + 1 }

def returning (account : Account) : Account := { account with returned := account.returned + 1 }

end Account

/-- A call that is entered into the account when it returns. -/
def recording (entry : Value → Account → Account) (call : Call Host Value) :
    Call (Host × Account) Value :=
  fun state => (Run.noting state.2 (call state.1)).bind fun value later =>
    .done (later.1, entry value later.2) value

/-- Degraded mode shows what it is, and counts if it comes on. -/
structure Geared (before after : Degraded) : Prop where
  gauge : before.gauge = before.active.toNat → after.gauge = after.active.toNat
  trips : after.trips = before.trips + (!before.active && after.active).toNat

/-- A step that keeps the gauges right and counts nothing, unless degraded mode
comes on. -/
structure Honest (before after : Host) : Prop where
  shaped : Shaped before.table → Shaped after.table
  clients : before.vetting.gauge = before.vetting.clients.count →
    after.vetting.gauge = after.vetting.clients.count
  outcomes : after.vetting.outcomes = before.vetting.outcomes
  stale : after.vetting.stale = before.vetting.stale
  geared : Geared before.degraded after.degraded

/-- The call as the onlooker follows it. Vettings and answers are seen to return
and all else is seen step by step. -/
inductive Accounted : {Value : Type} → Call Host Value → Call (Host × Account) Value → Prop
  | pure {Value : Type} (value : Value) : Accounted (pure value) (pure value)
  | bind {Value Result : Type} {call : Call Host Value} {noted : Call (Host × Account) Value}
      {next : Value → Call Host Result} {later : Value → Call (Host × Account) Result}
      (first : Accounted call noted) (rest : ∀ value, Accounted (next value) (later value)) :
      Accounted (call >>= next) (noted >>= later)
  | sleep (wait : Wait) (deadline : Option Nat) :
      Accounted (Call.sleep wait deadline) (Call.sleep wait deadline)
  | step {Value : Type} (step : Host → Value × Host) (honest : ∀ host, Honest host (step host).2) :
      Accounted (modifyGet step) (modifyGet fun state =>
        ((step state.1).1, (step state.1).2,
          state.2.watching state.1.degraded (step state.1).2.degraded))
  | respond (client : ClientId) (response : Response) :
      Accounted (respond client response)
        (recording Account.answering (Host.respond client response))
  | vet (caller : Caller) (report : Report) (task : Personality) (event : Event)
      (group wait : Nat) :
      Accounted (vet caller report task event group wait)
        (recording (fun _ => Account.returning) (Host.vet caller report task event group wait))

/-- The onlooker sees what the call does and has no part in it. -/
theorem accounted_annotates {call : Call Host Value} {noted : Call (Host × Account) Value}
    (accounted : Accounted call noted) :
    ∀ host account, Run.Annotates (noted (host, account)) (call host) := by
  have recorded {Value : Type} (entry : Value → Account → Account) (call : Call Host Value)
      (host : Host) (account : Account) :
      Run.Annotates (recording entry call (host, account)) (call host) := by
    have ended : Run.Annotates (recording entry call (host, account))
        ((call host).bind fun value later => .done later value) := by
      refine Run.annotates_bind ?_ _ (Run.noting_annotates (call host) account)
      exact fun _ _ _ => ⟨rfl, rfl⟩
    rwa [Run.bind_pure] at ended
  induction accounted with
  | pure value => exact fun _ _ => ⟨rfl, rfl⟩
  | bind first rest firstSeen restSeen =>
      exact fun host account =>
        Run.annotates_bind (fun value state note => restSeen value state note) _ (firstSeen host account)
  | sleep wait deadline => exact fun _ _ => ⟨rfl, rfl, fun _ _ _ => ⟨rfl, rfl⟩⟩
  | step step honest => exact fun _ _ => ⟨rfl, rfl⟩
  | respond client response => exact recorded _ _
  | vet caller report task event group wait => exact recorded _ _

/-! ### Instruments -/

/-- The instruments agree with what they measure and with the account. -/
structure Truthful (state : Host × Account) : Prop where
  shaped : Shaped state.1.table
  clients : state.1.vetting.gauge = state.1.vetting.clients.count
  active : state.1.degraded.gauge = state.1.degraded.active.toNat
  trips : state.1.degraded.trips = state.2.trips
  stale : state.1.vetting.stale = state.2.refused
  outcomes : state.1.vetting.outcomes.total = state.2.returned

variable {account : Account}

theorem watching_counts (before after : Degraded) (account : Account) :
    (account.watching before after).refused = account.refused ∧
      (account.watching before after).returned = account.returned ∧
      (account.watching before after).trips =
        account.trips + (!before.active && after.active).toNat := by
  unfold Account.watching
  cases !before.active && after.active <;> exact ⟨rfl, rfl, rfl⟩

theorem truthful_step (truthful : Truthful (before, account)) (honest : Honest before after) :
    Truthful (after, account.watching before.degraded after.degraded) := by
  obtain ⟨refused, returned, trips⟩ :=
    watching_counts before.degraded after.degraded account
  constructor
  case shaped => exact honest.shaped truthful.shaped
  case clients => exact honest.clients truthful.clients
  case active => exact honest.geared.gauge truthful.active
  case trips => rw [trips, honest.geared.trips, truthful.trips]
  case stale => rw [refused, honest.stale, truthful.stale]
  case outcomes => rw [returned, honest.outcomes, truthful.outcomes]

/-- The board and the tokens are no instruments. -/
theorem truthful_aside (truthful : Truthful (before, account)) (table : after.table = before.table)
    (clients : after.vetting.clients = before.vetting.clients)
    (gauge : after.vetting.gauge = before.vetting.gauge)
    (outcomes : after.vetting.outcomes = before.vetting.outcomes)
    (stale : after.vetting.stale = before.vetting.stale)
    (degraded : after.degraded = before.degraded) : Truthful (after, account) := by
  constructor
  case shaped => exact table ▸ truthful.shaped
  case clients => exact (congrArg₂ (· = Clients.count ·) gauge clients).mpr truthful.clients
  case active => exact degraded ▸ truthful.active
  case trips => exact degraded ▸ truthful.trips
  case stale => exact stale.trans truthful.stale
  case outcomes => exact (congrArg Tally.total outcomes).trans truthful.outcomes

/-- An answer is refused exactly when it counts as stale. -/
theorem respond_keeps (client : ClientId) (response : Response) :
    Call.Keeps Truthful (fun _ => True)
      (recording Account.answering (respond client response)) := by
  rintro ⟨host, account⟩ truthful
  refine ⟨?_, trivial⟩
  show Truthful ({ host with vetting := (host.vetting.respond client response).2 },
    account.answering (host.vetting.respond client response).1)
  unfold Controller.respond
  rcases host.vetting.board.respond client response with ⟨taken, board⟩
  cases taken with
  | true => exact truthful_aside truthful rfl rfl rfl rfl rfl rfl
  | false =>
      constructor
      case stale => exact congrArg (· + 1) truthful.stale
      case shaped => exact truthful.shaped
      case clients => exact truthful.clients
      case active => exact truthful.active
      case trips => exact truthful.trips
      case outcomes => exact truthful.outcomes

theorem truthful_waiting (truthful : Truthful (host, account)) (token : Option String)
    (ticket : Option TicketId) : Truthful (host.awaitWith token ticket, account) := by
  cases token <;> exact truthful_aside truthful rfl rfl rfl rfl rfl rfl

/-- While a vetting waits, nothing of it has been counted. -/
theorem awaitOutcome_noted (token : Option String) (ticket : TicketId) (deadline : Nat)
    (truthful : Truthful (host, account)) :
    Run.Meets Truthful (fun _ _ => True)
      (Run.noting account (awaitOutcome token ticket deadline host)) := by
  have waiting := truthful_waiting truthful token (some ticket)
  rw [awaitOutcome_on]
  cases (host.awaitWith token (some ticket)).ending token ticket false with
  | some outcome => exact ⟨waiting, trivial⟩
  | none => exact ⟨waiting, fun _ _ kept => ⟨kept, trivial⟩⟩

/-- What a round does before it waits leaves all but the board alone. -/
theorem vet_rounds (caller : Caller) (report : Report) (task : Personality) (event : Event)
    (group wait : Nat) (host : Host) :
    ∃ token ticket deadline board, vet caller report task event group wait host =
      (awaitOutcome token ticket deadline { host with vetting := { host.vetting with board } }).bind
        fun outcome later => .done (later.leavingTicket token ticket outcome)
          (Controller.applyOutcome host.vetting.rules.timeoutDeny report outcome) := by
  have rechecked : ∃ board, (host.vetting.submit group task event).2.recheck group
      (host.vetting.submit group task event).1 = { host.vetting with board } := by
    unfold Controller.recheck
    split <;> exact ⟨_, rfl⟩
  obtain ⟨board, sent⟩ := rechecked
  refine ⟨if host.vetting.rules.interruptible then caller.token else none,
    (host.vetting.submit group task event).1, host.clock + wait, board, ?_⟩
  exact congrArg (fun vetting => Run.bind _ (awaitOutcome _ _ _ { host with vetting })) sent

/-- The outcome of a vetting is counted once, as it returns. -/
theorem vet_keeps (caller : Caller) (report : Report) (task : Personality) (event : Event)
    (group wait : Nat) :
    Call.Keeps Truthful (fun _ => True)
      (recording (fun _ => Account.returning) (vet caller report task event group wait)) := by
  rintro ⟨host, account⟩ truthful
  obtain ⟨token, ticket, deadline, board, round⟩ :=
    vet_rounds caller report task event group wait host
  have sent : Truthful ({ host with vetting := { host.vetting with board } }, account) :=
    truthful_aside truthful rfl rfl rfl rfl rfl rfl
  rw [recording, round, Run.noting_bind, Run.bind_assoc]
  refine Run.meets_bind (awaitOutcome_noted token ticket deadline sent) ?_
  rintro outcome ⟨later, account⟩ kept _
  have left := truthful_waiting kept token none
  refine ⟨?_, trivial⟩
  constructor
  case outcomes =>
    show ((later.awaitWith token none).vetting.outcomes.bump _).total = _
    rw [Tally.total_bump, left.outcomes]
    rfl
  case shaped => exact left.shaped
  case clients => exact left.clients
  case active => exact left.active
  case trips => exact left.trips
  case stale => exact left.stale

/-- Whatever becomes of the host meanwhile, the instruments agree with the
account whenever the call sleeps and when it returns. -/
theorem accounted_keeps {call : Call Host Value} {noted : Call (Host × Account) Value}
    (accounted : Accounted call noted) : Call.Keeps Truthful (fun _ => True) noted := by
  induction accounted with
  | pure value => exact Call.keeps_pure trivial
  | bind first rest firstKeeps restKeeps => exact Call.keeps_then firstKeeps restKeeps
  | sleep wait deadline => exact Call.keeps_sleep wait deadline
  | step step honest =>
      exact Call.keeps_modifyGet fun state truthful => truthful_step truthful (honest state.1)
  | respond client response => exact respond_keeps client response
  | vet caller report task event group wait => exact vet_keeps caller report task event group wait

end Host

end Interception
