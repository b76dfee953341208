import Interception.Proofs.Host.Ending
import Interception.Proofs.Host.Examining
import Interception.Proofs.Host.Turns

/-!
The service that refuses whatever nobody has allowed. An event that is to be
vetted passes only if a client took its ticket and answered it with leave;
without a client, after a refusal, a timeout, an interrupt or a failure, and
while degraded mode answers by itself, the caller gets an error.
-/

namespace Interception.Host

open Syscall Vetting

variable {host later met : Host} {caller : Caller} {task : Personality} {event : Event}

/-! ### The walk through the chain -/

/-- The verdict of a filter that asks nobody. -/
def refused : Report := Report.fresh.conclude .deny (some Errno.EACCES)

/-- What is left of an evaluation once the chain has been walked. -/
def telling (task : Personality) (event : Event) (walked : Chain.Walked (Call Host)) (host : Host) :
    Run Host Report :=
  (Chain.notify task event walked.report walked.decidedBy walked.seen host).bind
    fun _ last => .done last walked.report

theorem evaluate_walks (caller : Caller) (task : Personality) (event : Event) (host : Host) :
    evaluate caller task event host =
      (Chain.walk task event (host.filters caller) Report.fresh [] host).bind
        (telling task event) := rfl

/-- What is left of an examination once the chain has been walked. -/
def concluding (caller : Caller) (task : Personality) (event : Event)
    (walked : Chain.Walked (Call Host)) (host : Host) : Run Host (Except Errno Unit) :=
  ((Chain.notify task event walked.report walked.decidedBy walked.seen host).bind
    fun _ last => .done last walked.report).bind fun report last =>
      .done (countVerdict caller task event report last) (Chain.decide last.policy report)

theorem examine_walks (caller : Caller) (task : Personality) (event : Event) (host : Host) :
    on (examine caller task event) host =
      (Chain.walk task event (host.filters caller) Report.fresh [] host).bind
        (concluding caller task event) := by
  rw [examine_on, evaluate_walks, Run.bind_assoc]
  rfl

/-- A filter that concludes at once and leaves the policy alone. -/
def Quiet (filter : Filter (Call Host)) : Prop :=
  ∀ task event report decidedBy host, ∃ later,
    filter.conclude task event report decidedBy host = .done later () ∧ later.policy = host.policy

theorem actionLog_quiet (caller : Caller) : Quiet (actionLogFilter caller) :=
  fun _ _ _ _ _ => ⟨_, rfl, rfl⟩

theorem degraded_quiet (caller : Caller) : Quiet (degradedFilter caller) :=
  fun _ _ _ _ _ => ⟨_, rfl, rfl⟩

theorem vetting_quiet (caller : Caller) : Quiet (vettingFilter caller) :=
  fun _ _ _ _ host => ⟨host, rfl, rfl⟩

theorem notify_done (report : Report) (decidedBy : Option String)
    {filters : List (Filter (Call Host))} (quiet : ∀ filter ∈ filters, Quiet filter) :
    ∀ host, ∃ later, Chain.notify task event report decidedBy filters host = .done later () ∧
      later.policy = host.policy :=
  notify_concludes (fun host later => later.policy = host.policy) (fun _ => rfl)
    (fun _ _ _ before behind => behind.trans before) task event report decidedBy
    fun filter member => quiet filter member task event report decidedBy

theorem concluding_done {walked : Chain.Walked (Call Host)}
    (quiet : ∀ filter ∈ walked.seen, Quiet filter) (host : Host) :
    ∃ final, concluding caller task event walked host =
      .done final (Chain.decide host.policy walked.report) := by
  obtain ⟨later, ran, policy⟩ := notify_done walked.report walked.decidedBy quiet host
  refine ⟨countVerdict caller task event walked.report later, ?_⟩
  rw [concluding, ran, ← policy]
  rfl

theorem walk_off {filter : Filter (Call Host)} (rest : List (Filter (Call Host))) (report : Report)
    (seen : List (Filter (Call Host))) (off : filter.enabled host = .done host false) :
    Chain.walk task event (filter :: rest) report seen host =
      Chain.walk task event rest report seen host := by
  rw [Chain.walk, Call.bind_done off]
  rfl

theorem walk_on {filter : Filter (Call Host)} (rest : List (Filter (Call Host))) (report : Report)
    (seen : List (Filter (Call Host))) (enabled : filter.enabled host = .done host true) :
    Chain.walk task event (filter :: rest) report seen host =
      (filter.examine task event report host).bind fun after later =>
        if after.final then .done later ⟨after, some filter.name, filter :: seen⟩
        else Chain.walk task event rest after (filter :: seen) later := by
  rw [Chain.walk, Call.bind_done enabled]
  show Run.bind _ _ = _
  congr 1
  funext after later
  by_cases final : after.final = true
  · simp only [if_pos final]
    rfl
  · simp only [if_neg final]

theorem filters_service (chain : host.chain = serviceChain) (caller : Caller) :
    host.filters caller = [actionLogFilter caller, degradedFilter caller, vettingFilter caller] := by
  rw [filters, chain]
  rfl

/-- The action log lets every event pass. -/
theorem walk_log (chain : host.chain = serviceChain) (caller : Caller) (task : Personality)
    (event : Event) :
    ∃ seen, (∀ filter ∈ seen, filter = actionLogFilter caller) ∧
      Chain.walk task event (host.filters caller) Report.fresh [] host =
        Chain.walk task event [degradedFilter caller, vettingFilter caller] Report.fresh seen
          host := by
  have asked : (actionLogFilter caller).enabled host = .done host host.log.enabled := rfl
  rw [filters_service chain]
  cases enabled : host.log.enabled with
  | false => exact ⟨[], by simp, walk_off _ _ _ (asked.trans (by rw [enabled]))⟩
  | true =>
      refine ⟨[actionLogFilter caller], by simp, ?_⟩
      have examined : (actionLogFilter caller).examine task event Report.fresh host =
          .done host Report.fresh := rfl
      rw [walk_on _ _ _ (asked.trans (by rw [enabled])), examined, Run.bind_done,
        if_neg (by decide)]

/-- Degraded mode lets an event through or refuses it. -/
theorem degraded_examine {mode : Degraded} (deny : mode.fallback = .deny) (now : Nat) :
    (mode.examine now Report.fresh).1.fallback = .deny ∧
      ((mode.examine now Report.fresh).2 = Report.fresh ∨
        (mode.examine now Report.fresh).2 = refused) := by
  unfold Degraded.examine
  split
  · split
    · exact ⟨deny, .inl rfl⟩
    · exact ⟨deny, .inr (by rw [deny]; rfl)⟩
  · exact ⟨deny, .inl rfl⟩

/-- Who decided, if vetting came last. -/
def lastWord (caller : Caller) (seen : List (Filter (Call Host))) (report : Report) :
    Chain.Walked (Call Host) :=
  ⟨report, if report.final then some Controller.name else none, vettingFilter caller :: seen⟩

theorem walk_vetting (enabled : host.vetting.enabled = true) (seen : List (Filter (Call Host))) :
    Chain.walk task event [vettingFilter caller] Report.fresh seen host =
      (vetEvent caller task event Report.fresh host).bind fun report later =>
        .done later (lastWord caller seen report) := by
  have on : (vettingFilter caller).enabled host = .done host true := by
    rw [← enabled]
    rfl
  rw [walk_on [] Report.fresh seen on]
  show Run.bind _ (vetEvent caller task event Report.fresh host) = _
  congr 1
  funext report later
  by_cases final : report.final = true
  · simp only [lastWord, if_pos final]
    rfl
  · simp only [lastWord, if_neg final]
    rfl

theorem walk_degraded (closed : FailClosed host) {seen : List (Filter (Call Host))}
    (quiet : ∀ filter ∈ seen, Quiet filter) :
    ∃ met others, FailClosed met ∧ met.vetting = host.vetting ∧ (∀ filter ∈ others, Quiet filter) ∧
      (Chain.walk task event [degradedFilter caller, vettingFilter caller] Report.fresh seen host =
          .done met ⟨refused, some Degraded.name, others⟩ ∨
        Chain.walk task event [degradedFilter caller, vettingFilter caller] Report.fresh seen host =
          (vetEvent caller task event Report.fresh met).bind fun report later =>
            .done later (lastWord caller others report)) := by
  have asked : (degradedFilter caller).enabled host = .done host host.degraded.enabled := rfl
  cases enabled : host.degraded.enabled with
  | false =>
      refine ⟨host, seen, closed, rfl, quiet, .inr ?_⟩
      rw [walk_off _ _ _ (asked.trans (by rw [enabled]))]
      exact walk_vetting closed.enabled seen
  | true =>
      obtain ⟨fallback, answered⟩ := degraded_examine closed.fallback host.clock
      let met : Host := { host with degraded := (host.degraded.examine host.clock Report.fresh).1 }
      have closed' : FailClosed met :=
        ⟨closed.chain, closed.policy, closed.enabled, closed.noClient, closed.timeoutDeny,
          closed.unrouted, fallback⟩
      have examined : (degradedFilter caller).examine task event Report.fresh host =
          .done met (host.degraded.examine host.clock Report.fresh).2 := rfl
      have quiet' : ∀ filter ∈ degradedFilter caller :: seen, Quiet filter := by
        intro filter member
        rcases List.mem_cons.mp member with rfl | before
        · exact degraded_quiet caller
        · exact quiet filter before
      refine ⟨met, degradedFilter caller :: seen, closed', rfl, quiet', ?_⟩
      rw [walk_on _ _ _ (asked.trans (by rw [enabled])), examined, Run.bind_done]
      rcases answered with through | stopped
      · rw [through]
        exact .inr (walk_vetting closed'.enabled _)
      · rw [stopped]
        exact .inl rfl

/-- The chain ends with degraded mode's refusal, or as vetting says. -/
theorem walk_service (closed : FailClosed host) :
    ∃ met others, FailClosed met ∧ met.vetting = host.vetting ∧ (∀ filter ∈ others, Quiet filter) ∧
      (Chain.walk task event (host.filters caller) Report.fresh [] host =
          .done met ⟨refused, some Degraded.name, others⟩ ∨
        Chain.walk task event (host.filters caller) Report.fresh [] host =
          (vetEvent caller task event Report.fresh met).bind fun report later =>
            .done later (lastWord caller others report)) := by
  obtain ⟨seen, logs, walked⟩ := walk_log closed.chain caller task event
  have quiet : ∀ filter ∈ seen, Quiet filter :=
    fun filter member => logs filter member ▸ actionLog_quiet caller
  rw [walked]
  exact walk_degraded closed quiet

/-! ### A vetting round -/

/-- The error an outcome stands for when nothing passes by default. -/
def errnoOf : Outcome → Option Errno
  | .answered .allow _ => none
  | .answered .deny code => some (code.getD Errno.EACCES)
  | .timedOut => some Errno.ETIME
  | .interrupted => some Errno.ERESTARTSYS
  | .failed => some Errno.ECONNRESET

/-- What the caller of an examination gets for an outcome. -/
def answerOf (outcome : Outcome) : Except Errno Unit :=
  match errnoOf outcome with
  | none => .ok ()
  | some errno => .error errno

theorem decide_outcome (outcome : Outcome) :
    Chain.decide .deny (Controller.applyOutcome true Report.fresh outcome) = answerOf outcome := by
  cases outcome with
  | answered decision code => cases decision <;> rfl
  | failed | timedOut | interrupted => rfl

theorem errnoOf_none {outcome : Outcome} :
    errnoOf outcome = none ↔ ∃ code, outcome = .answered .allow code := by
  cases outcome with
  | answered decision code => cases decision <;> simp [errnoOf]
  | failed | timedOut | interrupted => simp [errnoOf]

theorem errnoOf_positive {outcome : Outcome} {errno : Errno} (refusal : errnoOf outcome = some errno)
    (positive : ∀ code, outcome = .answered .deny (some code) → 0 < code.code) :
    0 < errno.code := by
  cases outcome with
  | answered decision code =>
      cases decision with
      | allow => cases refusal
      | deny =>
          obtain rfl := Option.some.inj refusal
          cases code with
          | none => decide
          | some code => exact positive code rfl
  | failed | timedOut | interrupted =>
      obtain rfl := Option.some.inj refusal
      decide

/-- The host once an event was sent to a group. -/
def sent (host : Host) (group : Nat) (task : Personality) (event : Event) : Host :=
  { host with vetting := (host.vetting.submit group task event).2 }

/-- The host once a waiter has left. -/
def leavingTicket (host : Host) (token : Option String) (ticket : TicketId) (outcome : Outcome) :
    Host :=
  let left := host.awaitWith token none
  { left with vetting := left.vetting.finish ticket outcome }

/-- A round sends the event, waits and leaves. -/
theorem vet_on {group : Nat} (served : host.vetting.clients.serves group = true) (caller : Caller)
    (report : Report) (task : Personality) (event : Event) (wait : Nat) :
    ∃ token, vet caller report task event group wait host =
      (awaitOutcome token (host.vetting.board.submit group task event).1 (host.clock + wait)
        (host.sent group task event)).bind fun outcome later =>
          .done (later.leavingTicket token (host.vetting.board.submit group task event).1 outcome)
            (Controller.applyOutcome host.vetting.rules.timeoutDeny report outcome) := by
  have served' : (host.sent group task event).vetting.clients.serves group = true := served
  have rechecked (ticket : TicketId) : { host.sent group task event with
      vetting := (host.sent group task event).vetting.recheck group ticket } =
        host.sent group task event := by
    rw [Controller.recheck, if_pos served']
  refine ⟨if host.vetting.rules.interruptible then caller.token else none, ?_⟩
  have round : vet caller report task event group wait host =
      (awaitOutcome (if host.vetting.rules.interruptible then caller.token else none)
        (host.vetting.board.submit group task event).1
        ({ host.sent group task event with vetting :=
          (host.sent group task event).vetting.recheck group _ }.clock + wait)
        { host.sent group task event with vetting :=
          (host.sent group task event).vetting.recheck group _ }).bind fun outcome later =>
          .done (later.leavingTicket (if host.vetting.rules.interruptible then caller.token else none)
            (host.vetting.board.submit group task event).1 outcome)
            (Controller.applyOutcome host.vetting.rules.timeoutDeny report outcome) := rfl
  rw [round, rechecked]
  rfl

theorem awaitOutcome_on (token : Option String) (ticket : TicketId) (deadline : Nat) (host : Host) :
    awaitOutcome token ticket deadline host =
      match (host.awaitWith token (some ticket)).ending token ticket false with
      | some outcome => .done (host.awaitWith token (some ticket)) outcome
      | none => .asleep (host.awaitWith token (some ticket)) ⟨.verdict ticket token, some deadline⟩
          fun expired later => .done later ((later.ending token ticket expired).getD .timedOut) := by
  have looked : awaitOutcome token ticket deadline host =
      (match (host.awaitWith token (some ticket)).ending token ticket false with
      | some outcome => (pure outcome : Call Host Outcome)
      | none => do
          let expired ← Call.sleep (.verdict ticket token) (some deadline)
          return ((← get).ending token ticket expired).getD .timedOut)
        (host.awaitWith token (some ticket)) := rfl
  rw [looked]
  cases (host.awaitWith token (some ticket)).ending token ticket false <;> rfl

theorem vetEvent_on (closed : FailClosed host) (asked : host.vetting.rules.ops event.operation = true)
    (foreign : host.vetting.clients.hasPid task.pid = false) (caller : Caller) :
    vetEvent caller task event Report.fresh host = .done host refused ∨
      ∃ group wait, host.vetting.rules.routing.route event = .group group ∧
        host.vetting.clients.serves group = true ∧
        vetEvent caller task event Report.fresh host =
          vet caller Report.fresh task event group wait host := by
  rw [vetEvent, Call.get_bind, Controller.place, asked, foreign]
  cases route : host.vetting.rules.routing.route event with
  | unrouted =>
      -- Nothing is unrouted while the default group takes what no rule covers.
      unfold RoutingTable.route at route
      split at route
      · cases route
      · simp [closed.unrouted] at route
  | group group =>
      cases served : host.vetting.clients.serves group with
      | false =>
          refine .inl ?_
          simp only [served, closed.noClient]
          rfl
      | true =>
          refine .inr ⟨group, Controller.waitFor host.vetting.rules event.operation, rfl, served, ?_⟩
          simp only [served]
          rfl

/-! ### Examinations -/

/-- An examination that sleeps: it has put a ticket for the event on the board
and gives the answer for what becomes of it. -/
structure Begun (host : Host) (task : Personality) (event : Event) (group : Nat)
    (ticket : TicketId) (token : Option String) (run : Run Host (Except Errno Unit)) : Prop where
  routed : host.vetting.rules.routing.route event = .group group
  number : ticket = (host.vetting.board.submit group task event).1
  sleeps : ∃ slept deadline resume, run = .asleep slept ⟨.verdict ticket token, some deadline⟩ resume ∧
    FailClosed slept ∧ slept.vetting.board = (host.vetting.board.submit group task event).2 ∧
    ∀ expired later, ∃ final, resume expired later = .done final (Chain.decide later.policy
      (Controller.applyOutcome true Report.fresh
        ((later.ending token ticket expired).getD .timedOut)))

theorem awaitWith_closed (closed : FailClosed host) (token : Option String)
    (ticket : Option TicketId) : FailClosed (host.awaitWith token ticket) := by
  cases token <;> exact ⟨closed.chain, closed.policy, closed.enabled, closed.noClient,
    closed.timeoutDeny, closed.unrouted, closed.fallback⟩

theorem lastWord_quiet {seen : List (Filter (Call Host))} (quiet : ∀ filter ∈ seen, Quiet filter)
    (report : Report) : ∀ filter ∈ (lastWord caller seen report).seen, Quiet filter := by
  intro filter member
  rcases List.mem_cons.mp member with rfl | before
  · exact vetting_quiet caller
  · exact quiet filter before

theorem vetted_done {seen : List (Filter (Call Host))} (quiet : ∀ filter ∈ seen, Quiet filter)
    (host : Host) (token : Option String) (ticket : TicketId) (outcome : Outcome) :
    ∃ final, concluding caller task event
        (lastWord caller seen (Controller.applyOutcome true Report.fresh outcome))
        (host.leavingTicket token ticket outcome) =
      .done final (Chain.decide host.policy
        (Controller.applyOutcome true Report.fresh outcome)) := by
  have policy : (host.leavingTicket token ticket outcome).policy = host.policy := by
    cases token <;> rfl
  rw [← policy]
  exact concluding_done (lastWord_quiet quiet _) (host.leavingTicket token ticket outcome)

theorem awaitWith_vetting (host : Host) (token : Option String) (ticket : Option TicketId) :
    (host.awaitWith token ticket).vetting = host.vetting := by
  cases token <;> rfl

theorem positiveCode_positive {response : Response} {code : Errno}
    (carried : positiveCode response = some code) : 0 < code.code := by
  unfold positiveCode at carried
  split at carried
  · split at carried
    · obtain rfl := Option.some.inj carried
      assumption
    · cases carried
  · cases carried

theorem answerOf_ok {outcome : Outcome} :
    answerOf outcome = .ok () ↔ ∃ code, outcome = .answered .allow code := by
  rw [← errnoOf_none, answerOf]
  cases errnoOf outcome <;> simp

/-- Whatever a waiter finds, a refusal has a positive number. -/
theorem answerOf_positive {board : Board} {log : List Record} {ticket : TicketId} {group : Nat}
    {request : Request} (consistent : Consistent board log) (waits : Waits board ticket group request)
    {interrupted expired : Bool} {errno : Errno}
    (refusal : answerOf ((board.verdict? ticket interrupted expired).getD .timedOut) = .error errno) :
    0 < errno.code := by
  have found : errnoOf ((board.verdict? ticket interrupted expired).getD .timedOut) = some errno := by
    unfold answerOf at refusal
    split at refusal
    · cases refusal
    · rename_i other same
      rw [same, Except.error.inj refusal]
  apply errnoOf_positive found
  intro code answered
  obtain ⟨_, _, response, _, _, _, carried⟩ :=
    (outcome_answered consistent waits interrupted expired .deny (some code)).mp answered
  exact positiveCode_positive carried

theorem refused_done {walked : Chain.Walked (Call Host)} (report : walked.report = refused)
    (quiet : ∀ filter ∈ walked.seen, Quiet filter) (host : Host) :
    ∃ final, concluding caller task event walked host = .done final (.error Errno.EACCES) := by
  obtain ⟨final, ran⟩ := concluding_done quiet host
  refine ⟨final, ran.trans ?_⟩
  rw [report]
  rfl

/-- Nobody can have answered a ticket that was just submitted. -/
theorem submitted_refused {board : Board} {log : List Record} (consistent : Consistent board log)
    (nonzero : Nonzero board) {group : Nat} {interrupted : Bool} {outcome : Outcome}
    (looked : (board.submit group task event).2.verdict? (board.submit group task event).1
      interrupted false = some outcome) :
    ∃ errno, answerOf outcome = .error errno ∧ 0 < errno.code := by
  have free := submit_free nonzero group task event
  have submitted := consistent_submit consistent group task event free
  have waits := waits_submit board group task event
  cases answer : answerOf outcome with
  | error errno =>
      have refusal : answerOf (((board.submit group task event).2.verdict?
          (board.submit group task event).1 interrupted false).getD .timedOut) = .error errno := by
        rw [looked]
        exact answer
      exact ⟨errno, rfl, answerOf_positive submitted waits refusal⟩
  | ok value =>
      obtain ⟨code, same⟩ := answerOf_ok.mp answer
      have answered : ((board.submit group task event).2.verdict?
          (board.submit group task event).1 interrupted false).getD .timedOut =
            .answered .allow code := by
        rw [looked]
        exact same
      obtain ⟨_, _, _, life, _⟩ := (outcome_answered submitted waits _ _ _ _).mp answered
      rw [life_submitted] at life
      cases life

/-- What is begun depends on the controller alone. -/
theorem begun_same {met : Host} (same : met.vetting = host.vetting) {group : Nat} {ticket : TicketId}
    {token : Option String} {run : Run Host (Except Errno Unit)}
    (begun : Begun met task event group ticket token run) :
    Begun host task event group ticket token run := by
  constructor
  case routed => exact same ▸ begun.routed
  case number => exact same ▸ begun.number
  case sleeps => exact same ▸ begun.sleeps

/-- A round refuses at once, or it sleeps on a ticket for the event. -/
theorem vet_begins (closed : FailClosed host) {log : List Record}
    (consistent : Consistent host.vetting.board log) (nonzero : Nonzero host.vetting.board)
    {group : Nat} (routed : host.vetting.rules.routing.route event = .group group)
    (served : host.vetting.clients.serves group = true) {others : List (Filter (Call Host))}
    (quiet : ∀ filter ∈ others, Quiet filter) (caller : Caller) (wait : Nat)
    {run : Run Host (Except Errno Unit)}
    (runs : run = (vet caller Report.fresh task event group wait host).bind fun report later =>
      concluding caller task event (lastWord caller others report) later) :
    (∃ final errno, run = .done final (.error errno) ∧ 0 < errno.code) ∨
      ∃ token, Begun host task event group (host.vetting.board.submit group task event).1 token
        run := by
  obtain ⟨token, ran⟩ := vet_on served caller Report.fresh task event wait
  have closedSent : FailClosed (host.sent group task event) :=
    ⟨closed.chain, closed.policy, closed.enabled, closed.noClient, closed.timeoutDeny,
      closed.unrouted, closed.fallback⟩
  rw [ran, awaitOutcome_on, closed.timeoutDeny, Run.bind_assoc] at runs
  generalize number : (host.vetting.board.submit group task event).1 = ticket at runs ⊢
  have closedWait := awaitWith_closed closedSent token (some ticket)
  have board : ((host.sent group task event).awaitWith token (some ticket)).vetting.board =
      (host.vetting.board.submit group task event).2 := by
    rw [awaitWith_vetting]
    rfl
  -- A waiter looks before it sleeps; a verdict found then is a refusal.
  cases looked : ((host.sent group task event).awaitWith token (some ticket)).ending token ticket
      false with
  | some outcome =>
      have verdict := looked
      rw [ending, board, ← number] at verdict
      obtain ⟨errno, answer, positive⟩ := submitted_refused consistent nonzero verdict
      obtain ⟨final, done⟩ := vetted_done quiet
        ((host.sent group task event).awaitWith token (some ticket)) token ticket outcome
      refine .inl ⟨final, errno, ?_, positive⟩
      simp only [looked, Run.bind_done] at runs
      rw [runs, done, closedWait.policy, decide_outcome, answer]
  | none =>
      refine .inr ⟨token, routed, number.symm, ?_⟩
      simp only [looked] at runs
      refine ⟨_, _, _, runs, closedWait, board, ?_⟩
      exact fun expired later => vetted_done quiet later token ticket _

/-- An examination refuses at once, or it sleeps on a ticket for the event. -/
theorem examine_begins (closed : FailClosed host) {log : List Record}
    (consistent : Consistent host.vetting.board log) (nonzero : Nonzero host.vetting.board)
    (asked : host.vetting.rules.ops event.operation = true)
    (foreign : host.vetting.clients.hasPid task.pid = false) (caller : Caller) :
    (∃ final errno, on (examine caller task event) host = .done final (.error errno) ∧
        0 < errno.code) ∨
      ∃ group ticket token, Begun host task event group ticket token
        (on (examine caller task event) host) := by
  obtain ⟨met, others, closed', same, quiet, walked⟩ := walk_service closed
  rw [examine_walks]
  rcases walked with stopped | vetting
  · obtain ⟨final, ran⟩ := refused_done (rfl : Chain.Walked.report ⟨refused, _, others⟩ = refused)
      quiet met
    rw [stopped, Run.bind_done]
    exact .inl ⟨final, _, ran, by decide⟩
  · rw [vetting, Run.bind_assoc]
    simp only [Run.bind_done]
    rcases vetEvent_on closed' (same ▸ asked) (same ▸ foreign) caller with
      denied | ⟨group, wait, routed, served, vets⟩
    · obtain ⟨final, ran⟩ := refused_done (rfl : (lastWord caller others refused).report = refused)
        (lastWord_quiet quiet refused) met
      rw [denied, Run.bind_done]
      exact .inl ⟨final, _, ran, by decide⟩
    · rw [vets]
      rcases vet_begins closed' (same ▸ consistent) (same ▸ nonzero) routed served quiet caller wait
        rfl with refuses | ⟨token, begun⟩
      · exact .inl refuses
      · exact .inr ⟨group, _, token, begun_same same begun⟩

/-! ### Who lets an event pass -/

/-- The number of the next ticket. -/
def nextTicket (host : Host) : TicketId :=
  (Identifier.allocate (host.vetting.board.live.map (·.id)) host.vetting.board.nextId).1

/-- The examination sleeps on a ticket for the event, in the group the event is
routed to; a client with that group took it, and its answer was leave. -/
structure Allowed (caller : Caller) (task : Personality) (event : Event) (host : Host)
    (log news : List Record) (group : Nat) : Prop where
  routed : host.vetting.rules.routing.route event = .group group
  sent : ∃ slept token deadline resume, on (examine caller task event) host =
      .asleep slept ⟨.verdict host.nextTicket token, some deadline⟩ resume ∧
    Waits slept.vetting.board host.nextTicket group (Request.ofEvent host.nextTicket task event)
  answered : ∃ client groups response,
    life host.nextTicket (news ++ .submitted host.nextTicket group :: log) =
      [.taken client response, .handed host.nextTicket client groups,
        .submitted host.nextTicket group] ∧
    Fits groups group ∧ response.decision = .allow

/-- An examination that sleeps lets the event pass exactly if it was allowed. -/
theorem begun_answers {log news : List Record} {group : Nat} {token : Option String}
    (consistent : Consistent host.vetting.board log) (nonzero : Nonzero host.vetting.board)
    (begun : Begun host task event group host.nextTicket token (on (examine caller task event) host))
    {slept : Host} {deadline : Nat} {resume : Bool → Host → Run Host (Except Errno Unit)}
    (ran : on (examine caller task event) host =
      .asleep slept ⟨.verdict host.nextTicket token, some deadline⟩ resume)
    (closed : FailClosed slept)
    (board : slept.vetting.board = (host.vetting.board.submit group task event).2)
    (turns : Turns (some host.nextTicket) (slept, .submitted host.nextTicket group :: log)
      (later, news ++ .submitted host.nextTicket group :: log))
    (expired : Bool) {answer : Except Errno Unit}
    (answered : answer = Chain.decide later.policy (Controller.applyOutcome true Report.fresh
      ((later.ending token host.nextTicket expired).getD .timedOut))) :
    (answer = .ok () ↔ ∃ group, Allowed caller task event host log news group) ∧
      ∀ errno, answer = .error errno → 0 < errno.code := by
  have free := submit_free nonzero group task event
  have submitted : Consistent slept.vetting.board (.submitted host.nextTicket group :: log) :=
    board ▸ consistent_submit consistent group task event free
  have waits : Waits slept.vetting.board host.nextTicket group
      (Request.ofEvent host.nextTicket task event) :=
    board ▸ waits_submit host.vetting.board group task event
  obtain ⟨closedLater, consistentLater, waitsLater⟩ := turns_kept turns closed submitted waits
  rw [closedLater.policy, decide_outcome, ending] at answered
  constructor
  · rw [answered, answerOf_ok]
    constructor
    · rintro ⟨code, same⟩
      obtain ⟨client, groups, response, life, fits, allow, _⟩ :=
        (outcome_answered consistentLater waitsLater _ _ _ _).mp same
      exact ⟨group, begun.routed, ⟨slept, token, deadline, resume, ran, waits⟩,
        client, groups, response, life, fits, allow⟩
    · rintro ⟨other, allowed⟩
      obtain rfl : group = other := by
        have routed := begun.routed.symm.trans allowed.routed
        exact Route.group.inj routed
      obtain ⟨client, groups, response, life, fits, allow⟩ := allowed.answered
      exact ⟨positiveCode response, (outcome_answered consistentLater waitsLater _ _ _ _).mpr
        ⟨client, groups, response, life, fits, allow, rfl⟩⟩
  · intro errno refusal
    exact answerOf_positive consistentLater waitsLater (answered.symm.trans refusal)

/-- In every closed service an event that is to be vetted passes exactly if a
client that took its ticket has allowed it; else its caller gets an error with
a positive number. The examination sleeps once at most, for a limited time. -/
theorem examine_ok_iff_allowed {log : List Record} (reached : Reached host log)
    (asked : host.vetting.rules.ops event.operation = true)
    (foreign : host.vetting.clients.hasPid task.pid = false) (caller : Caller) :
    Run.Within 1 (on (examine caller task event) host) ∧
      ∀ final after answer, Run.Ends (Turns (some host.nextTicket))
          (Run.noting log (on (examine caller task event) host)) (final, after) answer →
        ∃ news, after = news ++ log ∧
          (answer = .ok () ↔ ∃ group, Allowed caller task event host log news group) ∧
          ∀ errno, answer = .error errno → 0 < errno.code := by
  obtain ⟨closed, consistent, nonzero⟩ := reached_law reached
  rcases examine_begins closed consistent nonzero asked foreign caller with
    ⟨final, errno, ran, positive⟩ | ⟨group, ticket, token, begun⟩
  · rw [ran]
    refine ⟨trivial, ?_⟩
    intro last after answer ended
    obtain ⟨same, rfl⟩ := Run.ends_done ended
    obtain ⟨_, rfl⟩ := Prod.mk.inj same
    refine ⟨[], rfl, ⟨fun passed => (by cases passed), ?_⟩, ?_⟩
    · rintro ⟨group, allowed⟩
      obtain ⟨_, _, _, _, sleeps, _⟩ := allowed.sent
      rw [ran] at sleeps
      cases sleeps
    · rintro other ⟨⟩
      exact positive
  · obtain rfl : ticket = host.nextTicket := begun.number
    obtain ⟨slept, deadline, resume, sleeps, closedSlept, board, wakes⟩ := begun.sleeps
    constructor
    · rw [sleeps]
      refine ⟨rfl, ?_⟩
      intro expired later
      obtain ⟨final, done⟩ := wakes expired later
      rw [done]
      trivial
    · intro last after answer ended
      have ran := sleeps
      rw [sleeps] at ended
      cases ended with
      | @woken _ woken _ _ _ _ expired meanwhile ended =>
          -- What the others did meanwhile is all that the log has gained.
          obtain ⟨news, same, anyhow⟩ := turns_news meanwhile
          obtain ⟨final, done⟩ := wakes expired woken.1
          simp only [done] at ended
          obtain ⟨ends, answered⟩ := Run.ends_done ended
          refine ⟨news, (Prod.mk.inj ends).2.trans same, ?_⟩
          exact begun_answers consistent nonzero begun ran closedSlept board
            (anyhow (.submitted host.nextTicket group :: log)) expired answered

/-! A client takes the only ticket and allows it. -/

def vettingClient : Client := ⟨1, "guard", ⟨255⟩, 99⟩

def closedHost : Host :=
  { bare Kernel.empty with
    chain := serviceChain
    degraded := Degraded.ofSettings true 3 .deny 0
    vetting := { Controller.ofRules true
      ⟨1000, 1000, true, false, fun _ => true, ⟨[], 0, false⟩, .deny⟩ with
      clients := ⟨[vettingClient], 2⟩ } }

def mountEvent : Event := .filesystem ⟨.mount, "/dev/a", "/a", "ext4", 0, 1⟩

def guardedCaller : Caller := ⟨"main", none, true⟩

def guardedTask : Personality := ⟨1, 1, 0, 0, 0, 0, "sh"⟩

theorem closedHost_reached : Reached closedHost [] :=
  ⟨closedHost, ⟨rfl, rfl, rfl, rfl, rfl, rfl, rfl⟩, rfl, .refl⟩

def waitingHost : Host := (on (examine guardedCaller guardedTask mountEvent) closedHost).state

def servedHost : Host :=
  { waitingHost with vetting := (waitingHost.vetting.fetchPass 1 ⟨255⟩).2 }

def grantedHost : Host :=
  { servedHost with vetting := (servedHost.vetting.respond 1 ⟨1, .allow, none⟩).2 }

theorem allowed_event_passes : ∃ final after news group,
    Run.Ends (Turns (some closedHost.nextTicket))
      (Run.noting [] (on (examine guardedCaller guardedTask mountEvent) closedHost)) (final, after)
      (.ok ()) ∧ Allowed guardedCaller guardedTask mountEvent closedHost [] news group := by
  have waiting : FailClosed waitingHost := ⟨rfl, rfl, rfl, rfl, rfl, rfl, rfl⟩
  have fetched : Turns (some closedHost.nextTicket) (waitingHost, [])
      (servedHost, ((Move.fetch 1 ⟨255⟩).on waitingHost.vetting.board).2 ++ []) :=
    moved_turns waiting (fetchPass_moved waitingHost.vetting 1 ⟨255⟩) (by simp)
  have served : FailClosed servedHost := ⟨rfl, rfl, rfl, rfl, rfl, rfl, rfl⟩
  have responded : Turns (some closedHost.nextTicket)
      (servedHost, ((Move.fetch 1 ⟨255⟩).on waitingHost.vetting.board).2 ++ []) (grantedHost, _) :=
    moved_turns served (respond_moved servedHost.vetting 1 ⟨1, .allow, none⟩) (by simp)
  have ended : ∃ final after, Run.Ends (Turns (some closedHost.nextTicket))
      (Run.noting [] (on (examine guardedCaller guardedTask mountEvent) closedHost)) (final, after)
      (.ok ()) :=
    ⟨_, _, .woken false (fetched.trans responded) (.done _ _)⟩
  obtain ⟨final, after, ended⟩ := ended
  obtain ⟨news, _, passes, _⟩ := (examine_ok_iff_allowed closedHost_reached rfl rfl guardedCaller).2
    final after _ ended
  obtain ⟨group, allowed⟩ := passes.mp rfl
  exact ⟨final, after, news, group, ended, allowed⟩

end Interception.Host
