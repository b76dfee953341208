import Interception.Host.Service
import Interception.Proofs.Filter.History
import Interception.Proofs.Host.Ending
import Interception.Proofs.Host.Examining
import Mathlib.Tactic.SplitIfs

/-!
What the audit trail says of an event and what its caller gets. The action log
and the chain read the same report, each for itself. They agree on denials,
and on timeouts without a code or with the code of a timeout. A timeout with
any other code is refused, and the trail says that it was let through.
-/

namespace Interception

/-- A record of what became of an event. -/
def AuditRecord.isVerdict : AuditRecord → Bool
  | .denied .. | .timeoutAllowed .. => true
  | .filterError .. | .degradedMode .. | .clientChange .. => false

/-- A record says of an event what its caller got: a denial names the error of
a refusal, and only what passed was let through. -/
structure Tells (task : Personality) (event : Event) (record : AuditRecord)
    (answer : Except Errno Unit) : Prop where
  denied : ∀ errno, (∃ vetted, record = .denied task event errno vetted) ↔ answer = .error errno
  allowed : (∃ timeouts, record = .timeoutAllowed task event timeouts) ↔ answer = .ok ()

/-- A timeout under a code that is not the code of a timeout. -/
def Misfiled (report : Report) : Prop :=
  report.action = .timeout ∧ ∃ code, report.code = some code ∧ code ≠ Errno.ETIME

/-- Verdicts that leave a record. -/
def Noteworthy (report : Report) : Prop :=
  report.action = .deny ∨ report.action = .timeout

namespace ActionLog

variable {report : Report} {task : Personality} {event : Event}

theorem record_denial (told : retriedClose report event = false) (deny : report.action = .deny) :
    record? report task event =
      some (.denied task event (report.code.getD Errno.EACCES) report.vetted) := by
  simp [record?, told, deny]

theorem record_timeout (told : retriedClose report event = false)
    (timeout : report.action = .timeout) :
    record? report task event = some (if report.code = some Errno.ETIME
      then .denied task event Errno.ETIME false
      else .timeoutAllowed task event report.timeouts) := by
  by_cases late : report.code = some Errno.ETIME <;> simp [record?, told, timeout, late]

theorem record_none (quiet : retriedClose report event = true ∨ ¬ Noteworthy report) :
    record? report task event = none := by
  rcases quiet with retried | unworthy
  · simp [record?, retried]
  · unfold record?
    cases told : report.action <;> simp [Noteworthy, told] at unworthy ⊢

theorem record_verdict {record : AuditRecord} (found : record? report task event = some record) :
    record.isVerdict = true := by
  cases retried : retriedClose report event with
  | true => simp [record_none (.inl retried)] at found
  | false =>
      by_cases deny : report.action = .deny
      · obtain rfl := Option.some.inj ((record_denial retried deny).symm.trans found)
        rfl
      by_cases timeout : report.action = .timeout
      · obtain rfl := Option.some.inj ((record_timeout retried timeout).symm.trans found)
        split_ifs <;> rfl
      · simp [record_none (.inr fun worthy => worthy.elim deny timeout)] at found

end ActionLog

/-! ### Records and answers -/

variable {report : Report} {task : Personality} {event : Event}

theorem tells_denied (code : Errno) (vetted : Bool) :
    Tells task event (.denied task event code vetted) (.error code) := by
  constructor
  case denied => simp
  case allowed => simp

theorem tells_allowed (timeouts : Nat) :
    Tells task event (.timeoutAllowed task event timeouts) (.ok ()) := by
  constructor
  case denied => simp
  case allowed => simp

/-- The record of a verdict tells what its caller got, unless it is misfiled. -/
theorem record_tells {record : AuditRecord}
    (found : ActionLog.record? report task event = some record) (policy : ErrorPolicy) :
    Tells task event record (Chain.decide policy report) ↔ ¬ Misfiled report := by
  have told : ActionLog.retriedClose report event = false := by
    cases retried : ActionLog.retriedClose report event with
    | false => rfl
    | true => simp [ActionLog.record_none (.inl retried)] at found
  by_cases deny : report.action = .deny
  · obtain rfl := Option.some.inj ((ActionLog.record_denial told deny).symm.trans found)
    have answer : Chain.decide policy report = .error (report.code.getD Errno.EACCES) := by
      simp [Chain.decide, deny]
    rw [answer]
    exact iff_of_true (tells_denied _ _) fun ⟨timeout, _⟩ => by simp [deny] at timeout
  by_cases timeout : report.action = .timeout
  · obtain rfl := Option.some.inj ((ActionLog.record_timeout told timeout).symm.trans found)
    cases code : report.code with
    | none =>
        have answer : Chain.decide policy report = .ok () := by simp [Chain.decide, timeout, code]
        rw [answer]
        exact iff_of_true (tells_allowed _) fun ⟨_, other, same, _⟩ => by simp [code] at same
    | some errno =>
        have answer : Chain.decide policy report = .error errno := by
          simp [Chain.decide, timeout, code]
        rw [answer]
        by_cases late : errno = Errno.ETIME
        · subst late
          refine iff_of_true (tells_denied _ _) ?_
          rintro ⟨_, other, same, apart⟩
          exact apart (Option.some.inj (same.symm.trans code))
        · -- The one slip: the trail lets through what the caller was refused.
          refine iff_of_false ?_ (fun sound => sound ⟨timeout, errno, code, late⟩)
          intro tells
          have passed := tells.allowed.mp ⟨report.timeouts, by simp [late]⟩
          cases passed
  · have unworthy : ¬ Noteworthy report := fun worthy => worthy.elim deny timeout
    simp [ActionLog.record_none (.inr unworthy)] at found

namespace Host

open Syscall

variable {others : Host → Host → Prop} {caller : Caller} {host met later final : Host}
  {records : List AuditRecord}

/-! ### The trail of a thread -/

/-- What a thread has recorded about events, the latest first. -/
def verdictsOf (origin : String) (host : Host) : List AuditRecord :=
  (host.trail.filter fun entry => entry.1 == origin && entry.2.isVerdict).map Prod.snd

theorem verdictsOf_note (caller : Caller) (host : Host) (records : List AuditRecord) :
    verdictsOf caller.origin (host.note caller records) =
      (records.filter AuditRecord.isVerdict).reverse ++ verdictsOf caller.origin host := by
  simp [verdictsOf, note, List.filter_map, Function.comp_def]

/-- A filter that writes no record of its own about events. -/
def Aloof (origin : String) (filter : Filter (Call Host)) : Prop :=
  ∀ records, Harmless (fun host => verdictsOf origin host = records) filter

theorem verdictsOf_aside (origin : String) (records : List AuditRecord) :
    Aside fun host => verdictsOf origin host = records := by
  rintro host _ ⟨vetting, tokens, scripted, rfl⟩ kept
  exact kept

theorem degraded_records (mode : Degraded) (now : Nat) (report : Report)
    (decidedBy : Option String) :
    (mode.conclude now report decidedBy).2.filter AuditRecord.isVerdict = [] := by
  have entered (mode : Degraded) (reason : String) :
      (mode.enter now reason).2.filter AuditRecord.isVerdict = [] := by
    unfold Degraded.enter
    split_ifs <;> rfl
  have left (mode : Degraded) (reason : String) :
      (mode.leave reason).2.filter AuditRecord.isVerdict = [] := by
    unfold Degraded.leave
    split_ifs <;> rfl
  by_cases own : decidedBy = some Degraded.name
  · rw [own, Degraded.conclude_own]
    rfl
  rcases Degraded.verdict_cases report with timeout | unsettled | cleared
  · rw [Degraded.conclude_timeout mode now own timeout]
    dsimp only
    split_ifs
    · exact entered _ _
    · rfl
  · rw [Degraded.conclude_open mode now unsettled]
    rfl
  · rw [Degraded.conclude_clearing mode now own cleared]
    split_ifs
    · exact left _ _
    · rfl

theorem degraded_aloof (caller : Caller) : Aloof caller.origin (degradedFilter caller) := by
  intro records
  constructor
  case enabled => exact keeps_reading fun host => host.degraded.enabled
  case examine => exact fun _ _ _ => Call.keeps_modifyGet fun _ kept => kept
  case conclude =>
    intro task event report decidedBy
    refine Call.keeps_modify fun host kept => ?_
    rw [verdictsOf_note, degraded_records]
    exact kept

/-- Of the filters a host may have, the action log alone writes such records. -/
theorem filter_aloof {reference : FilterRef} {filter : Filter (Call Host)}
    (found : host.filter? caller reference = some filter) (other : reference ≠ .actionLog) :
    Aloof caller.origin filter := by
  cases reference with
  | actionLog => exact absurd rfl other
  | degraded =>
      obtain rfl := Option.some.inj found
      exact degraded_aloof caller
  | vetting =>
      obtain rfl := Option.some.inj found
      exact fun records => vetting_harmless (verdictsOf_aside _ records) caller
  | scripted index =>
      obtain ⟨script, _, rfl⟩ := Option.map_eq_some_iff.mp found
      exact fun records => scripted_harmless (verdictsOf_aside _ records) index script

/-! ### Consultations -/

/-- How an evaluation ends that consults the action log: the filters before it
have left the report open, it is enabled when it is reached, and once the
others have settled the report all that saw the event are told. -/
inductive Consulted (others : Host → Host → Prop) (caller : Caller) (task : Personality)
    (event : Event) (before behind : List (Filter (Call Host))) (host final : Host) :
    Report → Prop
  | intro {met later : Host} {sofar : Report} {seen : List (Filter (Call Host))}
      {walked : Chain.Walked (Call Host)}
      (reached : Run.Ends others (Chain.walk task event before Report.fresh [] host) met
        ⟨sofar, none, seen⟩)
      (enabled : met.log.enabled = true)
      (settled : Run.Ends others
        (Chain.walk task event behind sofar (actionLogFilter caller :: seen) met) later walked)
      (told : Run.Ends others
        (Chain.notify task event walked.report walked.decidedBy walked.seen later) final ()) :
      Consulted others caller task event before behind host final walked.report

/-- A walk that nobody has ended leaves the report open. -/
theorem walk_open (task : Personality) (event : Event) (filters : List (Filter (Call Host))) :
    ∀ report seen, report.final = false →
      Call.Keeps (fun _ => True) (fun walked => walked.decidedBy = none →
        walked.report.final = false) (Chain.walk task event filters report seen) := by
  induction filters with
  | nil => exact fun _ _ unsettled => Call.keeps_pure fun _ => unsettled
  | cons filter rest further =>
      intro report seen unsettled
      apply Call.keeps_then fun host _ => Run.meets_true _
      intro enabled
      cases enabled with
      | false => exact further report seen unsettled
      | true =>
          apply Call.keeps_then fun host _ => Run.meets_true _
          intro after
          by_cases final : after.final = true
          · rw [if_pos final]
            exact Call.keeps_pure fun none => by cases none
          · rw [if_neg final]
            exact further after (filter :: seen) (by simpa using final)

/-- A consultation is one of the ways in which the evaluation of the whole
chain ends. -/
theorem consulted_ends {before behind : List (Filter (Call Host))}
    (consulted : Consulted others caller task event before behind host final report) :
    Run.Ends others
      (Chain.evaluate (before ++ actionLogFilter caller :: behind) task event host)
      final report := by
  cases consulted with
  | @intro met later sofar seen walked reached enabled settled told =>
      have unsettled : sofar.final = false :=
        (Run.meets_ends (walk_open task event before Report.fresh [] rfl host trivial)
          (fun _ _ _ _ => trivial) reached).2 rfl
      have asked : (actionLogFilter caller).enabled met = .done met true :=
        congrArg (Run.done met) enabled
      have past : Chain.walk task event (actionLogFilter caller :: behind) sofar seen met =
          Chain.walk task event behind sofar (actionLogFilter caller :: seen) met := by
        rw [Chain.walk, Call.bind_done asked]
        show (if sofar.final = true then _ else Chain.walk _ _ _ _ _ : Call Host _) met = _
        simp [unsettled]
      refine Run.ends_bind.mpr ⟨later, walked, ?_,
        Run.ends_bind.mpr ⟨final, (), told, .done final walked.report⟩⟩
      rw [walk_append]
      exact Run.ends_bind.mpr ⟨met, ⟨sofar, none, seen⟩, reached, by rw [past]; exact settled⟩

/-- Told of the settled report, the action log writes its record. -/
theorem actionLog_writes (caller : Caller) (task : Personality) (event : Event) (report : Report)
    (decidedBy : Option String) (host : Host) :
    ∃ later, (actionLogFilter caller).conclude task event report decidedBy host = .done later () ∧
      verdictsOf caller.origin later =
        (ActionLog.record? report task event).toList ++ verdictsOf caller.origin host := by
  refine ⟨_, rfl, (verdictsOf_note caller _ _).trans ?_⟩
  cases found : ActionLog.record? report task event with
  | none => simp [verdictsOf]
  | some record => simp [ActionLog.record_verdict found, verdictsOf]

/-- What the thread records in a consultation is the action log's record of
the settled report. -/
theorem consulted_records {before behind : List (Filter (Call Host))}
    (aloofBefore : ∀ filter ∈ before, Aloof caller.origin filter)
    (aloofBehind : ∀ filter ∈ behind, Aloof caller.origin filter)
    (apart : ∀ host later, others host later →
      verdictsOf caller.origin later = verdictsOf caller.origin host)
    (consulted : Consulted others caller task event before behind host final report) :
    verdictsOf caller.origin final =
      (ActionLog.record? report task event).toList ++ verdictsOf caller.origin host := by
  have kept : ∀ records, ∀ state later, others state later →
      verdictsOf caller.origin state = records → verdictsOf caller.origin later = records :=
    fun records state later step same => (apart state later step).trans same
  cases consulted with
  | @intro met later sofar seen walked reached enabled settled told =>
      obtain ⟨atMet, saw, seenBefore, insideBefore⟩ := Run.meets_ends
        (walk_keeps task event (fun filter member => aloofBefore filter member (verdictsOf _ host))
          Report.fresh [] host rfl) (kept _) reached
      obtain ⟨atLater, sawBehind, seenAll, insideBehind⟩ := Run.meets_ends
        (walk_keeps task event (fun filter member => aloofBehind filter member (verdictsOf _ host))
          sofar (actionLogFilter caller :: seen) met atMet) (kept _) settled
      simp only [List.append_nil] at seenBefore
      subst seenBefore
      rw [seenAll, notify_append] at told
      obtain ⟨told₁, ⟨⟩, behindTold, logTold⟩ := Run.ends_bind.mp told
      have atLog := (Run.meets_ends
        (notify_keeps task event walked.report walked.decidedBy sawBehind
          (fun filter member => aloofBehind filter (insideBehind filter member) _) later atLater)
        (kept _) behindTold).1
      obtain ⟨written, ran, wrote⟩ := actionLog_writes caller task event walked.report
        walked.decidedBy told₁
      rw [Chain.notify, Call.bind_done ran] at logTold
      refine (Run.meets_ends (notify_keeps task event walked.report walked.decidedBy seen
        (fun filter member => aloofBefore filter (insideBefore filter member) _) written ?_)
        (kept _) logTold).1
      rw [wrote, atLog]

/-- What an evaluation writes and what its caller gets. A retried close and a
verdict that is no denial and no timeout leave no record; any other leaves
one, and it tells the caller's answer exactly if it is not misfiled. A
misfiled timeout is recorded as let through and is refused. -/
structure Audited (task : Personality) (event : Event) (report : Report)
    (written : List AuditRecord) : Prop where
  silent : ActionLog.retriedClose report event = true ∨ ¬ Noteworthy report → written = []
  single : ActionLog.retriedClose report event = false → Noteworthy report →
    ∃ record, written = [record] ∧ ∀ policy,
      Tells task event record (Chain.decide policy report) ↔ ¬ Misfiled report
  misfiled : ActionLog.retriedClose report event = false → Misfiled report →
    written = [.timeoutAllowed task event report.timeouts] ∧
      ∃ code, report.code = some code ∧ ∀ policy, Chain.decide policy report = .error code

theorem record_audited (report : Report) (task : Personality) (event : Event) :
    Audited task event report (ActionLog.record? report task event).toList := by
  constructor
  case silent =>
    intro quiet
    rw [ActionLog.record_none quiet]
    rfl
  case single =>
    intro told worthy
    obtain ⟨record, found⟩ : ∃ record, ActionLog.record? report task event = some record := by
      rcases worthy with deny | timeout
      · exact ⟨_, ActionLog.record_denial told deny⟩
      · exact ⟨_, ActionLog.record_timeout told timeout⟩
    exact ⟨record, by simp [found], record_tells found⟩
  case misfiled =>
    rintro told ⟨timeout, code, same, apart⟩
    refine ⟨?_, code, same, fun policy => by simp [Chain.decide, timeout, same]⟩
    simp [ActionLog.record_timeout told timeout, same, apart]

/-- In every chain that consults an action log, whatever its other filters do
as long as they do not write records about events themselves. -/
theorem trail_agrees_unless_misfiled {before behind : List (Filter (Call Host))}
    (aloofBefore : ∀ filter ∈ before, Aloof caller.origin filter)
    (aloofBehind : ∀ filter ∈ behind, Aloof caller.origin filter)
    (apart : ∀ host later, others host later →
      verdictsOf caller.origin later = verdictsOf caller.origin host)
    (consulted : Consulted others caller task event before behind host final report) :
    Run.Ends others
        (Chain.evaluate (before ++ actionLogFilter caller :: behind) task event host) final report ∧
      ∃ written, verdictsOf caller.origin final = written ++ verdictsOf caller.origin host ∧
        Audited task event report written :=
  ⟨consulted_ends consulted, _, consulted_records aloofBefore aloofBehind apart consulted,
    record_audited report task event⟩

/-! A script refuses an event by a timeout with an input-output error. -/

def erringScript : Scripted := ⟨"script", .timeout, some Errno.EIO, false, 1, true, 0, []⟩

def erringHost : Host :=
  { bare Kernel.empty with
    chain := [.actionLog, .scripted 0], log := ActionLog.ofEnabled true, scripted := [erringScript] }

def erringCaller : Caller := ⟨"main", none, false⟩

def erringTask : Personality := ⟨1, 1, 0, 0, 0, 0, "sh"⟩

def erringEvent : Event := .filesystem ⟨.mount, "/dev/a", "/a", "ext4", 0, 1⟩

theorem erring_script_misfiled :
    ∃ final report written, Run.Ends (fun _ _ => False)
        (Chain.evaluate (erringHost.filters erringCaller) erringTask erringEvent erringHost)
        final report ∧
      verdictsOf "main" final = written ++ verdictsOf "main" erringHost ∧
      Audited erringTask erringEvent report written ∧ Misfiled report := by
  have found : erringHost.filter? erringCaller (.scripted 0) =
      some (scriptedFilter 0 erringScript) := rfl
  have aloof : ∀ filter ∈ [scriptedFilter 0 erringScript], Aloof erringCaller.origin filter := by
    simpa using filter_aloof found (by decide)
  have consulted : Consulted (fun _ _ => False) erringCaller erringTask erringEvent []
      [scriptedFilter 0 erringScript] erringHost _ _ :=
    .intro (.done _ _) rfl (.done _ _) (.done _ _)
  obtain ⟨ended, written, wrote, audited⟩ := trail_agrees_unless_misfiled
    (by simp) aloof (fun _ _ impossible => impossible.elim) consulted
  exact ⟨_, _, written, ended, wrote, audited, rfl, Errno.EIO, rfl, by decide⟩

end Host

end Interception
