import Interception.Proofs.Host.Ending

/-!
What examining an event touches. Filters keep logs, counters, tickets and
tokens of their own and may sleep, but kernel and patch table are left to
others. So whatever depends on these two alone outlasts an examination.
-/

namespace Interception.Host

open Syscall

/-- A property of kernel and patch table alone. -/
def Blind (during : Host → Prop) : Prop :=
  ∀ host later : Host, later.kernel = host.kernel → later.table = host.table → during host →
    during later

variable {during : Host → Prop}

/-- What vetting and scripts change: tickets and clients, interrupt tokens, and
what a script remembers. -/
def Works (host later : Host) : Prop :=
  ∃ vetting tokens scripted, later = { host with vetting, tokens, scripted }

theorem Works.refl (host : Host) : Works host host := ⟨host.vetting, host.tokens, host.scripted, rfl⟩

/-- A property in which that has no part. -/
def Aside (during : Host → Prop) : Prop :=
  ∀ host later, Works host later → during host → during later

theorem Blind.aside (blind : Blind during) : Aside during := by
  rintro host _ ⟨vetting, tokens, scripted, rfl⟩
  exact blind host _ rfl rfl

theorem blind_modify (blind : Blind during) {step : Host → Host}
    (kernel : ∀ host, (step host).kernel = host.kernel)
    (table : ∀ host, (step host).table = host.table) :
    Call.Keeps during (fun _ => True) (modify step) :=
  Call.keeps_modify fun host kept => blind host (step host) (kernel host) (table host) kept

theorem blind_modifyGet {Value : Type} (blind : Blind during) {step : Host → Value × Host}
    (kernel : ∀ host, (step host).2.kernel = host.kernel)
    (table : ∀ host, (step host).2.table = host.table) :
    Call.Keeps during (fun _ => True) (modifyGet step) :=
  Call.keeps_modifyGet fun host kept => blind host (step host).2 (kernel host) (table host) kept

/-! ### Filters -/

/-- A filter that never breaks a property. -/
structure Harmless (during : Host → Prop) (filter : Filter (Call Host)) : Prop where
  enabled : Call.Keeps during (fun _ => True) filter.enabled
  examine : ∀ task event report, Call.Keeps during (fun _ => True) (filter.examine task event report)
  conclude : ∀ task event report decidedBy,
    Call.Keeps during (fun _ => True) (filter.conclude task event report decidedBy)

theorem keeps_reading {Value : Type} (read : Host → Value) :
    Call.Keeps during (fun _ => True) (return read (← get)) :=
  Call.keeps_then Call.keeps_get fun _ => Call.keeps_pure trivial

theorem learn_keeps (blind : Blind during) (caller : Caller) {change : Host → Host × List AuditRecord}
    (kernel : ∀ host, (change host).1.kernel = host.kernel)
    (table : ∀ host, (change host).1.table = host.table) :
    Call.Keeps during (fun _ => True) (learn caller change) :=
  blind_modify blind kernel table

theorem actionLog_harmless (blind : Blind during) (caller : Caller) :
    Harmless during (actionLogFilter caller) := by
  constructor
  case enabled => exact keeps_reading fun host => host.log.enabled
  case examine => exact fun _ _ _ => Call.keeps_pure trivial
  case conclude =>
    intro task event report decidedBy
    simp only [actionLogFilter]
    exact learn_keeps blind caller (fun _ => rfl) (fun _ => rfl)

theorem degraded_harmless (blind : Blind during) (caller : Caller) :
    Harmless during (degradedFilter caller) := by
  constructor
  case enabled => exact keeps_reading fun host => host.degraded.enabled
  case examine =>
    intro task event report
    exact blind_modifyGet blind (fun _ => rfl) (fun _ => rfl)
  case conclude =>
    intro task event report decidedBy
    simp only [degradedFilter]
    exact learn_keeps blind caller (fun _ => rfl) (fun _ => rfl)

/-! ### Working filters -/

theorem works_vetting (change : Vetting.Controller → Vetting.Controller) {host later : Host}
    (works : Works host later) : Works host { later with vetting := change later.vetting } := by
  obtain ⟨vetting, tokens, scripted, rfl⟩ := works
  exact ⟨_, _, _, rfl⟩

theorem works_awaitWith (token : Option String) (ticket : Option Vetting.TicketId)
    {host later : Host} (works : Works host later) : Works host (later.awaitWith token ticket) := by
  obtain ⟨vetting, tokens, scripted, rfl⟩ := works
  cases token <;> exact ⟨_, _, _, rfl⟩

theorem works_scripted (index : Nat) (change : Scripted → Scripted) {host later : Host}
    (works : Works host later) : Works host (later.modifyScripted index change) := by
  obtain ⟨vetting, tokens, scripted, rfl⟩ := works
  exact ⟨_, _, _, rfl⟩

theorem modifyVetting_works (change : Vetting.Controller → Vetting.Controller) :
    Call.Strides Works (modifyVetting change) :=
  Call.strides_modify fun _ _ => works_vetting change

theorem awaiting_works (token : Option String) (ticket : Option Vetting.TicketId) :
    Call.Strides Works (modify fun host : Host => host.awaitWith token ticket) :=
  Call.strides_modify fun _ _ => works_awaitWith token ticket

theorem awaitOutcome_works (token : Option String) (ticket : Vetting.TicketId) (deadline : Nat) :
    Call.Strides Works (awaitOutcome token ticket deadline) := by
  apply Call.strides_bind (awaiting_works token (some ticket))
  intro _
  apply Call.strides_bind Call.strides_get
  intro host
  cases host.ending token ticket false with
  | some outcome => exact Call.strides_pure outcome
  | none =>
      apply Call.strides_bind (Call.strides_sleep Works.refl _ _)
      intro expired
      exact Call.strides_bind Call.strides_get fun _ => Call.strides_pure _

theorem vet_works (caller : Caller) (report : Report) (task : Personality) (event : Event)
    (group wait : Nat) : Call.Strides Works (vet caller report task event group wait) := by
  apply Call.strides_bind Call.strides_get
  intro host
  apply Call.strides_bind (Call.strides_modifyGet fun _ _ =>
    works_vetting fun vetting => (vetting.submit group task event).2)
  intro ticket
  apply Call.strides_bind (modifyVetting_works _)
  intro _
  apply Call.strides_bind Call.strides_get
  intro now
  apply Call.strides_bind (awaitOutcome_works _ _ _)
  intro outcome
  apply Call.strides_bind (awaiting_works _ none)
  intro _
  exact Call.strides_bind (modifyVetting_works _) fun _ => Call.strides_pure _

theorem vetEvent_works (caller : Caller) (task : Personality) (event : Event) (report : Report) :
    Call.Strides Works (vetEvent caller task event report) := by
  apply Call.strides_bind Call.strides_get
  intro host
  cases host.vetting.place task event with
  | pass => exact Call.strides_pure report
  | settle action code => exact Call.strides_pure _
  | vet group wait => exact vet_works caller report task event group wait

theorem vetting_harmless (aside : Aside during) (caller : Caller) :
    Harmless during (vettingFilter caller) := by
  constructor
  case enabled => exact keeps_reading fun host => host.vetting.enabled
  case examine =>
    exact fun task event report =>
      Call.keeps_of_strides Works.refl aside (vetEvent_works caller task event report)
  case conclude => exact fun _ _ _ _ => Call.keeps_pure trivial

theorem scripted_harmless (aside : Aside during) (index : Nat) (filter : Scripted) :
    Harmless during (scriptedFilter index filter) := by
  have modified (change : Scripted → Scripted) :
      Call.Strides Works (modify fun host => host.modifyScripted index change) :=
    Call.strides_modify fun _ _ => works_scripted index change
  constructor
  case enabled =>
    exact keeps_reading fun host => (host.scripted[index]?.map Scripted.enabled).getD false
  case examine =>
    exact fun task event report => Call.keeps_of_strides Works.refl aside
      (Call.strides_bind (modified _) fun _ => Call.strides_pure _)
  case conclude => exact fun _ _ _ _ => Call.keeps_of_strides Works.refl aside (modified _)

theorem filters_harmless (blind : Blind during) (host : Host) (caller : Caller) :
    ∀ filter ∈ host.filters caller, Harmless during filter := by
  intro filter member
  obtain ⟨reference, _, found⟩ := List.mem_filterMap.mp member
  cases reference with
  | actionLog =>
      obtain rfl := Option.some.inj found
      exact actionLog_harmless blind caller
  | degraded =>
      obtain rfl := Option.some.inj found
      exact degraded_harmless blind caller
  | vetting =>
      obtain rfl := Option.some.inj found
      exact vetting_harmless blind.aside caller
  | scripted index =>
      obtain ⟨script, _, rfl⟩ := Option.map_eq_some_iff.mp found
      exact scripted_harmless blind.aside index script

/-! ### The chain -/

/-- A walk over a longer chain goes on where nobody has decided. -/
theorem walk_append (task : Personality) (event : Event) (rest : List (Filter (Call Host)))
    (filters : List (Filter (Call Host))) : ∀ report seen host,
    Chain.walk task event (filters ++ rest) report seen host =
      (Chain.walk task event filters report seen host).bind fun walked later =>
        match walked.decidedBy with
        | some _ => .done later walked
        | none => Chain.walk task event rest walked.report walked.seen later := by
  induction filters with
  | nil => exact fun _ _ _ => rfl
  | cons filter others further =>
      intro report seen host
      show Run.bind _ (filter.enabled host) = Run.bind _ (Run.bind _ (filter.enabled host))
      rw [Run.bind_assoc]
      congr 1
      funext enabled later
      cases enabled with
      | false => exact further report seen later
      | true =>
          show Run.bind _ _ = Run.bind _ (Run.bind _ _)
          rw [Run.bind_assoc]
          congr 1
          funext after last
          by_cases final : after.final = true
          · simp only [if_pos final]
            rfl
          · simp only [if_neg final]
            exact further after (filter :: seen) last

/-- A walk keeps what its filters keep, and those that saw the event are among
them. -/
theorem walk_keeps (task : Personality) (event : Event) {filters : List (Filter (Call Host))} :
    (∀ filter ∈ filters, Harmless during filter) → ∀ report seen,
      Call.Keeps during (fun walked => ∃ saw, walked.seen = saw ++ seen ∧
        ∀ filter ∈ saw, filter ∈ filters) (Chain.walk task event filters report seen) := by
  induction filters with
  | nil => exact fun _ report seen => Call.keeps_pure ⟨[], rfl, by simp⟩
  | cons filter rest rest_keeps =>
      intro harmless report seen
      have here := harmless filter (by simp)
      have further := rest_keeps fun other member => harmless other (List.mem_cons_of_mem filter member)
      apply Call.keeps_then here.enabled
      intro enabled
      cases enabled with
      | false =>
          intro state kept
          apply Run.meets_imp (further report seen state kept)
          rintro _ walked _ ⟨saw, same, inside⟩
          exact ⟨saw, same, fun other member => List.mem_cons_of_mem filter (inside other member)⟩
      | true =>
          apply Call.keeps_then (here.examine task event report)
          intro after
          by_cases final : after.final = true
          · rw [if_pos final]
            exact Call.keeps_pure ⟨[filter], rfl, by simp⟩
          · rw [if_neg final]
            intro state kept
            apply Run.meets_imp (further after (filter :: seen) state kept)
            rintro _ walked _ ⟨saw, same, inside⟩
            refine ⟨saw ++ [filter], by simpa using same, ?_⟩
            intro other member
            rcases List.mem_append.mp member with before | last
            · exact List.mem_cons_of_mem filter (inside other before)
            · simp [List.mem_singleton.mp last]

theorem notify_append (task : Personality) (event : Event) (report : Report) (decidedBy : Option String)
    (rest : List (Filter (Call Host))) (filters : List (Filter (Call Host))) : ∀ host,
    Chain.notify task event report decidedBy (filters ++ rest) host =
      (Chain.notify task event report decidedBy filters host).bind fun _ later =>
        Chain.notify task event report decidedBy rest later := by
  induction filters with
  | nil => exact fun _ => rfl
  | cons filter others further =>
      intro host
      show Run.bind _ _ = Run.bind _ (Run.bind _ _)
      rw [Run.bind_assoc]
      congr 1
      funext _ later
      exact further later

/-- Filters that conclude a report at once, each related to what it met, conclude
it together at once. -/
theorem notify_concludes (related : Host → Host → Prop) (refl : ∀ host, related host host)
    (trans : ∀ first middle last, related first middle → related middle last → related first last)
    (task : Personality) (event : Event) (report : Report) (decidedBy : Option String)
    {filters : List (Filter (Call Host))}
    (concludes : ∀ filter ∈ filters, ∀ host, ∃ later,
      filter.conclude task event report decidedBy host = .done later () ∧ related host later) :
    ∀ host, ∃ later, Chain.notify task event report decidedBy filters host = .done later () ∧
      related host later := by
  induction filters with
  | nil => exact fun host => ⟨host, rfl, refl host⟩
  | cons filter rest rest_concludes =>
      intro host
      obtain ⟨middle, ran, first⟩ := concludes filter (by simp) host
      obtain ⟨later, ranRest, further⟩ := rest_concludes
        (fun other member => concludes other (List.mem_cons_of_mem filter member)) middle
      refine ⟨later, ?_, trans host middle later first further⟩
      rw [Chain.notify, Call.bind_done ran]
      exact ranRest

theorem notify_keeps (task : Personality) (event : Event) (report : Report)
    (decidedBy : Option String) (filters : List (Filter (Call Host)))
    (harmless : ∀ filter ∈ filters, Harmless during filter) :
    Call.Keeps during (fun _ => True) (Chain.notify task event report decidedBy filters) := by
  induction filters with
  | nil => exact Call.keeps_pure trivial
  | cons filter rest rest_keeps =>
      apply Call.keeps_then ((harmless filter (by simp)).conclude task event report decidedBy)
      exact fun _ => rest_keeps fun other member => harmless other (List.mem_cons_of_mem filter member)

theorem evaluate_keeps (blind : Blind during) (caller : Caller) (task : Personality)
    (event : Event) : Call.Keeps during (fun _ => True) (evaluate caller task event) := by
  apply Call.keeps_then Call.keeps_get
  intro host
  have harmless := filters_harmless blind host caller
  apply Call.keeps_bind (walk_keeps task event harmless Report.fresh [])
  rintro walked ⟨saw, same, inside⟩
  have seen : ∀ filter ∈ walked.seen, Harmless during filter := by
    rw [same, List.append_nil]
    exact fun filter member => harmless filter (inside filter member)
  apply Call.keeps_then (notify_keeps task event walked.report walked.decidedBy walked.seen seen)
  exact fun _ => Call.keeps_pure trivial

/-- An examination evaluates the event once, counts the verdict and answers
as the policy of the moment says. -/
theorem examine_on (caller : Caller) (task : Personality) (event : Event) (host : Host) :
    on (examine caller task event) host =
      (evaluate caller task event host).bind fun report later =>
        .done (countVerdict caller task event report later) (Chain.decide later.policy report) := by
  rw [examine, on_bind, on_lift, Run.bind_assoc]
  congr 1
  funext report later
  have policy : (countVerdict caller task event report later).policy = later.policy := by
    unfold countVerdict
    split <;> rfl
  simp only [Run.bind_done, andThen]
  rw [on_modify_bind, on_get_bind, policy]
  cases Chain.decide later.policy report <;> rfl

theorem countVerdict_kernel (caller : Caller) (task : Personality) (event : Event)
    (report : Report) (host : Host) :
    (countVerdict caller task event report host).kernel = host.kernel ∧
      (countVerdict caller task event report host).table = host.table ∧
      (countVerdict caller task event report host).verdicts =
        host.verdicts.bump [report.action.name, event.operation.name] := by
  unfold countVerdict
  split <;> exact ⟨rfl, rfl, rfl⟩

theorem examine_keeps (blind : Blind during) (caller : Caller) (task : Personality) (event : Event) :
    Keeps during (fun _ => True) (examine caller task event) := by
  intro host before
  rw [examine_on]
  apply Run.meets_bind (evaluate_keeps blind caller task event host before)
  intro report later kept _
  obtain ⟨kernel, table, _⟩ := countVerdict_kernel caller task event report later
  exact ⟨blind later _ kernel table kept, fun _ _ => trivial⟩

end Interception.Host
