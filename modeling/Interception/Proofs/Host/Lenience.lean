import Interception.Proofs.Host.Refusing

/-!
A service that refuses nothing: vetting is off, or it has no clients, nor will
it have any, and lets pass what nobody serves. No examination of such a
service sleeps or fails, and none touches the kernel, the patch table or the
clock. It stays a service that refuses nothing.
-/

namespace Interception.Host

open Syscall Vetting

variable {attended : Prop} {host middle later : Host} {caller : Caller} {task : Personality}
  {event : Event} {report : Report}

/-- Vetting that lets everything pass, where clients may come or may not. -/
def Tolerant (attended : Prop) (control : Controller) : Prop :=
  control.enabled = false ∨
    ¬ attended ∧ control.clients.members = [] ∧ control.rules.noClient ≠ .deny

/-- Nothing is examined, or whatever is examined passes. -/
structure Lenient (attended : Prop) (host : Host) : Prop where
  chain : host.chain = serviceChain
  calm : host.degraded.active = false
  vetting : host.hook.enabled = false ∨ Tolerant attended host.vetting

/-- What examinations of a lenient service leave alone. -/
structure Spared (host later : Host) : Prop where
  kernel : later.kernel = host.kernel
  table : later.table = host.table
  clock : later.clock = host.clock
  chain : later.chain = host.chain
  hook : later.hook = host.hook
  vetting : later.vetting = host.vetting
  calm : host.degraded.active = false → later.degraded.active = false

theorem Spared.refl (host : Host) : Spared host host := ⟨rfl, rfl, rfl, rfl, rfl, rfl, id⟩

theorem Spared.trans (first : Spared host middle) (second : Spared middle later) :
    Spared host later :=
  ⟨second.kernel.trans first.kernel, second.table.trans first.table,
    second.clock.trans first.clock, second.chain.trans first.chain, second.hook.trans first.hook,
    second.vetting.trans first.vetting, fun calm => second.calm (first.calm calm)⟩

theorem lenient_spared (lenient : Lenient attended host) (spared : Spared host later) :
    Lenient attended later := by
  refine ⟨spared.chain.trans lenient.chain, spared.calm lenient.calm, ?_⟩
  rw [spared.hook, spared.vetting]
  exact lenient.vetting

/-! ### Verdicts -/

/-- The verdict of vetting that lets an event pass without asking. -/
def granted : Report := Report.fresh.conclude .allow none

def Grants (report : Report) : Prop := report = Report.fresh ∨ report = granted

theorem place_tolerant {control : Controller} (clients : control.clients.members = [])
    (noClient : control.rules.noClient ≠ .deny) (task : Personality) (event : Event) :
    control.place task event = .pass ∨ control.place task event = .settle .allow none := by
  unfold Controller.place
  split
  · exact .inl rfl
  · split
    · exact .inl rfl
    · split
      · exact .inr rfl
      · rename_i group _
        have unserved : control.clients.serves group = false := by simp [Clients.serves, clients]
        simp only [unserved, Bool.false_eq_true, if_false]
        cases choice : control.rules.noClient with
        | next => exact .inl rfl
        | allow => exact .inr rfl
        | deny => exact absurd choice noClient

theorem vetEvent_grants (clients : host.vetting.clients.members = [])
    (noClient : host.vetting.rules.noClient ≠ .deny) (caller : Caller) (task : Personality)
    (event : Event) :
    ∃ report, vetEvent caller task event Report.fresh host = .done host report ∧ Grants report := by
  rw [vetEvent, Call.get_bind]
  rcases place_tolerant clients noClient task event with passes | settles
  · rw [passes]
    exact ⟨Report.fresh, rfl, .inl rfl⟩
  · rw [settles]
    exact ⟨granted, rfl, .inr rfl⟩

/-! ### The walk -/

/-- A filter that has nothing to say now. -/
def Idle (host : Host) (filter : Filter (Call Host)) : Prop :=
  (∃ enabled, filter.enabled host = .done host enabled) ∧
    ∀ task event, filter.examine task event Report.fresh host = .done host Report.fresh

theorem actionLog_idle (caller : Caller) (host : Host) : Idle host (actionLogFilter caller) :=
  ⟨⟨host.log.enabled, rfl⟩, fun _ _ => rfl⟩

theorem degraded_idle (calm : host.degraded.active = false) (caller : Caller) :
    Idle host (degradedFilter caller) := by
  refine ⟨⟨host.degraded.enabled, rfl⟩, ?_⟩
  intro task event
  have unmoved : host.degraded.examine host.clock Report.fresh = (host.degraded, Report.fresh) := by
    simp [Degraded.examine, calm]
  have examined : (degradedFilter caller).examine task event Report.fresh host =
      .done { host with degraded := (host.degraded.examine host.clock Report.fresh).1 }
        (host.degraded.examine host.clock Report.fresh).2 := rfl
  rw [examined, unmoved]

/-- Idle filters are walked past; some of them have seen the event. -/
theorem walk_idle (task : Personality) (event : Event) (rest : List (Filter (Call Host)))
    {filters : List (Filter (Call Host))} :
    (∀ filter ∈ filters, Idle host filter) → ∀ seen, ∃ others,
      Chain.walk task event (filters ++ rest) Report.fresh seen host =
        Chain.walk task event rest Report.fresh (others ++ seen) host ∧
      ∀ filter ∈ others, filter ∈ filters := by
  induction filters with
  | nil => exact fun _ seen => ⟨[], rfl, by simp⟩
  | cons filter others walked =>
      intro idle seen
      obtain ⟨⟨enabled, asked⟩, examined⟩ := idle filter (by simp)
      have further : ∀ other ∈ others, Idle host other :=
        fun other member => idle other (List.mem_cons_of_mem filter member)
      cases enabled with
      | false =>
          obtain ⟨saw, same, inside⟩ := walked further seen
          refine ⟨saw, (walk_off _ _ _ asked).trans same, ?_⟩
          exact fun other member => List.mem_cons_of_mem filter (inside other member)
      | true =>
          obtain ⟨saw, same, inside⟩ := walked further (filter :: seen)
          refine ⟨saw ++ [filter], ?_, ?_⟩
          · rw [List.cons_append, walk_on _ _ _ asked, examined, Run.bind_done, if_neg (by decide)]
            simpa using same
          · intro other member
            rcases List.mem_append.mp member with saw | last
            · exact List.mem_cons_of_mem filter (inside other saw)
            · simp [List.mem_singleton.mp last]

/-- The chain ends where it began, with a verdict that grants. -/
theorem walk_lenient (lenient : Lenient attended host) (tolerant : Tolerant attended host.vetting)
    (caller : Caller) (task : Personality) (event : Event) :
    ∃ walked, Chain.walk task event (host.filters caller) Report.fresh [] host =
        .done host walked ∧ Grants walked.report ∧
      ∀ filter ∈ walked.seen, filter ∈ host.filters caller := by
  have service := filters_service lenient.chain caller
  have idle : ∀ filter ∈ [actionLogFilter caller, degradedFilter caller], Idle host filter := by
    simp [actionLog_idle, degraded_idle lenient.calm]
  obtain ⟨saw, same, inside⟩ := walk_idle task event [vettingFilter caller] idle []
  rw [List.append_nil] at same
  have seen : ∀ filter ∈ vettingFilter caller :: saw, filter ∈ host.filters caller := by
    rw [service]
    intro filter member
    rcases List.mem_cons.mp member with rfl | before
    · simp
    · exact List.mem_append_left [vettingFilter caller] (inside filter before)
  have asked : (vettingFilter caller).enabled host = .done host host.vetting.enabled := rfl
  rw [service]
  cases enabled : host.vetting.enabled with
  | false =>
      refine ⟨⟨Report.fresh, none, saw⟩, ?_, .inl rfl, ?_⟩
      · exact same.trans (walk_off _ _ _ (asked.trans (by rw [enabled])))
      · rw [← service]
        exact fun filter member => seen filter (List.mem_cons_of_mem _ member)
  | true =>
      obtain ⟨_, clients, noClient⟩ := tolerant.resolve_left (by simp [enabled])
      obtain ⟨report, vetted, grants⟩ := vetEvent_grants clients noClient caller task event
      refine ⟨lastWord caller saw report, ?_, grants, service ▸ seen⟩
      exact same.trans ((walk_vetting enabled saw).trans (by rw [vetted, Run.bind_done]))

/-! ### The conclusion -/

theorem conclude_calm {mode : Degraded} (calm : mode.active = false) (grants : Grants report)
    (now : Nat) (decidedBy : Option String) :
    (mode.conclude now report decidedBy).1.active = false := by
  unfold Degraded.conclude
  split
  · exact calm
  · rcases grants with rfl | rfl
    · exact calm
    · simpa [granted, Report.conclude, Report.fresh, Report.final, Action.terminal] using calm

/-- A filter that learns of a granting verdict without consequences. -/
def Learns (filter : Filter (Call Host)) : Prop :=
  ∀ task event report decidedBy host, Grants report → ∃ later,
    filter.conclude task event report decidedBy host = .done later () ∧ Spared host later

theorem learns_service (chain : host.chain = serviceChain) (caller : Caller) :
    ∀ filter ∈ host.filters caller, Learns filter := by
  intro filter member
  rw [filters_service chain] at member
  simp only [List.mem_cons, List.not_mem_nil, or_false] at member
  intro task event report decidedBy host grants
  rcases member with rfl | rfl | rfl
  · exact ⟨_, rfl, rfl, rfl, rfl, rfl, rfl, rfl, id⟩
  · exact ⟨_, rfl, rfl, rfl, rfl, rfl, rfl, rfl, fun calm => conclude_calm calm grants _ _⟩
  · exact ⟨host, rfl, Spared.refl host⟩

theorem notify_spares (task : Personality) (event : Event) (grants : Grants report)
    (decidedBy : Option String) {filters : List (Filter (Call Host))}
    (learns : ∀ filter ∈ filters, Learns filter) :
    ∀ host, ∃ later, Chain.notify task event report decidedBy filters host = .done later () ∧
      Spared host later :=
  notify_concludes Spared Spared.refl (fun _ _ _ => Spared.trans) task event report decidedBy
    fun filter member host => learns filter member task event report decidedBy host grants

theorem decide_grants (grants : Grants report) (policy : ErrorPolicy) :
    Chain.decide policy report = .ok () := by
  rcases grants with rfl | rfl <;> rfl

theorem countVerdict_spares (caller : Caller) (task : Personality) (event : Event) (report : Report)
    (host : Host) : Spared host (countVerdict caller task event report host) := by
  unfold countVerdict
  split <;> exact ⟨rfl, rfl, rfl, rfl, rfl, rfl, id⟩

/-- Whatever is examined passes at once. -/
theorem examine_passes (lenient : Lenient attended host) (tolerant : Tolerant attended host.vetting)
    (caller : Caller) (task : Personality) (event : Event) :
    ∃ later, on (examine caller task event) host = .done later (.ok ()) ∧ Spared host later := by
  obtain ⟨walked, ran, grants, seen⟩ := walk_lenient lenient tolerant caller task event
  have learns : ∀ filter ∈ walked.seen, Learns filter :=
    fun filter member => learns_service lenient.chain caller filter (seen filter member)
  obtain ⟨later, notified, spared⟩ :=
    notify_spares task event grants walked.decidedBy learns host
  refine ⟨countVerdict caller task event walked.report later, ?_,
    spared.trans (countVerdict_spares caller task event walked.report later)⟩
  rw [examine_walks, ran, Run.bind_done, concluding, notified, ← decide_grants grants later.policy]
  rfl

end Interception.Host
