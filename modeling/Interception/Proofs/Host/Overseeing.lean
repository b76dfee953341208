import Interception.Proofs.Host.Accounting
import Interception.Proofs.Host.Courses

/-!
What the calls of the host are woven of. Steps that leave kernel and patch table
to others, native functions that leave drivers and slots alone, steps of the
patch table, and calls that hold an entry they found listed, from before what
they do until after it. Vettings and answers are the only calls on the way that
count outcomes or refusals. So every call can be followed: whatever it does to
what is measured, it does in honest steps.
-/

namespace Interception.Host

open Vetting Patch

variable {Value Result : Type} {host before after : Host}

/-! ### Steps -/

theorem geared_same (same : after.degraded = before.degraded) :
    Geared before.degraded after.degraded := by
  rw [same]
  exact ⟨id, by cases before.degraded.active <;> rfl⟩

/-- What leaves all that is measured as it was. -/
theorem honest_apart (table : after.table = before.table) (vetting : after.vetting = before.vetting)
    (degraded : after.degraded = before.degraded) : Honest before after := by
  constructor
  case shaped => exact table ▸ id
  case clients => exact vetting ▸ id
  case outcomes => rw [vetting]
  case stale => rw [vetting]
  case geared => exact geared_same degraded

theorem honest_table (shaped : Shaped before.table → Shaped after.table)
    (vetting : after.vetting = before.vetting) (degraded : after.degraded = before.degraded) :
    Honest before after := by
  constructor
  case shaped => exact shaped
  case clients => exact vetting ▸ id
  case outcomes => rw [vetting]
  case stale => rw [vetting]
  case geared => exact geared_same degraded

/-- A controller that has changed without a count. -/
structure Tacit (before after : Controller) : Prop where
  clients : before.gauge = before.clients.count → after.gauge = after.clients.count
  outcomes : after.outcomes = before.outcomes
  stale : after.stale = before.stale

theorem honest_vetting (tacit : Tacit before.vetting after.vetting) (table : after.table = before.table)
    (degraded : after.degraded = before.degraded) : Honest before after :=
  ⟨table ▸ id, tacit.clients, tacit.outcomes, tacit.stale, geared_same degraded⟩

theorem honest_degraded (geared : Geared before.degraded after.degraded)
    (table : after.table = before.table) (vetting : after.vetting = before.vetting) :
    Honest before after :=
  ⟨table ▸ id, vetting ▸ id, by rw [vetting], by rw [vetting], geared⟩

/-! ### Calls -/

/-- A step that counts nothing and leaves kernel and patch table to others. -/
structure Modest (before after : Host) : Prop where
  honest : Honest before after
  apart : Apart before after

theorem modest_apart (apart : Apart before after) (vetting : after.vetting = before.vetting)
    (degraded : after.degraded = before.degraded) : Modest before after :=
  ⟨honest_apart apart.table vetting degraded, apart⟩

theorem modest_vetting (tacit : Tacit before.vetting after.vetting) (apart : Apart before after)
    (degraded : after.degraded = before.degraded) : Modest before after :=
  ⟨honest_vetting tacit apart.table degraded, apart⟩

theorem modest_degraded (geared : Geared before.degraded after.degraded) (apart : Apart before after)
    (vetting : after.vetting = before.vetting) : Modest before after :=
  ⟨honest_degraded geared apart.table vetting, apart⟩

/-- Keeps an entry in use, if there is one, while a call runs. -/
def lending (entry : Option Nat) (call : Call Host Value) : Call Host Value :=
  match entry with
  | none => call
  | some id => do
      modify (takingUse id)
      let value ← call
      modify (givingUse id)
      return value

/-- What calls are made of that leave kernel and patch table to others. -/
inductive Plain : {Value : Type} → Call Host Value → Prop
  | pure {Value : Type} (value : Value) : Plain (pure value)
  | bind {Value Result : Type} {call : Call Host Value} {next : Value → Call Host Result}
      (first : Plain call) (rest : ∀ value, Plain (next value)) : Plain (call >>= next)
  | sleep (wait : Wait) (deadline : Option Nat) : Plain (Call.sleep wait deadline)
  | step {Value : Type} (step : Host → Value × Host) (modest : ∀ host, Modest host (step host).2) :
      Plain (modifyGet step)
  | respond (client : ClientId) (response : Response) : Plain (respond client response)
  | vet (caller : Caller) (report : Report) (task : Personality) (event : Event)
      (group wait : Nat) : Plain (vet caller report task event group wait)

/-- What all calls are made of. An entry is held in use only once it is listed. -/
inductive Woven : {Value : Type} → Call Host Value → Prop
  | plain {Value : Type} {call : Call Host Value} (plain : Plain call) : Woven call
  | bind {Value Result : Type} {call : Call Host Value} {next : Value → Call Host Result}
      (first : Woven call) (rest : ∀ value, Woven (next value)) : Woven (call >>= next)
  | kernel {Value : Type} (step : Kernel → Value × Kernel)
      (stays : ∀ kernel, Kernel.Stays kernel (step kernel).2) :
      Woven (modifyGet fun host => ((step host.kernel).1, { host with kernel := (step host.kernel).2 }))
  | change {Value : Type} (change : Change Value) (step : Patch.Step)
      (leaves : ∀ world, (Change.on change world).2 = step.apply world) : Woven (Host.change change)
  | hold {Value : Type} (entry : Host → Option Nat) {body : Host → Call Host Value}
      (listed : ∀ host id, entry host = some id → ∃ own ∈ host.table.entries, own.id = id)
      (inside : ∀ host, Woven (body host)) : Woven (get >>= fun host => lending (entry host) (body host))

/-- The same of a call that may fail. -/
abbrev Knit (call : Syscall Host Value) : Prop := Woven call.run

theorem plain_modify {step : Host → Host} (modest : ∀ host, Modest host (step host)) :
    Plain (modify step : Call Host PUnit) := .step (fun host => (PUnit.unit, step host)) modest

theorem plain_get : Plain (get : Call Host Host) :=
  .step (fun host => (host, host)) fun host => modest_apart (apart_refl host) rfl rfl

theorem woven_pure (value : Value) : Woven (pure value : Call Host Value) := .plain (.pure value)

theorem woven_step (step : Host → Value × Host) (modest : ∀ host, Modest host (step host).2) :
    Woven (modifyGet step) := .plain (.step step modest)

theorem woven_sleep (wait : Wait) (deadline : Option Nat) : Woven (Call.sleep wait deadline) :=
  .plain (.sleep wait deadline)

theorem woven_modify {step : Host → Host} (modest : ∀ host, Modest host (step host)) :
    Woven (modify step : Call Host PUnit) := .plain (plain_modify modest)

theorem woven_get : Woven (get : Call Host Host) := .plain plain_get

theorem woven_map (f : Value → Result) {call : Call Host Value} (first : Woven call) :
    Woven (f <$> call) := .bind first fun value => woven_pure (f value)

theorem woven_discard {call : Call Host Value} (first : Woven call) : Woven (discard call) :=
  woven_map _ first

theorem woven_ite {condition : Prop} [Decidable condition] {left right : Call Host Value}
    (first : Woven left) (second : Woven right) : Woven (if condition then left else right) := by
  split
  · exact first
  · exact second

/-- A plain call leaves kernel and patch table alone from sleep to sleep. -/
theorem plain_strides {call : Call Host Value} (plain : Plain call) : Call.Strides Apart call := by
  induction plain with
  | pure value => exact Call.strides_pure value
  | bind first rest firstStrides restStrides => exact Call.strides_bind firstStrides restStrides
  | sleep wait deadline => exact Call.strides_sleep apart_refl wait deadline
  | step step modest =>
      exact Call.strides_modifyGet fun _ host apart => apart_trans apart (modest host).apart
  | respond client response =>
      exact Call.strides_modifyGet fun _ _ apart => apart_trans apart ⟨rfl, rfl⟩
  | vet caller report task event group wait =>
      have apart (start state : Host) (works : Works start state) : Apart start state := by
        obtain ⟨_, _, _, rfl⟩ := works
        exact ⟨rfl, rfl⟩
      intro start state before
      have strides := vet_works caller report task event group wait state state (Works.refl state)
      exact Run.strides_from (fun _ => apart_trans before) (fun _ _ => apart_trans before)
        (Run.strides_imp apart (fun start state _ => apart start state) state strides)

/-! ### Following a call -/

/-- The onlooker can follow the call. -/
def Followed (call : Call Host Value) : Prop := ∃ noted, Accounted call noted

theorem followed_bind {call : Call Host Value} {next : Value → Call Host Result}
    (first : Followed call) (rest : ∀ value, Followed (next value)) : Followed (call >>= next) := by
  obtain ⟨noted, accounted⟩ := first
  choose later accountedLater using rest
  exact ⟨_, .bind accounted accountedLater⟩

theorem followed_pure (value : Value) : Followed (pure value) := ⟨_, .pure value⟩

theorem followed_step {step : Host → Value × Host} (honest : ∀ host, Honest host (step host).2) :
    Followed (modifyGet step) := ⟨_, .step step honest⟩

theorem followed_modify {step : Host → Host} (honest : ∀ host, Honest host (step host)) :
    Followed (modify step : Call Host PUnit) :=
  ⟨_, .step (fun host => (PUnit.unit, step host)) honest⟩

theorem honest_taking (id : Nat) (host : Host) : Honest host (host.takingUse id) :=
  honest_table (fun shaped => shaped_acquire shaped id) rfl rfl

theorem honest_giving (id : Nat) (host : Host) : Honest host (host.givingUse id) :=
  honest_table (fun shaped => shaped_release shaped id) rfl rfl

theorem followed_lending (entry : Option Nat) {call : Call Host Value} (inside : Followed call) :
    Followed (lending entry call) := by
  cases entry with
  | none => exact inside
  | some id =>
      refine followed_bind (followed_modify (honest_taking id)) fun _ => ?_
      refine followed_bind inside fun value => ?_
      exact followed_bind (followed_modify (honest_giving id)) fun _ => followed_pure value

theorem plain_followed {call : Call Host Value} (plain : Plain call) : Followed call := by
  induction plain with
  | pure value => exact followed_pure value
  | bind first rest firstFollowed restFollowed => exact followed_bind firstFollowed restFollowed
  | sleep wait deadline => exact ⟨_, .sleep wait deadline⟩
  | step step modest => exact followed_step fun host => (modest host).honest
  | respond client response => exact ⟨_, .respond client response⟩
  | vet caller report task event group wait =>
      exact ⟨_, .vet caller report task event group wait⟩

theorem woven_followed {call : Call Host Value} (woven : Woven call) : Followed call := by
  induction woven with
  | plain plain => exact plain_followed plain
  | bind first rest firstFollowed restFollowed => exact followed_bind firstFollowed restFollowed
  | kernel step stays => exact followed_step fun _ => honest_apart rfl rfl rfl
  | change change step leaves =>
      refine followed_step fun host => honest_table (fun shaped => ?_) rfl rfl
      have kept : Shaped (step.apply host.world).table := shaped_apply shaped step
      rw [← leaves] at kept
      exact kept
  | hold entry listed inside insideFollowed =>
      refine followed_bind (plain_followed plain_get) fun host => ?_
      exact followed_lending _ (insideFollowed host)

/-! ### Calls that may fail -/

theorem knit_pure (value : Value) : Knit (pure value) := woven_pure (Except.ok value)

theorem knit_throw (errno : Errno) : Knit (throw errno : Syscall Host Value) :=
  woven_pure (Except.error errno)

theorem knit_get : Knit (get : Syscall Host Host) := woven_map Except.ok woven_get

theorem knit_modify {step : Host → Host} (modest : ∀ host, Modest host (step host)) :
    Knit (modify step : Syscall Host PUnit) := woven_map Except.ok (woven_modify modest)

theorem knit_bind {call : Syscall Host Value} {next : Value → Syscall Host Result}
    (first : Knit call) (rest : ∀ value, Knit (next value)) : Knit (call >>= next) := by
  refine .bind first fun answer => ?_
  cases answer with
  | ok value => exact rest value
  | error errno => exact woven_pure (Except.error errno)

theorem knit_ite {condition : Prop} [Decidable condition] {left right : Syscall Host Value}
    (first : Knit left) (second : Knit right) : Knit (if condition then left else right) := by
  split
  · exact first
  · exact second

theorem knit_lift {call : Call Host Value} (inside : Woven call) :
    Knit (ExceptT.lift call : Syscall Host Value) := woven_map Except.ok inside

theorem knit_discard {call : Syscall Host Value} (inside : Knit call) : Knit (discard call) :=
  knit_bind inside fun _ => knit_pure ()

theorem woven_modifyVetting {change : Controller → Controller}
    (tacit : ∀ control, Tacit control (change control)) : Woven (modifyVetting change) :=
  woven_modify fun host => modest_vetting (tacit host.vetting) ⟨rfl, rfl⟩ rfl

/-! ### Filters -/

/-- What does not turn the mode on or off does not show. -/
theorem geared_kept {mode later : Degraded} (active : later.active = mode.active)
    (gauge : later.gauge = mode.gauge) (trips : later.trips = mode.trips) : Geared mode later := by
  constructor
  · rw [active, gauge]
    exact id
  · rw [active, trips]
    cases mode.active <;> rfl

theorem enter_geared (mode : Degraded) (now : Nat) (reason : String) :
    Geared mode (mode.enter now reason).1 := by
  unfold Degraded.enter
  cases active : mode.active with
  | true => exact geared_kept rfl rfl rfl
  | false => exact ⟨fun _ => rfl, by simp [active]⟩

theorem leave_geared (mode : Degraded) (reason : String) : Geared mode (mode.leave reason).1 := by
  unfold Degraded.leave
  cases active : mode.active with
  | true => exact ⟨fun _ => rfl, by simp⟩
  | false => exact geared_kept rfl rfl rfl

theorem examine_geared (mode : Degraded) (now : Nat) (report : Report) :
    Geared mode (mode.examine now report).1 := by
  unfold Degraded.examine
  split
  · split <;> exact geared_kept rfl rfl rfl
  · exact geared_kept rfl rfl rfl

theorem conclude_geared (mode : Degraded) (now : Nat) (report : Report) (decidedBy : Option String) :
    Geared mode (mode.conclude now report decidedBy).1 := by
  unfold Degraded.conclude
  split
  · exact geared_kept rfl rfl rfl
  · split
    · dsimp only
      split
      · have entered := enter_geared (mode.countTimeouts report.timeouts) now
          (mode.countTimeouts report.timeouts).tripReason
        exact ⟨entered.gauge, entered.trips⟩
      · exact geared_kept rfl rfl rfl
    · exact geared_kept rfl rfl rfl
    · dsimp only
      split
      · have left := leave_geared { mode with count := 0 } "vetting answered"
        exact ⟨left.gauge, left.trips⟩
      · exact geared_kept rfl rfl rfl

/-- A filter whose every part can be followed. -/
structure Candid (filter : Filter (Call Host)) : Prop where
  enabled : Plain filter.enabled
  examine : ∀ task event report, Plain (filter.examine task event report)
  conclude : ∀ task event report decidedBy, Plain (filter.conclude task event report decidedBy)

theorem plain_reading (read : Host → Value) : Plain (return read (← get)) :=
  Plain.bind plain_get fun _ => Plain.pure _

theorem woven_reading (read : Host → Value) : Woven (return read (← get)) :=
  .plain (plain_reading read)

theorem plain_learn (caller : Caller) {change : Host → Host × List AuditRecord}
    (modest : ∀ host, Modest host (change host).1) : Plain (learn caller change) :=
  plain_modify fun host =>
    ⟨⟨(modest host).honest.shaped, (modest host).honest.clients, (modest host).honest.outcomes,
      (modest host).honest.stale, (modest host).honest.geared⟩,
      ⟨(modest host).apart.kernel, (modest host).apart.table⟩⟩

theorem actionLog_candid (caller : Caller) : Candid (actionLogFilter caller) := by
  constructor
  case enabled => exact plain_reading fun host => host.log.enabled
  case examine => exact fun _ _ report => Plain.pure report
  case conclude =>
    intro task event report _
    simp only [actionLogFilter]
    exact plain_learn caller fun _ => modest_apart ⟨rfl, rfl⟩ rfl rfl

theorem degraded_candid (caller : Caller) : Candid (degradedFilter caller) := by
  constructor
  case enabled => exact plain_reading fun host => host.degraded.enabled
  case examine =>
    exact fun _ _ report => Plain.step _ fun host =>
      modest_degraded (examine_geared host.degraded host.clock report) ⟨rfl, rfl⟩ rfl
  case conclude =>
    intro task event report decidedBy
    simp only [degradedFilter]
    exact plain_learn caller fun host =>
      modest_degraded (conclude_geared host.degraded host.clock report decidedBy) ⟨rfl, rfl⟩ rfl

theorem plain_vetEvent (caller : Caller) (task : Personality) (event : Event) (report : Report) :
    Plain (vetEvent caller task event report) := by
  refine Plain.bind plain_get fun host => ?_
  cases host.vetting.place task event with
  | pass => exact Plain.pure report
  | settle action code => exact Plain.pure _
  | vet group wait => exact .vet caller report task event group wait

theorem vetting_candid (caller : Caller) : Candid (vettingFilter caller) := by
  constructor
  case enabled => exact plain_reading fun host => host.vetting.enabled
  case examine => exact plain_vetEvent caller
  case conclude => exact fun _ _ _ _ => Plain.pure ()

theorem scripted_candid (index : Nat) (script : Scripted) : Candid (scriptedFilter index script) := by
  have modified (change : Scripted → Scripted) :
      Plain (modify fun host => host.modifyScripted index change : Call Host PUnit) :=
    plain_modify fun _ => modest_apart ⟨rfl, rfl⟩ rfl rfl
  constructor
  case enabled =>
    exact plain_reading fun host => (host.scripted[index]?.map Scripted.enabled).getD false
  case examine => exact fun _ _ _ => Plain.bind (modified _) fun _ => Plain.pure _
  case conclude => exact fun _ _ _ _ => modified _

theorem filters_candid (host : Host) (caller : Caller) :
    ∀ filter ∈ host.filters caller, Candid filter := by
  intro filter member
  obtain ⟨reference, _, found⟩ := List.mem_filterMap.mp member
  cases reference with
  | actionLog =>
      obtain rfl := Option.some.inj found
      exact actionLog_candid caller
  | degraded =>
      obtain rfl := Option.some.inj found
      exact degraded_candid caller
  | vetting =>
      obtain rfl := Option.some.inj found
      exact vetting_candid caller
  | scripted index =>
      obtain ⟨script, _, rfl⟩ := Option.map_eq_some_iff.mp found
      exact scripted_candid index script

theorem plain_notify (task : Personality) (event : Event) (report : Report)
    (decidedBy : Option String) (filters : List (Filter (Call Host))) :
    (∀ filter ∈ filters, Candid filter) →
      Plain (Chain.notify task event report decidedBy filters) := by
  induction filters with
  | nil => exact fun _ => Plain.pure ()
  | cons filter rest further =>
      intro candid
      refine Plain.bind ((candid filter (by simp)).conclude task event report decidedBy) fun _ => ?_
      exact further fun other member => candid other (List.mem_cons_of_mem filter member)

/-- A walk over filters, with the notes to those that saw the event. -/
theorem plain_walk (task : Personality) (event : Event) (filters : List (Filter (Call Host))) :
    (∀ filter ∈ filters, Candid filter) → ∀ report seen, (∀ filter ∈ seen, Candid filter) →
      Plain (do
        let walked ← Chain.walk task event filters report seen
        Chain.notify task event walked.report walked.decidedBy walked.seen
        return walked.report) := by
  have noted (report : Report) (decidedBy : Option String) {seen : List (Filter (Call Host))}
      (candid : ∀ filter ∈ seen, Candid filter) : Plain (do
        Chain.notify task event report decidedBy seen
        return report) :=
    Plain.bind (plain_notify task event report decidedBy seen candid) fun _ => Plain.pure _
  induction filters with
  | nil => exact fun _ report seen saw => noted report none saw
  | cons filter rest further =>
      intro candid report seen saw
      have here := candid filter (by simp)
      have behind := further fun other member => candid other (List.mem_cons_of_mem filter member)
      rw [Chain.walk, bind_assoc]
      refine Plain.bind here.enabled fun enabled => ?_
      cases enabled with
      | false => exact behind report seen saw
      | true =>
          rw [if_pos rfl, bind_assoc]
          refine Plain.bind (here.examine task event report) fun after => ?_
          have sees : ∀ other ∈ filter :: seen, Candid other :=
            List.forall_mem_cons.mpr ⟨here, saw⟩
          by_cases final : after.final = true
          · rw [if_pos final, pure_bind]
            exact noted after (some filter.name) sees
          · rw [if_neg final]
            exact behind after (filter :: seen) sees

theorem plain_evaluate (caller : Caller) (task : Personality) (event : Event) :
    Plain (evaluate caller task event) :=
  Plain.bind plain_get fun host =>
    plain_walk task event _ (filters_candid host caller) Report.fresh [] (by simp)

theorem plain_andThen {call : Syscall Host Value} {next : Value → Syscall Host Result}
    (first : Plain call.run) (rest : ∀ value, Plain (next value).run) : Plain (call >>= next).run := by
  refine .bind first fun answer => ?_
  cases answer with
  | ok value => exact rest value
  | error errno => exact .pure (Except.error errno)

theorem plain_lift {call : Call Host Value} (inside : Plain call) :
    Plain (ExceptT.lift call : Syscall Host Value).run :=
  .bind inside fun value => .pure (Except.ok value)

theorem plain_examine (caller : Caller) (task : Personality) (event : Event) :
    Plain (examine caller task event).run := by
  refine plain_andThen (plain_lift (plain_evaluate caller task event)) fun report => ?_
  refine plain_andThen (plain_lift (plain_modify fun host => ?_)) fun _ =>
    plain_andThen (plain_lift plain_get) fun host => ?_
  · unfold countVerdict
    split <;> exact modest_apart ⟨rfl, rfl⟩ rfl rfl
  · cases Chain.decide host.policy report with
    | ok _ => exact .pure (Except.ok ())
    | error errno => exact .pure (Except.error errno)

theorem plain_ignoringFailure {body : Syscall Host Unit} (inside : Plain body.run) :
    Plain (ignoringFailure body).run :=
  plain_andThen (plain_lift inside) fun _ => .pure (Except.ok ())

theorem plain_gated (label : String) {body : Syscall Host Value} (inside : Plain body.run) :
    Plain (gated label body).run := by
  refine plain_andThen (plain_lift (plain_modify fun _ => modest_apart ⟨rfl, rfl⟩ rfl rfl)) fun _ => ?_
  refine plain_andThen (plain_lift inside) fun result => ?_
  refine plain_andThen (plain_lift (plain_modify fun _ => modest_apart ⟨rfl, rfl⟩ rfl rfl)) fun _ => ?_
  cases result with
  | ok value => exact .pure (Except.ok value)
  | error errno => exact .pure (Except.error errno)

theorem knit_examine (caller : Caller) (task : Personality) (event : Event) :
    Knit (examine caller task event) := .plain (plain_examine caller task event)

end Interception.Host
