import Interception.Cli.Run
import Interception.Proofs.Host.Attending
import Interception.Proofs.Host.MountCalls

/-!
Replays of scenarios under hooks that refuse nothing. Step by step the shadow
of a hooked replay goes through what a replay without any hooks goes through,
and says the same: its slots are the ones the kernel had at first, and the
mounts, the files, the open handles, the clock and the counts of native calls
are those of the hooked replay.
-/

namespace Interception

open Host

variable {origin : Kernel} {attended : Prop} {held : Option Nat}

/-! ### What clients leave alone -/

namespace Host

variable {host : Host}

theorem fit_ensues {Value : Type} {threads later : Threads Value}
    (fit : Fit origin attended held threads.host) (alone : ¬ attended → threads.Unattended)
    (ensues : threads.Ensues later) :
    Fit origin attended held later.host ∧
      later.host.shadow origin = threads.host.shadow origin ∧
      (¬ attended → later.Unattended) := by
  have beside := ensues.beside
  have listing : later.host.table.listing = threads.host.table.listing := by rw [beside.table]
  have nextId : later.host.table.nextId = threads.host.table.nextId := by rw [beside.table]
  refine ⟨⟨tended_counted fit.tended beside.kernel listing nextId, ?_, ?_, ?_, ?_⟩, ?_, ?_⟩
  · rw [beside.table]
    exact fit.inUse
  · exact beside.chain.trans fit.lenient.chain
  · rw [beside.degraded]
    exact fit.lenient.calm
  · rw [beside.hook]
    rcases fit.lenient.vetting with disabled | off | ⟨unattended, clients, noClient⟩
    · exact .inl disabled
    · exact .inr (.inl (beside.enabled.trans off))
    · rw [ensues.unattended (alone unattended)]
      exact .inr (.inr ⟨unattended, clients, noClient⟩)
  · rw [shadow, shadow, beside.kernel, beside.clock]
  · intro unattended
    rw [ensues.unattended (alone unattended)]
    exact alone unattended

theorem fit_clock (fit : Fit origin attended held host) (clock : Nat) :
    Fit origin attended held { host with clock } :=
  ⟨tended_counted fit.tended rfl rfl rfl, fit.inUse,
    ⟨fit.lenient.chain, fit.lenient.calm, fit.lenient.vetting⟩⟩

end Host

/-! ### Steps -/

namespace Replay

variable {replay : Replay}

def shadow (origin : Kernel) (replay : Replay) : Replay :=
  ⟨.ofHost (replay.host.shadow origin), replay.handles⟩

/-- A replay between two steps. -/
structure Steady (origin : Kernel) (attended : Prop) (replay : Replay) : Prop where
  fit : Fit origin attended none replay.host
  idle : replay.threads.pool = []
  alone : ¬ attended → replay.threads.Unattended

/-- What is done to a replay says the same of its shadow, and leaves it the
shadow of what is left. -/
def Agrees {Answer : Type} (origin : Kernel) (attended : Prop) (act : Replay → Answer × Replay)
    (replay : Replay) : Prop :=
  ∃ answer left, act replay = (answer, left) ∧
    act (replay.shadow origin) = (answer, left.shadow origin) ∧ Steady origin attended left

theorem call_agrees (steady : Steady origin attended replay)
    {body : Syscall Host (Option OpenFile)}
    (unaltered : Unaltered origin attended body replay.host) :
    ∃ answer left, replay.call body = (answer, left) ∧
      (replay.shadow origin).call body = (answer, left.shadow origin) ∧
      Steady origin attended left := by
  obtain ⟨later, answer, ran, ghostRan, fit⟩ := unaltered
  have ghostIdle : (replay.shadow origin).threads.pool = [] := rfl
  have ran' : body.run replay.threads.host = .done later answer := ran
  have ghostRan' : body.run (replay.shadow origin).threads.host =
      .done (later.shadow origin) answer := ghostRan
  obtain ⟨left, called, ensues⟩ := Threads.run_done steady.idle ran'
  obtain ⟨ghostLeft, ghostCalled, ghostEnsues⟩ := Threads.run_done ghostIdle ghostRan'
  obtain ⟨fit', same, alone'⟩ := fit_ensues fit
    (fun unattended => Threads.unattended_host (steady.alone unattended) later) ensues
  have ghost : ghostLeft = .ofHost (left.host.shadow origin) := by
    rw [ghostEnsues.unattended ⟨rfl, rfl, rfl⟩, same]
    rfl
  -- Clients may act after the call, but they leave the shadow as it is.
  refine ⟨answer, { replay with threads := left }, ?_, ?_,
    fit', ensues.pool.trans steady.idle, alone'⟩
  · simp only [call, called, Option.getD_some]
  · simp only [call, ghostCalled, Option.getD_some, ghost]
    rfl

theorem unit_agrees (steady : Steady origin attended replay) {body : Syscall Host Unit}
    (unaltered : Unaltered origin attended body replay.host) :
    Agrees origin attended (·.unit body) replay := by
  obtain ⟨answer, left, called, ghostCalled, steady'⟩ :=
    call_agrees steady (mimics_bind unaltered fun _ _ _ fit => mimics_pure fit none)
  unfold Agrees unit
  simp only [called, ghostCalled]
  cases answer with
  | ok _ => exact ⟨success, left, rfl, rfl, steady'⟩
  | error errno => exact ⟨failed errno.render, left, rfl, rfl, steady'⟩

theorem openFile_agrees (pristine : Pristine origin) (steady : Steady origin attended replay)
    (task : Personality) (path : String) (flags : UInt32) :
    Agrees origin attended (·.openFile task path flags) replay := by
  have opened : Unaltered origin attended (some <$> Host.openFile caller task path flags)
      replay.host :=
    mimics_bind (openFile_unaltered pristine steady.fit caller task path flags)
      fun _ _ _ fit => mimics_pure fit _
  obtain ⟨answer, left, called, ghostCalled, steady'⟩ := call_agrees steady opened
  unfold Agrees openFile
  simp only [called, ghostCalled]
  cases answer with
  | ok file => exact ⟨success, _, rfl, rfl, steady'.fit, steady'.idle, steady'.alone⟩
  | error errno => exact ⟨failed errno.render, left, rfl, rfl, steady'⟩

theorem closeFile_agrees (pristine : Pristine origin) (steady : Steady origin attended replay)
    (task : Personality) (path : String) :
    Agrees origin attended (·.closeFile task path) replay := by
  have same : (replay.shadow origin).handles = replay.handles := rfl
  unfold Agrees closeFile
  simp only [same]
  cases replay.handles.lookup path with
  | none => exact ⟨_, replay, rfl, rfl, steady⟩
  | some file =>
      have left : Steady origin attended
          { replay with handles := replay.handles.eraseP (·.1 == path) } :=
        ⟨steady.fit, steady.idle, steady.alone⟩
      exact unit_agrees left (closeFile_unaltered pristine left.fit caller task file)

theorem steady_kernel (steady : Steady origin attended replay) {kernel : Kernel}
    (furnished : kernel.Furnished) (stays : Kernel.Stays replay.host.kernel kernel) :
    Steady origin attended (replay.setHost { replay.host with kernel }) :=
  ⟨fit_kernel steady.fit furnished stays, steady.idle,
    fun unattended => Threads.unattended_host (steady.alone unattended) _⟩

theorem addFile_unhooked (kernel : Kernel) (dir name : String) :
    (kernel.unhooked origin).addFile dir name =
      (kernel.addFile dir name).map fun made => (made.1, made.2.unhooked origin) := by
  have mounts : (kernel.unhooked origin).mounts = kernel.mounts := rfl
  unfold Kernel.addFile
  rw [mounts]
  cases Mounts.at? dir kernel.mounts with
  | none => rfl
  | some mount =>
      have drivers : (kernel.unhooked origin).driver? mount.point.fsType =
          kernel.driver? mount.point.fsType := rfl
      simp only [drivers]
      cases kernel.driver? mount.point.fsType <;> rfl

theorem addFile_agrees (steady : Steady origin attended replay) (dir name : String) :
    Agrees origin attended (·.addFile dir name) replay := by
  have unhooked : (replay.shadow origin).host.kernel.addFile dir name =
      (replay.host.kernel.addFile dir name).map fun made => (made.1, made.2.unhooked origin) :=
    addFile_unhooked replay.host.kernel dir name
  unfold Agrees addFile
  simp only [unhooked]
  cases added : replay.host.kernel.addFile dir name with
  | error errno => exact ⟨failed errno.render, replay, rfl, rfl, steady⟩
  | ok made =>
      obtain ⟨inode, kernel⟩ := made
      obtain ⟨furnished, stays⟩ :=
        Kernel.furnished_addFile steady.fit.tended.watched.furnished added
      exact ⟨success, _, rfl, rfl, steady_kernel steady furnished stays⟩

theorem propagation_agrees (steady : Steady origin attended replay) (dir : String) (count : Nat) :
    Agrees origin attended (·.perform (.propagation dir count)) replay :=
  ⟨success, _, rfl, rfl, steady_kernel steady
    (Kernel.furnished_setPropagation steady.fit.tended.watched.furnished dir count)
    ⟨rfl, rfl, rfl, rfl, rfl⟩⟩

theorem sleep_agrees (steady : Steady origin attended replay) (time : Nat) :
    Agrees origin attended (·.perform (.sleep time)) replay := by
  have ghostIdle : (replay.shadow origin).threads.pool = [] := rfl
  have clocked : Fit origin attended none ({ replay.threads with
      host.clock := replay.host.clock + time }).host := fit_clock steady.fit _
  have ensues := Threads.sleep_ensues steady.idle time
  obtain ⟨fit, same, alone⟩ := fit_ensues clocked
    (fun unattended => Threads.unattended_host (steady.alone unattended) _) ensues
  have ghost : (replay.shadow origin).threads.sleep time =
      .ofHost ((replay.threads.sleep time).host.shadow origin) := by
    rw [same]
    exact (Threads.sleep_ensues ghostIdle time).unattended ⟨rfl, rfl, rfl⟩
  refine ⟨success, _, rfl, ?_, fit, ensues.pool.trans steady.idle, alone⟩
  exact congrArg (fun threads => (success, (⟨threads, replay.handles⟩ : Replay))) ghost

theorem perform_agrees (pristine : Pristine origin) (steady : Steady origin attended replay)
    {step : Step} (unset : ∀ component key value, step ≠ .set component key value) :
    Agrees origin attended (·.perform step) replay := by
  cases step with
  | openFile task path flags => exact openFile_agrees pristine steady task path flags
  | closeFile task path => exact closeFile_agrees pristine steady task path
  | mount task device dir fsType flags =>
      exact unit_agrees steady
        (mount_unaltered pristine steady.fit caller task device dir fsType flags)
  | umount task dir =>
      exact unit_agrees steady (umount_unaltered pristine steady.fit caller task dir)
  | addFile dir name => exact addFile_agrees steady dir name
  | propagation dir count => exact propagation_agrees steady dir count
  | set component key value => exact absurd rfl (unset component key value)
  | sleep time => exact sleep_agrees steady time

theorem performFrom_agrees (pristine : Pristine origin) {steps : List Step} :
    ∀ replay number, Steady origin attended replay →
      (∀ step ∈ steps, ∀ component key value, step ≠ .set component key value) →
      Agrees origin attended (·.performFrom number steps) replay := by
  induction steps with
  | nil => exact fun replay number steady _ => ⟨[], replay, rfl, rfl, steady⟩
  | cons step rest rest_agrees =>
      intro replay number steady unset
      obtain ⟨⟨ok, result⟩, middle, ran, ghostRan, steady'⟩ :=
        perform_agrees pristine steady (unset step (by simp))
      obtain ⟨results, left, ranRest, ghostRest, steadyRest⟩ :=
        rest_agrees middle (number + 1) steady'
          fun other member => unset other (List.mem_cons_of_mem step member)
      simp only at ran ghostRan ranRest ghostRest
      unfold Agrees
      simp only [performFrom, ran, ghostRan, ranRest, ghostRest]
      exact ⟨_, left, rfl, rfl, steadyRest⟩

end Replay

/-! ### Starts -/

theorem awaitClients_beside {replay served : Replay} {count wait : Nat}
    (waited : Cli.awaitClients replay count wait = some served) (idle : replay.threads.pool = []) :
    ∃ time, Beside { replay.host with clock := time } served.host ∧
      served.threads.pool = [] ∧ served.handles = replay.handles := by
  have awake : Threads.Awake replay.threads.pool := by simp [Threads.Awake, idle]
  have settled := Threads.settle_ensues replay.threads.rounds replay.threads awake
  obtain ⟨_, served⟩ := Option.ite_none_right_eq_some.mp waited
  cases served
  obtain ⟨time, beside, idle'⟩ := Threads.awaitWithin_beside
    (fun threads => decide (count ≤ threads.host.vetting.clients.count)) 64
    replay.threads.settleAll (settled.pool.trans idle)
  exact ⟨time, beside_later replay.host.clock settled.beside beside, idle', rfl⟩

theorem enlist_beside {replay later : Replay} {pid : Int32} {policy : Vetting.PathPolicy}
    (enlisted : replay.enlist pid policy = .ok later) :
    ∃ time, Beside { replay.host with clock := time } later.host ∧
      later.threads.pool = replay.threads.pool ∧ later.handles = replay.handles := by
  unfold Replay.enlist Threads.enlist at enlisted
  cases registered : replay.threads.host.vetting.register "simulate" 255 pid with
  | error error =>
      simp only [registered] at enlisted
      cases enlisted
  | ok made =>
      obtain ⟨id, vetting, records⟩ := made
      simp only [registered] at enlisted
      cases enlisted
      exact ⟨replay.host.clock, beside_noted (beside_moved (register_moved registered)) _ records,
        rfl, rfl⟩

/-- Whoever joins a replay before it begins, only time passes beside it. -/
theorem joined_beside {options : Cli.SimulateOptions} {config : Config}
    {processes : List Transport.ClientProcess} {replay served : Replay} {lines : List String}
    (idle : replay.threads.pool = [])
    (joined : Cli.serveReplay options config processes replay = some (served, lines)) :
    ∃ time, Beside { replay.host with clock := time } served.host ∧
      served.threads.pool = [] ∧ served.handles = replay.handles := by
  unfold Cli.serveReplay at joined
  split at joined
  · obtain ⟨codec, _, joined⟩ := Option.bind_eq_some_iff.mp joined
    obtain ⟨wait, _, joined⟩ := Option.bind_eq_some_iff.mp joined
    obtain ⟨later, waited, joined⟩ := Option.bind_eq_some_iff.mp joined
    cases joined
    have awaited := awaitClients_beside waited idle
    exact awaited
  · split at joined
    · cases joined
      exact ⟨replay.host.clock, Beside.refl replay.host, idle, rfl⟩
    · cases enlisted : replay.enlist Cli.ownPid options.policy with
      | error error =>
          rw [enlisted] at joined
          cases joined
      | ok later =>
          rw [enlisted] at joined
          cases joined
          obtain ⟨time, beside, pool, handles⟩ := enlist_beside enlisted
          exact ⟨time, beside, pool.trans idle, handles⟩

/-- Whatever is examined, nothing is refused: interception or vetting is off,
or there is no client, nor will there be one, and what nobody serves passes. -/
def Permissive (config : Config) (replay : Replay) : Prop :=
  config.hook.enabled = false ∨ config.vetting.enabled = false ∨
    config.vetting.noClient ≠ .deny ∧ replay.host.vetting.clients.members = [] ∧
      replay.threads.Unattended

/-- The replay of a kernel that nothing is attached to, at some time. -/
def unhookedReplay (kernel : Kernel) (time : Nat) : Replay :=
  .ofHost { bare kernel with clock := time }

theorem founded_beside {config : Config} {host later : Host} {time : Nat}
    (founded : Founded config host) (beside : Beside { host with clock := time } later) :
    Founded config later := by
  constructor
  case chain => exact beside.chain.trans founded.chain
  case calm => exact (congrArg Degraded.active beside.degraded).trans founded.calm
  case hook => exact (congrArg HookSettings.enabled beside.hook).trans founded.hook
  case enabled => exact beside.enabled.trans founded.enabled
  case noClient => exact (congrArg Vetting.Rules.noClient beside.rules).trans founded.noClient

/-- Where clients may come, it does not matter what they say. -/
theorem permissive_lenient {config : Config} {replay : Replay}
    (founded : Founded config replay.host) (permissive : Permissive config replay) :
    ∃ attended, Lenient attended replay.host ∧ (¬ attended → replay.threads.Unattended) := by
  rcases permissive with disabled | off | ⟨noClient, clients, unattended⟩
  · refine ⟨True, ⟨founded.chain, founded.calm, ?_⟩, fun absent => absurd trivial absent⟩
    exact .inl (founded.hook.trans disabled)
  · refine ⟨True, ⟨founded.chain, founded.calm, ?_⟩, fun absent => absurd trivial absent⟩
    exact .inr (.inl (founded.enabled.trans off))
  · refine ⟨False, ⟨founded.chain, founded.calm, ?_⟩, fun _ => unattended⟩
    exact .inr (.inr ⟨id, clients, founded.noClient ▸ noClient⟩)

/-- A replay that begins is steady, and its shadow is the replay without hooks. -/
theorem served_steady {kernel : Kernel} {config : Config} {host : Host} {served : Replay}
    {time : Nat} (built : Scenario.Built kernel) (configured : ofConfig config kernel = .ok host)
    (beside : Beside { host with clock := time } served.host) (idle : served.threads.pool = [])
    (permissive : Permissive config served) :
    ∃ attended, Pristine { kernel with attached := true } ∧
      Replay.Steady { kernel with attached := true } attended served ∧
      served.host.shadow { kernel with attached := true } =
        { bare kernel with clock := served.host.clock } := by
  have ready := Kernel.assembled_ready built.assembled (Scenario.built_roomy built)
  have clean : Patch.Clean kernel.memory.content :=
    Kernel.addressed_genuine ready.addressed (Scenario.built_roomy built)
  have separate := Scenario.built_separate built
  obtain ⟨first, rfl, empty, rfl, founded⟩ := ofConfig_founded configured
  obtain ⟨after, attached, tended, inUse⟩ := attach_tends clean separate
    (Kernel.assembled_furnished built.assembled) ready.addressed.writable empty
  have founded' : Founded config (attach first) := by
    rw [attached]
    exact ⟨founded.chain, founded.calm, founded.hook, founded.enabled, founded.noClient⟩
  obtain ⟨attended, lenient, alone⟩ :=
    permissive_lenient (founded_beside founded' beside) permissive
  have listing : served.host.table.listing = (attach first).table.listing := by rw [beside.table]
  have nextId : served.host.table.nextId = (attach first).table.nextId := by rw [beside.table]
  have fit : Fit { first.kernel with attached := true } attended none served.host :=
    ⟨tended_counted tended beside.kernel listing nextId, beside.table ▸ inUse, lenient⟩
  refine ⟨attended, ⟨clean, ⟨separate.own, separate.files, separate.lookups⟩, rfl⟩,
    ⟨fit, idle, alone⟩, ?_⟩
  have kernel : served.host.kernel.unhooked { first.kernel with attached := true } =
      first.kernel := by
    rw [beside.kernel, attached]
    show { first.kernel with attached := false } = first.kernel
    rw [← Scenario.built_detached built]
  rw [shadow, kernel]

/-- Hooks that refuse nothing make no difference to any step of a scenario. -/
theorem hooks_transparent {scenario : Scenario} {kernel : Kernel} {config : Config} {host : Host}
    {options : Cli.SimulateOptions} {processes : List Transport.ClientProcess} {served : Replay}
    {lines : List String} (made : scenario.kernel = .ok kernel)
    (configured : ofConfig config kernel = .ok host)
    (joined : Cli.serveReplay options config processes (.ofHost host) = some (served, lines))
    (permissive : Permissive config served)
    (unset : ∀ step ∈ scenario.steps, ∀ component key value, step ≠ .set component key value) :
    (served.run scenario.steps).1 =
        ((unhookedReplay kernel served.host.clock).run scenario.steps).1 ∧
      (served.run scenario.steps).2.host.kernel.calls =
        ((unhookedReplay kernel served.host.clock).run scenario.steps).2.host.kernel.calls := by
  obtain ⟨time, beside, idle, handles⟩ := joined_beside rfl joined
  obtain ⟨attended, pristine, steady, same⟩ :=
    served_steady (Scenario.kernel_built made) configured beside idle permissive
  obtain ⟨results, left, ran, ghostRan, _⟩ :=
    Replay.performFrom_agrees pristine served 0 steady unset
  have start : served.shadow { kernel with attached := true } =
      unhookedReplay kernel served.host.clock := by
    rw [Replay.shadow, same, handles]
    rfl
  simp only [start] at ran ghostRan
  rw [Replay.run, Replay.run, ran, ghostRan]
  exact ⟨rfl, rfl⟩

/-! A network mount whose lookups, atomic opens and revalidations are hooked,
and another one bound to it, without any client. -/

def someone : Personality := ⟨100, 100, 0, 0, 0, 0, "test"⟩

def netScenario : Scenario :=
  ⟨[⟨"server:/export", "/n", "nfs", ["f"]⟩],
    [.openFile someone "/n/f" 0, .openFile someone "/n/g" Step.creating, .closeFile someone "/n/f",
      .mount someone "/n" "/m" "nfs" MountFlags.bind, .umount someone "/m"]⟩

def netKernel : Kernel :=
  (Kernel.standard.withMount "server:/export" "/n" "nfs").withFile "/n" "f"

def netHost : Host := (ofConfig Config.standard netKernel).toOption.getD (bare netKernel)

def netReplay : Replay := .ofHost netHost

def clientless : Cli.SimulateOptions :=
  ⟨"scenario.json", none, false, none, 0, "5s", true, ⟨[], .allow, 0⟩, false, false⟩

theorem netScenario_transparent :
    netScenario.kernel = .ok netKernel ∧ ofConfig Config.standard netKernel = .ok netHost ∧
      netHost.table.contains "nfs" = true ∧
      (netReplay.run netScenario.steps).1 =
        ((unhookedReplay netKernel netReplay.host.clock).run netScenario.steps).1 ∧
      (netReplay.run netScenario.steps).2.host.kernel.calls =
        ((unhookedReplay netKernel netReplay.host.clock).run
          netScenario.steps).2.host.kernel.calls := by
  have made : netScenario.kernel = .ok netKernel := rfl
  have configured : ofConfig Config.standard netKernel = .ok netHost := rfl
  have joined : Cli.serveReplay clientless Config.standard [] (.ofHost netHost) =
      some (netReplay, []) := rfl
  have nobody : netReplay.host.vetting.clients.members = [] := by decide +kernel
  have permissive : Permissive Config.standard netReplay :=
    .inr (.inr ⟨by decide, nobody, ⟨rfl, rfl, rfl⟩⟩)
  exact ⟨made, configured, by decide +kernel,
    hooks_transparent made configured joined permissive (by simp [netScenario])⟩

end Interception
