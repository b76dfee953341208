import Interception.Host.Service
import Interception.Proofs.Host.Errands

/-!
Runs over one hooked kernel. Attaching walks the mounts that are there; from
then on threads are sent for mounts, unmounts, opens and closes, sleep and
wake in any order, files turn up, and everything but kernel and patch table
may be configured anew at any time.
-/

namespace Interception.Host

open Patch

/-- A service as its configuration has it. -/
structure Founded (config : Config) (host : Host) : Prop where
  chain : host.chain = serviceChain
  calm : host.degraded.active = false
  hook : host.hook.enabled = config.hook.enabled
  enabled : host.vetting.enabled = config.vetting.enabled
  noClient : host.vetting.rules.noClient = config.vetting.noClient

theorem hookOf_enabled {config : HookConfig} {hook : HookSettings}
    (made : hookOf config = .ok hook) : hook.enabled = config.enabled := by
  unfold hookOf at made
  cases ops : Config.opsOf config.ops with
  | error error => simp [ops, Except.map] at made
  | ok operations =>
      rw [ops] at made
      cases made
      rfl

theorem controller_made {config : VettingConfig} {vetting : Vetting.Controller}
    (made : Config.controller config = .ok vetting) :
    ∃ rules, vetting = Vetting.Controller.ofRules config.enabled rules ∧
      rules.noClient = config.noClient := by
  simp only [Config.controller, bind, Except.bind] at made
  split at made
  · cases made
  · split at made
    · cases made
    · split at made
      · cases made
      · cases made
        exact ⟨_, rfl, rfl⟩

theorem ofConfig_made {config : Config} {kernel : Kernel} {host : Host}
    (made : ofConfig config kernel = .ok host) :
    ∃ hook vetting, hookOf config.hook = .ok hook ∧ Config.controller config.vetting = .ok vetting ∧
      host = attach { bare kernel with
        hook, vetting, chain := serviceChain, policy := config.policy.onError
        log := ActionLog.ofEnabled config.policy.actionLog
        degraded := degradedOf config.degraded
        components := Component.all } := by
  simp only [ofConfig, bind, Except.bind] at made
  split at made
  · cases made
  · split at made
    · cases made
    · rename_i vetting vetted
      split at made
      · cases made
      · rename_i hook hooked
        exact ⟨hook, vetting, hooked, vetted, (Except.ok.inj made).symm⟩

theorem ofConfig_founded {config : Config} {kernel : Kernel} {host : Host}
    (made : ofConfig config kernel = .ok host) :
    ∃ first : Host, first.kernel = kernel ∧ first.table = Table.empty ∧ host = attach first ∧
      Founded config first := by
  obtain ⟨hook, vetting, hooked, vetted, same⟩ := ofConfig_made made
  obtain ⟨rules, rfl, noClient⟩ := controller_made vetted
  exact ⟨_, rfl, rfl, same, rfl, rfl, hookOf_enabled hooked, rfl, noClient⟩

/-- Threads that sleep, and the host between two steps. -/
structure Scene where
  host : Host
  sleepers : List (Bool → Host → Run Host Unit)

/-- The scene a run leaves behind, next to those who sleep already. -/
def Scene.after (sleepers : List (Bool → Host → Run Host Unit)) : Run Host Unit → Scene
  | .done host _ => ⟨host, sleepers⟩
  | .asleep host _ resume => ⟨host, sleepers ++ [resume]⟩

inductive Reaches (first : Host) : Scene → Prop
  | start : Reaches first ⟨first, []⟩
  | send {host : Host} {sleepers : List (Bool → Host → Run Host Unit)} (errand : Errand)
      (reached : Reaches first ⟨host, sleepers⟩) :
      Reaches first (Scene.after sleepers (errand.call host))
  | wake {host : Host} {before after : List (Bool → Host → Run Host Unit)}
      {resume : Bool → Host → Run Host Unit} (expired : Bool)
      (reached : Reaches first ⟨host, before ++ resume :: after⟩) :
      Reaches first (Scene.after (before ++ after) (resume expired host))
  | addFile {host : Host} {sleepers : List (Bool → Host → Run Host Unit)} {kernel : Kernel}
      {inode : Inode} {dir name : String}
      (added : host.kernel.addFile dir name = .ok (inode, kernel))
      (reached : Reaches first ⟨host, sleepers⟩) : Reaches first ⟨{ host with kernel }, sleepers⟩
  | configure {host later : Host} {sleepers : List (Bool → Host → Run Host Unit)}
      (kernel : later.kernel = host.kernel) (table : later.table = host.table)
      (reached : Reaches first ⟨host, sleepers⟩) : Reaches first ⟨later, sleepers⟩

theorem mapped_ok {Error Value Result : Type} {change : Value → Result}
    {answer : Except Error Value} {result : Result} (mapped : answer.map change = .ok result) :
    ∃ value, change value = result := by
  cases answer with
  | error error => cases mapped
  | ok value => exact ⟨value, Except.ok.inj mapped⟩

theorem setDirect_apart {caller : Caller} {host later : Host} {component : Component}
    {key value : String} (set : setDirect caller host component key value = .ok later) :
    later.kernel = host.kernel ∧ later.table = host.table := by
  cases component with
  | hook | vetting | degraded | actionLog =>
      obtain ⟨_, rfl⟩ := mapped_ok set
      exact ⟨rfl, rfl⟩

theorem setSetting_direct {caller : Caller} {host later : Host} {name key value : String}
    (set : setSetting caller host name key value = .ok later) :
    ∃ component, setDirect caller host component key value = .ok later := by
  simp only [setSetting, bind, Except.bind] at set
  split at set
  · cases set
  · split at set
    · cases set
    · split at set
      · cases set
      · exact ⟨_, set⟩

/-- Writing a setting is a step of a scene. -/
theorem setSetting_configures {first host later : Host} {caller : Caller} {name key value : String}
    {sleepers : List (Bool → Host → Run Host Unit)}
    (set : setSetting caller host name key value = .ok later)
    (reached : Reaches first ⟨host, sleepers⟩) : Reaches first ⟨later, sleepers⟩ := by
  obtain ⟨component, direct⟩ := setSetting_direct set
  obtain ⟨kernel, table⟩ := setDirect_apart direct
  exact .configure kernel table reached

/-! ### What every scene keeps -/

variable {origin : Kernel} {strays : Prop} {host later : Host}

/-- Whatever sleeps leaves a watched host watched when it goes on. -/
structure Guarded (origin : Kernel) (strays : Prop) (scene : Scene) : Prop where
  watched : Watched origin strays scene.host
  sleepers : ∀ resume ∈ scene.sleepers, ∀ expired later, Watched origin strays later →
    Run.Meets (Watched origin strays) (fun _ _ => True) (resume expired later)

theorem guarded_after {sleepers : List (Bool → Host → Run Host Unit)} {run : Run Host Unit}
    (others : ∀ resume ∈ sleepers, ∀ expired later, Watched origin strays later →
      Run.Meets (Watched origin strays) (fun _ _ => True) (resume expired later))
    (met : Run.Meets (Watched origin strays) (fun _ _ => True) run) :
    Guarded origin strays (Scene.after sleepers run) := by
  cases run with
  | done host value => exact ⟨met.1, others⟩
  | asleep host sleep resume =>
      exact ⟨met.1, List.forall_mem_append.mpr ⟨others, List.forall_mem_singleton.mpr met.2⟩⟩

theorem reaches_guarded (clean : Clean origin.memory.content) {first : Host}
    (watched : Watched origin strays first) {scene : Scene} (reaches : Reaches first scene) :
    Guarded origin strays scene := by
  -- Those asleep need not be run on: each promises to keep whatever watched host
  -- it wakes up in watched.
  induction reaches with
  | start => exact ⟨watched, by simp⟩
  | send errand reached guarded =>
      exact guarded_after guarded.sleepers (errand_keeps clean errand _ guarded.watched)
  | wake expired reached guarded =>
      obtain ⟨earlier, rest⟩ := List.forall_mem_append.mp guarded.sleepers
      obtain ⟨own, later⟩ := List.forall_mem_cons.mp rest
      exact guarded_after (List.forall_mem_append.mpr ⟨earlier, later⟩)
        (own expired _ guarded.watched)
  | addFile added reached guarded =>
      obtain ⟨furnished, stays⟩ := Kernel.furnished_addFile guarded.watched.furnished added
      exact ⟨watched_same guarded.watched furnished stays rfl rfl, guarded.sleepers⟩
  | configure kernel table reached guarded =>
      exact ⟨watched_blind _ _ kernel table guarded.watched, guarded.sleepers⟩

/-! ### Attaching -/

/-- Every mount offers files of its own type only, as it does when no mounts
of different types share a directory. -/
def Tidy (kernel : Kernel) : Prop :=
  ∀ mount ∈ kernel.mounts, ∀ inode, kernel.findRegular mount.point = some inode →
    inode.fsType = mount.point.fsType

theorem watched_first {first : Host} (furnished : first.kernel.Furnished)
    (writable : first.kernel.memory.isSealed = false) (empty : first.table = Table.empty) :
    Watched first.kernel strays first := by
  refine ⟨furnished, rfl, rfl, rfl, writable, ?_, ?_⟩
  · rw [world, empty]
    exact sound_start first.kernel.memory
  · rw [empty]
    simp [Table.listing, Table.empty]

theorem hookable_mount (watched : Watched origin strays host) (loose : ¬ Tidy host.kernel → strays)
    {mount : Mount} (inside : mount ∈ host.kernel.mounts) :
    ∃ driver, Hookable origin strays host mount.point driver := by
  obtain ⟨_, driver, known, inodes⟩ := watched.furnished.rooted mount inside
  rw [watched_driver? watched] at known
  refine ⟨driver, known, inodes, ?_⟩
  intro inode found
  -- Where mounts share a directory the file offered may be that of another type.
  by_cases tidy : Tidy host.kernel
  · obtain ⟨other, _, bears⟩ := Kernel.findRegular_bears watched.furnished found
    have type : other.point.fsType = mount.point.fsType :=
      bears.2.1.symm.trans (tidy mount inside inode found)
    rw [type] at bears
    exact .inl (made_of_bears watched known bears).2.2
  · exact .inr (loose tidy)

theorem walkMounts_on (clean : Clean origin.memory.content) (points : List MountPoint) :
    ∀ host, Watched origin strays host → (¬ Tidy host.kernel → strays) →
      (∀ point ∈ points, ∃ mount ∈ host.kernel.mounts, mount.point = point) →
      ∃ later, walkMounts points host = .done later () ∧ Watched origin strays later := by
  induction points with
  | nil => exact fun host watched _ _ => ⟨host, rfl, watched⟩
  | cons point rest rest_walked =>
      intro host watched loose present
      obtain ⟨mount, inside, rfl⟩ := present point (by simp)
      obtain ⟨driver, hookable⟩ := hookable_mount watched loose inside
      obtain ⟨middle, answer, ran, kept, mounts⟩ := processMount_on clean watched hookable false
      have loose' : ¬ Tidy middle.kernel → strays := by
        simpa only [Tidy, Kernel.findRegular, mounts] using loose
      obtain ⟨later, ranRest, keptRest⟩ := rest_walked middle kept loose' (by
        rw [mounts]
        exact fun other member => present other (List.mem_cons_of_mem _ member))
      refine ⟨later, ?_, keptRest⟩
      show ((processMount mount.point false host).bind _).bind _ = _
      rw [ran]
      exact ranRest

theorem watched_attach {first : Host} (clean : Clean first.kernel.memory.content)
    (furnished : first.kernel.Furnished) (writable : first.kernel.memory.isSealed = false)
    (empty : first.table = Table.empty) :
    Watched { first.kernel with attached := true } (¬ Tidy first.kernel) (attach first) := by
  obtain ⟨later, ran, kept⟩ := walkMounts_on clean (first.kernel.mounts.map (·.point)) first
    (watched_first furnished writable empty) id (by
      intro point member
      obtain ⟨mount, inside, same⟩ := List.mem_map.mp member
      exact ⟨mount, inside, same⟩)
  have walked : attach first = { later with kernel.attached := true } := by
    rw [attach, Call.start, ran]
    rfl
  rw [walked]
  exact ⟨Kernel.furnished_unmoved kept.furnished rfl rfl rfl, kept.drivers, kept.natives, rfl,
    kept.writable, kept.sound, kept.typed⟩

end Interception.Host
