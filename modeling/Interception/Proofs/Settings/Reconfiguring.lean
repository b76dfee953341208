import Interception.Proofs.Host.Metering
import Interception.Proofs.Settings.Adjusting
import Mathlib.Data.List.Forall2

/-!
Writing a setting by the names of its component and its key. A write is either
taken by that component alone, or refused for one of four reasons and then leaves
the host as it was. What a listing of all settings shows afterwards differs in the
entry that was written; only the end of degraded mode shows in two more.
-/

namespace Interception

/-- How an entry of the listing may look after a value was taken for a key. -/
inductive Altered (name key value : String) : String × Setting → String × Setting → Prop
  | same {entry : String × Setting} : Altered name key value entry entry
  | own {old new : String} : Altered name key value (name, .free key old) (name, .free key new)
  | ended {old : String} (mode : name = Degraded.name) (status : key = "status")
      (off : Switch.parse? value = some false) :
      Altered name key value (name, .free "active" old) (name, .free "active" "false")
  | forgotten {old : String} (mode : name = Degraded.name) (ends : key = "status" ∨ key = "active")
      (off : Switch.parse? value = some false) :
      Altered name key value (name, .lockedAt "timeouts" old) (name, .lockedAt "timeouts" "0")

namespace Host

/-- The host after a component took a value for a key. -/
inductive Adjusts (caller : Caller) (host : Host) (key value : String) : Component → Host → Prop
  | hook {hook : HookSettings} (adjusts : host.hook.Adjusts value key hook) :
      Adjusts caller host key value .hook { host with hook }
  | vetting {vetting : Vetting.Controller} (adjusts : host.vetting.Adjusts value key vetting) :
      Adjusts caller host key value .vetting { host with vetting }
  | degraded {degraded : Degraded} {records : List AuditRecord}
      (adjusts : host.degraded.Adjusts host.clock value key (degraded, records)) :
      Adjusts caller host key value .degraded ({ host with degraded }.note caller records)
  | actionLog {log : ActionLog} (adjusts : host.log.Adjusts value key log) :
      Adjusts caller host key value .actionLog { host with log }

/-- Why a write is refused. -/
inductive Refuses (caller : Caller) (host : Host) (name key value : String) : SettingError → Prop
  | unknownComponent (absent : ∀ component ∈ host.components, component.name ≠ name) :
      Refuses caller host name key value (.unknownComponent name)
  | unknownKey {component : Component} (attached : component ∈ host.components)
      (named : component.name = name) (absent : ∀ setting ∈ host.settingsOf component,
        setting.key ≠ key) : Refuses caller host name key value (.unknownKey name key)
  | readOnly {component : Component} {shown : String} (attached : component ∈ host.components)
      (named : component.name = name) (listed : .lockedAt key shown ∈ host.settingsOf component) :
      Refuses caller host name key value (.readOnly key)
  | invalidValue {component : Component} {shown : String} {reason : Refusal}
      (attached : component ∈ host.components) (named : component.name = name)
      (listed : .free key shown ∈ host.settingsOf component)
      (unread : ∀ later, ¬ host.Adjusts caller key value component later) :
      Refuses caller host name key value (.invalidValue key value reason)

/-- A value that a caller has for a key of the component of a name. -/
structure Write where
  caller : Caller
  name : String
  key : String
  value : String

/-- The host after a write, taken or refused. -/
def written (host : Host) (write : Write) : Host :=
  host.orElse (setSetting write.caller host write.name write.key write.value)

/-- The host after some writes, one after the other. -/
def rewritten (host : Host) (writes : List Write) : Host := writes.foldl written host

end Host

/-! ### Keys of the components -/

section Keys

variable {key value shown : String}

namespace HookSettings

variable {settings later : HookSettings}

theorem Adjusts.listed (adjusts : settings.Adjusts value key later) (patches : String) :
    ∃ shown, Setting.find? (settings.list patches) key = some (.free key shown) := by
  cases adjusts <;> simp [Setting.find?, list, Setting.free, Setting.lockedAt]

theorem Adjusts.altered (adjusts : settings.Adjusts value key later) (name patches : String) :
    List.Forall₂ (Altered name key value) ((settings.list patches).map (name, ·))
      ((later.list patches).map (name, ·)) := by
  cases adjusts <;> simp [list, Altered.same, Altered.own]

theorem set_error {patches : String} {error : SettingError}
    (listed : .free key shown ∈ settings.list patches)
    (refused : settings.set key value = .error error) :
    ∃ reason, error = .invalidValue key value reason := by
  have known : key ≠ "fs-list" ∧ ∃ answer, settings.update value key = some answer := by
    simp only [list, List.mem_cons, Setting.free, Setting.lockedAt, Setting.mk.injEq,
      List.not_mem_nil, or_false] at listed
    rcases listed with ⟨rfl, -⟩ | ⟨rfl, -⟩ | ⟨rfl, -⟩ | ⟨rfl, -⟩ | ⟨rfl, -⟩ | ⟨-, -, ⟨⟩⟩ <;>
      simp [update]
  obtain ⟨free, answer, updated⟩ := known
  rw [HookSettings.set, if_neg free, updated] at refused
  cases answer with
  | ok later => cases refused
  | error reason => exact ⟨reason, (Except.error.inj refused).symm⟩

end HookSettings

namespace Vetting.Controller

variable {control later : Controller}

theorem Adjusts.listed (adjusts : control.Adjusts value key later) :
    ∃ shown, Setting.find? control.settings key = some (.free key shown) := by
  cases adjusts with
  | status => simp [Setting.find?, settings, Setting.free, Setting.lockedAt]
  | rules adjusts =>
      cases adjusts <;> simp [Setting.find?, settings, Setting.free, Setting.lockedAt]

theorem Adjusts.altered (adjusts : control.Adjusts value key later) (name : String) :
    List.Forall₂ (Altered name key value) (control.settings.map (name, ·))
      (later.settings.map (name, ·)) := by
  cases adjusts with
  | status => simp [settings, Altered.same, Altered.own]
  | rules adjusts =>
      cases adjusts <;> simp [settings, RoutingTable.render, Altered.same, Altered.own]

theorem set_error {error : SettingError} (listed : .free key shown ∈ control.settings)
    (refused : control.set key value = .error error) :
    ∃ reason, error = .invalidValue key value reason := by
  have known : ¬ (key = "groups" ∨ key = "clients") ∧
      (key = "status" ∨ key ≠ "status" ∧
        ∃ answer, updateRules control.rules value key = some answer) := by
    simp only [settings, List.mem_cons, Setting.free, Setting.lockedAt, Setting.mk.injEq,
      List.not_mem_nil, or_false] at listed
    rcases listed with ⟨rfl, -⟩ | ⟨rfl, -⟩ | ⟨rfl, -⟩ | ⟨rfl, -⟩ | ⟨rfl, -⟩ | ⟨rfl, -⟩ | ⟨rfl, -⟩ |
      ⟨rfl, -⟩ | ⟨rfl, -⟩ | ⟨rfl, -⟩ | ⟨-, -, ⟨⟩⟩ | ⟨-, -, ⟨⟩⟩ <;> simp [updateRules]
  obtain ⟨free, rfl | ⟨noStatus, answer, updated⟩⟩ := known
  · rw [Controller.set, if_neg free, if_pos rfl] at refused
    split at refused
    · cases refused
    · exact ⟨_, (Except.error.inj refused).symm⟩
  · rw [Controller.set, if_neg free, if_neg noStatus, updated] at refused
    cases answer with
    | ok later => cases refused
    | error reason => exact ⟨reason, (Except.error.inj refused).symm⟩

end Vetting.Controller

namespace Degraded

variable {mode : Degraded} {now : Nat} {later : Degraded × List AuditRecord}

theorem Adjusts.listed (adjusts : mode.Adjusts now value key later) :
    ∃ shown, Setting.find? mode.settings key = some (.free key shown) := by
  cases adjusts <;> simp [Setting.find?, settings, Setting.free, Setting.lockedAt]

theorem disable_settings (mode : Degraded) :
    mode.disable.1.settings = { mode with enabled := false, active := false, count := 0 }.settings := by
  cases active : mode.active <;> simp [disable, leave, active, settings]

theorem setActive_settings (mode : Degraded) (now : Nat) (active : Bool) :
    (mode.setActive now active).1.settings =
      { mode with active, count := if active then mode.count else 0 }.settings := by
  cases active <;> cases was : mode.active <;>
    simp [setActive, enter, leave, was, settings]

theorem Adjusts.altered (adjusts : mode.Adjusts now value key later) :
    List.Forall₂ (Altered Degraded.name key value) (mode.settings.map (Degraded.name, ·))
      (later.1.settings.map (Degraded.name, ·)) := by
  -- Numbers are listed as text; a count of none is the text of zero.
  have forgotten {key : String} (ends : key = "status" ∨ key = "active")
      (off : Switch.parse? value = some false) :
      Altered name key value (name, .lockedAt "timeouts" (Nat.repr mode.count))
        (name, .lockedAt "timeouts" (Nat.repr 0)) := .forgotten rfl ends off
  cases adjusts with
  | enabled => simp [enable, settings, Altered.same, Altered.own]
  | disabled word =>
      rw [disable_settings]
      have ended : Altered name "status" value (name, .free "active" (toString mode.active))
          (name, .free "active" (toString false)) := .ended rfl rfl word
      simp [settings, Altered.same, Altered.own, ended, forgotten (.inl rfl) word]
  | threshold | fallback | probeInterval => simp [settings, Altered.same, Altered.own]
  | @active active word =>
      rw [setActive_settings]
      cases active with
      | true => simp [settings, Altered.same, Altered.own]
      | false =>
          simp [settings, Altered.same, Altered.own, forgotten (.inr rfl) word]

example : ((Degraded.mk true 2 3 .allow 5000 true none 1 1).disable.1.settings.map (·.value)) =
    ["disabled", "3", "false", "allow", "5000", "0"] := by decide

theorem set_error {error : SettingError} (listed : .free key shown ∈ mode.settings)
    (refused : mode.set now key value = .error error) :
    ∃ reason, error = .invalidValue key value reason := by
  have known : key ≠ "timeouts" ∧ ∃ answer, mode.update now value key = some answer := by
    simp only [settings, List.mem_cons, Setting.free, Setting.lockedAt, Setting.mk.injEq,
      List.not_mem_nil, or_false] at listed
    rcases listed with ⟨rfl, -⟩ | ⟨rfl, -⟩ | ⟨rfl, -⟩ | ⟨rfl, -⟩ | ⟨rfl, -⟩ | ⟨-, -, ⟨⟩⟩ <;>
      simp [update]
  obtain ⟨free, answer, updated⟩ := known
  rw [Degraded.set, if_neg free, updated] at refused
  cases answer with
  | ok later => cases refused
  | error reason => exact ⟨reason, (Except.error.inj refused).symm⟩

end Degraded

namespace ActionLog

variable {log later : ActionLog}

theorem Adjusts.listed (adjusts : log.Adjusts value key later) :
    ∃ shown, Setting.find? log.settings key = some (.free key shown) := by
  cases adjusts
  simp [Setting.find?, settings, Setting.free]

theorem Adjusts.altered (adjusts : log.Adjusts value key later) (name : String) :
    List.Forall₂ (Altered name key value) (log.settings.map (name, ·))
      (later.settings.map (name, ·)) := by
  cases adjusts
  exact .cons .own .nil

theorem set_error {error : SettingError} (listed : .free key shown ∈ log.settings)
    (refused : log.set key value = .error error) :
    ∃ reason, error = .invalidValue key value reason := by
  obtain rfl : key = "status" := congrArg Setting.key (List.mem_singleton.mp listed)
  rw [ActionLog.set, if_pos rfl] at refused
  split at refused
  · cases refused
  · exact ⟨_, (Except.error.inj refused).symm⟩

end ActionLog

end Keys

/-! ### Components of a host -/

theorem Component.name_injective : Function.Injective Component.name := by
  intro one other same
  cases one <;> cases other <;> first | rfl | exact absurd same (by decide)

namespace Host

variable {caller : Caller} {host later : Host} {component other : Component}
  {name key value shown : String} {error : SettingError}

theorem setDirect_ok_iff :
    setDirect caller host component key value = .ok later ↔
      host.Adjusts caller key value component later := by
  constructor
  · intro set
    cases component with
    | hook =>
        obtain ⟨hook, changed, rfl⟩ := Vetting.mapped_eq_ok set
        exact .hook (HookSettings.set_ok_iff.mp changed)
    | vetting =>
        obtain ⟨vetting, changed, rfl⟩ := Vetting.mapped_eq_ok set
        exact .vetting (Vetting.Controller.set_ok_iff.mp changed)
    | degraded =>
        obtain ⟨⟨degraded, records⟩, changed, rfl⟩ := Vetting.mapped_eq_ok set
        exact .degraded (Degraded.set_ok_iff.mp changed)
    | actionLog =>
        obtain ⟨log, changed, rfl⟩ := Vetting.mapped_eq_ok set
        exact .actionLog (ActionLog.set_ok_iff.mp changed)
  · intro adjusts
    cases adjusts with
    | hook adjusts => simp [setDirect, HookSettings.set_ok_iff.mpr adjusts, Except.map]
    | vetting adjusts => simp [setDirect, Vetting.Controller.set_ok_iff.mpr adjusts, Except.map]
    | degraded adjusts => simp [setDirect, Degraded.set_ok_iff.mpr adjusts, Except.map]
    | actionLog adjusts => simp [setDirect, ActionLog.set_ok_iff.mpr adjusts, Except.map]

theorem mapped_eq_error {Error Value Result : Type} {change : Value → Result}
    {answer : Except Error Value} {error : Error} (mapped : answer.map change = .error error) :
    answer = .error error := by
  cases answer with
  | ok value => cases mapped
  | error cause =>
      cases mapped
      rfl

theorem setDirect_error (listed : .free key shown ∈ host.settingsOf component)
    (refused : setDirect caller host component key value = .error error) :
    ∃ reason, error = .invalidValue key value reason := by
  cases component with
  | hook => exact HookSettings.set_error listed (mapped_eq_error refused)
  | vetting => exact Vetting.Controller.set_error listed (mapped_eq_error refused)
  | degraded => exact Degraded.set_error listed (mapped_eq_error refused)
  | actionLog => exact ActionLog.set_error listed (mapped_eq_error refused)

namespace Adjusts

theorem listed (adjusts : host.Adjusts caller key value component later) :
    ∃ shown, Setting.find? (host.settingsOf component) key = some (.free key shown) := by
  cases adjusts with
  | hook adjusts => exact adjusts.listed _
  | vetting adjusts | degraded adjusts | actionLog adjusts => exact adjusts.listed

theorem components (adjusts : host.Adjusts caller key value component later) :
    later.components = host.components := by
  cases adjusts <;> rfl

theorem others (adjusts : host.Adjusts caller key value component later)
    (different : other ≠ component) : later.settingsOf other = host.settingsOf other := by
  cases adjusts <;> cases other <;> first | rfl | exact absurd rfl different

theorem altered (adjusts : host.Adjusts caller key value component later) :
    List.Forall₂ (Altered component.name key value)
      ((host.settingsOf component).map (component.name, ·))
      ((later.settingsOf component).map (component.name, ·)) := by
  cases adjusts with
  | hook adjusts => exact adjusts.altered _ _
  | vetting adjusts | actionLog adjusts => exact adjusts.altered _
  | degraded adjusts => exact adjusts.altered

theorem dump_altered (adjusts : host.Adjusts caller key value component later) :
    List.Forall₂ (Altered component.name key value) host.dump later.dump := by
  rw [dump, dump, adjusts.components]
  -- Each component has a stretch of the listing to itself, so they are compared one by
  -- one; all but the one that took the value show the same.
  induction host.components with
  | nil => exact .nil
  | cons other rest ih =>
      refine List.rel_append ?_ ih
      by_cases same : other = component
      · exact same ▸ adjusts.altered
      · beta_reduce
        rw [adjusts.others same]
        exact List.forall₂_same.mpr fun _ _ => .same

end Adjusts

/-! ### Writes -/

theorem findComponent_ok_iff :
    host.findComponent name = .ok component ↔
      component ∈ host.components ∧ component.name = name := by
  constructor
  · intro found
    unfold findComponent at found
    split at found
    · rename_i first present
      obtain rfl := Except.ok.inj found
      exact ⟨List.mem_of_find?_eq_some present, by simpa using List.find?_some present⟩
    · cases found
  · rintro ⟨attached, rfl⟩
    unfold findComponent
    cases present : host.components.find? (·.name == component.name) with
    | none => exact absurd (List.find?_eq_none.mp present component attached) (by simp)
    | some first =>
        have same : first.name = component.name := by simpa using List.find?_some present
        rw [Component.name_injective same]

theorem findComponent_error (missing : host.findComponent name = .error error) :
    error = .unknownComponent name ∧ ∀ component ∈ host.components, component.name ≠ name := by
  unfold findComponent at missing
  split at missing
  · cases missing
  · rename_i absent
    exact ⟨(Except.error.inj missing).symm, by simpa using absent⟩

theorem find_setting {settings : List Setting} {setting : Setting}
    (found : Setting.find? settings key = some setting) : setting ∈ settings ∧ setting.key = key :=
  ⟨List.mem_of_find?_eq_some found, by simpa using List.find?_some found⟩

theorem setSetting_ok_iff :
    setSetting caller host name key value = .ok later ↔
      ∃ component ∈ host.components, component.name = name ∧
        host.Adjusts caller key value component later := by
  constructor
  · intro set
    simp only [setSetting, bind, Except.bind] at set
    split at set
    · cases set
    · rename_i component found
      obtain ⟨attached, named⟩ := findComponent_ok_iff.mp found
      split at set
      · cases set
      · split at set
        · cases set
        · exact ⟨component, attached, named, setDirect_ok_iff.mp set⟩
  · rintro ⟨component, attached, named, adjusts⟩
    obtain ⟨shown, listed⟩ := adjusts.listed
    simp only [setSetting, bind, Except.bind, findComponent_ok_iff.mpr ⟨attached, named⟩, listed,
      Setting.free, Bool.false_eq_true, if_false]
    exact setDirect_ok_iff.mpr adjusts

theorem setSetting_refused (refused : setSetting caller host name key value = .error error) :
    host.Refuses caller name key value error := by
  simp only [setSetting, bind, Except.bind] at refused
  split at refused
  · rename_i missing
    obtain rfl := Except.error.inj refused
    obtain ⟨rfl, absent⟩ := findComponent_error missing
    exact .unknownComponent absent
  · rename_i component found
    obtain ⟨attached, named⟩ := findComponent_ok_iff.mp found
    split at refused
    · rename_i absent
      obtain rfl := Except.error.inj refused
      exact .unknownKey attached named (by simpa [Setting.find?] using absent)
    · rename_i setting present
      obtain ⟨listed, rfl⟩ := find_setting present
      obtain ⟨key, shown, locked⟩ := setting
      cases locked with
      | true =>
          obtain rfl := Except.error.inj refused
          exact .readOnly attached named listed
      | false =>
          -- What is listed as free is known to the component, so the value is at fault.
          obtain ⟨reason, rfl⟩ := setDirect_error listed refused
          refine .invalidValue attached named listed fun later adjusts => ?_
          rw [setDirect_ok_iff.mpr adjusts] at refused
          cases refused

section Write

variable {write : Write}

theorem written_of_ok
    (taken : setSetting write.caller host write.name write.key write.value = .ok later) :
    host.written write = later := by
  rw [written, taken]
  rfl

theorem written_of_error
    (refused : setSetting write.caller host write.name write.key write.value = .error error) :
    host.written write = host := by
  rw [written, refused]
  rfl

/-- A write leaves the host alone or makes it take the value. -/
theorem written_cases (host : Host) (write : Write) :
    host.written write = host ∨
      ∃ component, component.name = write.name ∧
        host.Adjusts write.caller write.key write.value component (host.written write) := by
  cases set : setSetting write.caller host write.name write.key write.value with
  | error error => exact .inl (written_of_error set)
  | ok later =>
      obtain ⟨component, -, named, adjusts⟩ := setSetting_ok_iff.mp set
      exact .inr ⟨component, named, written_of_ok set ▸ adjusts⟩

end Write

/-- A write is taken by the component it names and touches no entry but its own, or
it is refused with its reason and leaves every entry as it is. -/
theorem dump_written (caller : Caller) (host : Host) (name key value : String) :
    (∀ later, setSetting caller host name key value = .ok later ↔
      ∃ component ∈ host.components, component.name = name ∧
        host.Adjusts caller key value component later) ∧
    (∀ later, setSetting caller host name key value = .ok later →
      host.written ⟨caller, name, key, value⟩ = later ∧
        List.Forall₂ (Altered name key value) host.dump later.dump) ∧
    (∀ error, setSetting caller host name key value = .error error →
      host.Refuses caller name key value error ∧
        (host.written ⟨caller, name, key, value⟩).dump = host.dump) := by
  refine ⟨fun later => setSetting_ok_iff, fun later taken => ?_, fun error refused => ?_⟩
  · obtain ⟨component, -, rfl, adjusts⟩ := setSetting_ok_iff.mp taken
    exact ⟨written_of_ok taken, adjusts.dump_altered⟩
  · exact ⟨setSetting_refused refused, by rw [written_of_error refused]⟩

end Host

end Interception
