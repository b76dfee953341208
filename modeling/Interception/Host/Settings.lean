import Interception.Host.Hooks

/-!
Settings of the attached components. Keys are read and written through the
component's own list; a key outside the list is unknown, a locked one cannot
be written.
-/

namespace Interception

namespace Component

def name : Component → String
  | hook => "VFSHookInterceptor"
  | vetting => Vetting.Controller.name
  | degraded => Degraded.name
  | actionLog => ActionLog.name

def all : List Component := [hook, vetting, degraded, actionLog]

def ofName? (name : String) : Option Component :=
  all.find? (·.name == name)

end Component

namespace HookSettings

def enable (settings : HookSettings) : HookSettings := { settings with enabled := true }

def disable (settings : HookSettings) : HookSettings := { settings with enabled := false }

/-- The updates of the hook interceptor's keys, apart from its patch list. -/
def update (settings : HookSettings) (value : String) :
    String → Option (Except Refusal HookSettings)
  | "status" => some <|
      match Switch.parse? value with
      | some true => .ok settings.enable
      | some false => .ok settings.disable
      | none => .error .notSwitch
  | "ops" => some ((settings.ops.apply value).map fun ops => { settings with ops })
  | "fs-good" => some ((settings.good.apply value).map fun good => { settings with good })
  | "fs-ignore" => some ((settings.skip.apply value).map fun skip => { settings with skip })
  | "no-scan" => some ((settings.noScan.apply value).map fun noScan => { settings with noScan })
  | _ => none

def set (settings : HookSettings) (key value : String) : Except SettingError HookSettings :=
  if key = "fs-list" then .error (.readOnly key)
  else
    match settings.update value key with
    | some (.ok changed) => .ok changed
    | some (.error reason) => .error (.invalidValue key value reason)
    | none => .error (.unknownKey Component.hook.name key)

def list (settings : HookSettings) (patches : String) : List Setting := [
  .free "status" (Switch.render settings.enabled),
  .free "ops" settings.ops.render,
  .free "fs-good" settings.good.render,
  .free "fs-ignore" settings.skip.render,
  .free "no-scan" settings.noScan.render,
  .lockedAt "fs-list" patches]

end HookSettings

namespace Host

def settingsOf (host : Host) : Component → List Setting
  | .hook => host.hook.list host.table.render
  | .vetting => host.vetting.settings
  | .degraded => host.degraded.settings
  | .actionLog => host.log.settings

/-- Writes a key of a component, whether attached or not. -/
def setDirect (caller : Caller) (host : Host) (component : Component) (key value : String) :
    Except SettingError Host :=
  match component with
  | .hook => (host.hook.set key value).map fun hook => { host with hook }
  | .vetting => (host.vetting.set key value).map fun vetting => { host with vetting }
  | .degraded => (host.degraded.set host.clock key value).map fun (degraded, records) =>
      { host with degraded }.note caller records
  | .actionLog => (host.log.set key value).map fun log => { host with log }

def findComponent (host : Host) (name : String) : Except SettingError Component :=
  match host.components.find? (·.name == name) with
  | some component => .ok component
  | none => .error (.unknownComponent name)

def getSetting (host : Host) (name key : String) : Except SettingError String := do
  let component ← host.findComponent name
  match Setting.find? (host.settingsOf component) key with
  | some setting => return setting.value
  | none => throw (.unknownKey name key)

def setSetting (caller : Caller) (host : Host) (name key value : String) :
    Except SettingError Host := do
  let component ← host.findComponent name
  match Setting.find? (host.settingsOf component) key with
  | none => throw (.unknownKey name key)
  | some setting =>
      if setting.locked then throw (.readOnly key)
      else setDirect caller host component key value

def dump (host : Host) : List (String × Setting) :=
  host.components.flatMap fun component =>
    (host.settingsOf component).map fun setting => (component.name, setting)

def attachComponent (host : Host) (component : Component) : Except SettingError Host :=
  if component ∈ host.components then .error (.alreadyAttached component.name)
  else .ok { host with components := host.components ++ [component] }

def detachComponent (host : Host) (name : String) : Bool × Host :=
  let kept := host.components.filter (·.name != name)
  (kept.length != host.components.length, { host with components := kept })

end Host

end Interception
