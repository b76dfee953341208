import Interception.Config.Basic
import Interception.Host.Settings
import Interception.Host.Syscalls

/-!
The assembled service: the chain of action log, degraded mode and vetting,
the hook interceptor over a kernel, and their settings, all from one
configuration. Setting up hooks every filesystem already mounted; shutting
down releases everybody who waits and takes all hooks out again.
-/

namespace Interception.Host

/-- A host without any configuration, over a kernel. -/
def bare (kernel : Kernel) : Host where
  kernel := kernel
  table := Patch.Table.empty
  hook := ⟨false, OperationSet.empty, .empty, .empty, .empty, .empty, false⟩
  active := 0
  chain := []
  policy := .deny
  log := ActionLog.ofEnabled false
  degraded := Degraded.ofSettings false 1 .allow 0
  vetting := Vetting.Controller.ofRules false
    ⟨0, 0, false, false, OperationSet.empty, ⟨[], 0, false⟩, .next⟩
  scripted := []
  components := []
  tokens := []
  hookCalls := []
  verdicts := []
  rejected := []
  clock := 0
  trail := []

def degradedOf (config : DegradedConfig) : Degraded :=
  Degraded.ofSettings config.enabled config.threshold config.fallback config.probeInterval

def hookOf (config : HookConfig) : Except ConfigError HookSettings :=
  (Config.opsOf config.ops).map fun ops =>
    { enabled := config.enabled, ops, good := NameSet.ofSeed config.goodList,
      skip := NameSet.ofSeed config.skipList, noScan := NameSet.ofSeed config.noScan,
      hookDentries := NameSet.ofSeed config.hookDentries, noScanOnLoad := config.noScanOnLoad }

def walkMounts : List MountPoint → Call Host Unit
  | [] => return ()
  | mount :: rest => do
      discard <| processMount mount false
      walkMounts rest

/-- Hooks the types of the mounts that are there and attaches to the kernel. -/
def attach (host : Host) : Host :=
  let walked := ((walkMounts (host.kernel.mounts.map (·.point))).start host).state
  { walked with kernel.attached := true }

def serviceChain : List FilterRef := [.actionLog, .degraded, .vetting]

/-- The service of a valid configuration, attached to its kernel. -/
def ofConfig (config : Config) (kernel : Kernel) : Except ConfigError Host := do
  config.validate
  let vetting ← Config.controller config.vetting
  let hook ← hookOf config.hook
  return attach { bare kernel with
    hook, vetting, chain := serviceChain, policy := config.policy.onError
    log := ActionLog.ofEnabled config.policy.actionLog
    degraded := degradedOf config.degraded
    components := Component.all }

/-- Waits until no call is inside a hook, as long as it is allowed to. -/
def waitIdle (wait : Nat) : Call Host Bool := do
  if (← get).active = 0 then return true
  else
    discard <| Call.sleep .idle (some ((← get).clock + wait))
    return (← get).active == 0

def disableHooks : Call Host Unit :=
  modify fun host => { host with hook := host.hook.disable }

/-- Stops examining, takes all hooks out and waits for hook calls to end. -/
def hookShutdown (wait : Nat) : Call Host (Except Patch.PatchError Nat) := do
  disableHooks
  match ← purge with
  | .error error => return .error error
  | .ok purged =>
      discard <| waitIdle wait
      return .ok purged

/-- How long a shutdown waits for calls inside hooks. -/
def shutdownGrace : Nat := 30000

def restoreFailure : String := "Failed to restore patched filesystems"

def shutdown : Call Host (Except Patch.PatchError Nat) := do
  modifyVetting (·.shutdown)
  hookShutdown shutdownGrace

end Interception.Host
