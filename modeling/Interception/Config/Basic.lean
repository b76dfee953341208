import Interception.Filter.Chain
import Interception.Filter.Degraded
import Interception.Retry
import Interception.Vetting.Controller
import Interception.Wire.Codec

/-!
The configuration of the service, its defaults, and what makes one valid.
The first fault in a fixed order is reported.
-/

namespace Interception

structure HookConfig where
  enabled : Bool
  ops : List String
  goodList : List String
  skipList : List String
  noScan : List String
  hookDentries : List String
  noScanOnLoad : Bool
  deriving DecidableEq, Repr

structure VettingConfig where
  enabled : Bool
  timeout : Nat
  fsTimeout : Nat
  timeoutDeny : Bool
  interruptible : Bool
  ops : List String
  routing : List String
  defaultGroup : Nat
  unroutedAllow : Bool
  noClient : NoClient
  deriving DecidableEq, Repr

structure DegradedConfig where
  enabled : Bool
  threshold : Nat
  fallback : Fallback
  probeInterval : Nat
  deriving DecidableEq, Repr

structure PolicyConfig where
  onError : ErrorPolicy
  actionLog : Bool
  deriving DecidableEq, Repr

structure TransportConfig where
  socketPath : String
  maxPacketSize : Nat
  reconnect : RetryPolicy
  deriving DecidableEq, Repr

structure Config where
  hook : HookConfig
  vetting : VettingConfig
  degraded : DegradedConfig
  policy : PolicyConfig
  transport : TransportConfig
  deriving DecidableEq, Repr

inductive ConfigError
  | unknownOperation (name : String)
  | zeroTimeout
  | groupRange (group : Nat)
  | badRule (cause : Vetting.RuleError)
  | zeroThreshold
  | packetSize (size : Nat)
  | noAttempts
  /-- The file could not be read as a document. -/
  | unreadable
  /-- A value does not fit its key. -/
  | unfit
  deriving DecidableEq, Repr

def ConfigError.message : ConfigError → String
  | unknownOperation name => "Invalid operation: " ++ name
  | zeroTimeout => "Vetting timeouts must be greater than 0"
  | groupRange group => "Default group " ++ toString group ++ " out of range (0.." ++
      toString Vetting.groupCount ++ ")"
  | badRule cause => cause.message
  | zeroThreshold => "Degraded mode threshold must be greater than 0"
  | packetSize size => "Packet size " ++ toString size ++ " outside " ++
      toString Wire.smallestLimit ++ "..=" ++ toString Wire.largestLimit
  | noAttempts => "Reconnect attempts must be greater than 0"
  | unreadable => "Failed to read configuration"
  | unfit => "Invalid configuration"

namespace Config

def hookedOps : List String := ["open", "close", "mount", "umount"]

def standardHook : HookConfig where
  enabled := true
  ops := hookedOps
  goodList := ["ext2", "ext3", "ext4", "jfs", "xfs", "reiserfs", "tmpfs", "minix", "cifs", "nfs",
    "nfs4", "fuse", "fuseblk", "iso9660", "udf", "msdos", "vfat", "ncpfs", "ramfs", "aufs"]
  skipList := ["rootfs!", "proc", "usbfs", "devpts", "devfs", "subfs!", "nfsd", "sysfs",
    "debugfs", "securityfs", "fusectl", "rpc_pipefs", "selinuxfs", "configfs", "efivarfs",
    "nssadmin!", "nsspool!", "autofs!", "inotifyfs", "romfs", "binfmt_misc", "mqueue!", "cgroup",
    "cgroup2"]
  noScan := ["fuse!", "fuseblk!", "ecryptfs!", "ezncryptfs!"]
  hookDentries := ["nfs", "nfs4"]
  noScanOnLoad := false

def standardVetting : VettingConfig where
  enabled := true
  timeout := 5000
  fsTimeout := 30000
  timeoutDeny := false
  interruptible := true
  ops := hookedOps
  routing := []
  defaultGroup := 0
  unroutedAllow := false
  noClient := .next

def standard : Config where
  hook := standardHook
  vetting := standardVetting
  degraded := ⟨true, 3, .allow, 5000⟩
  policy := ⟨.deny, true⟩
  transport := ⟨"/run/vfsguard/vetting.sock", Wire.largestLimit, RetryPolicy.standard⟩

def opsOf (names : List String) : Except ConfigError OperationSet :=
  match OperationSet.ofNames names with
  | .ok ops => .ok ops
  | .error name => .error (.unknownOperation name)

def rulesOf (routing : List String) : Except ConfigError (List Vetting.RoutingRule) :=
  match routing.mapM Vetting.RoutingRule.parse with
  | .ok rules => .ok rules
  | .error cause => .error (.badRule cause)

def require (condition : Bool) (error : ConfigError) : Except ConfigError Unit :=
  if condition then .ok () else .error error

def validate (config : Config) : Except ConfigError Unit := do
  discard <| opsOf config.hook.ops
  discard <| opsOf config.vetting.ops
  require (config.vetting.timeout != 0 && config.vetting.fsTimeout != 0) .zeroTimeout
  require (config.vetting.defaultGroup < Vetting.groupCount)
    (.groupRange config.vetting.defaultGroup)
  discard <| rulesOf config.vetting.routing
  require (config.degraded.threshold != 0) .zeroThreshold
  let size := config.transport.maxPacketSize
  require (Wire.smallestLimit ≤ size && size ≤ Wire.largestLimit) (.packetSize size)
  require (config.transport.reconnect.maxAttempts != 0) .noAttempts

/-- The vetting controller of a configuration, valid or not. Its group is
judged first, then its rules, then its operations. -/
def controller (config : VettingConfig) : Except ConfigError Vetting.Controller := do
  require (config.defaultGroup < Vetting.groupCount) (.groupRange config.defaultGroup)
  let rules ← rulesOf config.routing
  let ops ← opsOf config.ops
  return Vetting.Controller.ofRules config.enabled
    { timeout := config.timeout, fsTimeout := config.fsTimeout,
      timeoutDeny := config.timeoutDeny, interruptible := config.interruptible, ops,
      routing := ⟨rules, config.defaultGroup, config.unroutedAllow⟩,
      noClient := config.noClient }

end Config

end Interception
