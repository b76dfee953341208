import Interception.Kernel.Natives

/-!
Scenarios: the filesystems that are mounted from the start, and the steps
that tasks then take one after another.
-/

namespace Interception

structure FilesystemSpec where
  device : String
  dir : String
  fsType : String
  files : List String
  deriving DecidableEq, Repr

inductive Step
  | openFile (task : Personality) (path : String) (flags : UInt32)
  | closeFile (task : Personality) (path : String)
  | mount (task : Personality) (device dir fsType : String) (flags : UInt64)
  | umount (task : Personality) (dir : String)
  | addFile (mount name : String)
  | propagation (mount : String) (count : Nat)
  | set (component key value : String)
  | sleep (time : Nat)
  deriving DecidableEq, Repr

structure Scenario where
  filesystems : List FilesystemSpec
  steps : List Step
  deriving DecidableEq, Repr

namespace Step

def name : Step → String
  | openFile .. => "open"
  | closeFile .. => "close"
  | mount .. => "mount"
  | umount .. => "umount"
  | addFile .. => "add_file"
  | propagation .. => "propagation"
  | set .. => "set"
  | sleep .. => "sleep"

/-- What the step is about. -/
def target : Step → String
  | openFile _ path _ => path
  | closeFile _ path => path
  | mount _ _ dir fsType _ => dir ++ " (" ++ fsType ++ ")"
  | umount _ dir => dir
  | addFile dir file => dir ++ ":" ++ file
  | propagation dir count => dir ++ "=" ++ toString count
  | set component key value => component ++ "/" ++ key ++ "=" ++ value
  | sleep time => toString time ++ "ms"

/-- Flags of an open that creates what it does not find. -/
def creating : UInt32 := 0o101

end Step

/-- Why a scenario's filesystems cannot be set up. -/
inductive SetupError
  | mount (fsType dir : String) (cause : Errno)
  | addFile (file dir : String) (cause : Errno)
  deriving DecidableEq, Repr

def SetupError.message : SetupError → String
  | mount fsType dir cause => "Failed to mount " ++ fsType ++ " on " ++ dir ++ ": " ++ cause.render
  | addFile file dir cause => "Failed to add " ++ file ++ " to " ++ dir ++ ": " ++ cause.render

namespace Scenario

def addFiles (dir : String) (kernel : Kernel) : List String → Except SetupError Kernel
  | [] => .ok kernel
  | file :: rest =>
      match kernel.addFile dir file with
      | .ok (_, later) => addFiles dir later rest
      | .error cause => .error (.addFile file dir cause)

def mountAll (kernel : Kernel) : List FilesystemSpec → Except SetupError Kernel
  | [] => .ok kernel
  | spec :: rest =>
      match kernel.premount spec.device spec.dir spec.fsType with
      | .error cause => .error (.mount spec.fsType spec.dir cause)
      | .ok (_, mounted) =>
          match addFiles spec.dir mounted spec.files with
          | .ok filled => mountAll filled rest
          | .error error => .error error

/-- The kernel as a scenario finds it. -/
def kernel (scenario : Scenario) : Except SetupError Kernel :=
  mountAll Kernel.standard scenario.filesystems

end Scenario

end Interception
