import Interception.Operation

/-!
Events: who does what to which file or filesystem. A file event knows its
path unless the file was deleted meanwhile; a filesystem event is about its
mount point.
-/

namespace Interception

structure Personality where
  pid : Int32
  tid : Int32
  uid : UInt32
  euid : UInt32
  gid : UInt32
  egid : UInt32
  comm : String
  deriving DecidableEq, Repr

structure FileInfo where
  operation : Operation
  path : Option String
  flags : UInt32
  writable : Bool
  device : UInt64
  inode : UInt64
  fsType : String
  deriving DecidableEq, Repr

structure FilesystemInfo where
  operation : Operation
  deviceName : String
  mountPoint : String
  fsType : String
  flags : UInt64
  propagation : Nat
  deriving DecidableEq, Repr

inductive Event
  | file (info : FileInfo)
  | filesystem (info : FilesystemInfo)
  deriving DecidableEq, Repr

namespace Event

def operation : Event → Operation
  | file info => info.operation
  | filesystem info => info.operation

def fsType : Event → String
  | file info => info.fsType
  | filesystem info => info.fsType

/-- The file's path, or the mount point. -/
def subject : Event → Option String
  | file info => info.path
  | filesystem info => some info.mountPoint

end Event

/-- Open flags whose access mode, the two lowest bits, is write-only or
read-write. -/
def writableFlags (flags : UInt32) : Bool :=
  flags &&& 3 == 1 || flags &&& 3 == 2

/-- The flag that asks `open` to create a missing file. -/
def createFlag (flags : UInt32) : Bool :=
  flags &&& 0o100 != 0

end Interception
