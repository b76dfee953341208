import Interception.Event
import Interception.Kernel.Slot
import Interception.Text.Blank

/-!
Inodes and mounts. A path belongs to the innermost mount above it, and of
several mounts on one directory to the latest. The rest of the path below
the mount point names a file; there are no directories in between.
-/

namespace Interception

structure Inode where
  ino : Nat
  dev : Nat
  regular : Bool
  fsType : String
  iOp : InodeTable
  fOp : FileTable
  deriving DecidableEq, Repr

structure MountPoint where
  device : String
  path : String
  fsType : String
  flags : UInt64
  root : Inode
  dOp : Option DentryTable
  propagation : UInt32
  deriving DecidableEq, Repr

/-- The uses that a mount stands for: one for every place it has spread to. -/
def MountPoint.uses (point : MountPoint) : Nat := max point.propagation.toNat 1

structure Mount where
  point : MountPoint
  files : List (String × Inode)
  deriving DecidableEq, Repr

structure OpenFile where
  path : Option String
  flags : UInt32
  inode : Inode
  deriving DecidableEq, Repr

structure Dentry where
  path : String
  inode : Option Inode
  dOp : DentryTable
  deriving DecidableEq, Repr

namespace MountFlags

def remount : UInt64 := 32
def bind : UInt64 := 4096
def move : UInt64 := 8192
def recursive : UInt64 := 16384
def silent : UInt64 := 32768
def unbindable : UInt64 := 131072
def privateTree : UInt64 := 262144
def slave : UInt64 := 524288
def shared : UInt64 := 1048576

def has (flags some : UInt64) : Bool := flags &&& some != 0

/-- Mounts of these kinds are never examined. -/
def ignored : UInt64 := bind ||| move

def propagation : UInt64 := shared ||| privateTree ||| slave ||| unbindable

/-- Whether the flags ask for nothing but another propagation. -/
def onlyPropagation (flags : UInt64) : Bool :=
  has flags propagation && flags &&& ~~~(propagation ||| recursive ||| silent) == 0

end MountFlags

/-! ### Files of a mount -/

namespace Mount

def file? (mount : Mount) (name : String) : Option Inode :=
  mount.files.lookup name

def placeFile (mount : Mount) (name : String) (inode : Inode) : Mount :=
  { mount with files := (name, inode) :: mount.files.filter (·.1 != name) }

/-- The regular file with the least name. -/
def leastRegular : List (String × Inode) → Option (String × Inode)
  | [] => none
  | file :: rest =>
      match leastRegular rest with
      | none => if file.2.regular then some file else none
      | some best => if file.2.regular ∧ file.1 < best.1 then some file else some best

def regular? (mount : Mount) : Option Inode :=
  (leastRegular mount.files).map (·.2)

/-- Whether the mount point is the path or a directory above it. -/
def holds (mount : Mount) (path : String) : Bool :=
  path == mount.point.path ||
    (Text.afterLead (Text.dropEndWhile (· == '/') mount.point.path.toList ++ ['/'])
      path.toList).isSome

end Mount

/-! ### The mount list, in mount order -/

namespace Mounts

/-- The latest mount that satisfies a test. -/
def latest (test : Mount → Bool) (mounts : List Mount) : Option Mount :=
  mounts.reverse.find? test

def at? (path : String) (mounts : List Mount) : Option Mount :=
  latest (·.point.path == path) mounts

/-- Changes the first mount that satisfies a test. -/
def changeFirst (test : Mount → Bool) (change : Mount → Mount) : List Mount → List Mount
  | [] => []
  | mount :: rest =>
      if test mount then change mount :: rest else mount :: changeFirst test change rest

def changeLatest (test : Mount → Bool) (change : Mount → Mount) (mounts : List Mount) :
    List Mount :=
  (changeFirst test change mounts.reverse).reverse

def removeFirst (test : Mount → Bool) : List Mount → List Mount
  | [] => []
  | mount :: rest => if test mount then rest else mount :: removeFirst test rest

def removeLatest (test : Mount → Bool) (mounts : List Mount) : List Mount :=
  (removeFirst test mounts.reverse).reverse

/-- The mount with the longest mount point, the latest among equals. -/
def longest : List Mount → Option Mount
  | [] => none
  | mount :: rest =>
      match longest rest with
      | none => some mount
      | some best =>
          if best.point.path.utf8ByteSize < mount.point.path.utf8ByteSize then some mount
          else some best

/-- The text after so many bytes, if they end between two characters. -/
def dropBytes : Nat → List Char → Option (List Char)
  | 0, text => some text
  | _ + 1, [] => none
  | count + 1, c :: rest =>
      if c.utf8Size ≤ count + 1 then dropBytes (count + 1 - c.utf8Size) rest else none

inductive ResolveError
  | noMount
  /-- The mount point does not end at a character of the path. -/
  | badCut
  deriving DecidableEq, Repr

/-- The mount a path belongs to and the rest of the path below it. -/
def resolve (path : String) (mounts : List Mount) :
    Except ResolveError (MountPoint × String) :=
  match longest (mounts.filter (·.holds path)) with
  | none => .error .noMount
  | some mount =>
      match dropBytes mount.point.path.utf8ByteSize path.toList with
      | none => .error .badCut
      | some rest => .ok (mount.point, String.ofList (rest.dropWhile (· == '/')))

end Mounts

end Interception
