import Interception.Errno
import Interception.Kernel.Mounts

/-!
The kernel under the hooks: filesystem drivers with their operation tables,
the mount list, and the native functions behind the slots. A call through an
address that is no native function of the right kind fails and does nothing.
-/

namespace Interception

structure Driver where
  name : String
  fileOps : FileTable
  dirOps : FileTable
  inodeOps : InodeTable
  dentryOps : Option DentryTable
  deriving DecidableEq, Repr

structure NativeCalls where
  openFile : Nat
  release : Nat
  lookup : Nat
  create : Nat
  atomicOpen : Nat
  revalidate : Nat
  deriving DecidableEq, Repr

def NativeCalls.toList (calls : NativeCalls) : List Nat :=
  [calls.openFile, calls.release, calls.lookup, calls.create, calls.atomicOpen, calls.revalidate]

structure Kernel where
  drivers : List Driver
  natives : List (Addr × Hook)
  mounts : List Mount
  memory : Memory
  /-- Whether a hook target is attached. -/
  attached : Bool
  nextAddr : Addr
  nextTable : Nat
  nextIno : Nat
  nextDev : Nat
  calls : NativeCalls

namespace Kernel

def empty : Kernel where
  drivers := []
  natives := []
  mounts := []
  memory := Memory.blank
  attached := false
  nextAddr := 0xffffffff81000000
  nextTable := 1
  nextIno := 2
  nextDev := 0x801
  calls := ⟨0, 0, 0, 0, 0, 0⟩

/-! ### Drivers -/

def driver? (kernel : Kernel) (name : String) : Option Driver :=
  kernel.drivers.find? (·.name == name)

/-- A driver of the same name is replaced. -/
def addDriver (kernel : Kernel) (driver : Driver) : Kernel :=
  { kernel with drivers := driver :: kernel.drivers }

def isNative (kernel : Kernel) (addr : Addr) : Bool :=
  (kernel.natives.lookup addr).isSome

/-- Puts a new native function into a slot. -/
def fill (kernel : Kernel) (slot : Slot) : Kernel :=
  { kernel with
    natives := (kernel.nextAddr, slot.hook) :: kernel.natives
    memory := kernel.memory.write slot kernel.nextAddr
    nextAddr := kernel.nextAddr + 0x40 }

/-- Registers a driver with tables of its own. The slots are filled in a
fixed order, `atomic_open` first when the driver has it. -/
def register (kernel : Kernel) (name : String) (atomicOpen revalidate : Bool) :
    Driver × Kernel :=
  let file : FileTable := ⟨kernel.nextTable, name ++ "_file_operations"⟩
  let dir : FileTable := ⟨kernel.nextTable + 1, name ++ "_dir_operations"⟩
  let inode : InodeTable := ⟨kernel.nextTable + 2, name ++ "_dir_inode_operations"⟩
  let dentry : DentryTable := ⟨kernel.nextTable + 3, name ++ "_dentry_operations"⟩
  let driver : Driver := ⟨name, file, dir, inode, if revalidate then some dentry else none⟩
  let slots :=
    (if atomicOpen then [inode.slot .atomicOpen] else []) ++
    [file.slot .openFile, file.slot .release, dir.slot .openFile, dir.slot .release,
      inode.slot .lookup, inode.slot .create] ++
    (if revalidate then [dentry.slot .revalidate] else [])
  let filled := slots.foldl fill { kernel with nextTable := kernel.nextTable + 4 }
  (driver, filled.addDriver driver)

/-- Registers a driver that uses all tables of another one. -/
def registerSharing (kernel : Kernel) (name base : String) : Option (Driver × Kernel) :=
  (kernel.driver? base).map fun owner =>
    ({ owner with name }, kernel.addDriver { owner with name })

def registerAll (kernel : Kernel) (names : List String) : Kernel :=
  names.foldl (fun kernel name => (kernel.register name false false).2) kernel

/-- A kernel with the usual local filesystems, and a network one whose
directories open atomically and whose names are revalidated. -/
def standard : Kernel :=
  let locals := empty.registerAll ["ext4", "xfs", "vfat", "tmpfs", "proc", "sysfs", "fuse"]
  (locals.register "nfs" true true).2

/-! ### Files and mounts without any hook -/

def newInode (kernel : Kernel) (driver : Driver) (dev : Nat) (regular : Bool) :
    Inode × Kernel :=
  (⟨kernel.nextIno, dev, regular, driver.name, driver.inodeOps,
      if regular then driver.fileOps else driver.dirOps⟩,
    { kernel with nextIno := kernel.nextIno + 1 })

def placeOn (kernel : Kernel) (test : Mount → Bool) (name : String) (inode : Inode) : Kernel :=
  { kernel with mounts := Mounts.changeLatest test (·.placeFile name inode) kernel.mounts }

/-- Places a file on the latest mount of a directory. -/
def addFile (kernel : Kernel) (dir name : String) : Except Errno (Inode × Kernel) :=
  match Mounts.at? dir kernel.mounts with
  | none => .error Errno.ENOENT
  | some mount =>
      match kernel.driver? mount.point.fsType with
      | none => .error Errno.ENODEV
      | some driver =>
          let (inode, later) := kernel.newInode driver mount.point.root.dev true
          .ok (inode, later.placeOn (·.point.path == dir) name inode)

def setPropagation (kernel : Kernel) (dir : String) (count : Nat) : Kernel :=
  let widen (mount : Mount) : Mount := { mount with point.propagation := UInt32.ofNat (max count 1) }
  { kernel with mounts := Mounts.changeLatest (·.point.path == dir) widen kernel.mounts }

def premount (kernel : Kernel) (device dir fsType : String) :
    Except Errno (MountPoint × Kernel) :=
  match kernel.driver? fsType with
  | none => .error Errno.ENODEV
  | some driver =>
      let (root, later) := { kernel with nextDev := kernel.nextDev + 1 }.newInode driver
        kernel.nextDev false
      let point : MountPoint := ⟨device, dir, fsType, 0, root, driver.dentryOps, 1⟩
      .ok (point, { later with mounts := later.mounts ++ [⟨point, []⟩] })

def mountAt? (kernel : Kernel) (dir : String) : Option MountPoint :=
  (Mounts.at? dir kernel.mounts).map (·.point)

/-- Any regular file of the latest mount on a mount's directory. -/
def findRegular (kernel : Kernel) (point : MountPoint) : Option Inode :=
  (Mounts.at? point.path kernel.mounts).bind Mount.regular?

def cached (kernel : Kernel) (dir name : String) : Option Inode :=
  (Mounts.at? dir kernel.mounts).bind (·.file? name)

/-! ### Native functions -/

/-- The right of an address to be called as a function of some kind. -/
def callable (kernel : Kernel) (target : Addr) (kind : Hook) : Bool :=
  kernel.natives.lookup target == some kind

def nativeOpen (kernel : Kernel) (target : Addr) : Except Errno Unit × Kernel :=
  if kernel.callable target .openFile then
    (.ok (), { kernel with calls.openFile := kernel.calls.openFile + 1 })
  else (.error Errno.EINVAL, kernel)

def nativeRelease (kernel : Kernel) (target : Addr) : Except Errno Unit × Kernel :=
  if kernel.callable target .release then
    (.ok (), { kernel with calls.release := kernel.calls.release + 1 })
  else (.error Errno.EINVAL, kernel)

def rootedAt (dir : Inode) (mount : Mount) : Bool :=
  mount.point.root.ino == dir.ino

def nativeLookup (kernel : Kernel) (target : Addr) (dir : Inode) (name : String) :
    Except Errno (Option Inode) × Kernel :=
  if kernel.callable target .lookup then
    (.ok ((Mounts.latest (rootedAt dir) kernel.mounts).bind (·.file? name)),
      { kernel with calls.lookup := kernel.calls.lookup + 1 })
  else (.error Errno.EINVAL, kernel)

/-- An existing file of the name is kept. -/
def createIn (kernel : Kernel) (dir : Inode) (name : String) : Except Errno Inode × Kernel :=
  match kernel.driver? dir.fsType with
  | none => (.error Errno.ENODEV, kernel)
  | some driver =>
      match Mounts.latest (rootedAt dir) kernel.mounts with
      | none => (.error Errno.ENOENT, kernel)
      | some mount =>
          match mount.file? name with
          | some inode => (.ok inode, kernel)
          | none =>
              let (inode, later) := kernel.newInode driver dir.dev true
              (.ok inode, later.placeOn (rootedAt dir) name inode)

def nativeCreate (kernel : Kernel) (target : Addr) (dir : Inode) (name : String) :
    Except Errno Inode × Kernel :=
  if kernel.callable target .create then
    { kernel with calls.create := kernel.calls.create + 1 }.createIn dir name
  else (.error Errno.EINVAL, kernel)

def nativeAtomicOpen (kernel : Kernel) (target : Addr) (dir : Inode) (name : String) :
    Except Errno Inode × Kernel :=
  if kernel.callable target .atomicOpen then
    { kernel with calls.atomicOpen := kernel.calls.atomicOpen + 1 }.createIn dir name
  else (.error Errno.EINVAL, kernel)

def nativeRevalidate (kernel : Kernel) (target : Addr) : Except Errno Bool × Kernel :=
  if kernel.callable target .revalidate then
    (.ok true, { kernel with calls.revalidate := kernel.calls.revalidate + 1 })
  else (.error Errno.EINVAL, kernel)

def load (kernel : Kernel) (slot : Slot) : Addr :=
  kernel.memory.content slot

end Kernel

end Interception
