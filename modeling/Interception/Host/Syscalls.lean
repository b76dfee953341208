import Interception.Host.Hooks

/-!
Host calls. Each slot on the way is looked at when it is needed: a hook's
address there leads to the hook, any other address to the native function.
A hook's address without an attached target answers that there is no such
process.
-/

namespace Interception.Host

/-- Goes by what a slot holds. -/
def dispatch {Value : Type} (slot : Slot) (hooked : Syscall Host Value)
    (plain : Addr → Kernel → Except Errno Value × Kernel) : Syscall Host Value := do
  let host ← get
  let target := host.kernel.load slot
  if target = slot.hook.addr then
    if host.kernel.attached then hooked else throw Errno.ESRCH
  else native (plain target)

def dispatchLookup (dir : Inode) (name : String) : Syscall Host (Option Inode) :=
  dispatch (dir.iOp.slot .lookup) (hookLookup dir name)
    fun target kernel => kernel.nativeLookup target dir name

/-- A directory that opens atomically never sees a plain creation. -/
def dispatchCreate (dir : Inode) (name : String) : Syscall Host Inode := do
  if (← get).kernel.load (dir.iOp.slot .atomicOpen) = Addr.null then
    dispatch (dir.iOp.slot .create) (hookCreate dir name)
      fun target kernel => kernel.nativeCreate target dir name
  else
    dispatch (dir.iOp.slot .atomicOpen) (hookAtomicOpen dir name)
      fun target kernel => kernel.nativeAtomicOpen target dir name

def dispatchRevalidate (dentry : Dentry) : Syscall Host Bool :=
  dispatch (dentry.dOp.slot .revalidate) (hookRevalidate dentry)
    fun target kernel => kernel.nativeRevalidate target

def resolve (path : String) : Syscall Host (MountPoint × String) := do
  match Mounts.resolve path (← get).kernel.mounts with
  | .ok found => return found
  | .error .noMount => throw Errno.ENOENT
  | .error .badCut => throw Errno.EINVAL

/-- Revalidates a name the mount has in its cache. The answer is not used. -/
def revalidateCached (mount : MountPoint) (path rest : String) : Syscall Host Unit := do
  match mount.dOp, (← get).kernel.cached mount.path rest with
  | some dOp, some inode => discard <| dispatchRevalidate ⟨path, some inode, dOp⟩
  | _, _ => return ()

/-- The inode a path leads to, created if the flags ask for it. -/
def walkTo (mount : MountPoint) (path rest : String) (flags : UInt32) :
    Syscall Host Inode := do
  if rest = "" then return mount.root
  else
    revalidateCached mount path rest
    match ← dispatchLookup mount.root rest with
    | some inode => return inode
    | none =>
        if createFlag flags then dispatchCreate mount.root rest
        else throw Errno.ENOENT

def openFile (caller : Caller) (task : Personality) (path : String) (flags : UInt32) :
    Syscall Host OpenFile := do
  let (mount, rest) ← resolve path
  let inode ← walkTo mount path rest flags
  let file : OpenFile := ⟨some path, flags, inode⟩
  dispatch (inode.fOp.slot .openFile) (hookOpen caller task inode file)
    fun target kernel => kernel.nativeOpen target
  return file

def closeFile (caller : Caller) (task : Personality) (file : OpenFile) : Syscall Host Unit :=
  dispatch (file.inode.fOp.slot .release) (hookRelease caller task file.inode file)
    fun target kernel => kernel.nativeRelease target

def setMounts (mounts : List Mount) : Call Host Unit :=
  modify fun host => { host with kernel.mounts := mounts }

/-- Changes the flags of the latest mount on a directory. -/
def remountPoint (dir : String) (flags : UInt64) : Syscall Host MountPoint := do
  let mounts := (← get).kernel.mounts
  match Mounts.at? dir mounts with
  | none => throw Errno.EINVAL
  | some mount =>
      setMounts (Mounts.changeLatest (·.point.path == dir)
        (fun mount => { mount with point.flags := flags }) mounts)
      return { mount.point with flags }

/-- Shows the root of the source's mount at another directory, without its
files. -/
def bindPoint (device dir : String) (flags : UInt64) : Syscall Host MountPoint := do
  let (source, _) ← resolve device
  let point : MountPoint := { source with device, path := dir, flags }
  setMounts ((← get).kernel.mounts ++ [⟨point, []⟩])
  return point

def newPoint (device dir fsType : String) (flags : UInt64) : Syscall Host MountPoint := do
  if (← get).kernel.mounts.any (·.point.path == dir) then throw Errno.EBUSY
  let point ← native fun kernel =>
    match kernel.premount device dir fsType with
    | .ok (point, later) => (.ok point, later)
    | .error errno => (.error errno, kernel)
  return { point with flags }

def mount (caller : Caller) (task : Personality) (device dir fsType : String) (flags : UInt64) :
    Syscall Host Unit := do
  let attached := (← get).kernel.attached
  if attached then hookPreMount caller task device dir fsType flags
  let point ←
    if MountFlags.has flags MountFlags.remount then remountPoint dir flags
    else if MountFlags.has flags MountFlags.bind then bindPoint device dir flags
    else newPoint device dir fsType flags
  if attached then hookPostMount point flags

def umount (caller : Caller) (task : Personality) (dir : String) : Syscall Host Unit := do
  let attached := (← get).kernel.attached
  let context ← if attached then hookPreUmount caller task dir else pure none
  let mounts := (← get).kernel.mounts
  let removed := (Mounts.at? dir mounts).isSome
  setMounts (Mounts.removeLatest (·.point.path == dir) mounts)
  match context with
  | some context => hookPostUmount removed context
  | none => pure ()
  if removed then return () else throw Errno.EINVAL

end Interception.Host
