import Interception.Host.Examine

/-!
The hooks. A hook call finds the entry whose tables led to it, keeps the
entry in use while it runs, examines the event where there is one and calls
the saved address. Hooks stay in place while the interceptor is disabled
and then only pass calls through.
-/

namespace Interception.Host

/-- Counts a hook call and keeps the gate open while it runs. -/
def gated {Value : Type} (label : String) (body : Syscall Host Value) :
    Syscall Host Value := do
  modify fun host =>
    { host with hookCalls := host.hookCalls.bump [label], active := host.active + 1 }
  let result ← (ExceptT.lift body.run : Syscall Host (Except Errno Value))
  modify fun host => { host with active := host.active - 1 }
  match result with
  | .ok value => return value
  | .error errno => throw errno

/-- Keeps an entry in use while a call runs. -/
def holding {Value : Type} (entry : Option Nat) (body : Syscall Host Value) :
    Syscall Host Value :=
  match entry with
  | none => body
  | some id => do
      modify fun host => { host with table := host.table.acquire id }
      let result ← (ExceptT.lift body.run : Syscall Host (Except Errno Value))
      modify fun host => { host with table := host.table.release id }
      match result with
      | .ok value => return value
      | .error errno => throw errno

def intercepts (host : Host) (caller : Caller) (operation : Operation) : Bool :=
  host.hook.enabled && host.hook.ops operation && !caller.internal

/-- Runs the chain over an event of the thread's own. The chain's file
operations are not examined in turn. -/
def examineInside (caller : Caller) (task : Personality) (event : Event) :
    Syscall Host Unit :=
  examine { caller with internal := true } task event

/-- Runs a call whose failure is not to matter. -/
def ignoringFailure (body : Syscall Host Unit) : Syscall Host Unit := do
  discard <| (ExceptT.lift body.run : Syscall Host (Except Errno Unit))

def fileEvent (operation : Operation) (inode : Inode) (file : OpenFile) : Event :=
  .file ⟨operation, file.path, file.flags, writableFlags file.flags, UInt64.ofNat inode.dev,
    UInt64.ofNat inode.ino, inode.fsType⟩

def hookOpen (caller : Caller) (task : Personality) (inode : Inode) (file : OpenFile) :
    Syscall Host Unit :=
  gated Hook.openFile.slotName do
    match (← get).table.byFileTable? inode.fOp with
    | none => throw Errno.ESRCH
    | some entry => holding (some entry.id) do
        if (← get).intercepts caller .openFile then
          examineInside caller task (fileEvent .openFile inode file)
        if entry.saved.openFile = Addr.null then return ()
        else native (·.nativeOpen entry.saved.openFile)

/-- A close cannot be refused: its verdict is not looked at. -/
def hookRelease (caller : Caller) (task : Personality) (inode : Inode) (file : OpenFile) :
    Syscall Host Unit :=
  gated Hook.release.slotName do
    match (← get).table.byFileTable? inode.fOp with
    | none => throw Errno.ESRCH
    | some entry => holding (some entry.id) do
        if (← get).intercepts caller .closeFile then
          ignoringFailure (examineInside caller task (fileEvent .closeFile inode file))
        if entry.saved.release = Addr.null then return ()
        else native (·.nativeRelease entry.saved.release)

/-- Moves an entry up to file operations once a regular file is seen. A
failure leaves the entry as it is. -/
def repatchSeen (entry : Option Nat) (inode : Inode) : Call Host Unit := do
  match entry.bind (← get).table.byId? with
  | none => return ()
  | some entry =>
      if inode.regular ∧ entry.saved.kind = .inodeOps then
        discard <| change (Patch.repatchWithRegular entry.fsType inode)

def hookLookup (dir : Inode) (name : String) : Syscall Host (Option Inode) :=
  gated Hook.lookup.slotName do
    match Patch.Table.byInodeTable? dir.iOp dir.fsType (← get).table.entries with
    | none => throw Errno.ESRCH
    | some found => holding found.entry do
        if found.lookup = Addr.null then throw Errno.ESRCH
        let result ← native (·.nativeLookup found.lookup dir name)
        match result with
        | some inode => repatchSeen found.entry inode
        | none => pure ()
        return result

def hookCreate (dir : Inode) (name : String) : Syscall Host Inode :=
  gated Hook.create.slotName do
    match Patch.Table.byInodeTable? dir.iOp dir.fsType (← get).table.entries with
    | none => throw Errno.ESRCH
    | some found => holding found.entry do
        if found.create = Addr.null then throw Errno.ESRCH
        let inode ← native (·.nativeCreate found.create dir name)
        repatchSeen found.entry inode
        return inode

def hookAtomicOpen (dir : Inode) (name : String) : Syscall Host Inode :=
  gated Hook.atomicOpen.slotName do
    match Patch.Table.byInodeTable? dir.iOp dir.fsType (← get).table.entries with
    | none => throw Errno.ESRCH
    | some found => holding found.entry do
        if found.atomicOpen = Addr.null then throw Errno.ESRCH
        let inode ← native (·.nativeAtomicOpen found.atomicOpen dir name)
        repatchSeen found.entry inode
        return inode

/-- A name without an inode belongs to no filesystem type. -/
def dentryType (dentry : Dentry) : String :=
  match dentry.inode with
  | some inode => inode.fsType
  | none => ""

def hookRevalidate (dentry : Dentry) : Syscall Host Bool :=
  gated Hook.revalidate.slotName do
    match Patch.Table.byDentryTable? dentry.dOp (dentryType dentry) (← get).table.entries with
    | none => throw Errno.ESRCH
    | some found => holding found.entry do
        if found.revalidate = Addr.null then return true
        let valid ← native (·.nativeRevalidate found.revalidate)
        match dentry.inode with
        | some inode => repatchSeen found.entry inode
        | none => pure ()
        return valid

/-! ### Mounts -/

/-- Waits until the uses in flight of a removed entry are gone. -/
def awaitDrained (entry : Nat) : Call Host Unit := do
  if (← get).table.isDrained entry then return ()
  else discard <| Call.sleep (.drained entry) none

def releaseMount (fsType : String) (count : Nat) :
    Call Host (Except Patch.PatchError Patch.ReleaseOutcome) := do
  match ← change (Patch.releaseMount fsType count) with
  | .error error => return .error error
  | .ok (outcome, none) => return .ok outcome
  | .ok (outcome, some entry) =>
      awaitDrained entry
      return .ok outcome

def restore (fsType : String) : Call Host (Except Patch.PatchError Unit) := do
  match ← change (Patch.restore fsType) with
  | .error error => return .error error
  | .ok (result, entry) =>
      awaitDrained entry
      return result.map fun _ => ()

/-- Takes out entry after entry, each one drained before the next, for so
many rounds at most. -/
def purgeRounds : Nat → Nat → Call Host (Except Patch.PatchError Nat)
  | 0, purged => return .ok purged
  | rounds + 1, purged => do
      match ← change Patch.purgeFirst with
      | .error error => return .error error
      | .ok none => return .ok purged
      | .ok (some entry) =>
          awaitDrained entry
          purgeRounds rounds (purged + 1)

/-- Types that may turn up while a purge is under way. -/
def purgeReserve : Nat := 65536

def purge : Call Host (Except Patch.PatchError Nat) := do
  purgeRounds ((← get).table.entries.length + 1 + purgeReserve) 0

/-- The regular file a mount offers for hooking. Types on the no-scan list
are looked through only while the mounts present at load are walked. -/
def scanned (host : Host) (mount : MountPoint) (fromMount : Bool) : Option Inode :=
  if (fromMount || host.hook.noScanOnLoad) && host.hook.noScan.contains mount.fsType then none
  else host.kernel.findRegular mount

def patchRequest (host : Host) (mount : MountPoint) (fromMount : Bool) : Patch.Request where
  fsType := mount.fsType
  root := mount.root
  dOp := mount.dOp
  regular := host.scanned mount fromMount
  hookDentries := host.hook.hookDentries.contains mount.fsType
  uses := mount.uses

/-- Hooks the type of a mount, or counts the mount, unless the type is to be
skipped. -/
def processMount (mount : MountPoint) (fromMount : Bool) :
    Call Host (Except Patch.PatchError (Option Patch.MountOutcome)) := do
  let host ← get
  if host.hook.skip.contains mount.fsType then return .ok none
  else
    match ← change (Patch.processMount (host.patchRequest mount fromMount)) with
    | .ok outcome => return .ok (some outcome)
    | .error error => return .error error

def hookPreMount (caller : Caller) (task : Personality) (device dir fsType : String)
    (flags : UInt64) : Syscall Host Unit :=
  gated "mount" do
    if (← get).intercepts caller .mount ∧ !MountFlags.has flags MountFlags.ignored then
      examineInside caller task (.filesystem ⟨.mount, device, dir, fsType, flags, 1⟩)

/-- Whether a successful mount brought no new instance of a filesystem. -/
def mountUncounted (flags : UInt64) : Bool :=
  MountFlags.has flags MountFlags.move || MountFlags.has flags MountFlags.remount ||
    MountFlags.has flags MountFlags.bind || MountFlags.onlyPropagation flags

def hookPostMount (mount : MountPoint) (flags : UInt64) : Syscall Host Unit :=
  gated "mount" do
    if mountUncounted flags then return ()
    else discard <| processMount mount true

structure UmountContext where
  mountPoint : String
  fsType : String
  count : Nat
  deriving DecidableEq, Repr

/-- An unmount cannot be refused: its verdict is not looked at. -/
def hookPreUmount (caller : Caller) (task : Personality) (dir : String) :
    Syscall Host (Option UmountContext) :=
  gated "umount" do
    match (← get).kernel.mountAt? dir with
    | none => return none
    | some mount =>
        if (← get).intercepts caller .umount then
          ignoringFailure (examineInside caller task
            (.filesystem ⟨.umount, "", dir, mount.fsType, 0, mount.propagation.toNat⟩))
        return some ⟨dir, mount.fsType, mount.uses⟩

def hookPostUmount (succeeded : Bool) (context : UmountContext) : Syscall Host Unit :=
  gated "umount" do
    if succeeded then discard <| releaseMount context.fsType context.count

end Interception.Host
