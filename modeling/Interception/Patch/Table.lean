import Interception.Kernel.Mounts
import Interception.Patch.Entry

/-!
The patch table: which filesystem types are hooked, in the order in which
they came. Types may share operation tables; a hook stays in a shared table
as long as one entry needs it, and addresses that a sharer saved are copied
from it. Every change runs in an unprotected region of the memory. A removed
entry is kept aside until its uses in flight are gone.
-/

namespace Interception.Patch

inductive PatchError
  | notPatched (fsType : String)
  | foreignHook (fsType : String) (hook : Hook) (found : Addr)
  | doublePatch (fsType : String)
  | sealedMemory
  deriving DecidableEq, Repr

def PatchError.message : PatchError → String
  | notPatched fsType => "filesystem " ++ fsType ++ " is not patched"
  | foreignHook fsType hook found =>
      "foreign hook in " ++ hook.slotName ++ " of " ++ fsType ++ ": found " ++ found.render
  | doublePatch fsType => "double patching detected on " ++ fsType
  | sealedMemory => "failed to unprotect memory: simulated write-protect failure"

/-- What a mount asks of the table. -/
structure Request where
  fsType : String
  root : Inode
  dOp : Option DentryTable
  regular : Option Inode
  hookDentries : Bool
  uses : Nat

inductive MountOutcome
  | installed (pokes : Nat)
  | existing (uses pokes : Nat)
  deriving DecidableEq, Repr

inductive ReleaseOutcome
  | notTracked
  | released (remaining : Nat)
  | restored
  deriving DecidableEq, Repr

/-- `published` is the number of entries when the list was last replaced. -/
structure Table where
  entries : List Entry
  retired : List Entry
  nextId : Nat
  published : Nat

structure World where
  memory : Memory
  table : Table

/-- A change to table and memory. A failure keeps what was done before it. -/
abbrev Change (Value : Type) := ExceptT PatchError (StateM World) Value

namespace Table

def empty : Table := ⟨[], [], 0, 0⟩

def entry? (table : Table) (fsType : String) : Option Entry :=
  table.entries.find? (·.fsType == fsType)

def contains (table : Table) (fsType : String) : Bool :=
  (table.entry? fsType).isSome

def useCount? (table : Table) (fsType : String) : Option Nat :=
  (table.entry? fsType).map (·.uses.toNat)

/-- An entry by its number, retired or not. -/
def byId? (table : Table) (id : Nat) : Option Entry :=
  (table.entries ++ table.retired).find? (·.id == id)

def mapEntry (id : Nat) (change : Entry → Entry) (entries : List Entry) : List Entry :=
  entries.map fun entry => if entry.id = id then change entry else entry

def update (table : Table) (id : Nat) (change : Entry → Entry) : Table :=
  { table with
    entries := mapEntry id change table.entries
    retired := mapEntry id change table.retired }

/-- What the other entries have saved. -/
def others (id : Nat) (entries : List Entry) : List Saved :=
  (entries.filter (·.id != id)).map (·.saved)

def markShared (entries : List Entry) (entry : Entry) : Entry :=
  { entry with shared := (others entry.id entries).any entry.saved.shares }

/-- Replaces the entry list and says of each entry whether it shares a
table. -/
def publish (table : Table) (entries : List Entry) : Table :=
  { table with entries := entries.map (markShared entries), published := entries.length }

def remove (table : Table) (id : Nat) : Table :=
  table.publish (table.entries.filter (·.id != id))

/-- Takes an entry out of the table; it waits aside while it is in use. -/
def retire (table : Table) (id : Nat) : Table :=
  match table.byId? id with
  | none => table
  | some entry =>
      let left := table.remove id
      if entry.retire.drained then left
      else { left with retired := left.retired ++ [entry.retire] }

/-- Whether no use of a removed entry is left. -/
def isDrained (table : Table) (id : Nat) : Bool :=
  table.retired.all fun entry => entry.id != id

def acquire (table : Table) (id : Nat) : Table :=
  table.update id fun entry => entry.acquire.getD entry

/-- Gives one use back and forgets a retired entry with the last one. -/
def release (table : Table) (id : Nat) : Table :=
  let released := table.update id Entry.release
  { released with retired := released.retired.filter (!·.drained) }

/-! ### Finding what a hooked call is to reach -/

def byFileTable? (table : Table) (ops : FileTable) : Option Entry :=
  table.entries.find? (·.saved.fOps == some ops)

structure InodeMatch where
  entry : Option Nat
  lookup : Addr
  create : Addr
  atomicOpen : Addr
  deriving DecidableEq, Repr

/-- The entry of the type itself, or else the addresses saved by the last entry
that uses the table. -/
def byInodeTable? (ops : InodeTable) (fsType : String) :
    List Entry → Option InodeMatch
  | [] => none
  | entry :: rest =>
      if entry.saved.iOps = some ops then
        let saved := entry.saved
        if entry.fsType = fsType then
          some ⟨some entry.id, saved.lookup, saved.create, saved.atomicOpen⟩
        else
          match byInodeTable? ops fsType rest with
          | some found => some found
          | none => some ⟨none, saved.lookup, saved.create, saved.atomicOpen⟩
      else byInodeTable? ops fsType rest

structure DentryMatch where
  entry : Option Nat
  revalidate : Addr
  deriving DecidableEq, Repr

def byDentryTable? (ops : DentryTable) (fsType : String) :
    List Entry → Option DentryMatch
  | [] => none
  | entry :: rest =>
      if entry.saved.dOps = some ops then
        if entry.fsType = fsType then some ⟨some entry.id, entry.saved.revalidate⟩
        else
          match byDentryTable? ops fsType rest with
          | some found => some found
          | none => some ⟨none, entry.saved.revalidate⟩
      else byDentryTable? ops fsType rest

def render (table : Table) : String :=
  "\n".intercalate (table.entries.map Entry.line)

end Table

/-! ### Single slots -/

def load (slot : Slot) : Change Addr := return (← get).memory.content slot

def poke (slot : Slot) (addr : Addr) : Change Unit :=
  modify fun world => { world with memory := world.memory.poke slot addr }

/-- Puts a hook into its slot unless it is there. A slot with anything but
its genuine address belongs to somebody else. -/
def hookSlot (fsType : String) (slot : Slot) (genuine : Addr) : Change Nat := do
  let current ← load slot
  if current = slot.hook.addr then return 0
  else if current = genuine then
    poke slot slot.hook.addr
    return 1
  else throw (.foreignHook fsType slot.hook current)

/-- Puts the genuine address back if the slot still holds the hook. -/
def unhookSlot (slot : Slot) (genuine : Addr) : Change Nat := do
  if (← load slot) = slot.hook.addr then
    poke slot genuine
    return 1
  else return 0

/-! ### Entries -/

/-- Runs a change in an unprotected region. -/
def unprotected {Value : Type} (change : Change Value) : Change Value := do
  if (← get).memory.isSealed then throw .sealedMemory
  modify fun world => { world with memory := world.memory.unprotect }
  let result ← (ExceptT.lift change.run : Change (Except PatchError Value))
  modify fun world => { world with memory := world.memory.protect }
  match result with
  | .ok value => return value
  | .error error => throw error

def saveEntry (id : Nat) (saved : Saved) : Change Unit :=
  modify fun world =>
    { world with table := world.table.update id fun entry => { entry with saved } }

def publishAll : Change Unit :=
  modify fun world => { world with table := world.table.publish world.table.entries }

/-- The genuine addresses of a file table, from a sharer that knows them or
from the slots. -/
def recordFile (sharers : List Saved) (saved : Saved) (ops : FileTable) (memory : Memory) :
    Saved :=
  match sharers.find? saved.sharesFile with
  | some sharer => { saved with openFile := sharer.openFile, release := sharer.release }
  | none =>
      { saved with
        openFile := memory.content (ops.slot .openFile)
        release := memory.content (ops.slot .release) }

def recordAtomic (fsType : String) (sharers : List Saved) (saved : Saved) (ops : InodeTable)
    (memory : Memory) : Except PatchError Saved :=
  let current := memory.content (ops.slot .atomicOpen)
  if current = Hook.atomicOpen.addr then
    match sharers.find? saved.sharesInode with
    | some sharer => .ok { saved with atomicOpen := sharer.atomicOpen }
    | none => .error (.doublePatch fsType)
  else .ok { saved with atomicOpen := current }

def knowsLookup (saved : Saved) : Bool :=
  saved.lookup != Addr.null && saved.create != Addr.null

def recordLookup (sharers : List Saved) (saved : Saved) (ops : InodeTable) (memory : Memory) :
    Saved :=
  match sharers.find? fun other => saved.sharesInode other && knowsLookup other with
  | some sharer => { saved with lookup := sharer.lookup, create := sharer.create }
  | none =>
      { saved with
        lookup := memory.content (ops.slot .lookup)
        create := memory.content (ops.slot .create) }

def recordDentry (sharers : List Saved) (saved : Saved) (ops : DentryTable) (memory : Memory) :
    Saved :=
  match sharers.find? saved.sharesDentry with
  | some sharer => { saved with revalidate := sharer.revalidate }
  | none => { saved with revalidate := memory.content (ops.slot .revalidate) }

def regularOf (regular : Option Inode) : Option Inode :=
  regular.filter (·.regular)

/-- The addresses a new entry will have to put back. -/
def prepare (sharers : List Saved) (request : Request) (memory : Memory) :
    Except PatchError Saved := do
  let regular := regularOf request.regular
  let withFile :=
    match regular with
    | some inode =>
        recordFile sharers { Saved.blank with fOps := some inode.fOp } inode.fOp memory
    | none => Saved.blank
  let iOps := request.root.iOp
  let withAtomic ← recordAtomic request.fsType sharers { withFile with iOps := some iOps } iOps
    memory
  let withLookup :=
    if regular.isSome then withAtomic else recordLookup sharers withAtomic iOps memory
  let saved :=
    match request.hookDentries, request.dOp with
    | true, some dOps => recordDentry sharers { withLookup with dOps := some dOps } dOps memory
    | _, _ => withLookup
  if saved.holdsHook then throw (.doublePatch request.fsType)
  return saved

/-- Puts in every hook that the saved state of an entry calls for. -/
def install (entry : Entry) : Change Nat := do
  let saved := entry.saved
  let dentry ←
    match saved.dOps with
    | some dOps =>
        if saved.revalidate = Addr.null then pure 0
        else hookSlot entry.fsType (dOps.slot .revalidate) saved.revalidate
    | none => pure 0
  let atomic ←
    match saved.iOps with
    | some iOps =>
        if saved.atomicOpen = Addr.null then pure 0
        else hookSlot entry.fsType (iOps.slot .atomicOpen) saved.atomicOpen
    | none => pure 0
  match saved.fOps, saved.iOps with
  | some fOps, _ =>
      let opens ← hookSlot entry.fsType (fOps.slot .openFile) saved.openFile
      let releases ← hookSlot entry.fsType (fOps.slot .release) saved.release
      return dentry + atomic + opens + releases
  | none, some iOps =>
      let lookups ← hookSlot entry.fsType (iOps.slot .lookup) saved.lookup
      let creates ← hookSlot entry.fsType (iOps.slot .create) saved.create
      saveEntry entry.id { saved with lookupHooked := true }
      return dentry + atomic + lookups + creates
  | none, none => return dentry + atomic

/-- Takes the lookup and create hooks out unless a sharer still asks for
them. -/
def dropLookupHooks (sharers : List Saved) (saved : Saved) : Change Nat := do
  if sharers.any fun other => saved.sharesInode other && other.lookupHooked then return 0
  else
    match saved.iOps with
    | some iOps =>
        let lookups ← unhookSlot (iOps.slot .lookup) saved.lookup
        let creates ← unhookSlot (iOps.slot .create) saved.create
        return lookups + creates
    | none => return 0

/-- Moves an entry up to file operations. -/
def repatchFile (sharers : List Saved) (entry : Entry) (fOps : FileTable) : Change Nat := do
  let mut saved := entry.saved
  let mut dropped := 0
  if saved.lookupHooked then
    dropped ← dropLookupHooks sharers saved
    saved := { saved with lookupHooked := false }
  saved := recordFile sharers { saved with fOps := some fOps } fOps (← get).memory
  if saved.openFile = Hook.openFile.addr ∨ saved.release = Hook.release.addr then
    saveEntry entry.id { saved with fOps := none }
    throw (.doublePatch entry.fsType)
  saveEntry entry.id saved
  let opens ← hookSlot entry.fsType (fOps.slot .openFile) saved.openFile
  let releases ← hookSlot entry.fsType (fOps.slot .release) saved.release
  return dropped + opens + releases

/-- Makes sure of the lookup and create hooks of an entry. -/
def repatchInode (entry : Entry) : Change Nat := do
  match entry.saved.iOps with
  | none => return 0
  | some iOps =>
      let memory := (← get).memory
      let saved :=
        if entry.saved.lookup = Addr.null then
          { entry.saved with
            lookup := memory.content (iOps.slot .lookup)
            create := memory.content (iOps.slot .create) }
        else entry.saved
      saveEntry entry.id saved
      let lookups ← hookSlot entry.fsType (iOps.slot .lookup) saved.lookup
      let creates ← hookSlot entry.fsType (iOps.slot .create) saved.create
      saveEntry entry.id { saved with lookupHooked := true }
      return lookups + creates

/-- Whether the opens of the entry's own file table are hooked already. -/
def openHooked (saved : Saved) (memory : Memory) : Bool :=
  match saved.fOps with
  | some fOps => memory.content (fOps.slot .openFile) == Hook.openFile.addr
  | none => false

def repatch (entry : Entry) (regular : Option Inode) : Change Nat := do
  let world ← get
  if openHooked entry.saved world.memory then return 0
  else
    match regularOf regular with
    | some inode => repatchFile (Table.others entry.id world.table.entries) entry inode.fOp
    | none => repatchInode entry

def restoreDentry (sharers : List Saved) (saved : Saved) : Change Nat :=
  match saved.dOps with
  | some dOps =>
      if sharers.any saved.sharesDentry then pure 0
      else unhookSlot (dOps.slot .revalidate) saved.revalidate
  | none => pure 0

def restoreFile (sharers : List Saved) (saved : Saved) : Change Nat :=
  match saved.fOps with
  | some fOps =>
      if sharers.any saved.sharesFile then pure 0
      else do
        let opens ← unhookSlot (fOps.slot .openFile) saved.openFile
        let releases ← unhookSlot (fOps.slot .release) saved.release
        return opens + releases
  | none => pure 0

/-- A null address was never replaced. -/
def unhookKnown (slot : Slot) (genuine : Addr) : Change Nat :=
  if genuine = Addr.null then pure 0 else unhookSlot slot genuine

def restoreInode (sharers : List Saved) (saved : Saved) : Change Nat :=
  match saved.iOps with
  | some iOps =>
      if sharers.any saved.sharesInode then pure 0
      else do
        let atomics ← unhookKnown (iOps.slot .atomicOpen) saved.atomicOpen
        let lookups ← unhookKnown (iOps.slot .lookup) saved.lookup
        let creates ← unhookKnown (iOps.slot .create) saved.create
        return atomics + lookups + creates
  | none => pure 0

/-- Puts the saved addresses of an entry back, except in tables that another entry
still uses. -/
def restoreEntry (entry : Entry) : Change Nat := do
  let saved := entry.saved
  let sharers := Table.others entry.id (← get).table.entries
  let dentry ← restoreDentry sharers saved
  if saved.fOps.isNone ∧ saved.iOps.isNone then throw (.notPatched entry.fsType)
  let file ← restoreFile sharers saved
  let inode ← restoreInode sharers saved
  modify fun world =>
    { world with table := world.table.update entry.id fun entry => { entry with installed := false } }
  return dentry + file + inode

/-! ### Operations of the table -/

def addUses (id uses : Nat) : Change Unit :=
  modify fun world => { world with
    table := world.table.update id fun entry => entry.addUses uses }

/-- Restores an entry as far as it can be and takes it out of the table. -/
def takeOut (entry : Entry) : Change (Except PatchError Nat) := do
  let result ← (ExceptT.lift (restoreEntry entry).run : Change (Except PatchError Nat))
  modify fun world => { world with table := world.table.retire entry.id }
  return result

/-- Lists a new entry before its hooks go in, and takes it out again when
they do not. -/
def installFresh (request : Request) (saved : Saved) : Change MountOutcome := do
  let id := (← get).table.nextId
  let entry := { Entry.fresh id request.fsType request.hookDentries with saved }
  modify fun world => { world with
    table := { world.table with nextId := id + 1 }.publish (world.table.entries ++ [entry]) }
  match ← (ExceptT.lift (install entry).run : Change (Except PatchError Nat)) with
  | .ok pokes =>
      modify fun world => { world with
        table := world.table.update id fun entry =>
          { entry.addUses request.uses with installed := true } }
      return .installed pokes
  | .error error =>
      discard <| takeOut entry
      throw error

/-- Counts another mount of a type and hooks the type at first sight. -/
def processMount (request : Request) : Change MountOutcome := unprotected do
  let world ← get
  match world.table.entry? request.fsType with
  | some entry =>
      let pokes ← repatch entry request.regular
      addUses entry.id request.uses
      publishAll
      return .existing (entry.addUses request.uses).uses.toNat pokes
  | none =>
      match prepare (world.table.entries.map (·.saved)) request world.memory with
      | .error error => throw error
      | .ok saved => installFresh request saved

/-- Hooks the file operations of a type now that a regular file was seen. -/
def repatchWithRegular (fsType : String) (regular : Inode) : Change Nat := unprotected do
  match (← get).table.entry? fsType with
  | none => throw (.notPatched fsType)
  | some entry =>
      let pokes ← repatch entry (some regular)
      publishAll
      return pokes

def reinstall (fsType : String) : Change Nat := unprotected do
  match (← get).table.entry? fsType with
  | none => throw (.notPatched fsType)
  | some entry => install entry

/-- Drops uses of a type and takes it out with the last one. An answer with
an entry means that the caller has to wait until that one is drained. -/
def releaseMount (fsType : String) (count : Nat) : Change (ReleaseOutcome × Option Nat) :=
  unprotected do
    match (← get).table.entry? fsType with
    | none => return (.notTracked, none)
    | some entry =>
        let dropped := entry.dropUses count
        modify fun world => { world with table := world.table.update entry.id fun _ => dropped }
        if 0 < dropped.uses.toNat ∨ count = 0 then return (.released dropped.uses.toNat, none)
        else
          discard <| takeOut dropped
          return (.restored, some entry.id)

/-- Takes a type out of the table whatever its uses. -/
def restore (fsType : String) : Change (Except PatchError Nat × Nat) := unprotected do
  match (← get).table.entry? fsType with
  | none => throw (.notPatched fsType)
  | some entry => return (← takeOut entry, entry.id)

/-- Takes the first entry out, if there is one. -/
def purgeFirst : Change (Option Nat) := unprotected do
  match (← get).table.entries with
  | [] => return none
  | entry :: _ =>
      discard <| takeOut entry
      return some entry.id

end Interception.Patch
