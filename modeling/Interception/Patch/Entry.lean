import Interception.Kernel.Slot

/-!
One patched filesystem type: the tables it has hooked, the genuine address
of every slot it may have to put back, how many mounts rely on it, and how
many calls are using it. A retired entry is out of the table and waits for
those calls.
-/

namespace Interception.Patch

/-- At which level a filesystem is hooked: opens of regular files, or the
lookups and creations that will bring the first regular file. -/
inductive Kind
  | fileOps
  | inodeOps
  deriving DecidableEq, Repr

namespace Kind

def letter : Kind → String
  | fileOps => "F"
  | inodeOps => "I"

def title : Kind → String
  | fileOps => "FileOps"
  | inodeOps => "InodeOps"

end Kind

structure Saved where
  fOps : Option FileTable
  iOps : Option InodeTable
  dOps : Option DentryTable
  openFile : Addr
  release : Addr
  lookup : Addr
  create : Addr
  atomicOpen : Addr
  revalidate : Addr
  /-- Whether this entry asked for the lookup and create hooks. -/
  lookupHooked : Bool
  deriving DecidableEq, Repr

namespace Saved

def blank : Saved :=
  ⟨none, none, none, Addr.null, Addr.null, Addr.null, Addr.null, Addr.null, Addr.null, false⟩

def kind (saved : Saved) : Kind :=
  if saved.fOps.isSome then .fileOps else .inodeOps

def sharesFile (saved other : Saved) : Bool :=
  saved.fOps.isSome && saved.fOps == other.fOps

def sharesInode (saved other : Saved) : Bool :=
  saved.iOps.isSome && saved.iOps == other.iOps

def sharesDentry (saved other : Saved) : Bool :=
  saved.dOps.isSome && saved.dOps == other.dOps

def shares (saved other : Saved) : Bool :=
  saved.sharesFile other || saved.sharesInode other || saved.sharesDentry other

/-- Whether a saved address is that of the very hook that would replace it. -/
def holdsHook (saved : Saved) : Bool :=
  saved.openFile == Hook.openFile.addr || saved.release == Hook.release.addr ||
    saved.lookup == Hook.lookup.addr || saved.create == Hook.create.addr ||
    saved.atomicOpen == Hook.atomicOpen.addr || saved.revalidate == Hook.revalidate.addr

end Saved

inductive State
  | prepared
  | patched (kind : Kind)
  | shared (kind : Kind)
  | draining
  deriving DecidableEq, Repr

def State.title : State → String
  | prepared => "Prepared"
  | patched kind => "Patched(" ++ kind.title ++ ")"
  | shared kind => "Shared(" ++ kind.title ++ ")"
  | draining => "Draining"

/-- `refs` counts the table's own reference and one for every use in
flight. -/
structure Entry where
  id : Nat
  fsType : String
  hookDentries : Bool
  saved : Saved
  installed : Bool
  shared : Bool
  uses : UInt32
  refs : Nat
  retired : Bool
  deriving DecidableEq, Repr

namespace Entry

def fresh (id : Nat) (fsType : String) (hookDentries : Bool) : Entry :=
  ⟨id, fsType, hookDentries, Saved.blank, false, false, 0, 1, false⟩

def inFlight (entry : Entry) : Nat :=
  if entry.retired then entry.refs else entry.refs - 1

def state (entry : Entry) : State :=
  if entry.retired then .draining
  else if !entry.installed then .prepared
  else if entry.shared then .shared entry.saved.kind
  else .patched entry.saved.kind

/-- Takes a use in flight, unless the entry is retired. -/
def acquire (entry : Entry) : Option Entry :=
  if entry.retired then none else some { entry with refs := entry.refs + 1 }

/-- Gives a use in flight back. -/
def release (entry : Entry) : Entry :=
  { entry with refs := entry.refs - 1 }

/-- Gives the table's own reference back, once. -/
def retire (entry : Entry) : Entry :=
  if entry.retired then entry else { entry with retired := true }.release

def drained (entry : Entry) : Bool :=
  entry.refs == 0

/-- Adds so many uses. They are counted in 32 bits, and a count that does not
fit starts over from zero. -/
def addUses (entry : Entry) (count : Nat) : Entry :=
  { entry with uses := entry.uses + UInt32.ofNat count }

/-- Drops so many uses, or as many as there are. -/
def dropUses (entry : Entry) (count : Nat) : Entry :=
  { entry with uses := UInt32.ofNat (entry.uses.toNat - count) }

@[simp]
theorem addUses_uses (entry : Entry) (count : Nat) :
    (entry.addUses count).uses.toNat = (entry.uses.toNat + count) % UInt32.size := by
  rw [addUses, UInt32.toNat_add, UInt32.toNat_ofNat', Nat.add_mod_mod]

@[simp]
theorem dropUses_uses (entry : Entry) (count : Nat) :
    (entry.dropUses count).uses.toNat = entry.uses.toNat - count :=
  UInt32.toNat_ofNat_of_lt' (Nat.lt_of_le_of_lt (Nat.sub_le _ _) entry.uses.toNat_lt_size)

theorem dropUses_pos {entry : Entry} {count : Nat} :
    0 < (entry.dropUses count).uses.toNat ↔ count < entry.uses.toNat := by
  rw [dropUses_uses, Nat.sub_pos_iff_lt]

/-- The line of the entry in the patch list. -/
def line (entry : Entry) : String :=
  entry.fsType ++ " " ++ toString entry.uses ++ " " ++ entry.saved.kind.letter

end Entry

end Interception.Patch
