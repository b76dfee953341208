import Interception.Proofs.Patch.Running

/-!
What the hooks depend on in the patch table. An entry uses one file, one
inode and one dentry table at most; each of the six hooks has its slot in one
of them, and the entry saved an address for it. The listing of a table keeps
of each entry its number, its type, what it saved and whether it has retired,
and forgets the counts, which no hook depends on.
-/

namespace Interception.Patch

/-! ### Slots an entry uses -/

namespace Saved

/-- The slot of the entry's own tables that a hook goes into. -/
def slot? (saved : Saved) (hook : Hook) : Option Slot :=
  match hook with
  | .openFile | .release => saved.fOps.map (·.slot hook)
  | .lookup | .create | .atomicOpen => saved.iOps.map (·.slot hook)
  | .revalidate => saved.dOps.map (·.slot hook)

def original (saved : Saved) : Hook → Addr
  | .openFile => saved.openFile
  | .release => saved.release
  | .lookup => saved.lookup
  | .create => saved.create
  | .atomicOpen => saved.atomicOpen
  | .revalidate => saved.revalidate

def Uses (saved : Saved) (slot : Slot) : Prop := saved.slot? slot.hook = some slot

instance (saved : Saved) (slot : Slot) : Decidable (saved.Uses slot) :=
  inferInstanceAs (Decidable (_ = _))

/-- Whether the entry has the hook put into its slot. An operation that was
missing is not hooked, except in file tables. -/
def wants (saved : Saved) : Hook → Bool
  | .openFile | .release => true
  | .lookup | .create => saved.lookupHooked
  | .atomicOpen => saved.atomicOpen != Addr.null
  | .revalidate => saved.revalidate != Addr.null

end Saved

theorem fileTable_slot_eq {left right : FileTable} {hook : Hook} :
    left.slot hook = right.slot hook ↔ left = right := by
  cases left; cases right
  simp [FileTable.slot]

theorem inodeTable_slot_eq {left right : InodeTable} {hook : Hook} :
    left.slot hook = right.slot hook ↔ left = right := by
  cases left; cases right
  simp [InodeTable.slot]

theorem dentryTable_slot_eq {left right : DentryTable} {hook : Hook} :
    left.slot hook = right.slot hook ↔ left = right := by
  cases left; cases right
  simp [DentryTable.slot]

@[simp]
theorem fileTable_slot_hook (table : FileTable) (hook : Hook) : (table.slot hook).hook = hook := rfl

@[simp]
theorem inodeTable_slot_hook (table : InodeTable) (hook : Hook) : (table.slot hook).hook = hook := rfl

@[simp]
theorem dentryTable_slot_hook (table : DentryTable) (hook : Hook) : (table.slot hook).hook = hook := rfl

/-- The hooks that go into file tables and those that go into inode tables. -/
def fileHook (hook : Hook) : Prop := hook = .openFile ∨ hook = .release

def inodeHook (hook : Hook) : Prop := hook = .lookup ∨ hook = .create ∨ hook = .atomicOpen

instance : DecidablePred fileHook := fun hook =>
  inferInstanceAs (Decidable (hook = .openFile ∨ hook = .release))

instance : DecidablePred inodeHook := fun hook =>
  inferInstanceAs (Decidable (hook = .lookup ∨ hook = .create ∨ hook = .atomicOpen))

theorem uses_file {saved : Saved} {table : FileTable} {hook : Hook} (file : fileHook hook) :
    saved.Uses (table.slot hook) ↔ saved.fOps = some table := by
  rcases file with rfl | rfl <;>
    simp [Saved.Uses, Saved.slot?, fileTable_slot_eq]

theorem uses_inode {saved : Saved} {table : InodeTable} {hook : Hook} (inode : inodeHook hook) :
    saved.Uses (table.slot hook) ↔ saved.iOps = some table := by
  rcases inode with rfl | rfl | rfl <;>
    simp [Saved.Uses, Saved.slot?, inodeTable_slot_eq]

theorem uses_dentry {saved : Saved} {table : DentryTable} :
    saved.Uses (table.slot .revalidate) ↔ saved.dOps = some table := by
  simp [Saved.Uses, Saved.slot?, dentryTable_slot_eq]

theorem uses_file_table {saved : Saved} {slot : Slot} (file : fileHook slot.hook)
    (used : saved.Uses slot) : ∃ table, saved.fOps = some table ∧ slot = table.slot slot.hook := by
  rcases file with hook | hook <;> simp only [Saved.Uses, hook, Saved.slot?] at used <;>
    obtain ⟨table, uses, same⟩ := Option.map_eq_some_iff.mp used <;>
    exact ⟨table, uses, by rw [hook, same]⟩

theorem uses_inode_table {saved : Saved} {slot : Slot} (inode : inodeHook slot.hook)
    (used : saved.Uses slot) : ∃ table, saved.iOps = some table ∧ slot = table.slot slot.hook := by
  rcases inode with hook | hook | hook <;> simp only [Saved.Uses, hook, Saved.slot?] at used <;>
    obtain ⟨table, uses, same⟩ := Option.map_eq_some_iff.mp used <;>
    exact ⟨table, uses, by rw [hook, same]⟩

theorem uses_dentry_table {saved : Saved} {slot : Slot} (dentry : slot.hook = .revalidate)
    (used : saved.Uses slot) :
    ∃ table, saved.dOps = some table ∧ slot = table.slot .revalidate := by
  simp only [Saved.Uses, dentry, Saved.slot?] at used
  obtain ⟨table, uses, same⟩ := Option.map_eq_some_iff.mp used
  exact ⟨table, uses, same.symm⟩

theorem sharesFile_iff {saved other : Saved} :
    saved.sharesFile other = true ↔ ∃ table, saved.fOps = some table ∧ other.fOps = some table := by
  cases used : saved.fOps with
  | none => simp [Saved.sharesFile, used]
  | some table => simp [Saved.sharesFile, used, eq_comm (a := some table)]

theorem sharesInode_iff {saved other : Saved} :
    saved.sharesInode other = true ↔ ∃ table, saved.iOps = some table ∧ other.iOps = some table := by
  cases used : saved.iOps with
  | none => simp [Saved.sharesInode, used]
  | some table => simp [Saved.sharesInode, used, eq_comm (a := some table)]

theorem sharesDentry_iff {saved other : Saved} :
    saved.sharesDentry other = true ↔
      ∃ table, saved.dOps = some table ∧ other.dOps = some table := by
  cases used : saved.dOps with
  | none => simp [Saved.sharesDentry, used]
  | some table => simp [Saved.sharesDentry, used, eq_comm (a := some table)]

/-! ### The listing of a table -/

structure Listed where
  id : Nat
  fsType : String
  saved : Saved
  retired : Bool
  deriving DecidableEq

def Entry.listed (entry : Entry) : Listed := ⟨entry.id, entry.fsType, entry.saved, entry.retired⟩

def Table.listing (table : Table) : List Listed := table.entries.map Entry.listed

/-- The listing with other addresses saved under a number. -/
def amend (id : Nat) (saved : Saved) (listing : List Listed) : List Listed :=
  listing.map fun listed => if listed.id = id then { listed with saved } else listed

/-- What is saved under the other numbers. -/
def sharers (id : Nat) (listing : List Listed) : List Saved :=
  (listing.filter (·.id != id)).map (·.saved)

theorem mem_amend {id : Nat} {saved : Saved} {listing : List Listed} {listed : Listed} :
    listed ∈ amend id saved listing ↔
      ∃ old ∈ listing, listed = if old.id = id then { old with saved } else old := by
  simp [amend, eq_comm]

theorem amend_amend (id : Nat) (first second : Saved) (listing : List Listed) :
    amend id second (amend id first listing) = amend id second listing := by
  simp only [amend, List.map_map]
  apply List.map_congr_left
  intro listed _
  by_cases same : listed.id = id <;> simp [same]

theorem mem_sharers {id : Nat} {listing : List Listed} {saved : Saved} :
    saved ∈ sharers id listing ↔ ∃ listed ∈ listing, listed.id ≠ id ∧ listed.saved = saved := by
  simp [sharers, and_assoc]

@[simp]
theorem listing_publish (table : Table) (entries : List Entry) :
    (table.publish entries).listing = entries.map Entry.listed := by
  simp [Table.publish, Table.listing, Function.comp_def, Table.markShared, Entry.listed]

theorem listing_update (table : Table) (id : Nat) (change : Entry → Entry) :
    (table.update id change).listing =
      table.entries.map fun entry => if entry.id = id then (change entry).listed else entry.listed := by
  simp only [Table.update, Table.listing, Table.mapEntry, List.map_map, Function.comp_def]
  congr 1
  funext entry
  by_cases same : entry.id = id <;> simp [same]

/-- A change of the counts alone leaves the listing as it is. -/
theorem listing_update_counts {table : Table} {id : Nat} {change : Entry → Entry}
    (kept : ∀ entry ∈ table.entries, entry.id = id → (change entry).listed = entry.listed) :
    (table.update id change).listing = table.listing := by
  rw [listing_update, Table.listing]
  apply List.map_congr_left
  intro entry member
  by_cases same : entry.id = id
  · simp [same, kept entry member same]
  · simp [same]

theorem listing_update_saved (table : Table) (id : Nat) (saved : Saved) :
    (table.update id fun entry => { entry with saved }).listing = amend id saved table.listing := by
  rw [listing_update, Table.listing, amend, List.map_map]
  apply List.map_congr_left
  intro entry _
  by_cases same : entry.id = id <;> simp [Entry.listed, same]

@[simp]
theorem update_nextId (table : Table) (id : Nat) (change : Entry → Entry) :
    (table.update id change).nextId = table.nextId := rfl

theorem listing_remove (table : Table) (id : Nat) :
    (table.remove id).listing = table.listing.filter (·.id != id) := by
  rw [Table.remove, listing_publish, Table.listing, List.filter_map]
  rfl

/-- What becomes of an entry before it is removed does not show in the others. -/
theorem remove_update {table : Table} {id : Nat} {change : Entry → Entry}
    (own : ∀ entry ∈ table.entries, entry.id = id → (change entry).id = id) :
    ((table.update id change).remove id).entries = (table.remove id).entries := by
  have rest (entries : List Entry)
      (own : ∀ entry ∈ entries, entry.id = id → (change entry).id = id) :
      (Table.mapEntry id change entries).filter (·.id != id) = entries.filter (·.id != id) := by
    induction entries with
    | nil => rfl
    | cons entry others ih =>
        have tail := ih fun other inside => own other (List.mem_cons_of_mem entry inside)
        rw [Table.mapEntry, List.map_cons, ← Table.mapEntry]
        by_cases same : entry.id = id
        · simp [same, own entry (by simp) same, tail]
        · simp [same, tail]
  simp only [Table.remove, Table.publish, Table.update, rest table.entries own]

/-- An entry that is there is removed by its retirement. -/
theorem retire_entries {table : Table} {entry : Entry} {id : Nat}
    (inside : entry ∈ table.entries) (own : entry.id = id) :
    (table.retire id).entries = (table.remove id).entries := by
  unfold Table.retire
  cases found : table.byId? id with
  | none =>
      have missed := List.find?_eq_none.mp found entry (List.mem_append_left _ inside)
      simp [own] at missed
  | some other => by_cases done : other.retire.drained = true <;> simp [done]

/-- Retiring takes an entry off the listing whether it is kept aside or not. -/
theorem listing_retire (table : Table) (id : Nat) :
    (table.retire id).listing = table.listing.filter (·.id != id) := by
  unfold Table.retire
  cases found : table.byId? id with
  | none =>
      have absent : ∀ entry ∈ table.entries, (entry.id != id) = true := by
        intro entry member
        have missed := List.find?_eq_none.mp found entry (List.mem_append_left _ member)
        simpa [bne_iff_ne] using missed
      show table.listing = _
      rw [eq_comm, List.filter_eq_self]
      intro listed member
      obtain ⟨entry, inside, rfl⟩ := List.mem_map.mp member
      exact absent entry inside
  | some entry =>
      rw [← listing_remove]
      by_cases done : entry.retire.drained = true <;> simp [done, Table.listing]

@[simp]
theorem retire_nextId (table : Table) (id : Nat) : (table.retire id).nextId = table.nextId := by
  unfold Table.retire
  cases table.byId? id with
  | none => rfl
  | some entry => by_cases done : entry.retire.drained = true <;> simp [done, Table.remove, Table.publish]

theorem others_listing (table : Table) (id : Nat) :
    Table.others id table.entries = sharers id table.listing := by
  simp [Table.others, sharers, Table.listing, List.filter_map, Function.comp_def, Entry.listed]

theorem saved_listing (table : Table) :
    table.entries.map (·.saved) = table.listing.map (·.saved) := by
  simp [Table.listing, Function.comp_def, Entry.listed]

theorem entry_listed {table : Table} {fsType : String} {entry : Entry}
    (found : table.entry? fsType = some entry) :
    entry.listed ∈ table.listing ∧ entry.fsType = fsType := by
  have member := List.mem_of_find?_eq_some found
  have named := List.find?_some found
  exact ⟨List.mem_map_of_mem member, by simpa using named⟩

theorem entry_unlisted {table : Table} {fsType : String} :
    table.entry? fsType = none ↔ ∀ listed ∈ table.listing, listed.fsType ≠ fsType := by
  simp [Table.entry?, Table.listing, Entry.listed]

end Interception.Patch
