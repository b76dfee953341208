import Interception.Proofs.Patch.FileHooks

/-!
The hooks in inode tables. Atomic opens are as well kept as the hooks of
files. Lookups and creations are not: an entry that went straight to file
operations has saved nothing of them, a missing operation is taken for one
that was never hooked, and a hook may be read back as if it were genuine. As
long as no step runs into one of these, every hook has its user and every
user knows what was there at first.
-/

namespace Interception.Patch

def Table.InodeMatch.original (found : Table.InodeMatch) : Hook → Addr
  | .lookup => found.lookup
  | .create => found.create
  | _ => found.atomicOpen

/-- What a hook of an inode table owes: a user, the initial address for
everyone who asks in the name of a user, and that address in its place once
the users are gone. -/
structure InodeLaw (initial : Slot → Addr) (world : World) (table : InodeTable) (hook : Hook) :
    Prop where
  used : world.memory.content (table.slot hook) = hook.addr →
    ∃ entry ∈ world.table.entries, entry.saved.iOps = some table
  found : world.memory.content (table.slot hook) = hook.addr →
    ∀ entry ∈ world.table.entries, entry.saved.iOps = some table →
      ∃ found, Table.byInodeTable? table entry.fsType world.table.entries = some found ∧
        found.original hook = initial (table.slot hook)
  freed : (∀ entry ∈ world.table.entries, entry.saved.iOps ≠ some table) →
    world.memory.content (table.slot hook) = initial (table.slot hook)

variable {initial content : Slot → Addr} {listing : List Listed} {world later : World}

/-! ### What a lookup by inode table finds -/

/-- Who asks in the name of an entry that uses the table finds that entry. -/
theorem byInodeTable?_own {table : InodeTable} {entries : List Entry} {entry : Entry}
    (types : (entries.map (·.fsType)).Nodup) (inside : entry ∈ entries)
    (uses : entry.saved.iOps = some table) :
    Table.byInodeTable? table entry.fsType entries =
      some ⟨some entry.id, entry.saved.lookup, entry.saved.create, entry.saved.atomicOpen⟩ := by
  induction entries with
  | nil => simp at inside
  | cons first rest rest_own =>
      rw [List.map_cons, List.nodup_cons] at types
      rcases List.mem_cons.mp inside with rfl | later
      · simp [Table.byInodeTable?, uses]
      · have found := rest_own types.2 later
        have named : first.fsType ≠ entry.fsType := by
          intro same
          exact types.1 (same ▸ List.mem_map_of_mem later)
        by_cases own : first.saved.iOps = some table <;>
          simp [Table.byInodeTable?, own, named, found]

/-- A lookup by inode table finds what some user of the table has saved. -/
theorem byInodeTable?_some {table : InodeTable} {fsType : String} {entries : List Entry}
    {found : Table.InodeMatch} (same : Table.byInodeTable? table fsType entries = some found) :
    ∃ entry ∈ entries, entry.saved.iOps = some table ∧
      found = ⟨found.entry, entry.saved.lookup, entry.saved.create, entry.saved.atomicOpen⟩ := by
  induction entries generalizing found with
  | nil => simp [Table.byInodeTable?] at same
  | cons first rest rest_some =>
      have further (later : Table.byInodeTable? table fsType rest = some found) :
          ∃ entry ∈ first :: rest, entry.saved.iOps = some table ∧
            found = ⟨found.entry, entry.saved.lookup, entry.saved.create,
              entry.saved.atomicOpen⟩ := by
        obtain ⟨entry, inside, uses, saved⟩ := rest_some later
        exact ⟨entry, List.mem_cons_of_mem first inside, uses, saved⟩
      unfold Table.byInodeTable? at same
      split at same
      · rename_i own
        split at same
        · obtain rfl := Option.some.inj same
          exact ⟨first, by simp, own, rfl⟩
        · split at same
          · rename_i later
            exact further (later.trans same)
          · obtain rfl := Option.some.inj same
            exact ⟨first, by simp, own, rfl⟩
      · exact further same

theorem byInodeTable?_none {table : InodeTable} {fsType : String} {entries : List Entry}
    (missed : Table.byInodeTable? table fsType entries = none) :
    ∀ entry ∈ entries, entry.saved.iOps ≠ some table := by
  induction entries with
  | nil => simp
  | cons first rest rest_none =>
      unfold Table.byInodeTable? at missed
      split at missed
      · split at missed
        · cases missed
        · split at missed <;> cases missed
      · rename_i other
        intro entry inside
        rcases List.mem_cons.mp inside with rfl | later
        · exact other
        · exact rest_none missed entry later

/-- Only an entry of the very type is named. -/
theorem byInodeTable?_entry {table : InodeTable} {fsType : String} {entries : List Entry}
    {found : Table.InodeMatch} (same : Table.byInodeTable? table fsType entries = some found)
    {id : Nat} (named : found.entry = some id) :
    ∃ entry ∈ entries, entry.id = id ∧ entry.fsType = fsType := by
  induction entries generalizing found with
  | nil => simp [Table.byInodeTable?] at same
  | cons first rest rest_entry =>
      have further (later : Table.byInodeTable? table fsType rest = some found) :
          ∃ entry ∈ first :: rest, entry.id = id ∧ entry.fsType = fsType := by
        obtain ⟨entry, inside, own⟩ := rest_entry later named
        exact ⟨entry, List.mem_cons_of_mem first inside, own⟩
      unfold Table.byInodeTable? at same
      split at same
      · split at same
        · rename_i type
          obtain rfl := Option.some.inj same
          exact ⟨first, by simp, Option.some.inj named, type⟩
        · split at same
          · rename_i later
            exact further (later.trans same)
          · obtain rfl := Option.some.inj same
            cases named
      · exact further same

theorem entry_types (numbered : Numbered world.table.nextId world.table.listing) :
    (world.table.entries.map (·.fsType)).Nodup := by
  simpa [Table.listing, Entry.listed, Function.comp_def] using numbered.types

/-- The law of one hook, in terms of what is listed. -/
structure HookLaw (initial content : Slot → Addr) (listing : List Listed) (table : InodeTable)
    (hook : Hook) : Prop where
  used : content (table.slot hook) = hook.addr → ∃ listed ∈ listing, listed.saved.iOps = some table
  known : content (table.slot hook) = hook.addr → ∀ listed ∈ listing,
    listed.saved.iOps = some table → listed.saved.original hook = initial (table.slot hook)

theorem inodeLaw_iff (sound : Sound initial world) {table : InodeTable} {hook : Hook}
    (inode : inodeHook hook) :
    InodeLaw initial world table hook ↔
      HookLaw initial world.memory.content world.table.listing table hook := by
  have types := entry_types sound.numbered
  have answers (entry : Entry) :
      Table.InodeMatch.original
        ⟨some entry.id, entry.saved.lookup, entry.saved.create, entry.saved.atomicOpen⟩ hook =
          entry.saved.original hook := by
    rcases inode with rfl | rfl | rfl <;> rfl
  constructor
  · intro law
    constructor
    · intro hooked
      obtain ⟨entry, inside, uses⟩ := law.used hooked
      exact ⟨entry.listed, List.mem_map_of_mem inside, uses⟩
    · intro hooked listed member uses
      obtain ⟨entry, inside, rfl⟩ := List.mem_map.mp member
      obtain ⟨found, same, first⟩ := law.found hooked entry inside uses
      rw [byInodeTable?_own types inside uses, Option.some.injEq] at same
      rw [← same, answers] at first
      exact first
  · intro law
    constructor
    case used =>
      intro hooked
      obtain ⟨listed, member, uses⟩ := law.used hooked
      obtain ⟨entry, inside, rfl⟩ := List.mem_map.mp member
      exact ⟨entry, inside, uses⟩
    case found =>
      intro hooked entry inside uses
      refine ⟨_, byInodeTable?_own types inside uses, ?_⟩
      rw [answers]
      exact law.known hooked entry.listed (List.mem_map_of_mem inside) uses
    case freed =>
      intro unused
      apply (sound.kept.either (table.slot hook)).resolve_right
      intro hooked
      obtain ⟨listed, member, uses⟩ := law.used hooked
      obtain ⟨entry, inside, rfl⟩ := List.mem_map.mp member
      exact unused entry inside uses

/-- Whoever comes to a hook that keeps its law finds what was there at first. -/
theorem hookLaw_found {table : InodeTable} {hook : Hook} (inode : inodeHook hook)
    (law : HookLaw initial world.memory.content world.table.listing table hook)
    (hooked : world.memory.content (table.slot hook) = hook.addr) (fsType : String) :
    ∃ found, Table.byInodeTable? table fsType world.table.entries = some found ∧
      found.original hook = initial (table.slot hook) := by
  cases same : Table.byInodeTable? table fsType world.table.entries with
  | none =>
      obtain ⟨listed, member, uses⟩ := law.used hooked
      obtain ⟨entry, inside, rfl⟩ := List.mem_map.mp member
      exact absurd uses (byInodeTable?_none same entry inside)
  | some found =>
      obtain ⟨entry, inside, uses, saved⟩ := byInodeTable?_some same
      refine ⟨found, rfl, ?_⟩
      rw [← law.known hooked entry.listed (List.mem_map_of_mem inside) uses, saved]
      rcases inode with rfl | rfl | rfl <;> rfl

theorem atomicOpen_lawful (clean : Clean initial) (sound : Sound initial world)
    (table : InodeTable) : InodeLaw initial world table .atomicOpen := by
  have inode : inodeHook .atomicOpen := .inr (.inr rfl)
  have settled : ¬ lookupHook (table.slot .atomicOpen).hook := by simp [lookupHook]
  refine (inodeLaw_iff sound inode).mpr ⟨?_, ?_⟩
  · intro hooked
    obtain ⟨entry, inside, uses, _⟩ := hooked_wanted clean sound.kept _ settled hooked
    exact ⟨entry.listed, List.mem_map_of_mem inside, (uses_inode inode).mp uses⟩
  · intro _ listed member uses
    exact sound.kept.settled listed member _ settled ((uses_inode inode).mpr uses)

end Interception.Patch
