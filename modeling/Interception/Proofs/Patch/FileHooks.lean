import Interception.Proofs.Patch.Replaying

/-!
The hooks in file and dentry tables. They are in place exactly while an entry
uses the table; whoever looks the table up then finds the address that was
there at first, and without an entry that address is there again.
-/

namespace Interception.Patch

structure FileLaw (initial : Slot → Addr) (world : World) (table : FileTable) : Prop where
  hooked : ∀ hook, fileHook hook → (world.memory.content (table.slot hook) = hook.addr ↔
    ∃ entry ∈ world.table.entries, entry.saved.fOps = some table)
  found : ∀ hook, fileHook hook → world.memory.content (table.slot hook) = hook.addr →
    ∃ entry, world.table.byFileTable? table = some entry ∧ entry.acquire.isSome = true ∧
      entry.saved.original hook = initial (table.slot hook)
  unhooked : ∀ hook, fileHook hook → world.memory.content (table.slot hook) ≠ hook.addr →
    world.memory.content (table.slot hook) = initial (table.slot hook)

/-- A lookup by type answers with an entry of that type or, failing that, with
what another entry saved. -/
structure DentryLaw (initial : Slot → Addr) (world : World) (table : DentryTable) : Prop where
  hooked : initial (table.slot .revalidate) ≠ Addr.null →
    (world.memory.content (table.slot .revalidate) = Hook.revalidate.addr ↔
      ∃ entry ∈ world.table.entries, entry.saved.dOps = some table)
  found : world.memory.content (table.slot .revalidate) = Hook.revalidate.addr →
    ∀ fsType, ∃ found, Table.byDentryTable? table fsType world.table.entries = some found ∧
      found.revalidate = initial (table.slot .revalidate)
  unhooked : world.memory.content (table.slot .revalidate) ≠ Hook.revalidate.addr →
    world.memory.content (table.slot .revalidate) = initial (table.slot .revalidate)

variable {initial : Slot → Addr} {world : World}

/-- A hook outside lookups stands for an entry that wants it there. -/
theorem hooked_wanted (clean : Clean initial)
    (kept : Kept initial world.memory.content world.table.listing) (slot : Slot)
    (settled : ¬ lookupHook slot.hook) (hooked : world.memory.content slot = slot.hook.addr) :
    ∃ entry ∈ world.table.entries, entry.saved.Uses slot ∧ entry.saved.wants slot.hook = true := by
  apply Decidable.byContradiction
  intro nobody
  have idle : world.memory.content slot = initial slot := by
    apply kept.idle slot settled
    intro listed member used
    obtain ⟨entry, inside, rfl⟩ := List.mem_map.mp member
    cases wanted : entry.listed.saved.wants slot.hook with
    | false => rfl
    | true => exact absurd ⟨entry, inside, used, wanted⟩ nobody
  exact clean slot (idle.symm.trans hooked)

theorem entry_settled (kept : Kept initial world.memory.content world.table.listing) {entry : Entry}
    (inside : entry ∈ world.table.entries) (slot : Slot) (settled : ¬ lookupHook slot.hook)
    (used : entry.saved.Uses slot) : entry.saved.original slot.hook = initial slot :=
  kept.settled entry.listed (List.mem_map_of_mem inside) slot settled used

theorem entry_hooked (kept : Kept initial world.memory.content world.table.listing) {entry : Entry}
    (inside : entry ∈ world.table.entries) (slot : Slot) (used : entry.saved.Uses slot)
    (wanted : entry.saved.wants slot.hook = true) :
    world.memory.content slot = slot.hook.addr :=
  kept.hooked entry.listed (List.mem_map_of_mem inside) slot used wanted

theorem fileHook_settled {hook : Hook} (file : fileHook hook) : ¬ lookupHook hook :=
  fun lookup => lookup_not_file lookup file

theorem fileLaw_kept (clean : Clean initial)
    (kept : Kept initial world.memory.content world.table.listing) (table : FileTable) :
    FileLaw initial world table := by
  have used (hook : Hook) (file : fileHook hook) :
      world.memory.content (table.slot hook) = hook.addr ↔
        ∃ entry ∈ world.table.entries, entry.saved.fOps = some table := by
    constructor
    · intro hooked
      obtain ⟨entry, inside, uses, _⟩ :=
        hooked_wanted clean kept (table.slot hook) (fileHook_settled file) hooked
      exact ⟨entry, inside, (uses_file file).mp uses⟩
    · rintro ⟨entry, inside, uses⟩
      apply entry_hooked kept inside (table.slot hook) ((uses_file file).mpr uses)
      rcases file with rfl | rfl <;> rfl
  refine ⟨used, ?_, ?_⟩
  · intro hook file hooked
    obtain ⟨user, inside, uses⟩ := (used hook file).mp hooked
    cases found : world.table.byFileTable? table with
    | none =>
        have missed := List.find?_eq_none.mp found user inside
        simp [uses] at missed
    | some entry =>
        have member := List.mem_of_find?_eq_some found
        have theirs : entry.saved.fOps = some table := by simpa using List.find?_some found
        have live := kept.live entry.listed (List.mem_map_of_mem member)
        refine ⟨entry, rfl, ?_, ?_⟩
        · have unretired : entry.retired = false := live
          simp [Entry.acquire, unretired]
        · exact entry_settled kept member (table.slot hook) (fileHook_settled file)
            ((uses_file file).mpr theirs)
  · intro hook file unhooked
    exact (kept.either (table.slot hook)).resolve_right unhooked

/-- A lookup by dentry table finds what some user of the table has saved. -/
theorem byDentryTable?_some {table : DentryTable} {fsType : String} {entries : List Entry}
    {found : Table.DentryMatch} (same : Table.byDentryTable? table fsType entries = some found) :
    ∃ entry ∈ entries, entry.saved.dOps = some table ∧
      found.revalidate = entry.saved.revalidate := by
  induction entries generalizing found with
  | nil => simp [Table.byDentryTable?] at same
  | cons first rest rest_some =>
      have further (later : Table.byDentryTable? table fsType rest = some found) :
          ∃ entry ∈ first :: rest, entry.saved.dOps = some table ∧
            found.revalidate = entry.saved.revalidate := by
        obtain ⟨entry, inside, uses, saved⟩ := rest_some later
        exact ⟨entry, List.mem_cons_of_mem first inside, uses, saved⟩
      unfold Table.byDentryTable? at same
      split at same
      · rename_i own
        split at same
        · obtain rfl := Option.some.inj same
          exact ⟨first, by simp, own, rfl⟩
        · split at same
          · rename_i later
            exact further (later.trans same)
          · obtain rfl := Option.some.inj same
            exact ⟨first, by simp, own, rfl⟩
      · exact further same

theorem byDentryTable?_none {table : DentryTable} {fsType : String} {entries : List Entry}
    (missed : Table.byDentryTable? table fsType entries = none) :
    ∀ entry ∈ entries, entry.saved.dOps ≠ some table := by
  induction entries with
  | nil => simp
  | cons first rest rest_none =>
      unfold Table.byDentryTable? at missed
      split at missed
      · split at missed
        · cases missed
        · split at missed <;> cases missed
      · rename_i other
        intro entry inside
        rcases List.mem_cons.mp inside with rfl | later
        · exact other
        · exact rest_none missed entry later

/-- Only an entry of the very type is named. -/
theorem byDentryTable?_entry {table : DentryTable} {fsType : String} {entries : List Entry}
    {found : Table.DentryMatch} (same : Table.byDentryTable? table fsType entries = some found)
    {id : Nat} (named : found.entry = some id) :
    ∃ entry ∈ entries, entry.id = id ∧ entry.fsType = fsType := by
  induction entries generalizing found with
  | nil => simp [Table.byDentryTable?] at same
  | cons first rest rest_entry =>
      have further (later : Table.byDentryTable? table fsType rest = some found) :
          ∃ entry ∈ first :: rest, entry.id = id ∧ entry.fsType = fsType := by
        obtain ⟨entry, inside, own⟩ := rest_entry later named
        exact ⟨entry, List.mem_cons_of_mem first inside, own⟩
      unfold Table.byDentryTable? at same
      split at same
      · split at same
        · rename_i type
          obtain rfl := Option.some.inj same
          exact ⟨first, by simp, Option.some.inj named, type⟩
        · split at same
          · rename_i later
            exact further (later.trans same)
          · obtain rfl := Option.some.inj same
            cases named
      · exact further same

theorem dentryLaw_kept (clean : Clean initial)
    (kept : Kept initial world.memory.content world.table.listing) (table : DentryTable) :
    DentryLaw initial world table := by
  have settled : ¬ lookupHook (table.slot .revalidate).hook := by simp [lookupHook]
  have user (hooked : world.memory.content (table.slot .revalidate) = Hook.revalidate.addr) :
      ∃ entry ∈ world.table.entries, entry.saved.dOps = some table := by
    obtain ⟨entry, inside, uses, _⟩ := hooked_wanted clean kept _ settled hooked
    exact ⟨entry, inside, uses_dentry.mp uses⟩
  constructor
  case hooked =>
    intro present
    refine ⟨user, ?_⟩
    rintro ⟨entry, inside, uses⟩
    have saved := entry_settled kept inside _ settled (uses_dentry.mpr uses)
    apply entry_hooked kept inside _ (uses_dentry.mpr uses)
    rw [← saved] at present
    simpa [Saved.wants, Saved.original] using present
  case found =>
    intro hooked fsType
    obtain ⟨entry, inside, uses⟩ := user hooked
    cases same : Table.byDentryTable? table fsType world.table.entries with
    | none => exact absurd uses (byDentryTable?_none same entry inside)
    | some found =>
        obtain ⟨other, member, theirs, saved⟩ := byDentryTable?_some same
        refine ⟨found, rfl, saved.trans ?_⟩
        exact entry_settled kept member _ settled (uses_dentry.mpr theirs)
  case unhooked =>
    intro unhooked
    exact (kept.either (table.slot .revalidate)).resolve_right unhooked

end Interception.Patch
