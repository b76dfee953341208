import Interception.Proofs.Patch.Hooking

/-!
What repatching an entry does. Moving it up to file operations takes its
lookup hooks out unless a sharer asks for them too, saves the addresses of
the file table from a sharer or from the slots, and hooks the file table.
-/

namespace Interception.Patch

open Change

/-! ### Dropping the lookup hooks -/

def lookupHook (hook : Hook) : Prop := hook = .lookup ∨ hook = .create

instance : DecidablePred lookupHook := fun hook =>
  inferInstanceAs (Decidable (hook = .lookup ∨ hook = .create))

theorem lookupHook_inode {hook : Hook} (lookup : lookupHook hook) : inodeHook hook := by
  rcases lookup with rfl | rfl
  · exact .inl rfl
  · exact .inr (.inl rfl)

/-- Whether a slot loses its hook when an entry stops asking for lookups. -/
def Drops (sharers : List Saved) (saved : Saved) (slot : Slot) : Prop :=
  lookupHook slot.hook ∧ saved.Uses slot ∧
    ∀ other ∈ sharers, other.Uses slot → other.lookupHooked = false

instance (sharers : List Saved) (saved : Saved) (slot : Slot) :
    Decidable (Drops sharers saved slot) :=
  inferInstanceAs (Decidable (_ ∧ _ ∧ _))

def dropAll (sharers : List Saved) (saved : Saved) (content : Slot → Addr) : Slot → Addr :=
  fun slot =>
    if Drops sharers saved slot ∧ content slot = slot.hook.addr then saved.original slot.hook
    else content slot

theorem drops_table {sharers : List Saved} {saved : Saved} {table : InodeTable} {hook : Hook}
    (lookup : lookupHook hook) (used : saved.iOps = some table) :
    Drops sharers saved (table.slot hook) ↔
      (sharers.any fun other => saved.sharesInode other && other.lookupHooked) = false := by
  have inode := lookupHook_inode lookup
  simp only [Drops, inodeTable_slot_hook, lookup, uses_inode inode, used, true_and,
    List.any_eq_false, Bool.and_eq_true, sharesInode_iff, Option.some.injEq, exists_eq_left',
    not_and, Bool.not_eq_true]

theorem dropAll_nothing {sharers : List Saved} {saved : Saved} {content : Slot → Addr}
    (kept : ∀ slot, ¬ Drops sharers saved slot) : dropAll sharers saved content = content := by
  funext slot
  simp [dropAll, kept slot]

/-- Of a table without a sharer that asks for lookups the two slots are put back.
They are different, so each is by its own turn. -/
theorem dropAll_putBack {sharers : List Saved} {saved : Saved} {table : InodeTable}
    (used : saved.iOps = some table)
    (unshared : (sharers.any fun other => saved.sharesInode other && other.lookupHooked) = false)
    (content : Slot → Addr) :
    dropAll sharers saved content =
      putBack (table.slot .create) saved.create
        (putBack (table.slot .lookup) saved.lookup content) := by
  funext slot
  by_cases lookup : slot = table.slot .lookup
  · have drops := (drops_table (.inl rfl : lookupHook .lookup) used).mpr unshared
    have different : table.slot .lookup ≠ table.slot .create := by simp [InodeTable.slot]
    simp [lookup, dropAll, drops, putBack, different, Saved.original]
  · by_cases create : slot = table.slot .create
    · have drops := (drops_table (.inr rfl : lookupHook .create) used).mpr unshared
      have different : table.slot .create ≠ table.slot .lookup := by simp [InodeTable.slot]
      simp [create, dropAll, drops, putBack, different, Saved.original]
    · have kept : ¬ Drops sharers saved slot := by
        rintro ⟨hook, uses, _⟩
        obtain ⟨own, uses, equal⟩ := uses_inode_table (lookupHook_inode hook) uses
        have same : own = table := Option.some.inj (uses.symm.trans used)
        rcases hook with hook | hook
        · exact lookup (by rw [equal, hook, same])
        · exact create (by rw [equal, hook, same])
      simp [dropAll, kept, putBack, lookup, create]

theorem dropLookupHooks_on (sharers : List Saved) (saved : Saved) (world : World) :
    ∃ pokes later, on (dropLookupHooks sharers saved) world = (.ok pokes, later) ∧
      Poked world (dropAll sharers saved world.memory.content) later := by
  by_cases shared : (sharers.any fun other => saved.sharesInode other && other.lookupHooked) = true
  · refine ⟨0, world, by simp only [dropLookupHooks, shared, if_true, on_pure], ?_⟩
    rw [dropAll_nothing]
    · exact Poked.refl world
    · intro slot drops
      obtain ⟨table, used, same⟩ := uses_inode_table (lookupHook_inode drops.1) drops.2.1
      rw [same] at drops
      have unshared := (drops_table (by simpa using drops.1) used).mp drops
      simp [shared] at unshared
  · have unshared : (sharers.any fun other => saved.sharesInode other && other.lookupHooked) = false := by
      simpa using shared
    cases used : saved.iOps with
    | none =>
        refine ⟨0, world, by simp only [dropLookupHooks, unshared, used, Bool.false_eq_true,
          if_false, on_pure], ?_⟩
        rw [dropAll_nothing]
        · exact Poked.refl world
        · intro slot drops
          obtain ⟨table, uses, _⟩ := uses_inode_table (lookupHook_inode drops.1) drops.2.1
          simp [used] at uses
    | some table =>
        obtain ⟨lookups, first, ranFirst, afterFirst⟩ :=
          unhookSlot_on (table.slot .lookup) saved.lookup world
        obtain ⟨creates, last, ranLast, afterLast⟩ :=
          unhookSlot_on (table.slot .create) saved.create first
        refine ⟨lookups + creates, last, ?_, ?_⟩
        · simp only [dropLookupHooks, unshared, used, Bool.false_eq_true, if_false,
            on_bind_ok ranFirst, on_bind_ok ranLast, on_pure]
        · rw [dropAll_putBack used unshared, ← afterFirst.content]
          exact afterFirst.trans afterLast

/-! ### Saved addresses of a file table -/

/-- The two addresses come from a sharer of the file table if there is one,
and from the slots otherwise. -/
def FileSource (sharers : List Saved) (content : Slot → Addr) (table : FileTable)
    (opens releases : Addr) : Prop :=
  (∃ other ∈ sharers, other.fOps = some table ∧
      other.openFile = opens ∧ other.release = releases) ∨
    ((∀ other ∈ sharers, other.fOps ≠ some table) ∧
      content (table.slot .openFile) = opens ∧ content (table.slot .release) = releases)

theorem recordFile_source (sharers : List Saved) (saved : Saved) {table : FileTable}
    (memory : Memory) (used : saved.fOps = some table) :
    ∃ opens releases, recordFile sharers saved table memory =
        { saved with openFile := opens, release := releases } ∧
      FileSource sharers memory.content table opens releases := by
  cases found : sharers.find? saved.sharesFile with
  | none =>
      have alone : ∀ other ∈ sharers, other.fOps ≠ some table := by
        intro other member theirs
        exact List.find?_eq_none.mp found other member (sharesFile_iff.mpr ⟨table, used, theirs⟩)
      exact ⟨_, _, by rw [recordFile, found], .inr ⟨alone, rfl, rfl⟩⟩
  | some sharer =>
      obtain ⟨common, own, theirs⟩ := sharesFile_iff.mp (List.find?_some found)
      have equal : common = table := Option.some.inj (own.symm.trans used)
      exact ⟨_, _, by rw [recordFile, found],
        .inl ⟨sharer, List.mem_of_find?_eq_some found, equal ▸ theirs, rfl, rfl⟩⟩

/-! ### Moving up to file operations -/

/-- The saved state of an entry that has moved up to a file table. -/
def promoted (saved : Saved) (table : FileTable) (opens releases : Addr) : Saved :=
  { saved with
    fOps := some table, openFile := opens, release := releases, lookupHooked := false }

/-- The contents once an entry has moved up to a file table. -/
def promoteAll (sharers : List Saved) (saved : Saved) (table : FileTable)
    (content : Slot → Addr) : Slot → Addr :=
  hookAt (table.slot .release) (hookAt (table.slot .openFile) (dropAll sharers saved content))

theorem dropAll_file {sharers : List Saved} {saved : Saved} {content : Slot → Addr}
    {slot : Slot} (settled : ¬ lookupHook slot.hook) :
    dropAll sharers saved content slot = content slot := by
  simp [dropAll, Drops, settled]

/-- An entry that asks for lookups moves up when the file slots are ready and
what is saved for them is no hook. -/
theorem repatchFile_ready {sharers : List Saved} {entry : Entry} {table : FileTable}
    {world : World} (asked : entry.saved.lookupHooked = true)
    (ready : ∀ opens releases, FileSource sharers world.memory.content table opens releases →
      opens ≠ Hook.openFile.addr ∧ releases ≠ Hook.release.addr ∧
        Ready world.memory.content (table.slot .openFile) opens ∧
        Ready world.memory.content (table.slot .release) releases) :
    ∃ opens releases pokes later,
      FileSource sharers world.memory.content table opens releases ∧
      on (repatchFile sharers entry table) world = (.ok pokes, later) ∧
      Turned world (promoteAll sharers entry.saved table world.memory.content)
        (amend entry.id (promoted entry.saved table opens releases) world.table.listing) later := by
  obtain ⟨dropped, first, ranFirst, afterFirst⟩ := dropLookupHooks_on sharers entry.saved world
  obtain ⟨opens, releases, recorded, source⟩ := recordFile_source sharers
    { entry.saved with fOps := some table, lookupHooked := false } first.memory rfl
  -- Dropping lookup hooks does not reach the file table.
  have openKept : first.memory.content (table.slot .openFile) =
      world.memory.content (table.slot .openFile) := by
    rw [afterFirst.content, dropAll_file (by simp [lookupHook])]
  have releaseKept : first.memory.content (table.slot .release) =
      world.memory.content (table.slot .release) := by
    rw [afterFirst.content, dropAll_file (by simp [lookupHook])]
  have sourceBefore : FileSource sharers world.memory.content table opens releases := by
    simpa only [FileSource, openKept, releaseKept] using source
  obtain ⟨openGenuine, releaseGenuine, openReady, releaseReady⟩ := ready opens releases sourceBefore
  obtain ⟨second, ranSecond, afterSecond⟩ :=
    saveEntry_on entry.id (promoted entry.saved table opens releases) first
  have openThere : Ready second.memory.content (table.slot .openFile) opens := by
    simpa only [Ready, afterSecond.content, openKept] using openReady
  obtain ⟨openPokes, third, ranThird, afterThird⟩ := hookSlot_ready entry.fsType openThere
  have releaseThere : Ready third.memory.content (table.slot .release) releases := by
    rw [afterThird.content]
    apply ready_hookAt
    simpa only [Ready, afterSecond.content, releaseKept] using releaseReady
  obtain ⟨releasePokes, last, ranLast, afterLast⟩ := hookSlot_ready entry.fsType releaseThere
  refine ⟨opens, releases, dropped + openPokes + releasePokes, last, sourceBefore, ?_, ?_⟩
  · have unhooked : ¬ (opens = Hook.openFile.addr ∨ releases = Hook.release.addr) :=
      not_or.mpr ⟨openGenuine, releaseGenuine⟩
    simp only [repatchFile, asked, if_true, on_bind_ok ranFirst, on_get_bind, recorded,
      if_neg unhooked]
    rw [promoted] at ranSecond
    simp only [on_bind_ok ranSecond, on_bind_ok ranThird, on_bind_ok ranLast, on_pure]
  · have poked := afterThird.trans afterLast
    rw [afterThird.content, afterSecond.content, afterFirst.content] at poked
    refine ⟨poked.content, ?_, ?_, ?_⟩
    · rw [poked.table, afterSecond.listing, afterFirst.table]
    · rw [poked.table, afterSecond.nextId, afterFirst.table]
    · rw [poked.isSealed, afterSecond.isSealed, afterFirst.isSealed]

/-! ### Making sure of the lookup hooks -/

/-- What an entry on inode operations has saved after a repatch: addresses
that were missing are read from the slots again. -/
def reread (saved : Saved) (table : InodeTable) (content : Slot → Addr) : Saved :=
  if saved.lookup = Addr.null then
    { saved with
      lookup := content (table.slot .lookup), create := content (table.slot .create) }
  else saved

theorem repatchInode_reread {entry : Entry} {table : InodeTable} (world : World)
    (used : entry.saved.iOps = some table) :
    on (repatchInode entry) world = on (do
      saveEntry entry.id (reread entry.saved table world.memory.content)
      let lookups ← hookSlot entry.fsType (table.slot .lookup)
        (reread entry.saved table world.memory.content).lookup
      let creates ← hookSlot entry.fsType (table.slot .create)
        (reread entry.saved table world.memory.content).create
      saveEntry entry.id
        { reread entry.saved table world.memory.content with lookupHooked := true }
      return lookups + creates) world := by
  simp only [repatchInode, used, on_get_bind, reread]

/-- With the lookup hooks in place nothing is poked. -/
theorem repatchInode_hooked {entry : Entry} {table : InodeTable} {world : World}
    (used : entry.saved.iOps = some table) (asked : entry.saved.lookupHooked = true)
    (lookup : world.memory.content (table.slot .lookup) = Hook.lookup.addr)
    (create : world.memory.content (table.slot .create) = Hook.create.addr) :
    ∃ pokes later, on (repatchInode entry) world = (.ok pokes, later) ∧
      Turned world world.memory.content
        (amend entry.id (reread entry.saved table world.memory.content) world.table.listing)
        later := by
  have again : { reread entry.saved table world.memory.content with lookupHooked := true } =
      reread entry.saved table world.memory.content := by
    by_cases missing : entry.saved.lookup = Addr.null <;> simp [reread, missing, ← asked]
  obtain ⟨first, ranFirst, afterFirst⟩ :=
    saveEntry_on entry.id (reread entry.saved table world.memory.content) world
  -- A slot that holds its hook is ready whatever is saved for it.
  have lookupThere (genuine : Addr) : Ready first.memory.content (table.slot .lookup) genuine :=
    .inl (by rw [afterFirst.content, lookup]; rfl)
  obtain ⟨lookups, second, ranSecond, afterSecond⟩ :=
    hookSlot_ready entry.fsType (lookupThere (reread entry.saved table world.memory.content).lookup)
  have createThere (genuine : Addr) : Ready second.memory.content (table.slot .create) genuine := by
    rw [afterSecond.content]
    exact ready_hookAt _ (.inl (by rw [afterFirst.content, create]; rfl))
  obtain ⟨creates, third, ranThird, afterThird⟩ :=
    hookSlot_ready entry.fsType (createThere (reread entry.saved table world.memory.content).create)
  obtain ⟨last, ranLast, afterLast⟩ :=
    saveEntry_on entry.id (reread entry.saved table world.memory.content) third
  have kept : third.memory.content = world.memory.content := by
    rw [afterThird.content, afterSecond.content, afterFirst.content, hookAt_hooked lookup,
      hookAt_hooked create]
  refine ⟨lookups + creates, last, ?_, ?_⟩
  · rw [repatchInode_reread world used, on_bind_ok ranFirst, on_bind_ok ranSecond,
      on_bind_ok ranThird, again, on_bind_ok ranLast, on_pure]
  · refine ⟨by rw [afterLast.content, kept], ?_, ?_, ?_⟩
    · rw [afterLast.listing, afterThird.table, afterSecond.table, afterFirst.listing, amend_amend]
    · rw [afterLast.nextId, afterThird.table, afterSecond.table, afterFirst.nextId]
    · rw [afterLast.isSealed, afterThird.isSealed, afterSecond.isSealed, afterFirst.isSealed]

end Interception.Patch
