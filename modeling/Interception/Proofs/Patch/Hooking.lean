import Interception.Proofs.Patch.Listing

/-!
What putting an entry's hooks in and taking them out does to the slots. Each
hook of an entry is one stage of the installation; a stage touches the slot
of its own hook in the entry's own table and no other. Installing therefore
hooks exactly the slots the entry uses and wants hooked, and restoring puts
the saved addresses back in exactly those slots that nobody else uses.
-/

namespace Interception.Patch

open Change

/-! ### One stage for each hook -/

/-- The contents once an entry has one of its hooks put in. -/
def hookOne (saved : Saved) (hook : Hook) (content : Slot → Addr) : Slot → Addr := fun slot =>
  if slot.hook = hook ∧ saved.Uses slot ∧ saved.wants hook = true then slot.hook.addr
  else content slot

def hookAll (saved : Saved) (content : Slot → Addr) : Slot → Addr := fun slot =>
  if saved.Uses slot ∧ saved.wants slot.hook = true then slot.hook.addr else content slot

def stage (fsType : String) (saved : Saved) (hook : Hook) : Change Nat :=
  match saved.slot? hook with
  | none => pure 0
  | some slot =>
      if saved.wants hook then hookSlot fsType slot (saved.original hook) else pure 0

theorem slot?_hook {saved : Saved} {hook : Hook} {slot : Slot}
    (found : saved.slot? hook = some slot) : slot.hook = hook := by
  cases hook <;> obtain ⟨table, _, rfl⟩ := Option.map_eq_some_iff.mp found <;> rfl

theorem hookOne_slot {saved : Saved} {hook : Hook} {slot : Slot} (content : Slot → Addr)
    (found : saved.slot? hook = some slot) (wanted : saved.wants hook = true) :
    hookOne saved hook content = hookAt slot content := by
  funext other
  have own := slot?_hook found
  by_cases same : other = slot
  · subst same
    simp [hookOne, hookAt, own, Saved.Uses, found, wanted]
  · have unused : ¬ (other.hook = hook ∧ saved.Uses other ∧ saved.wants hook = true) := by
      rintro ⟨rfl, uses, _⟩
      exact same (Option.some.inj (uses.symm.trans found))
    simp [hookOne, hookAt, unused, same]

theorem hookOne_idle {saved : Saved} {hook : Hook} (content : Slot → Addr)
    (idle : saved.slot? hook = none ∨ saved.wants hook = false) :
    hookOne saved hook content = content := by
  funext other
  have unused : ¬ (other.hook = hook ∧ saved.Uses other ∧ saved.wants hook = true) := by
    rintro ⟨rfl, uses, wanted⟩
    rcases idle with missing | unwanted
    · simp [Saved.Uses, missing] at uses
    · simp [unwanted] at wanted
  simp [hookOne, unused]

/-- Every slot of the entry that is to be hooked can be. -/
def AllReady (saved : Saved) (content : Slot → Addr) : Prop :=
  ∀ slot, saved.Uses slot → saved.wants slot.hook = true →
    Ready content slot (saved.original slot.hook)

theorem allReady_hookOne {saved : Saved} {content : Slot → Addr} (hook : Hook)
    (ready : AllReady saved content) : AllReady saved (hookOne saved hook content) := by
  intro slot uses wanted
  by_cases touched : slot.hook = hook ∧ saved.Uses slot ∧ saved.wants hook = true
  · exact .inl (by rw [hookOne, if_pos touched])
  · have kept : hookOne saved hook content slot = content slot := by rw [hookOne, if_neg touched]
    unfold Ready
    rw [kept]
    exact ready slot uses wanted

theorem stage_on (fsType : String) {saved : Saved} (hook : Hook) {world : World}
    (ready : AllReady saved world.memory.content) :
    ∃ pokes later, on (stage fsType saved hook) world = (.ok pokes, later) ∧
      Poked world (hookOne saved hook world.memory.content) later := by
  cases found : saved.slot? hook with
  | none =>
      refine ⟨0, world, by simp [stage, found], ?_⟩
      rw [hookOne_idle _ (.inl found)]
      exact Poked.refl world
  | some slot =>
      by_cases wanted : saved.wants hook = true
      · have own := slot?_hook found
        subst own
        have hooked := hookSlot_ready fsType (ready slot found wanted)
        simpa [stage, found, wanted, hookOne_slot _ found wanted] using hooked
      · have unwanted : saved.wants hook = false := by simpa using wanted
        refine ⟨0, world, by simp [stage, found, unwanted], ?_⟩
        rw [hookOne_idle _ (.inr unwanted)]
        exact Poked.refl world

/-- Every slot of the entry that is to be hooked is hooked. -/
def AllHooked (saved : Saved) (content : Slot → Addr) : Prop :=
  ∀ slot, saved.Uses slot → saved.wants slot.hook = true → content slot = slot.hook.addr

/-- A stage whose hook is in place does nothing. -/
theorem stage_hooked (fsType : String) {saved : Saved} (hook : Hook) {world : World}
    (hooked : AllHooked saved world.memory.content) :
    on (stage fsType saved hook) world = (.ok 0, world) := by
  unfold stage
  split
  · rfl
  · next slot found =>
      split
      · next wanted =>
          have own := slot?_hook found
          subst own
          exact hookSlot_hooked fsType (saved.original slot.hook) (hooked slot found wanted)
      · rfl

/-! ### Installing -/

/-- The saved state of an entry whose hooks are in: without a file table it
asks for the lookup and create hooks. -/
def armed (saved : Saved) : Saved := { saved with lookupHooked := saved.fOps.isNone }

@[simp]
theorem armed_fOps (saved : Saved) : (armed saved).fOps = saved.fOps := rfl

@[simp]
theorem armed_iOps (saved : Saved) : (armed saved).iOps = saved.iOps := rfl

@[simp]
theorem armed_slot? (saved : Saved) (hook : Hook) : (armed saved).slot? hook = saved.slot? hook := by
  cases hook <;> rfl

@[simp]
theorem armed_uses (saved : Saved) (slot : Slot) : (armed saved).Uses slot ↔ saved.Uses slot := by
  simp [Saved.Uses]

@[simp]
theorem armed_original (saved : Saved) (hook : Hook) :
    (armed saved).original hook = saved.original hook := by
  cases hook <;> rfl

/-- Files are hooked stage by stage, and so are lookups. -/
theorem install_stages {entry : Entry} (inode : entry.saved.iOps.isSome = true) :
    install entry = (do
      let dentry ← stage entry.fsType (armed entry.saved) .revalidate
      let atomic ← stage entry.fsType (armed entry.saved) .atomicOpen
      if entry.saved.fOps.isSome then
        let opens ← stage entry.fsType (armed entry.saved) .openFile
        let releases ← stage entry.fsType (armed entry.saved) .release
        return dentry + atomic + opens + releases
      else
        let lookups ← stage entry.fsType (armed entry.saved) .lookup
        let creates ← stage entry.fsType (armed entry.saved) .create
        saveEntry entry.id (armed entry.saved)
        return dentry + atomic + lookups + creates) := by
  obtain ⟨iOps, inodes⟩ := Option.isSome_iff_exists.mp inode
  unfold install
  -- Which stages there are depends on the tables; which of them poke, on the addresses.
  cases dentries : entry.saved.dOps <;> cases files : entry.saved.fOps <;>
    by_cases valid : entry.saved.revalidate = Addr.null <;>
    by_cases atomic : entry.saved.atomicOpen = Addr.null <;>
    simp [stage, armed, Saved.slot?, Saved.wants, Saved.original, dentries, files, inodes, valid, atomic]

/-- The slots and the table have changed to these. -/
structure Written (world : World) (content : Slot → Addr) (table : Table) (later : World) :
    Prop where
  content : later.memory.content = content
  table : later.table = table
  isSealed : later.memory.isSealed = world.memory.isSealed

theorem Written.of_poked {world later : World} {content : Slot → Addr}
    (poked : Poked world content later) : Written world content world.table later :=
  ⟨poked.content, poked.table, poked.isSealed⟩

/-- The table in which an entry has what its hooks make of its saved state: what
asks for lookups is saved by the installation of their hooks. -/
def Table.arm (table : Table) (entry : Entry) : Table :=
  if entry.saved.fOps.isSome then table
  else table.update entry.id fun other => { other with saved := armed entry.saved }

@[simp]
theorem arm_nextId (table : Table) (entry : Entry) : (table.arm entry).nextId = table.nextId := by
  unfold Table.arm
  split <;> rfl

theorem listing_arm (table : Table) (entry : Entry) :
    (table.arm entry).listing = if entry.saved.fOps.isSome then table.listing
      else amend entry.id (armed entry.saved) table.listing := by
  unfold Table.arm
  split
  · rfl
  · exact listing_update_saved table entry.id (armed entry.saved)

/-- The slots and the listing have changed to these, and no number was given
out. -/
structure Turned (world : World) (content : Slot → Addr) (listing : List Listed)
    (later : World) : Prop where
  content : later.memory.content = content
  listing : later.table.listing = listing
  nextId : later.table.nextId = world.table.nextId
  isSealed : later.memory.isSealed = world.memory.isSealed

theorem Turned.refl (world : World) :
    Turned world world.memory.content world.table.listing world := ⟨rfl, rfl, rfl, rfl⟩

theorem Turned.of_eq {world later : World} (same : later = world) :
    Turned world world.memory.content world.table.listing later := same ▸ Turned.refl world

/-- What is written without giving out a number shows in the listing. -/
theorem Turned.of_written {world later : World} {content : Slot → Addr} {table : Table}
    (written : Written world content table later) (nextId : table.nextId = world.table.nextId) :
    Turned world content table.listing later :=
  ⟨written.content, by rw [written.table], by rw [written.table, nextId], written.isSealed⟩

theorem saveEntry_on (id : Nat) (saved : Saved) (world : World) :
    ∃ later, on (saveEntry id saved) world = (.ok (), later) ∧
      Turned world world.memory.content (amend id saved world.table.listing) later :=
  ⟨_, rfl, rfl, listing_update_saved world.table id saved, rfl, rfl⟩

theorem hookAll_files {saved : Saved} (content : Slot → Addr) (files : saved.fOps.isSome = true) :
    hookOne (armed saved) .release (hookOne (armed saved) .openFile
      (hookOne (armed saved) .atomicOpen (hookOne (armed saved) .revalidate content))) =
        hookAll (armed saved) content := by
  have unasked : (armed saved).lookupHooked = false := by
    simp [armed, Option.isNone_eq_false_iff.mpr files]
  funext slot
  rcases slot with ⟨table, name, hook⟩
  cases hook <;> simp [hookOne, hookAll, Saved.wants, unasked]

theorem hookAll_inodes {saved : Saved} (content : Slot → Addr) (files : saved.fOps = none) :
    hookOne (armed saved) .create (hookOne (armed saved) .lookup
      (hookOne (armed saved) .atomicOpen (hookOne (armed saved) .revalidate content))) =
        hookAll (armed saved) content := by
  funext slot
  rcases slot with ⟨table, name, hook⟩
  cases hook <;> simp [hookOne, hookAll, Saved.Uses, Saved.slot?, files]

/-- When every slot is ready the installation succeeds and hooks them all. -/
theorem install_ready {entry : Entry} {world : World} (inode : entry.saved.iOps.isSome = true)
    (ready : AllReady (armed entry.saved) world.memory.content) :
    ∃ pokes later, on (install entry) world = (.ok pokes, later) ∧
      Written world (hookAll (armed entry.saved) world.memory.content) (world.table.arm entry)
        later := by
  -- Each stage leaves the slots of the later ones ready.
  obtain ⟨dentry, first, ranFirst, afterFirst⟩ := stage_on entry.fsType .revalidate ready
  have readyFirst := afterFirst.content ▸ allReady_hookOne .revalidate ready
  obtain ⟨atomic, second, ranSecond, afterSecond⟩ := stage_on entry.fsType .atomicOpen readyFirst
  have readySecond := afterSecond.content ▸ allReady_hookOne .atomicOpen readyFirst
  rw [install_stages inode, on_bind_ok ranFirst, on_bind_ok ranSecond]
  by_cases files : entry.saved.fOps.isSome = true
  · obtain ⟨opens, third, ranThird, afterThird⟩ := stage_on entry.fsType .openFile readySecond
    have readyThird := afterThird.content ▸ allReady_hookOne .openFile readySecond
    obtain ⟨releases, last, ranLast, afterLast⟩ := stage_on entry.fsType .release readyThird
    have poked := ((afterFirst.trans afterSecond).trans afterThird).trans afterLast
    rw [afterThird.content, afterSecond.content, afterFirst.content, hookAll_files _ files] at poked
    refine ⟨_, last, by rw [if_pos files, on_bind_ok ranThird, on_bind_ok ranLast, on_pure], ?_⟩
    rw [Table.arm, if_pos files]
    exact Written.of_poked poked
  · have none : entry.saved.fOps = none := by simpa using files
    obtain ⟨lookups, third, ranThird, afterThird⟩ := stage_on entry.fsType .lookup readySecond
    have readyThird := afterThird.content ▸ allReady_hookOne .lookup readySecond
    obtain ⟨creates, fourth, ranFourth, afterFourth⟩ := stage_on entry.fsType .create readyThird
    have poked := ((afterFirst.trans afterSecond).trans afterThird).trans afterFourth
    rw [afterThird.content, afterSecond.content, afterFirst.content, hookAll_inodes _ none] at poked
    refine ⟨_, _, by rw [if_neg files, on_bind_ok ranThird, on_bind_ok ranFourth, saveEntry,
      on_modify_bind, on_pure], ?_⟩
    rw [Table.arm, if_neg files]
    exact ⟨poked.content, by rw [poked.table], poked.isSealed⟩

/-- With every hook in place the installation pokes nothing. -/
theorem install_hooked {entry : Entry} {world : World} (inode : entry.saved.iOps.isSome = true)
    (hooked : AllHooked (armed entry.saved) world.memory.content) :
    on (install entry) world = (.ok 0, { world with table := world.table.arm entry }) := by
  have idle (hook : Hook) := stage_hooked entry.fsType hook hooked
  rw [install_stages inode, on_bind_ok (idle .revalidate), on_bind_ok (idle .atomicOpen)]
  by_cases files : entry.saved.fOps.isSome = true
  · rw [if_pos files, on_bind_ok (idle .openFile), on_bind_ok (idle .release), on_pure, Table.arm,
      if_pos files]
  · rw [if_neg files, on_bind_ok (idle .lookup), on_bind_ok (idle .create), saveEntry,
      on_modify_bind, on_pure, Table.arm, if_neg files]

/-! ### Restoring -/

/-- Whether a hook is taken out for an entry: the entry uses the slot, no
sharer does, and an inode operation that was missing is not put back. -/
def Frees (sharers : List Saved) (saved : Saved) (slot : Slot) : Prop :=
  saved.Uses slot ∧ (∀ other ∈ sharers, ¬ other.Uses slot) ∧
    (inodeHook slot.hook → saved.original slot.hook ≠ Addr.null)

instance (sharers : List Saved) (saved : Saved) (slot : Slot) :
    Decidable (Frees sharers saved slot) :=
  inferInstanceAs (Decidable (_ ∧ _ ∧ _))

/-- The contents once an entry has one of its hooks taken out. -/
def freeOne (sharers : List Saved) (saved : Saved) (hook : Hook) (content : Slot → Addr) :
    Slot → Addr := fun slot =>
  if slot.hook = hook ∧ Frees sharers saved slot ∧ content slot = slot.hook.addr then
    saved.original hook
  else content slot

def freeAll (sharers : List Saved) (saved : Saved) (content : Slot → Addr) : Slot → Addr :=
  fun slot =>
    if Frees sharers saved slot ∧ content slot = slot.hook.addr then saved.original slot.hook
    else content slot

def unstage (sharers : List Saved) (saved : Saved) (hook : Hook) : Change Nat :=
  match saved.slot? hook with
  | none => pure 0
  | some slot =>
      if Frees sharers saved slot then unhookSlot slot (saved.original hook) else pure 0

theorem unstage_on (sharers : List Saved) (saved : Saved) (hook : Hook) (world : World) :
    ∃ pokes later, on (unstage sharers saved hook) world = (.ok pokes, later) ∧
      Poked world (freeOne sharers saved hook world.memory.content) later := by
  have idle (unfreed : ∀ slot, slot.hook = hook → ¬ Frees sharers saved slot) :
      freeOne sharers saved hook world.memory.content = world.memory.content := by
    funext slot
    by_cases own : slot.hook = hook
    · simp [freeOne, own, unfreed slot own]
    · simp [freeOne, own]
  cases found : saved.slot? hook with
  | none =>
      refine ⟨0, world, by simp [unstage, found], ?_⟩
      rw [idle]
      · exact Poked.refl world
      · rintro slot rfl frees
        simp [Frees, Saved.Uses, found] at frees
  | some slot =>
      have own := slot?_hook found
      subst own
      -- An entry uses one slot for each hook at most.
      have only (other : Slot) (same : other.hook = slot.hook) (uses : saved.Uses other) :
          other = slot := Option.some.inj (uses.symm.trans (same ▸ found))
      by_cases frees : Frees sharers saved slot
      · obtain ⟨pokes, later, ran, poked⟩ :=
          unhookSlot_on slot (saved.original slot.hook) world
        refine ⟨pokes, later, by simpa [unstage, found, frees] using ran, ?_⟩
        have same : freeOne sharers saved slot.hook world.memory.content =
            putBack slot (saved.original slot.hook) world.memory.content := by
          funext other
          by_cases equal : other = slot
          · subst equal
            simp [freeOne, putBack, frees]
          · have unfreed : ¬ (other.hook = slot.hook ∧ Frees sharers saved other ∧
                world.memory.content other = other.hook.addr) := by
              rintro ⟨hook, freed, -⟩
              exact equal (only other hook freed.1)
            simp [freeOne, putBack, unfreed, equal]
        rw [same]
        exact poked
      · refine ⟨0, world, by simp [unstage, found, frees], ?_⟩
        rw [idle]
        · exact Poked.refl world
        · intro other same freed
          exact frees (only other same freed.1 ▸ freed)

theorem frees_file (sharers : List Saved) {saved : Saved} {table : FileTable} {hook : Hook}
    (file : fileHook hook) (used : saved.fOps = some table) :
    Frees sharers saved (table.slot hook) ↔ sharers.any saved.sharesFile = false := by
  have class_ : ¬ inodeHook hook := by rcases file with rfl | rfl <;> simp [inodeHook]
  simp [Frees, uses_file file, used, class_, sharesFile_iff]

theorem frees_inode (sharers : List Saved) {saved : Saved} {table : InodeTable} {hook : Hook}
    (inode : inodeHook hook) (used : saved.iOps = some table) :
    Frees sharers saved (table.slot hook) ↔
      sharers.any saved.sharesInode = false ∧ saved.original hook ≠ Addr.null := by
  simp [Frees, uses_inode inode, used, inode, sharesInode_iff]

theorem frees_dentry (sharers : List Saved) {saved : Saved} {table : DentryTable}
    (used : saved.dOps = some table) :
    Frees sharers saved (table.slot .revalidate) ↔ sharers.any saved.sharesDentry = false := by
  simp [Frees, uses_dentry, used, inodeHook, sharesDentry_iff]

theorem restoreDentry_stages (sharers : List Saved) (saved : Saved) :
    restoreDentry sharers saved = unstage sharers saved .revalidate := by
  cases used : saved.dOps with
  | none => simp [restoreDentry, unstage, Saved.slot?, used]
  | some table =>
      by_cases shared : sharers.any saved.sharesDentry = true <;>
        simp [restoreDentry, unstage, Saved.slot?, used, frees_dentry sharers used, shared, Saved.original]

theorem restoreFile_stages (sharers : List Saved) (saved : Saved) :
    restoreFile sharers saved = (do
      let opens ← unstage sharers saved .openFile
      let releases ← unstage sharers saved .release
      return opens + releases) := by
  cases used : saved.fOps with
  | none => simp [restoreFile, unstage, Saved.slot?, used]
  | some table =>
      have opens := frees_file sharers (.inl rfl : fileHook .openFile) used
      have releases := frees_file sharers (.inr rfl : fileHook .release) used
      by_cases shared : sharers.any saved.sharesFile = true <;>
        simp [restoreFile, unstage, Saved.slot?, used, opens, releases, shared, Saved.original]

theorem restoreInode_stages (sharers : List Saved) (saved : Saved) :
    restoreInode sharers saved = (do
      let atomics ← unstage sharers saved .atomicOpen
      let lookups ← unstage sharers saved .lookup
      let creates ← unstage sharers saved .create
      return atomics + lookups + creates) := by
  cases used : saved.iOps with
  | none => simp [restoreInode, unstage, Saved.slot?, used]
  | some table =>
      have lookups := frees_inode sharers (.inl rfl : inodeHook .lookup) used
      have creates := frees_inode sharers (.inr (.inl rfl) : inodeHook .create) used
      have atomics := frees_inode sharers (.inr (.inr rfl) : inodeHook .atomicOpen) used
      by_cases shared : sharers.any saved.sharesInode = true
      · simp [restoreInode, unstage, Saved.slot?, used, lookups, creates, atomics, shared]
      · by_cases noAtomic : saved.atomicOpen = Addr.null <;>
          by_cases noLookup : saved.lookup = Addr.null <;>
          by_cases noCreate : saved.create = Addr.null <;>
          simp [restoreInode, unhookKnown, unstage, Saved.slot?, Saved.original, used, lookups,
            creates, atomics, shared, noAtomic, noLookup, noCreate]

theorem freeAll_stages (sharers : List Saved) (saved : Saved) (content : Slot → Addr) :
    freeOne sharers saved .create (freeOne sharers saved .lookup
      (freeOne sharers saved .atomicOpen (freeOne sharers saved .release
        (freeOne sharers saved .openFile (freeOne sharers saved .revalidate content))))) =
      freeAll sharers saved content := by
  funext slot
  rcases slot with ⟨table, name, hook⟩
  cases hook <;> simp [freeOne, freeAll]

/-- Restoring an entry with an inode table succeeds and frees exactly the
slots that nobody else uses. -/
theorem restoreEntry_on {entry : Entry} (world : World) (inode : entry.saved.iOps.isSome = true) :
    ∃ pokes later, on (restoreEntry entry) world = (.ok pokes, later) ∧
      Written world
        (freeAll (sharers entry.id world.table.listing) entry.saved world.memory.content)
        (world.table.update entry.id fun other => { other with installed := false }) later := by
  have others := others_listing world.table entry.id
  obtain ⟨dentry, first, ranFirst, afterFirst⟩ :=
    unstage_on (sharers entry.id world.table.listing) entry.saved .revalidate world
  obtain ⟨opens, second, ranSecond, afterSecond⟩ :=
    unstage_on (sharers entry.id world.table.listing) entry.saved .openFile first
  obtain ⟨releases, third, ranThird, afterThird⟩ :=
    unstage_on (sharers entry.id world.table.listing) entry.saved .release second
  obtain ⟨atomics, fourth, ranFourth, afterFourth⟩ :=
    unstage_on (sharers entry.id world.table.listing) entry.saved .atomicOpen third
  obtain ⟨lookups, fifth, ranFifth, afterFifth⟩ :=
    unstage_on (sharers entry.id world.table.listing) entry.saved .lookup fourth
  obtain ⟨creates, sixth, ranSixth, afterSixth⟩ :=
    unstage_on (sharers entry.id world.table.listing) entry.saved .create fifth
  have poked := ((((afterFirst.trans afterSecond).trans afterThird).trans afterFourth).trans
    afterFifth).trans afterSixth
  rw [afterFifth.content, afterFourth.content, afterThird.content, afterSecond.content,
    afterFirst.content, freeAll_stages] at poked
  have present : ¬ (entry.saved.fOps.isNone = true ∧ entry.saved.iOps.isNone = true) := by
    intro missing
    simp [Option.isNone_iff_eq_none.mp missing.2] at inode
  refine ⟨dentry + (opens + releases) + (atomics + lookups + creates),
    { sixth with table := sixth.table.update entry.id fun entry => { entry with installed := false } },
    ?_, ?_⟩
  · simp only [restoreEntry, on_get_bind, others, restoreDentry_stages, restoreFile_stages,
      restoreInode_stages, on_bind_ok ranFirst, if_neg present, bind_assoc, pure_bind,
      on_bind_ok ranSecond, on_bind_ok ranThird, on_bind_ok ranFourth, on_bind_ok ranFifth,
      on_bind_ok ranSixth, on_modify_bind, on_pure]
  · exact ⟨poked.content, by rw [poked.table], poked.isSealed⟩

end Interception.Patch
