import Interception.Proofs.Patch.Flagging
import Interception.Proofs.Patch.Recording

/-!
What the patch table stands for, between any two steps of a run: each type has
one entry, the entry has on record what its slots held at first and never one
of our own hooks, the hooks its kind calls for are in place, and its state
says whether it shares a table. An entry goes up to file operations and never
back.
-/

namespace Interception.Patch

open Change

variable {initial : Slot → Addr} {world later : World}

/-! ### The specification -/

/-- Whether the address of an operation was recorded. Lookups and creations are
recorded at inode operations; an entry that went to file operations at once
has none of them. -/
def Saved.Records (saved : Saved) (hook : Hook) : Prop :=
  lookupHook hook → saved.kind = .inodeOps ∨ saved.original hook ≠ Addr.null

/-- The hooks that belong to a kind, in the tables that are there. -/
def Kind.CallsFor (kind : Kind) : Hook → Prop
  | .openFile | .release => kind = .fileOps
  | .lookup | .create => kind = .inodeOps
  | .atomicOpen | .revalidate => True

/-- The operations that a table may lack; a missing one is not hooked. -/
def optionalHook (hook : Hook) : Prop := hook = .atomicOpen ∨ hook = .revalidate

/-- Whether two entries use a common file, inode or dentry table. -/
def Saved.HasTableOf (saved other : Saved) : Prop :=
  (∃ table, saved.fOps = some table ∧ other.fOps = some table) ∨
    (∃ table, saved.iOps = some table ∧ other.iOps = some table) ∨
      ∃ table, saved.dOps = some table ∧ other.dOps = some table

/-- Whether an entry has a table in common with another one of the list. -/
def SharesIn (entries : List Entry) (entry : Entry) : Prop :=
  ∃ other ∈ entries, other ≠ entry ∧ entry.saved.HasTableOf other.saved

structure Represents (initial : Slot → Addr) (world : World) : Prop where
  types : (world.table.entries.map (·.fsType)).Nodup
  originals : ∀ entry ∈ world.table.entries, ∀ slot : Slot, entry.saved.Uses slot →
    entry.saved.Records slot.hook → entry.saved.original slot.hook = initial slot
  genuine : ∀ entry ∈ world.table.entries, ∀ hook own : Hook,
    entry.saved.original hook ≠ own.addr
  hooked : ∀ entry ∈ world.table.entries, ∀ slot : Slot, entry.saved.Uses slot →
    entry.saved.kind.CallsFor slot.hook → (optionalHook slot.hook → initial slot ≠ Addr.null) →
      world.memory.content slot = slot.hook.addr
  reinstalls : ∀ fsType, world.table.contains fsType = true →
    ∃ later, on (reinstall fsType) world = (.ok 0, later) ∧ later.memory = world.memory ∧
      later.table.entries = world.table.entries
  shared : ∀ entry ∈ world.table.entries,
    entry.state = .shared entry.saved.kind ↔ SharesIn world.table.entries entry
  patched : ∀ entry ∈ world.table.entries,
    entry.state = .patched entry.saved.kind ↔ ¬ SharesIn world.table.entries entry

/-! ### What every step keeps -/

structure Consistent (initial : Slot → Addr) (world : World) : Prop where
  sound : Sound initial world
  onRecord : OnRecord initial world.table.listing
  flagged : Flagged world.table.entries
  writable : world.memory.isSealed = false

theorem consistent_start {memory : Memory} (writable : memory.isSealed = false) :
    Consistent memory.content (World.start memory) :=
  ⟨sound_start memory, fun _ member => (nomatch member), flagged_nil, writable⟩

theorem turn_isSealed {step : Step} (turn : Turn initial step world later) :
    later.memory.isSealed = world.memory.isSealed := by
  cases turn with
  | still turned => exact turned.isSealed
  | repatched member repatched =>
      cases repatched with
      | settled filed turned => exact turned.isSealed
      | promoted unfiled turned => exact turned.isSealed
      | reread unfiled used turned => exact turned.isSealed
  | installed same fresh installed => exact installed.isSealed
  | left leaves member left => exact left.isSealed

theorem consistent_apply (clean : Clean initial) (consistent : Consistent initial world)
    {step : Step} (furnished : step.Furnished initial) :
    Consistent initial (step.apply world) := by
  have turn := apply_turns clean consistent.sound consistent.writable step
  exact ⟨sound_turn consistent.sound turn,
    onRecord_turn consistent.sound consistent.onRecord furnished turn,
    flagged_apply clean consistent.flagged consistent.sound consistent.writable step,
    (turn_isSealed turn).trans consistent.writable⟩

theorem consistent_replay (clean : Clean initial) (steps : List Step) :
    ∀ world, Consistent initial world → (∀ step ∈ steps, step.Furnished initial) →
      Consistent initial (replay steps world) := by
  induction steps with
  | nil => exact fun world consistent _ => consistent
  | cons step rest rest_consistent =>
      intro world consistent furnished
      exact rest_consistent (step.apply world)
        (consistent_apply clean consistent (furnished step (by simp)))
        fun other inside => furnished other (List.mem_cons_of_mem step inside)

/-! ### What a consistent table represents -/

theorem kind_fileOps {saved : Saved} : saved.kind = .fileOps ↔ saved.fOps ≠ none := by
  cases files : saved.fOps <;> simp [Saved.kind, files]

theorem kind_inodeOps {saved : Saved} : saved.kind = .inodeOps ↔ saved.fOps = none := by
  cases files : saved.fOps <;> simp [Saved.kind, files]

theorem listed_entry {entry : Entry} (inside : entry ∈ world.table.entries) :
    entry.listed ∈ world.table.listing := List.mem_map_of_mem inside

theorem originals_consistent (consistent : Consistent initial world) {entry : Entry}
    (inside : entry ∈ world.table.entries) {slot : Slot} (used : entry.saved.Uses slot)
    (records : entry.saved.Records slot.hook) : entry.saved.original slot.hook = initial slot := by
  have member := listed_entry inside
  by_cases lookup : lookupHook slot.hook
  · apply ((consistent.onRecord _ member).lookups slot lookup used).resolve_right
    rintro ⟨missing, filed⟩
    rcases records lookup with unfiled | there
    · exact filed (kind_inodeOps.mp unfiled)
    · exact there missing
  · exact consistent.sound.kept.settled _ member slot lookup used

/-- What is not recorded is null, and null is no hook. -/
theorem genuine_consistent (genuine : ∀ slot (hook : Hook), initial slot ≠ hook.addr)
    (consistent : Consistent initial world) {entry : Entry}
    (inside : entry ∈ world.table.entries) (hook own : Hook) :
    entry.saved.original hook ≠ own.addr := by
  have nobody : Addr.null ≠ own.addr := by cases own <;> decide
  have recorded : Recorded initial entry.saved := consistent.onRecord _ (listed_entry inside)
  cases found : entry.saved.slot? hook with
  | none => exact recorded.unused hook found ▸ nobody
  | some slot =>
      obtain rfl := slot?_hook found
      by_cases lookup : lookupHook slot.hook
      · rcases recorded.lookups slot lookup found with first | ⟨missing, _⟩
        · exact first ▸ genuine slot own
        · exact missing ▸ nobody
      · rw [originals_consistent consistent inside found fun asked => absurd asked lookup]
        exact genuine slot own

theorem hooked_consistent (consistent : Consistent initial world) {entry : Entry}
    (inside : entry ∈ world.table.entries) {slot : Slot} (used : entry.saved.Uses slot)
    (called : entry.saved.kind.CallsFor slot.hook)
    (there : optionalHook slot.hook → initial slot ≠ Addr.null) :
    world.memory.content slot = slot.hook.addr := by
  have member := listed_entry inside
  refine consistent.sound.kept.hooked _ member slot used ?_
  have asked : entry.saved.lookupHooked = entry.saved.fOps.isNone :=
    consistent.sound.kept.asked _ member
  -- An optional operation is wanted when its original, the initial address, is not null.
  have first (settled : ¬ lookupHook slot.hook) : entry.saved.original slot.hook = initial slot :=
    originals_consistent consistent inside used fun lookup => absurd lookup settled
  show entry.saved.wants slot.hook = true
  cases hook : slot.hook with
  | openFile | release => rfl
  | lookup | create =>
      rw [hook] at called
      simp [Saved.wants, asked, kind_inodeOps.mp called]
  | atomicOpen | revalidate =>
      rw [hook] at first there
      have present := there (by simp [optionalHook])
      rw [← first (by simp [lookupHook])] at present
      simpa [Saved.wants, Saved.original] using present

theorem reinstalls_consistent (consistent : Consistent initial world) {fsType : String}
    (tracked : world.table.contains fsType = true) :
    ∃ later, on (reinstall fsType) world = (.ok 0, later) ∧ later.memory = world.memory ∧
      later.table.entries = world.table.entries := by
  obtain ⟨entry, found⟩ := Option.isSome_iff_exists.mp tracked
  exact ⟨_, reinstall_known consistent.sound consistent.writable found, rfl,
    arm_entries consistent.sound (entry_listed found).1⟩

theorem shares_iff {saved other : Saved} : saved.shares other = true ↔ saved.HasTableOf other := by
  simp only [Saved.shares, Bool.or_eq_true, sharesFile_iff, sharesInode_iff, sharesDentry_iff,
    Saved.HasTableOf, or_assoc]

theorem shared_consistent (consistent : Consistent initial world) {entry : Entry}
    (inside : entry ∈ world.table.entries) :
    entry.shared = true ↔ SharesIn world.table.entries entry := by
  rw [consistent.flagged.told entry inside, List.any_eq_true]
  constructor
  · rintro ⟨saved, member, shares⟩
    obtain ⟨other, there, apart, rfl⟩ := by
      simpa [Table.others, and_assoc] using member
    exact ⟨other, there, fun same => apart (same ▸ rfl), shares_iff.mp shares⟩
  · rintro ⟨other, there, apart, shares⟩
    -- Numbers tell entries apart, so another entry has another number.
    have numbers : other.id ≠ entry.id := fun same =>
      apart (entry_unique consistent.sound.numbered inside there same)
    refine ⟨other.saved, ?_, shares_iff.mpr shares⟩
    simp only [Table.others, List.mem_map, List.mem_filter, bne_iff_ne]
    exact ⟨other, ⟨there, numbers⟩, rfl⟩

/-- A listed entry is neither prepared nor draining. -/
theorem state_consistent (consistent : Consistent initial world) {entry : Entry}
    (inside : entry ∈ world.table.entries) :
    entry.state = if entry.shared then .shared entry.saved.kind else .patched entry.saved.kind := by
  have live : entry.retired = false := consistent.sound.kept.live _ (listed_entry inside)
  simp [Entry.state, live, consistent.flagged.installed entry inside]

theorem represents_consistent (genuine : ∀ slot (hook : Hook), initial slot ≠ hook.addr)
    (consistent : Consistent initial world) : Represents initial world := by
  constructor
  case types =>
    have types := consistent.sound.numbered.types
    rwa [Table.listing, List.map_map] at types
  case originals =>
    exact fun entry inside slot used => originals_consistent consistent inside used
  case genuine => exact fun entry inside => genuine_consistent genuine consistent inside
  case hooked => exact fun entry inside slot used => hooked_consistent consistent inside used
  case reinstalls => exact fun fsType => reinstalls_consistent consistent
  case shared =>
    intro entry inside
    rw [← shared_consistent consistent inside, state_consistent consistent inside]
    cases entry.shared <;> simp
  case patched =>
    intro entry inside
    rw [← shared_consistent consistent inside, state_consistent consistent inside]
    cases entry.shared <;> simp

/-! ### Runs -/

/-- An entry at file operations stays there as long as it is listed. -/
theorem fileOps_stay (clean : Clean initial) (sound : Sound initial world) (steps : List Step)
    {entry : Entry} (inside : entry ∈ world.table.entries) (filed : entry.saved.kind = .fileOps)
    {now : Entry} (listed : now ∈ (replay steps world).table.entries) (same : now.id = entry.id) :
    now.fsType = entry.fsType ∧ now.saved.kind = .fileOps := by
  have member := listed_entry inside
  have early : now.id < world.table.nextId := same ▸ sound.numbered.below entry.listed member
  obtain ⟨before, there, id, type, kept⟩ :=
    (advanced_replay clean steps world sound).old now.listed (listed_entry listed) early
  have own : before = entry.listed :=
    numbered_unique sound.numbered there member (id.trans same)
  subst own
  refine ⟨type.symm, kind_fileOps.mpr ?_⟩
  have files := kind_fileOps.mp filed
  exact (kept files) ▸ files

/-- Whatever is mounted, repatched, reinstalled, released and restored, and in
whatever order, the table represents what is hooked. -/
theorem table_represents {memory : Memory}
    (genuine : ∀ slot (hook : Hook), memory.content slot ≠ hook.addr)
    (writable : memory.isSealed = false) (steps : List Step)
    (furnished : ∀ step ∈ steps, step.Furnished memory.content) :
    Represents memory.content (replay steps (World.start memory)) ∧
      ∀ entry ∈ (replay steps (World.start memory)).table.entries,
        entry.saved.kind = .fileOps → ∀ more,
          ∀ now ∈ (replay (steps ++ more) (World.start memory)).table.entries,
            now.id = entry.id → now.fsType = entry.fsType ∧ now.saved.kind = .fileOps := by
  have clean : Clean memory.content := fun slot => genuine slot slot.hook
  have consistent := consistent_replay clean steps _ (consistent_start writable) furnished
  refine ⟨represents_consistent genuine consistent, ?_⟩
  intro entry inside filed more now listed same
  rw [replay, List.foldl_append] at listed
  exact fileOps_stay clean consistent.sound more inside filed listed same

/-! Two types have all their tables in common, and the first one goes up to file
operations before the second one comes. A third type shares nothing and stays
at inode operations. -/

def lonelyRoot : Inode :=
  ⟨5, 21, false, "tmpfs", ⟨7, "shmem_dir_inode_operations"⟩, ⟨6, "simple_dir_operations"⟩⟩

def mixedRun : List Step :=
  [.processMount ⟨"ext4", plainRoot, none, none, false, 1⟩, .repatchWithRegular "ext4" plainFile,
    .processMount ⟨"ext3", plainRoot, none, some plainFile, false, 1⟩,
    .processMount ⟨"tmpfs", lonelyRoot, none, none, false, 1⟩]

theorem table_represents_mixed :
    (∀ step ∈ mixedRun, step.Furnished uniform.content) ∧
      (replay mixedRun (World.start uniform)).table.entries.map Entry.state =
        [.shared .fileOps, .shared .fileOps, .patched .inodeOps] ∧
      Represents uniform.content (replay mixedRun (World.start uniform)) := by
  have present (slot : Slot) : uniform.content slot ≠ Addr.null := by
    show (0xffffffff81000000 : Addr) ≠ Addr.null
    decide
  have furnished : ∀ step ∈ mixedRun, step.Furnished uniform.content := by
    intro step inside
    simp only [mixedRun, List.mem_cons, List.not_mem_nil, or_false] at inside
    rcases inside with rfl | rfl | rfl | rfl
    · exact fun hook _ => present _
    · trivial
    · exact fun hook _ => present _
    · exact fun hook _ => present _
  exact ⟨furnished, by decide +kernel, (table_represents uniform_genuine rfl mixedRun furnished).1⟩

end Interception.Patch
