import Interception.Proofs.Patch.Replaying
import Interception.Proofs.Patch.Sparing

/-!
The flags of the entries. Only the publication of a list says anew who shares
a table, so whatever changes between two publications must change nobody's
tables. Between steps every entry counts as installed, and it is flagged as
shared exactly when another entry uses a table of it.
-/

namespace Interception.Patch

open Change

variable {initial : Slot → Addr} {world later : World} {entries : List Entry}

/-- Who is flagged as shared does share a table, and nobody else does. -/
def Told (entries : List Entry) : Prop :=
  ∀ entry ∈ entries, entry.shared = (Table.others entry.id entries).any entry.saved.shares

structure Flagged (entries : List Entry) : Prop where
  installed : ∀ entry ∈ entries, entry.installed = true
  told : Told entries

theorem flagged_nil : Flagged [] := by
  constructor <;> simp [Told]

/-! ### Sharing -/

/-- The tables an entry uses. -/
def Saved.tables (saved : Saved) : Option FileTable × Option InodeTable × Option DentryTable :=
  (saved.fOps, saved.iOps, saved.dOps)

theorem shares_tables {left right first second : Saved} (same : left.tables = right.tables)
    (alike : first.tables = second.tables) : left.shares first = right.shares second := by
  simp only [Saved.tables, Prod.mk.injEq] at same alike
  simp [Saved.shares, Saved.sharesFile, Saved.sharesInode, Saved.sharesDentry, same, alike]

/-- Who shares with whom depends on numbers and tables alone. -/
theorem others_map (change : Entry → Entry) (ids : ∀ entry ∈ entries, (change entry).id = entry.id)
    (tables : ∀ entry ∈ entries, (change entry).saved.tables = entry.saved.tables) (id : Nat)
    {saved now : Saved} (same : now.tables = saved.tables) :
    (Table.others id (entries.map change)).any now.shares =
      (Table.others id entries).any saved.shares := by
  induction entries with
  | nil => rfl
  | cons entry rest ih =>
      have tail := ih (fun other inside => ids other (List.mem_cons_of_mem entry inside))
        (fun other inside => tables other (List.mem_cons_of_mem entry inside))
      have own := shares_tables same (tables entry (by simp))
      simp only [Table.others] at tail ⊢
      by_cases apart : entry.id = id <;> simp [ids entry (by simp), apart, own, tail]

/-- Whatever list is published, its sharing is told. -/
theorem told_publish (table : Table) (entries : List Entry) :
    Told (table.publish entries).entries := by
  refine List.forall_mem_map.mpr fun entry _ => ?_
  have marked : (Table.others entry.id (entries.map (Table.markShared entries))).any
      entry.saved.shares = (Table.others entry.id entries).any entry.saved.shares :=
    others_map (Table.markShared entries) (fun _ _ => rfl) (fun _ _ => rfl) entry.id rfl
  exact marked.symm

/-- An entry whose tables stay is told what it was told before. -/
theorem told_update {table : Table} (told : Told table.entries) {id : Nat}
    {change : Entry → Entry} (ids : ∀ entry ∈ table.entries, entry.id = id → (change entry).id = id)
    (tables : ∀ entry ∈ table.entries, entry.id = id →
      (change entry).saved.tables = entry.saved.tables)
    (shared : ∀ entry ∈ table.entries, entry.id = id → (change entry).shared = entry.shared) :
    Told (table.update id change).entries := by
  have kept {Field : Type} (field : Entry → Field)
      (own : ∀ entry ∈ table.entries, entry.id = id → field (change entry) = field entry) :
      ∀ entry ∈ table.entries, field (if entry.id = id then change entry else entry) =
        field entry := by
    intro entry inside
    split
    · exact own entry inside ‹_›
    · rfl
  have sameIds := kept Entry.id fun entry inside own => (ids entry inside own).trans own.symm
  have sameTables := kept (·.saved.tables) tables
  refine List.forall_mem_map.mpr fun entry inside => ?_
  rw [kept Entry.shared shared entry inside, told entry inside, sameIds entry inside]
  exact (others_map _ sameIds sameTables entry.id (sameTables entry inside)).symm

/-! ### Operations -/

/-- Whoever leaves, the list is published without them. -/
theorem flagged_left (flagged : Flagged world.table.entries) {listed : Listed}
    (left : Left listed world later) : Flagged later.table.entries := by
  rw [left.entries, Table.remove]
  refine ⟨List.forall_mem_map.mpr fun entry inside => ?_, told_publish _ _⟩
  exact flagged.installed entry (List.mem_filter.mp inside).1

theorem flagged_dropping (flagged : Flagged world.table.entries) (sound : Sound initial world)
    {entry : Entry} (inside : entry ∈ world.table.entries) (count : Nat) :
    Flagged (world.dropping entry count).table.entries := by
  have own (other : Entry) (member : other ∈ world.table.entries) (same : other.id = entry.id) :
      other = entry := entry_unique sound.numbered inside member same
  constructor
  case installed =>
    refine List.forall_mem_map.mpr fun other member => ?_
    split
    · exact flagged.installed entry inside
    · exact flagged.installed other member
  case told =>
    refine told_update flagged.told (fun _ _ _ => rfl) ?_ ?_
    · exact fun other member same => by rw [own other member same]; rfl
    · exact fun other member same => by rw [own other member same]; rfl

/-- A new entry is published before its hooks are in. What their installation
saves changes none of its tables. -/
theorem flagged_installed (flagged : Flagged world.table.entries) (sound : Sound initial world)
    {request : Request} {saved : Saved} (installed : Installed request saved world later) :
    Flagged later.table.entries := by
  -- Before and after the installation, who bears the new number saved what was prepared.
  have fresh (entry : Entry) (member : entry ∈ (world.announced request saved).table.entries)
      (own : entry.id = world.table.nextId) : entry.saved = saved := by
    have listed : entry.listed ∈ (world.announced request saved).table.listing :=
      List.mem_map_of_mem member
    rw [announced_listing] at listed
    rcases List.mem_append.mp listed with old | new
    · have below := sound.numbered.below entry.listed old
      exact absurd own (Nat.ne_of_lt below)
    · exact congrArg Listed.saved (List.mem_singleton.mp new)
  have announced : Told (world.announced request saved).table.entries := told_publish _ _
  have hooked : Told ((world.announced request saved).table.arm
      (request.entry world.table.nextId saved)).entries := by
    unfold Table.arm
    split
    · exact announced
    · refine told_update announced (fun _ _ own => own) ?_ (fun _ _ _ => rfl)
      intro entry member own
      rw [fresh entry member own]
      rfl
  -- Nothing but the new entry lacked its flag.
  have flags : ((world.announced request saved).table.arm
      (request.entry world.table.nextId saved)).entries.map
        (fun entry => (entry.id, entry.installed)) =
      (world.table.entries ++ [request.entry world.table.nextId saved]).map
        (fun entry => (entry.id, entry.installed)) := by
    refine (congrArg Prod.fst (shown_arm ?_ _ _)).trans (congrArg Prod.fst (shown_publish ?_ _ _))
    · exact fun _ _ => rfl
    · exact fun _ _ => rfl
  rw [installed.entries]
  constructor
  case installed =>
    refine List.forall_mem_map.mpr fun entry member => ?_
    split
    · rfl
    · next other =>
        have flag : (entry.id, entry.installed) ∈
            (world.table.entries ++ [request.entry world.table.nextId saved]).map
              fun entry => (entry.id, entry.installed) :=
          flags ▸ List.mem_map.mpr ⟨entry, member, rfl⟩
        obtain ⟨old, inside, same⟩ := List.mem_map.mp flag
        rw [Prod.mk.injEq] at same
        rcases List.mem_append.mp inside with listed | new
        · rw [← same.2]
          exact flagged.installed old listed
        · rw [List.mem_singleton.mp new] at same
          exact absurd same.1.symm other
  case told => exact told_update hooked (fun _ _ own => own) (fun _ _ _ => rfl) fun _ _ _ => rfl

/-- A repatch saves addresses and says nothing of who is installed. -/
theorem installed_repatch (flagged : Flagged world.table.entries) {entry : Entry}
    {regular : Option Inode} {answer : Except PatchError Nat}
    (ran : on (repatch entry regular) world = (answer, later)) :
    ∀ other ∈ later.table.entries, other.installed = true := by
  have spared : later.table.entries.map Entry.installed = world.table.entries.map Entry.installed :=
    congrArg Prod.fst (sparing_after (sparing_repatch (fun _ _ => rfl) entry regular) ran)
  have before : ∀ flag ∈ world.table.entries.map Entry.installed, flag = true :=
    List.forall_mem_map.mpr flagged.installed
  rw [← spared] at before
  exact List.forall_mem_map.mp before

theorem flagged_known (clean : Clean initial) (flagged : Flagged world.table.entries)
    (sound : Sound initial world) (writable : world.memory.isSealed = false) {request : Request}
    {entry : Entry} (found : world.table.entry? request.fsType = some entry) :
    Flagged (on (processMount request) world).2.table.entries := by
  obtain ⟨pokes, first, ran, _⟩ :=
    repatch_on clean (sound_opened sound) entry (entry_listed found).1 request.regular
  have found' : world.opened.table.entry? request.fsType = some entry := found
  have opened : Flagged world.opened.table.entries := flagged
  rw [processMount, unprotected_on _ writable]
  simp only [on_get_bind, found', on_bind_ok ran, addUses, publishAll, on_modify_bind, on_pure]
  refine ⟨List.forall_mem_map.mpr (List.forall_mem_map.mpr fun other member => ?_), told_publish _ _⟩
  have installed := installed_repatch opened ran other member
  split
  · exact installed
  · exact installed

theorem flagged_regular (clean : Clean initial) (flagged : Flagged world.table.entries)
    (sound : Sound initial world) (writable : world.memory.isSealed = false) {fsType : String}
    (inode : Inode) {entry : Entry} (found : world.table.entry? fsType = some entry) :
    Flagged (on (repatchWithRegular fsType inode) world).2.table.entries := by
  obtain ⟨pokes, first, ran, _⟩ :=
    repatch_on clean (sound_opened sound) entry (entry_listed found).1 (some inode)
  have found' : world.opened.table.entry? fsType = some entry := found
  have opened : Flagged world.opened.table.entries := flagged
  rw [repatchWithRegular, unprotected_on _ writable]
  simp only [on_get_bind, found', on_bind_ok ran, publishAll, on_modify_bind, on_pure]
  refine ⟨List.forall_mem_map.mpr fun other member => ?_, told_publish _ _⟩
  exact installed_repatch opened ran other member

/-! ### Steps -/

theorem flagged_idle (flagged : Flagged world.table.entries) (same : later = world) :
    Flagged later.table.entries := same ▸ flagged

theorem flagged_apply (clean : Clean initial) (flagged : Flagged world.table.entries)
    (sound : Sound initial world) (writable : world.memory.isSealed = false) (step : Step) :
    Flagged (step.apply world).table.entries := by
  cases leaves : step.leaver? world with
  | some entry => exact flagged_left flagged (leaver_left sound writable leaves).2
  | none =>
      cases step with
      | processMount request =>
          cases found : world.table.entry? request.fsType with
          | some entry => exact flagged_known clean flagged sound writable found
          | none =>
              cases taken : prepare (world.table.listing.map (·.saved)) request world.memory with
              | error error =>
                  exact flagged_idle flagged (processMount_refuses writable found taken)
              | ok saved =>
                  exact flagged_installed flagged sound
                    (processMount_installs sound writable found taken)
      | repatchWithRegular fsType inode =>
          cases found : world.table.entry? fsType with
          | some entry => exact flagged_regular clean flagged sound writable inode found
          | none => exact flagged_idle flagged (repatchWithRegular_unknown writable inode found)
      | reinstall fsType =>
          cases found : world.table.entry? fsType with
          | some entry =>
              rw [Step.apply, reinstall_known sound writable found]
              exact (arm_entries sound (entry_listed found).1).symm ▸ flagged
          | none => exact flagged_idle flagged (reinstall_unknown writable found)
      | releaseMount fsType count =>
          cases found : world.table.entry? fsType with
          | some entry =>
              have stays : count < entry.uses.toNat ∨ count = 0 := by
                simp [Step.leaver?, found] at leaves
                omega
              rw [Step.apply, congrArg Prod.snd (releaseMount_drops writable found stays)]
              exact flagged_dropping flagged sound (List.mem_of_find?_eq_some found) count
          | none =>
              exact flagged_idle flagged (congrArg Prod.snd (releaseMount_unknown writable count found))
      | restore fsType =>
          exact flagged_idle flagged (congrArg Prod.snd (restore_unknown writable leaves))
      | purgeRound =>
          have entries := List.head?_eq_none_iff.mp leaves
          exact flagged_idle flagged (congrArg Prod.snd (purgeFirst_empty writable entries))

end Interception.Patch
