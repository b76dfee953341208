import Interception.Proofs.Patch.Turning

/-!
Runs of the patch table. A run applies any steps in any order to a memory and
an empty table; a purge is as many rounds as it takes. Whatever the run, the
world it reaches is sound.
-/

namespace Interception.Patch

open Change

inductive Step
  | processMount (request : Request)
  | repatchWithRegular (fsType : String) (inode : Inode)
  | reinstall (fsType : String)
  | releaseMount (fsType : String) (count : Nat)
  | restore (fsType : String)
  | purgeRound

/-- What a step leaves. A step that fails leaves what it did until then. -/
def Step.apply : Step → World → World
  | processMount request, world => (on (Patch.processMount request) world).2
  | repatchWithRegular fsType inode, world => (on (Patch.repatchWithRegular fsType inode) world).2
  | reinstall fsType, world => (on (Patch.reinstall fsType) world).2
  | releaseMount fsType count, world => (on (Patch.releaseMount fsType count) world).2
  | restore fsType, world => (on (Patch.restore fsType) world).2
  | purgeRound, world => (on purgeFirst world).2

def replay (steps : List Step) (world : World) : World :=
  steps.foldl (fun world step => step.apply world) world

def World.start (memory : Memory) : World := ⟨memory, Table.empty⟩

variable {initial : Slot → Addr} {world later : World}

theorem sound_start (memory : Memory) : Sound memory.content (World.start memory) :=
  ⟨kept_start memory.content, numbered_start 0⟩

/-- The entry a step takes out of the table, if it takes one out. -/
def Step.leaver? (world : World) : Step → Option Entry
  | releaseMount fsType count =>
      (world.table.entry? fsType).filter fun entry => entry.uses.toNat ≤ count && count != 0
  | restore fsType => world.table.entry? fsType
  | purgeRound => world.table.entries.head?
  | processMount _ | repatchWithRegular _ _ | reinstall _ => none

/-- What a step may do to a sound world. -/
inductive Turn (initial : Slot → Addr) (step : Step) (world later : World) : Prop
  | still (turned : Turned world world.memory.content world.table.listing later)
  | repatched {listed : Listed} {regular : Option Inode} (member : listed ∈ world.table.listing)
      (repatched : Repatched initial world listed regular later)
  | installed {request : Request} {saved : Saved} (same : step = .processMount request)
      (fresh : ∀ listed ∈ world.table.listing, listed.fsType ≠ request.fsType)
      (installed : Installed request saved world later)
  | left {entry : Entry} (leaves : step.leaver? world = some entry)
      (member : entry.listed ∈ world.table.listing) (left : Left entry.listed world later)

theorem apply_sealed (step : Step) (isSealed : world.memory.isSealed = true) :
    step.apply world = world := by
  cases step with
  | processMount request => simp only [Step.apply, processMount, unprotected_sealed _ isSealed]
  | repatchWithRegular fsType inode =>
      simp only [Step.apply, repatchWithRegular, unprotected_sealed _ isSealed]
  | reinstall fsType => simp only [Step.apply, reinstall, unprotected_sealed _ isSealed]
  | releaseMount fsType count =>
      simp only [Step.apply, releaseMount, unprotected_sealed _ isSealed]
  | restore fsType => simp only [Step.apply, restore, unprotected_sealed _ isSealed]
  | purgeRound => simp only [Step.apply, purgeFirst, unprotected_sealed _ isSealed]

theorem leaver_left (sound : Sound initial world) (writable : world.memory.isSealed = false)
    {step : Step} {entry : Entry} (leaves : step.leaver? world = some entry) :
    entry.listed ∈ world.table.listing ∧ Left entry.listed world (step.apply world) := by
  cases step with
  | processMount request => simp [Step.leaver?] at leaves
  | repatchWithRegular fsType inode => simp [Step.leaver?] at leaves
  | reinstall fsType => simp [Step.leaver?] at leaves
  | releaseMount fsType count =>
      obtain ⟨found, drained⟩ := Option.filter_eq_some_iff.mp leaves
      refine ⟨(entry_listed found).1, releaseMount_leaves sound writable found ?_⟩
      simp only [Bool.and_eq_true, decide_eq_true_eq, bne_iff_ne] at drained
      omega
  | restore fsType => exact ⟨(entry_listed leaves).1, restore_known sound writable leaves⟩
  | purgeRound =>
      refine ⟨?_, purgeFirst_leaves sound writable leaves⟩
      exact List.mem_map_of_mem (List.mem_of_mem_head? leaves)

/-- A step that neither processes a mount nor repatches nor takes an entry
out changes neither slots nor listing. -/
theorem apply_still (sound : Sound initial world) (writable : world.memory.isSealed = false)
    {step : Step} (stays : step.leaver? world = none)
    (other : ∀ request, step ≠ .processMount request)
    (another : ∀ fsType inode, step ≠ .repatchWithRegular fsType inode) :
    Turned world world.memory.content world.table.listing (step.apply world) := by
  cases step with
  | processMount request => exact absurd rfl (other request)
  | repatchWithRegular fsType inode => exact absurd rfl (another fsType inode)
  | reinstall fsType => exact reinstall_on sound writable fsType
  | releaseMount fsType count =>
      cases found : world.table.entry? fsType with
      | none => exact .of_eq (congrArg Prod.snd (releaseMount_unknown writable count found))
      | some entry =>
          apply releaseMount_counts sound writable found
          simp [Step.leaver?, found] at stays
          omega
  | restore fsType => exact .of_eq (congrArg Prod.snd (restore_unknown writable stays))
  | purgeRound =>
      have entries := List.head?_eq_none_iff.mp stays
      exact .of_eq (congrArg Prod.snd (purgeFirst_empty writable entries))

theorem apply_turns (clean : Clean initial) (sound : Sound initial world)
    (writable : world.memory.isSealed = false) (step : Step) :
    Turn initial step world (step.apply world) := by
  -- Either an entry leaves, or the step is one that lets entries come or change.
  cases leaves : step.leaver? world with
  | some entry =>
      obtain ⟨member, left⟩ := leaver_left sound writable leaves
      exact .left leaves member left
  | none =>
      cases step with
      | processMount request =>
          cases found : world.table.entry? request.fsType with
          | some entry =>
              exact .repatched (entry_listed found).1 (processMount_known clean sound writable found)
          | none =>
              cases taken : prepare (world.table.listing.map (·.saved)) request world.memory with
              | error error => exact .still (.of_eq (processMount_refuses writable found taken))
              | ok saved =>
                  exact .installed rfl (entry_unlisted.mp found)
                    (processMount_installs sound writable found taken)
      | repatchWithRegular fsType inode =>
          cases found : world.table.entry? fsType with
          | some entry =>
              exact .repatched (entry_listed found).1
                (repatchWithRegular_known clean sound writable inode found)
          | none => exact .still (.of_eq (repatchWithRegular_unknown writable inode found))
      | reinstall fsType => exact .still (reinstall_on sound writable fsType)
      | releaseMount fsType count | restore fsType | purgeRound =>
          exact .still (apply_still sound writable leaves (by simp) (by simp))

theorem sound_turn (sound : Sound initial world) {step : Step}
    (turn : Turn initial step world later) : Sound initial later := by
  cases turn with
  | still turned => exact sound_turned turned sound.kept sound.numbered
  | repatched member repatched => exact sound_repatched sound member repatched
  | installed same fresh installed => exact sound_installed sound fresh installed
  | left leaves member left => exact sound_left sound member left

theorem sound_apply (clean : Clean initial) (sound : Sound initial world) (step : Step) :
    Sound initial (step.apply world) := by
  cases isSealed : world.memory.isSealed with
  | true => exact (apply_sealed step isSealed).symm ▸ sound
  | false => exact sound_turn sound (apply_turns clean sound isSealed step)

theorem sound_replay (clean : Clean initial) (steps : List Step) :
    ∀ world, Sound initial world → Sound initial (replay steps world) := by
  induction steps with
  | nil => exact fun world sound => sound
  | cons step rest rest_sound =>
      intro world sound
      exact rest_sound (step.apply world) (sound_apply clean sound step)

/-! ### A plain memory

Every slot holds the same native address, and one filesystem has a regular
file. -/

def uniform : Memory := { Memory.blank with content := fun _ => 0xffffffff81000000 }

theorem uniform_genuine (slot : Slot) (hook : Hook) : uniform.content slot ≠ hook.addr := by
  show (0xffffffff81000000 : Addr) ≠ hook.addr
  cases hook <;> decide

theorem uniform_clean (slot : Slot) : uniform.content slot ≠ slot.hook.addr :=
  uniform_genuine slot slot.hook

def plainRoot : Inode :=
  ⟨2, 2049, false, "ext4", ⟨3, "ext4_dir_inode_operations"⟩, ⟨2, "ext4_dir_operations"⟩⟩

def plainFile : Inode :=
  ⟨3, 2049, true, "ext4", ⟨3, "ext4_dir_inode_operations"⟩, ⟨1, "ext4_file_operations"⟩⟩

end Interception.Patch
