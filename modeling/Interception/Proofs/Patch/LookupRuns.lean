import Interception.Proofs.Patch.LookupFaults

/-!
The law of the inode hooks along runs. A run keeps it in every state exactly
if none of its steps is faulty: a new entry that falls out with the others
over lookups, a repatch that reads a hook back, or a last user that leaves
hooks behind.
-/

namespace Interception.Patch

variable {initial : Slot → Addr} {world later : World}

/-- A property of every world a run passes through. -/
def Throughout (P : World → Prop) : List Step → World → Prop
  | [], world => P world
  | step :: rest, world => P world ∧ Throughout P rest (step.apply world)

/-- A mount or a repatch that breaks the law of the lookup hooks. -/
def Step.Misleads (initial : Slot → Addr) (world : World) : Step → Prop
  | processMount request =>
      match world.table.entry? request.fsType with
      | none => Blinded initial world.memory.content world.table.listing request
      | some entry => regularOf request.regular = none ∧ Unread initial entry.saved
  | repatchWithRegular fsType inode =>
      match world.table.entry? fsType with
      | none => False
      | some entry => regularOf (some inode) = none ∧ Unread initial entry.saved
  | reinstall _ | releaseMount _ _ | restore _ | purgeRound => False

/-- Whether a step breaks the law of the lookup hooks. A sealed memory lets
no step do anything. -/
def Step.Faulty (initial : Slot → Addr) (world : World) (step : Step) : Prop :=
  world.memory.isSealed = false ∧
    (step.Misleads initial world ∨ ∃ entry, step.leaver? world = some entry ∧
      Stranded initial world.memory.content world.table.listing entry.listed)

/-- No step of the run is faulty where it is taken. -/
def Faultless (initial : Slot → Addr) : List Step → World → Prop
  | [], _ => True
  | step :: rest, world => ¬ step.Faulty initial world ∧ Faultless initial rest (step.apply world)

/-! ### One step -/

def OrderlyWorld (initial : Slot → Addr) (world : World) : Prop :=
  Orderly initial world.memory.content world.table.listing

def LawfulWorld (initial : Slot → Addr) (world : World) : Prop :=
  LookupLaw initial world.memory.content world.table.listing

theorem orderly_turned (orderly : OrderlyWorld initial world)
    (turned : Turned world world.memory.content world.table.listing later) :
    OrderlyWorld initial later := by
  rw [OrderlyWorld, turned.content, turned.listing]
  exact orderly

theorem orderly_repatched (clean : Clean initial) (sound : Sound initial world)
    (orderly : OrderlyWorld initial world) {listed : Listed}
    (member : listed ∈ world.table.listing) {regular : Option Inode}
    (repatched : Repatched initial world listed regular later)
    (calm : ¬ (regular = none ∧ Unread initial listed.saved)) : OrderlyWorld initial later := by
  cases repatched with
  | settled filed turned => exact orderly_turned orderly turned
  | promoted unfiled turned =>
      rw [OrderlyWorld, turned.content, turned.listing]
      exact orderly_promoted clean orderly sound.numbered member unfiled _ _ _
  | reread unfiled used turned =>
      rw [OrderlyWorld, turned.content, turned.listing]
      exact orderly_reread orderly sound.numbered member unfiled used
        fun unread => calm ⟨rfl, unread⟩

theorem repatched_unlawful (clean : Clean initial) (sound : Sound initial world)
    (orderly : OrderlyWorld initial world) {listed : Listed}
    (member : listed ∈ world.table.listing) {regular : Option Inode}
    (repatched : Repatched initial world listed regular later)
    (fault : regular = none ∧ Unread initial listed.saved) : ¬ LawfulWorld initial later := by
  cases repatched with
  | settled filed turned => exact absurd fault.2.1 filed
  | promoted unfiled turned => cases fault.1
  | reread unfiled used turned =>
      rw [LawfulWorld, turned.content, turned.listing]
      exact unread_unlawful clean sound.kept orderly member used fault.2

theorem orderly_departed (clean : Clean initial) (sound : Sound initial world)
    (orderly : OrderlyWorld initial world) {entry : Entry}
    (member : entry.listed ∈ world.table.listing) (left : Left entry.listed world later)
    (calm : ¬ Stranded initial world.memory.content world.table.listing entry.listed) :
    OrderlyWorld initial later := by
  rw [OrderlyWorld, left.content, left.listing]
  exact orderly_left clean orderly sound.numbered member calm

theorem departed_unlawful (orderly : OrderlyWorld initial world) {entry : Entry}
    (member : entry.listed ∈ world.table.listing) (left : Left entry.listed world later)
    (stranded : Stranded initial world.memory.content world.table.listing entry.listed) :
    ¬ LawfulWorld initial later := by
  rw [LawfulWorld, left.content, left.listing]
  exact stranded_unlawful orderly member stranded

/-- A step that is not faulty leaves an orderly world. -/
theorem apply_orderly (clean : Clean initial) (sound : Sound initial world)
    (orderly : OrderlyWorld initial world) {step : Step} (calm : ¬ step.Faulty initial world) :
    OrderlyWorld initial (step.apply world) := by
  cases isSealed : world.memory.isSealed with
  | true => exact (apply_sealed step isSealed).symm ▸ orderly
  | false =>
      have fits : ¬ step.Misleads initial world := fun misleads => calm ⟨isSealed, .inl misleads⟩
      cases leaves : step.leaver? world with
      | some entry =>
          obtain ⟨member, left⟩ := leaver_left sound isSealed leaves
          apply orderly_departed clean sound orderly member left
          intro stranded
          exact calm ⟨isSealed, .inr ⟨entry, leaves, stranded⟩⟩
      | none =>
          cases step with
          | processMount request =>
              cases found : world.table.entry? request.fsType with
              | some entry =>
                  simp only [Step.Misleads, found] at fits
                  exact orderly_repatched clean sound orderly (entry_listed found).1
                    (processMount_known clean sound isSealed found) fits
              | none =>
                  simp only [Step.Misleads, found] at fits
                  cases taken : prepare (world.table.listing.map (·.saved)) request world.memory with
                  | error error =>
                      exact orderly_turned orderly (.of_eq (processMount_refuses isSealed found taken))
                  | ok saved =>
                      have installed := processMount_installs sound isSealed found taken
                      rw [OrderlyWorld, Step.apply, installed.content, installed.listing]
                      exact orderly_installed sound.kept orderly installed.prepared
                        installed.genuine _ _ fits
          | repatchWithRegular fsType inode =>
              cases found : world.table.entry? fsType with
              | some entry =>
                  simp only [Step.Misleads, found] at fits
                  exact orderly_repatched clean sound orderly (entry_listed found).1
                    (repatchWithRegular_known clean sound isSealed inode found) fits
              | none =>
                  exact orderly_turned orderly (.of_eq (repatchWithRegular_unknown isSealed inode found))
          | reinstall fsType => exact orderly_turned orderly (reinstall_on sound isSealed fsType)
          | releaseMount fsType count | restore fsType | purgeRound =>
              exact orderly_turned orderly
                (apply_still sound isSealed leaves (by simp) (by simp))

/-- A faulty step breaks the law. -/
theorem apply_unlawful (clean : Clean initial) (sound : Sound initial world)
    (orderly : OrderlyWorld initial world) {step : Step} (faulty : step.Faulty initial world) :
    ¬ LawfulWorld initial (step.apply world) := by
  obtain ⟨isSealed, misleads | ⟨entry, leaves, stranded⟩⟩ := faulty
  · cases step with
    | processMount request =>
        cases found : world.table.entry? request.fsType with
        | some entry =>
            simp only [Step.Misleads, found] at misleads
            exact repatched_unlawful clean sound orderly (entry_listed found).1
              (processMount_known clean sound isSealed found) misleads
        | none =>
            simp only [Step.Misleads, found] at misleads
            obtain ⟨saved, taken⟩ := blinded_taken clean sound orderly misleads
            have installed := processMount_installs sound isSealed found taken
            rw [LawfulWorld, Step.apply, installed.content, installed.listing]
            exact blinded_unlawful orderly installed.prepared _ _ misleads
    | repatchWithRegular fsType inode =>
        cases found : world.table.entry? fsType with
        | some entry =>
            simp only [Step.Misleads, found] at misleads
            exact repatched_unlawful clean sound orderly (entry_listed found).1
              (repatchWithRegular_known clean sound isSealed inode found) misleads
        | none => simp [Step.Misleads, found] at misleads
    | reinstall fsType | releaseMount fsType count | restore fsType | purgeRound =>
        exact misleads.elim
  · obtain ⟨member, left⟩ := leaver_left sound isSealed leaves
    exact departed_unlawful orderly member left stranded

/-! ### Runs -/

theorem lawful_iff (clean : Clean initial) (sound : Sound initial world) :
    (∀ table hook, inodeHook hook → InodeLaw initial world table hook) ↔
      LawfulWorld initial world := by
  constructor
  · intro law table hook lookup
    exact (inodeLaw_iff sound (lookupHook_inode lookup)).mp (law table hook (lookupHook_inode lookup))
  · intro law table hook inode
    rcases inode with rfl | rfl | rfl
    · exact (inodeLaw_iff sound (.inl rfl)).mpr (law table .lookup (.inl rfl))
    · exact (inodeLaw_iff sound (.inr (.inl rfl))).mpr (law table .create (.inr rfl))
    · exact atomicOpen_lawful clean sound table

theorem throughout_iff (clean : Clean initial) (steps : List Step) :
    ∀ world, Sound initial world → OrderlyWorld initial world →
      (Throughout (fun world => ∀ table hook, inodeHook hook → InodeLaw initial world table hook)
        steps world ↔ Faultless initial steps world) := by
  -- An orderly world is lawful, so what may break is the law of the next one.
  induction steps with
  | nil =>
      intro world sound orderly
      simp only [Throughout, Faultless, iff_true]
      exact (lawful_iff clean sound).mpr orderly.law
  | cons step rest rest_iff =>
      intro world sound orderly
      have soundLater := sound_apply clean sound step
      simp only [Throughout, Faultless]
      have lawful := (lawful_iff clean sound).mpr orderly.law
      constructor
      · rintro ⟨_, further⟩
        have first : ∀ table hook, inodeHook hook →
            InodeLaw initial (step.apply world) table hook := by
          cases rest with
          | nil => exact further
          | cons next others => exact further.1
        have calm : ¬ step.Faulty initial world := fun faulty =>
          apply_unlawful clean sound orderly faulty ((lawful_iff clean soundLater).mp first)
        exact ⟨calm, (rest_iff _ soundLater (apply_orderly clean sound orderly calm)).mp further⟩
      · rintro ⟨calm, further⟩
        exact ⟨lawful, (rest_iff _ soundLater (apply_orderly clean sound orderly calm)).mpr further⟩

/-- Every hook of an inode table has a user, tells every user the initial
address and goes with the last user, in every state of a run, exactly if no
step of the run is faulty. Atomic opens are safe from all faults. -/
theorem inode_hooks_lawful_iff (memory : Memory)
    (clean : ∀ slot : Slot, memory.content slot ≠ slot.hook.addr) (steps : List Step) :
    (Throughout (fun world => ∀ table hook, inodeHook hook →
        InodeLaw memory.content world table hook) steps (World.start memory) ↔
      Faultless memory.content steps (World.start memory)) ∧
    ∀ table, InodeLaw memory.content (replay steps (World.start memory)) table .atomicOpen := by
  have sound := sound_start memory
  refine ⟨throughout_iff clean steps _ sound (orderly_start clean), ?_⟩
  exact atomicOpen_lawful clean (sound_replay clean steps _ sound)

/-! The second type brings a regular file and so never looks at the lookups
that the first one has hooked in the table they share. -/

def sharedRun : List Step :=
  [.processMount ⟨"ext4", plainRoot, none, none, false, 1⟩,
    .processMount ⟨"ext3", plainRoot, none, some plainFile, false, 1⟩]

theorem shared_inode_table_unlawful :
    (∀ slot : Slot, uniform.content slot ≠ slot.hook.addr) ∧
      ¬ Throughout (fun world => ∀ table hook, inodeHook hook →
        InodeLaw uniform.content world table hook) sharedRun (World.start uniform) := by
  refine ⟨uniform_clean, ?_⟩
  intro lawful
  obtain ⟨_, calm, _⟩ := (inode_hooks_lawful_iff uniform uniform_clean sharedRun).1.mp lawful
  refine calm ⟨by decide +kernel, .inl ?_⟩
  show _ ∧ ¬ (_ ∧ _)
  refine ⟨by decide +kernel, ?_⟩
  rintro ⟨missing, _⟩
  exact absurd missing (by decide +kernel)

end Interception.Patch
