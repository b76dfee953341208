import Interception.Proofs.Patch.Turning

/-!
What a change of the patch table upholds whatever it finds in the slots and
whether or not it fails. Hooking and repatching write slots and addresses that
the entry saves, so what stands these writes they uphold.
-/

namespace Interception.Patch

open Change

variable {Value Result : Type} {world : World} {held : Table → Prop}

/-- Whatever the change finds in the slots, it keeps this true of the table. -/
def Upholding (held : Table → Prop) (change : Change Value) : Prop :=
  ∀ world, held world.table → held (on change world).2.table

@[simp]
theorem upholding_pure (value : Value) : Upholding held (pure value) := fun _ before => before

@[simp]
theorem upholding_throw (error : PatchError) : Upholding held (throw error : Change Value) :=
  fun _ before => before

@[simp]
theorem upholding_get : Upholding held (get : Change World) := fun _ before => before

theorem upholding_modify {step : World → World}
    (kept : ∀ world, held world.table → held (step world).table) :
    Upholding held (modify step : Change PUnit) := kept

theorem upholding_bind {change : Change Value} {next : Value → Change Result}
    (first : Upholding held change) (second : ∀ value, Upholding held (next value)) :
    Upholding held (change >>= next) := by
  intro world before
  rw [on_bind]
  have kept := first world before
  rcases ran : on change world with ⟨result, middle⟩
  rw [ran] at kept
  cases result with
  | ok value => exact second value middle kept
  | error error => exact kept

theorem upholding_ite {condition : Prop} [Decidable condition] {left right : Change Value}
    (first : Upholding held left) (second : Upholding held right) :
    Upholding held (if condition then left else right) := by
  split
  · exact first
  · exact second

theorem upholding_unprotected {change : Change Value} (inside : Upholding held change) :
    Upholding held (unprotected change) := by
  intro world before
  cases isSealed : world.memory.isSealed with
  | true => rw [unprotected_sealed _ isSealed]; exact before
  | false =>
      rw [unprotected_on _ isSealed]
      exact inside world.opened before

/-! ### Slots -/

@[simp]
theorem upholding_hookSlot (fsType : String) (slot : Slot) (genuine : Addr) :
    Upholding held (hookSlot fsType slot genuine) := by
  refine upholding_bind (fun _ before => before) fun current => ?_
  refine upholding_ite (upholding_pure 0) (upholding_ite ?_ (upholding_throw _))
  exact upholding_bind (fun _ before => before) fun _ => upholding_pure 1

@[simp]
theorem upholding_unhookSlot (slot : Slot) (genuine : Addr) :
    Upholding held (unhookSlot slot genuine) := by
  refine upholding_bind (fun _ before => before) fun current => ?_
  refine upholding_ite ?_ (upholding_pure 0)
  exact upholding_bind (fun _ before => before) fun _ => upholding_pure 1

@[simp]
theorem upholding_dropLookupHooks (sharers : List Saved) (saved : Saved) :
    Upholding held (dropLookupHooks sharers saved) := by
  refine upholding_ite (upholding_pure 0) ?_
  split
  · exact upholding_bind (upholding_unhookSlot _ _) fun _ =>
      upholding_bind (upholding_unhookSlot _ _) fun _ => upholding_pure _
  · exact upholding_pure 0

theorem upholding_stage (fsType : String) (saved : Saved) (hook : Hook) :
    Upholding held (stage fsType saved hook) := by
  unfold stage
  split
  · exact upholding_pure 0
  · exact upholding_ite (upholding_hookSlot _ _ _) (upholding_pure 0)

/-! ### Entries -/

@[simp]
theorem recordFile_iOps (sharers : List Saved) (saved : Saved) (ops : FileTable) (memory : Memory) :
    (recordFile sharers saved ops memory).iOps = saved.iOps := by
  unfold recordFile
  split <;> rfl

section Saving

/-! No entry ever changes its inode table. -/

variable {entry : Entry} (saves : ∀ saved : Saved, saved.iOps = entry.saved.iOps →
  Upholding held (saveEntry entry.id saved))

include saves

theorem upholding_repatchFile (sharers : List Saved) (fOps : FileTable) :
    Upholding held (repatchFile sharers entry fOps) := by
  unfold repatchFile
  dsimp only
  repeat' first
    | split
    | with_reducible refine upholding_bind ?_ fun _ => ?_
  all_goals simp [saves]

theorem upholding_repatchInode : Upholding held (repatchInode entry) := by
  unfold repatchInode
  split
  · exact upholding_pure 0
  · refine upholding_bind upholding_get fun world => ?_
    refine upholding_bind (saves _ ?_) fun _ => ?_
    · split <;> rfl
    refine upholding_bind (upholding_hookSlot _ _ _) fun _ => ?_
    refine upholding_bind (upholding_hookSlot _ _ _) fun _ => ?_
    refine upholding_bind (saves _ ?_) fun _ => upholding_pure _
    split <;> rfl

theorem upholding_repatch (regular : Option Inode) : Upholding held (repatch entry regular) := by
  refine upholding_bind upholding_get fun world => upholding_ite (upholding_pure 0) ?_
  split
  · exact upholding_repatchFile saves _ _
  · exact upholding_repatchInode saves

theorem upholding_install (inode : entry.saved.iOps.isSome = true) :
    Upholding held (install entry) := by
  rw [install_stages inode]
  have staged (hook : Hook) : Upholding held (stage entry.fsType (armed entry.saved) hook) :=
    upholding_stage _ _ hook
  refine upholding_bind (staged _) fun _ => upholding_bind (staged _) fun _ => upholding_ite ?_ ?_
  · exact upholding_bind (staged _) fun _ => upholding_bind (staged _) fun _ => upholding_pure _
  · refine upholding_bind (staged _) fun _ => upholding_bind (staged _) fun _ => ?_
    exact upholding_bind (saves _ rfl) fun _ => upholding_pure _

end Saving

end Interception.Patch
