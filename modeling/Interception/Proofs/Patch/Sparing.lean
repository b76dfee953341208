import Interception.Proofs.Patch.Upholding

/-!
What hooking and repatching do not show in. They write slots and saved addresses
and nothing else, so whatever a view of the entries shows apart from what they
saved is spared. Publishing the list spares what does not depend on sharing.
-/

namespace Interception.Patch

open Change

variable {Value Result View : Type} {world later : World} {view : Entry → View}

/-- What a view shows of the entries and of those that wait aside. -/
def Table.shown (view : Entry → View) (table : Table) : List View × List View :=
  (table.entries.map view, table.retired.map view)

theorem mapEntry_view {id : Nat} {change : Entry → Entry}
    (kept : ∀ entry : Entry, view (change entry) = view entry) (entries : List Entry) :
    (Table.mapEntry id change entries).map view = entries.map view := by
  rw [Table.mapEntry, List.map_map]
  apply List.map_congr_left
  intro entry _
  by_cases own : entry.id = id <;> simp [own, kept]

theorem shown_update {table : Table} {id : Nat} {change : Entry → Entry}
    (kept : ∀ entry : Entry, view (change entry) = view entry) :
    (table.update id change).shown view = table.shown view := by
  simp only [Table.shown, Table.update, mapEntry_view kept]

theorem shown_publish (unshared : ∀ entry shared, view { entry with shared } = view entry)
    (table : Table) (entries : List Entry) :
    (table.publish entries).shown view = (entries.map view, table.retired.map view) := by
  simp [Table.shown, Table.publish, Table.markShared, Function.comp_def, unshared]

/-- What an installation saves does not show in a view of the rest. -/
theorem shown_arm (unsaved : ∀ entry saved, view { entry with saved } = view entry) (table : Table)
    (entry : Entry) : (table.arm entry).shown view = table.shown view := by
  unfold Table.arm
  split
  · rfl
  · exact shown_update fun other => unsaved other (armed entry.saved)

/-- Whatever the change does, it spares what the view shows. -/
def Sparing (view : Entry → View) (change : Change Value) : Prop :=
  ∀ world, (on change world).2.table.shown view = world.table.shown view

theorem sparing_upheld {change : Change Value}
    (upholds : ∀ seen, Upholding (fun table => table.shown view = seen) change) :
    Sparing view change :=
  fun world => upholds (world.table.shown view) world rfl

@[simp]
theorem sparing_pure (value : Value) : Sparing view (pure value) := fun _ => rfl

@[simp]
theorem sparing_throw (error : PatchError) : Sparing view (throw error : Change Value) :=
  fun _ => rfl

@[simp]
theorem sparing_get : Sparing view (get : Change World) := fun _ => rfl

theorem sparing_modify {step : World → World}
    (kept : ∀ world, (step world).table.shown view = world.table.shown view) :
    Sparing view (modify step : Change PUnit) := kept

theorem sparing_bind {change : Change Value} {next : Value → Change Result}
    (first : Sparing view change) (second : ∀ value, Sparing view (next value)) :
    Sparing view (change >>= next) :=
  sparing_upheld fun _ => upholding_bind (fun world before => (first world).trans before)
    fun value world before => (second value world).trans before

section Unsaved

variable (unsaved : ∀ entry saved, view { entry with saved } = view entry)

include unsaved

/-- What is saved of an entry does not show. -/
theorem spared_saves (seen : List View × List View) (entry : Entry) (saved : Saved)
    (_ : saved.iOps = entry.saved.iOps) :
    Upholding (fun table => table.shown view = seen) (saveEntry entry.id saved) :=
  upholding_modify fun _ before => (shown_update fun other => unsaved other saved).trans before

theorem sparing_repatch (entry : Entry) (regular : Option Inode) :
    Sparing view (repatch entry regular) :=
  sparing_upheld fun seen => upholding_repatch (spared_saves unsaved seen entry) regular

theorem sparing_install {entry : Entry} (inode : entry.saved.iOps.isSome = true) :
    Sparing view (install entry) :=
  sparing_upheld fun seen => upholding_install (spared_saves unsaved seen entry) inode

end Unsaved

theorem sparing_publishAll (unshared : ∀ entry shared, view { entry with shared } = view entry) :
    Sparing view publishAll :=
  sparing_modify fun world => shown_publish unshared world.table world.table.entries

theorem sparing_after {change : Change Value} {answer : Except PatchError Value}
    (sparing : Sparing view change) (ran : on change world = (answer, later)) :
    later.table.shown view = world.table.shown view := by
  have quiet := sparing world
  rw [ran] at quiet
  exact quiet

end Interception.Patch
