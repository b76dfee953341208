import Interception.Patch.Table

/-!
Running a change of the patch table, and what the changes of single slots do.
A slot is ready for its hook when it holds the hook already or the address
that was saved for it; then hooking cannot fail. Taking a hook out touches
nothing but a slot that holds it.
-/

namespace Interception.Patch

variable {Value Result : Type}

namespace Change

/-- What a change answers, and the world it leaves. -/
def on (change : Change Value) (world : World) : Except PatchError Value × World :=
  change.run.run world

@[simp]
theorem on_pure (value : Value) (world : World) :
    on (pure value) world = (.ok value, world) := rfl

@[simp]
theorem on_throw (error : PatchError) (world : World) :
    on (throw error : Change Value) world = (.error error, world) := rfl

theorem on_bind (change : Change Value) (next : Value → Change Result) (world : World) :
    on (change >>= next) world =
      match on change world with
      | (.ok value, later) => on (next value) later
      | (.error error, later) => (.error error, later) := by
  simp only [on, ExceptT.run_bind, StateT.run_bind]
  cases ran : StateT.run (ExceptT.run change) world with
  | mk result later => cases result <;> rfl

theorem on_bind_ok {change : Change Value} {world later : World} {value : Value}
    (ran : on change world = (.ok value, later)) (next : Value → Change Result) :
    on (change >>= next) world = on (next value) later := by
  rw [on_bind, ran]

@[simp]
theorem on_get (world : World) : on (get : Change World) world = (.ok world, world) := rfl

@[simp]
theorem on_get_bind (next : World → Change Result) (world : World) :
    on (get >>= next) world = on (next world) world := by
  rw [on_bind, on_get]

@[simp]
theorem on_modify (step : World → World) (world : World) :
    on (modify step : Change PUnit) world = (.ok (), step world) := rfl

@[simp]
theorem on_modify_bind (step : World → World) (next : PUnit → Change Result) (world : World) :
    on (modify step >>= next) world = on (next ()) (step world) := by
  rw [on_bind, on_modify]

theorem on_map (f : Value → Result) (change : Change Value) (world : World) :
    on (f <$> change) world = ((on change world).1.map f, (on change world).2) := by
  rw [map_eq_pure_bind, on_bind]
  cases ran : on change world with
  | mk result later => cases result <;> rfl

theorem on_discard_bind {change : Change Value} {world later : World} {value : Value}
    (ran : on change world = (.ok value, later)) (next : Unit → Change Result) :
    on (discard change >>= next) world = on (next ()) later := by
  have forgotten : on (discard change) world = (.ok (), later) := by
    show on ((fun _ => ()) <$> change) world = (.ok (), later)
    rw [on_map, ran]
    rfl
  exact on_bind_ok forgotten next

/-- A change that is run for its answer only hands a failure on as a value. -/
@[simp]
theorem on_lift (change : Change Value) (world : World) :
    on (ExceptT.lift change.run : Change (Except PatchError Value)) world =
      (.ok (on change world).1, (on change world).2) := rfl

end Change

open Change

/-! ### Single slots -/

/-- Only the slots of the memory have changed, to these contents. -/
structure Poked (world : World) (content : Slot → Addr) (later : World) : Prop where
  content : later.memory.content = content
  table : later.table = world.table
  isSealed : later.memory.isSealed = world.memory.isSealed

theorem Poked.refl (world : World) : Poked world world.memory.content world := ⟨rfl, rfl, rfl⟩

theorem Poked.trans {world middle later : World} {first second : Slot → Addr}
    (left : Poked world first middle) (right : Poked middle second later) :
    Poked world second later :=
  ⟨right.content, right.table.trans left.table, right.isSealed.trans left.isSealed⟩

/-- The contents with a slot hooked. -/
def hookAt (slot : Slot) (content : Slot → Addr) : Slot → Addr :=
  fun other => if other = slot then slot.hook.addr else content other

/-- The contents with an address put back in the place of a hook. -/
def putBack (slot : Slot) (genuine : Addr) (content : Slot → Addr) : Slot → Addr :=
  fun other => if other = slot ∧ content slot = slot.hook.addr then genuine else content other

def Ready (content : Slot → Addr) (slot : Slot) (genuine : Addr) : Prop :=
  content slot = slot.hook.addr ∨ content slot = genuine

theorem ready_hookAt {content : Slot → Addr} {slot : Slot} {genuine : Addr} (other : Slot)
    (ready : Ready content slot genuine) : Ready (hookAt other content) slot genuine := by
  by_cases same : slot = other
  · subst same
    exact .inl (by simp [hookAt])
  · simpa [Ready, hookAt, same] using ready

theorem hookAt_hooked {content : Slot → Addr} {slot : Slot}
    (hooked : content slot = slot.hook.addr) : hookAt slot content = content := by
  funext other
  by_cases same : other = slot
  · simp [hookAt, same, hooked]
  · simp [hookAt, same]

theorem poked_poke (world : World) (slot : Slot) (addr : Addr) :
    Poked world (fun other => if other = slot then addr else world.memory.content other)
      { world with memory := world.memory.poke slot addr } :=
  ⟨rfl, rfl, rfl⟩

/-- A slot that holds its hook is left alone, whatever was saved for it. -/
theorem hookSlot_hooked (fsType : String) {slot : Slot} (genuine : Addr) {world : World}
    (hooked : world.memory.content slot = slot.hook.addr) :
    on (hookSlot fsType slot genuine) world = (.ok 0, world) := by
  simp [hookSlot, load, hooked, on_bind]

/-- A ready slot takes its hook. -/
theorem hookSlot_ready (fsType : String) {slot : Slot} {genuine : Addr} {world : World}
    (ready : Ready world.memory.content slot genuine) :
    ∃ pokes later, on (hookSlot fsType slot genuine) world = (.ok pokes, later) ∧
      Poked world (hookAt slot world.memory.content) later := by
  by_cases hooked : world.memory.content slot = slot.hook.addr
  · refine ⟨0, world, hookSlot_hooked fsType genuine hooked, ?_⟩
    rw [hookAt_hooked hooked]
    exact Poked.refl world
  · have genuineThere : world.memory.content slot = genuine := ready.resolve_left hooked
    have different : genuine ≠ slot.hook.addr := genuineThere ▸ hooked
    exact ⟨1, _, by simp [hookSlot, load, poke, on_map, on_bind, Except.map, genuineThere, different],
      poked_poke world slot slot.hook.addr⟩

/-- Taking a hook out never fails. -/
theorem unhookSlot_on (slot : Slot) (genuine : Addr) (world : World) :
    ∃ pokes later, on (unhookSlot slot genuine) world = (.ok pokes, later) ∧
      Poked world (putBack slot genuine world.memory.content) later := by
  by_cases hooked : world.memory.content slot = slot.hook.addr
  · refine ⟨1, { world with memory := world.memory.poke slot genuine },
      by simp [unhookSlot, load, poke, on_map, on_bind, Except.map, hooked], ?_⟩
    have same : putBack slot genuine world.memory.content =
        fun other => if other = slot then genuine else world.memory.content other := by
      funext other
      simp [putBack, hooked]
    rw [same]
    exact poked_poke world slot genuine
  · refine ⟨0, world, by simp [unhookSlot, load, on_bind, hooked], ?_⟩
    have same : putBack slot genuine world.memory.content = world.memory.content := by
      funext other
      simp [putBack, hooked]
    rw [same]
    exact Poked.refl world

/-! ### Unprotected regions -/

/-- A sealed memory refuses every change. -/
theorem unprotected_sealed (change : Change Value) {world : World}
    (isSealed : world.memory.isSealed = true) :
    on (unprotected change) world = (.error .sealedMemory, world) := by
  simp [unprotected, isSealed, on_bind]

def World.opened (world : World) : World := { world with memory := world.memory.unprotect }

def World.closed (world : World) : World := { world with memory := world.memory.protect }

theorem unprotected_on (change : Change Value) {world : World}
    (writable : world.memory.isSealed = false) :
    on (unprotected change) world =
      ((on change world.opened).1, (on change world.opened).2.closed) := by
  simp only [unprotected, on_bind, on_get, writable, Bool.false_eq_true, if_false, on_modify,
    on_lift, World.opened]
  cases (on change { world with memory := world.memory.unprotect }).1 <;> rfl

end Interception.Patch
