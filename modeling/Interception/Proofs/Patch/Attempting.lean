import Interception.Proofs.Patch.Preparing

/-!
How far an installation gets. Hooks go in one after the other, and the first
slot that holds neither its hook nor the address expected there ends it. The
hooks before that slot stay in. So an installation that is given up has left
the slots as they were only if all those hooks were in already.
-/

namespace Interception.Patch

open Change

variable {Value Result : Type} {world later : World} {content : Slot → Addr}

instance (content : Slot → Addr) (slot : Slot) (genuine : Addr) :
    Decidable (Ready content slot genuine) :=
  inferInstanceAs (Decidable (_ ∨ _))

/-- Slots in the order in which they are to be hooked, each with the address
that is expected there. -/
abbrev Plan := List (Slot × Addr)

namespace Plan

/-- The part of a plan before the first slot that is not ready. -/
def doable (plan : Plan) (content : Slot → Addr) : Plan :=
  plan.takeWhile fun planned => decide (Ready content planned.1 planned.2)

/-- The contents once everything has been done that could be. -/
def attempted : Plan → (Slot → Addr) → Slot → Addr
  | [], content => content
  | (slot, genuine) :: rest, content =>
      if Ready content slot genuine then attempted rest (hookAt slot content) else content

def Passable : Plan → (Slot → Addr) → Prop
  | [], _ => True
  | (slot, genuine) :: rest, content =>
      Ready content slot genuine ∧ Passable rest (hookAt slot content)

/-- All that could be done had been done before. -/
def Traceless (plan : Plan) (content : Slot → Addr) : Prop :=
  ∀ planned ∈ plan.doable content, content planned.1 = planned.1.hook.addr

instance (plan : Plan) (content : Slot → Addr) : Decidable (plan.Traceless content) :=
  inferInstanceAs (Decidable (∀ _ ∈ _, _))

theorem attempted_append (first second : Plan) : ∀ content,
    Passable first content →
      attempted (first ++ second) content = attempted second (attempted first content) ∧
        (Passable (first ++ second) content ↔ Passable second (attempted first content)) := by
  induction first with
  | nil => exact fun _ _ => ⟨rfl, .rfl⟩
  | cons planned rest further =>
      obtain ⟨slot, genuine⟩ := planned
      rintro content ⟨ready, passable⟩
      have tail := further (hookAt slot content) passable
      simp only [List.cons_append, attempted, Passable, ready, if_true, true_and]
      exact tail

theorem attempted_stopped (first second : Plan) : ∀ content, ¬ Passable first content →
    attempted (first ++ second) content = attempted first content ∧
      ¬ Passable (first ++ second) content := by
  induction first with
  | nil => exact fun _ stopped => absurd trivial stopped
  | cons planned rest further =>
      obtain ⟨slot, genuine⟩ := planned
      intro content stopped
      by_cases ready : Ready content slot genuine
      · have tail := further (hookAt slot content) fun passable => stopped ⟨ready, passable⟩
        simp only [List.cons_append, attempted, Passable, ready, if_true, true_and]
        exact tail
      · simp [attempted, Passable, ready]

theorem doable_congr {first second : Slot → Addr} (plan : Plan)
    (agree : ∀ planned ∈ plan, first planned.1 = second planned.1) :
    plan.doable first = plan.doable second := by
  induction plan with
  | nil => rfl
  | cons planned rest further =>
      have here := agree planned (by simp)
      have tail := further fun other member => agree other (List.mem_cons_of_mem planned member)
      have alike : Ready first planned.1 planned.2 ↔ Ready second planned.1 planned.2 := by
        rw [Ready, Ready, here]
      by_cases ready : Ready second planned.1 planned.2
      · simpa [doable, ready, alike.mpr ready] using tail
      · simp [doable, ready, mt alike.mp ready]

/-- A slot holds its hook if the attempt got as far, and is left alone if not. -/
theorem attempted_slot (plan : Plan) : ∀ content, (plan.map (·.1)).Nodup → ∀ slot,
    plan.attempted content slot =
      if slot ∈ (plan.doable content).map (·.1) then slot.hook.addr else content slot := by
  induction plan with
  | nil => simp [attempted, doable]
  | cons planned rest further =>
      obtain ⟨slot, genuine⟩ := planned
      intro content distinct other
      obtain ⟨fresh, distinct⟩ := List.nodup_cons.mp distinct
      by_cases ready : Ready content slot genuine
      · -- What has been hooked does not make another slot ready.
        have same : doable rest (hookAt slot content) = doable rest content := by
          apply doable_congr
          intro planned member
          have apart : planned.1 ≠ slot := by
            rintro rfl
            exact fresh (List.mem_map.mpr ⟨planned, member, rfl⟩)
          exact if_neg apart
        have step : doable ((slot, genuine) :: rest) content =
            (slot, genuine) :: doable rest content := by simp [doable, ready]
        rw [attempted, if_pos ready, further _ distinct, same, step, List.map_cons]
        by_cases own : other = slot
        · subst own
          simp [hookAt]
        · simp only [hookAt, List.mem_cons, own, false_or, if_false]
      · simp [attempted, doable, ready]

theorem attempted_traceless (plan : Plan) (distinct : (plan.map (·.1)).Nodup) :
    plan.attempted content = content ↔ plan.Traceless content := by
  constructor
  · intro same planned member
    have own := congrFun same planned.1
    rw [attempted_slot plan content distinct, if_pos (List.mem_map_of_mem member)] at own
    exact own.symm
  · intro traceless
    funext slot
    rw [attempted_slot plan content distinct]
    split
    · next reached =>
        obtain ⟨planned, member, rfl⟩ := List.mem_map.mp reached
        exact (traceless planned member).symm
    · rfl

end Plan

open Plan

/-! ### Changes that follow a plan -/

/-- Wherever the change fails, it has followed the plan as far as that goes. -/
def Stumbles (plan : Plan) (change : Change Value) : Prop :=
  ∀ world error later, on change world = (.error error, later) →
    ¬ plan.Passable world.memory.content ∧
      Poked world (plan.attempted world.memory.content) later

/-- Wherever the change succeeds, it has followed the plan to its end. -/
def Proceeds (plan : Plan) (change : Change Value) : Prop :=
  ∀ world value later, on change world = (.ok value, later) →
    plan.Passable world.memory.content ∧ Poked world (plan.attempted world.memory.content) later

/-- A change that cannot fail stumbles on nothing. -/
theorem stumbles_never {plan : Plan} {change : Change Value}
    (succeeds : ∀ world, ∃ value, (on change world).1 = .ok value) : Stumbles plan change := by
  intro world error later ran
  obtain ⟨value, fine⟩ := succeeds world
  rw [ran] at fine
  cases fine

theorem proceeds_pure (value : Value) : Proceeds [] (pure value) := by
  intro world result later ran
  obtain ⟨_, rfl⟩ := Prod.mk.inj ran
  exact ⟨trivial, Poked.refl world⟩

theorem stumbles_bind {first second : Plan} {change : Change Value} {next : Value → Change Result}
    (stumbles : Stumbles first change) (proceeds : Proceeds first change)
    (further : ∀ value, Stumbles second (next value)) :
    Stumbles (first ++ second) (change >>= next) := by
  intro world error later ran
  rw [on_bind] at ran
  rcases started : on change world with ⟨answer, middle⟩
  rw [started] at ran
  cases answer with
  | error stopped =>
      obtain ⟨_, rfl⟩ := Prod.mk.inj ran
      obtain ⟨impassable, poked⟩ := stumbles world stopped middle started
      obtain ⟨same, impassable⟩ := attempted_stopped first second _ impassable
      exact ⟨impassable, same ▸ poked⟩
  | ok value =>
      obtain ⟨passable, poked⟩ := proceeds world value middle started
      obtain ⟨impassable, last⟩ := further value middle error later ran
      obtain ⟨same, rest⟩ := attempted_append first second _ passable
      rw [poked.content] at impassable last
      rw [rest, same]
      exact ⟨impassable, poked.trans last⟩

theorem hookSlot_stumbles (fsType : String) (slot : Slot) (genuine : Addr) :
    Stumbles [(slot, genuine)] (hookSlot fsType slot genuine) := by
  intro world error later ran
  by_cases ready : Ready world.memory.content slot genuine
  · obtain ⟨pokes, _, fine, _⟩ := hookSlot_ready fsType ready
    rw [fine] at ran
    cases congrArg Prod.fst ran
  · obtain ⟨unhooked, foreign⟩ := not_or.mp ready
    have stopped : on (hookSlot fsType slot genuine) world =
        (.error (.foreignHook fsType slot.hook (world.memory.content slot)), world) := by
      simp [hookSlot, load, on_bind, unhooked, foreign]
    obtain ⟨_, rfl⟩ := Prod.mk.inj (stopped.symm.trans ran)
    refine ⟨fun passable => ready passable.1, ?_⟩
    rw [attempted, if_neg ready]
    exact Poked.refl world

theorem hookSlot_proceeds (fsType : String) (slot : Slot) (genuine : Addr) :
    Proceeds [(slot, genuine)] (hookSlot fsType slot genuine) := by
  intro world value later ran
  by_cases ready : Ready world.memory.content slot genuine
  · obtain ⟨pokes, _, fine, poked⟩ := hookSlot_ready fsType ready
    obtain ⟨_, rfl⟩ := Prod.mk.inj (fine.symm.trans ran)
    refine ⟨⟨ready, trivial⟩, ?_⟩
    rw [attempted, if_pos ready]
    exact poked
  · obtain ⟨unhooked, foreign⟩ := not_or.mp ready
    have stopped : on (hookSlot fsType slot genuine) world =
        (.error (.foreignHook fsType slot.hook (world.memory.content slot)), world) := by
      simp [hookSlot, load, on_bind, unhooked, foreign]
    rw [stopped] at ran
    cases congrArg Prod.fst ran

/-! ### Installations -/

/-- The slots that an entry has hooked by these hooks. -/
def Saved.plan (saved : Saved) (hooks : List Hook) : Plan :=
  hooks.filterMap fun hook =>
    if saved.wants hook then (saved.slot? hook).map fun slot => (slot, saved.original hook) else none

/-- The hooks of an installation in their order. -/
def Saved.hooks (saved : Saved) : List Hook :=
  [.revalidate, .atomicOpen] ++ if saved.fOps.isSome then [.openFile, .release] else [.lookup, .create]

def Saved.installation (saved : Saved) : Plan := (armed saved).plan saved.hooks

theorem plan_hook {saved : Saved} {hooks : List Hook} {planned : Slot × Addr}
    (member : planned ∈ saved.plan hooks) :
    planned.1.hook ∈ hooks ∧ saved.Uses planned.1 ∧ saved.wants planned.1.hook = true ∧
      planned.2 = saved.original planned.1.hook := by
  obtain ⟨hook, inside, found⟩ := List.mem_filterMap.mp member
  split at found
  · next wanted =>
      obtain ⟨slot, used, rfl⟩ := Option.map_eq_some_iff.mp found
      obtain rfl := slot?_hook used
      exact ⟨inside, used, wanted, rfl⟩
  · cases found

/-- Different hooks go into different slots. -/
theorem plan_distinct (saved : Saved) {hooks : List Hook} (distinct : hooks.Nodup) :
    ((saved.plan hooks).map (·.1)).Nodup := by
  induction hooks with
  | nil => exact List.nodup_nil
  | cons hook rest further =>
      obtain ⟨fresh, distinct⟩ := List.nodup_cons.mp distinct
      have tail := further distinct
      rw [Saved.plan, List.filterMap_cons]
      split
      · exact tail
      · next planned found =>
          refine List.nodup_cons.mpr ⟨?_, tail⟩
          intro again
          obtain ⟨other, member, same⟩ := List.mem_map.mp again
          have own : planned.1.hook = hook := by
            split at found
            · obtain ⟨slot, used, rfl⟩ := Option.map_eq_some_iff.mp found
              exact slot?_hook used
            · cases found
          have there := (plan_hook member).1
          rw [show other.1 = planned.1 from same, own] at there
          exact fresh there

theorem installation_distinct (saved : Saved) : (saved.installation.map (·.1)).Nodup := by
  apply plan_distinct
  unfold Saved.hooks
  split <;> decide

theorem stage_follows (fsType : String) (saved : Saved) (hook : Hook) :
    Stumbles (saved.plan [hook]) (stage fsType saved hook) ∧
      Proceeds (saved.plan [hook]) (stage fsType saved hook) := by
  have idle : Stumbles [] (pure 0 : Change Nat) ∧ Proceeds [] (pure 0 : Change Nat) :=
    ⟨stumbles_never fun _ => ⟨0, rfl⟩, proceeds_pure 0⟩
  cases found : saved.slot? hook with
  | none => simpa [stage, Saved.plan, found] using idle
  | some slot =>
      by_cases wanted : saved.wants hook = true
      · simpa [stage, Saved.plan, found, wanted] using
          And.intro (hookSlot_stumbles fsType slot (saved.original hook))
            (hookSlot_proceeds fsType slot (saved.original hook))
      · simpa [stage, Saved.plan, found, wanted] using idle

theorem stage_then {saved : Saved} {hooks : List Hook} {next : Nat → Change Value}
    (fsType : String) (hook : Hook) (further : ∀ pokes, Stumbles (saved.plan hooks) (next pokes)) :
    Stumbles (saved.plan (hook :: hooks)) (stage fsType saved hook >>= next) := by
  obtain ⟨stumbles, proceeds⟩ := stage_follows fsType saved hook
  have same : saved.plan (hook :: hooks) = saved.plan [hook] ++ saved.plan hooks := by
    rw [Saved.plan, Saved.plan, Saved.plan, ← List.filterMap_append]
    rfl
  rw [same]
  exact stumbles_bind stumbles proceeds further

/-- An installation that fails has touched no entry. -/
theorem install_stumbles {entry : Entry} (inode : entry.saved.iOps.isSome = true) :
    Stumbles entry.saved.installation (install entry) := by
  rw [install_stages inode, Saved.installation, Saved.hooks]
  refine stage_then _ _ fun _ => stage_then _ _ fun _ => ?_
  by_cases files : entry.saved.fOps.isSome = true
  · simp only [if_pos files]
    exact stage_then _ _ fun _ => stage_then _ _ fun _ => stumbles_never fun _ => ⟨_, rfl⟩
  · simp only [if_neg files]
    exact stage_then _ _ fun _ => stage_then _ _ fun _ => stumbles_never fun _ => ⟨_, rfl⟩

end Interception.Patch
