import Interception.Proofs.Patch.Attempting
import Interception.Proofs.Patch.Flagging
import Interception.Proofs.Patch.Rostering

/-!
Operations that fail. Whoever counts mounts finds the same numbers, types and
uses as before. But a hook that went in before the failure stays in unless the
entry is new and nobody shares the slot, and a type that was to move up to file
operations has lost its lookup hooks and keeps what it was about to save. So a
failure leaves no trace only if all that it had done until then was in place
before.
-/

namespace Interception.Patch

open Change Plan

variable {world later : World} {entry : Entry} {error : PatchError}

/-! ### Worlds -/

/-- The worlds that a memory may come to from an empty table on: by steps of the
table, by calls that take and give back uses, and by whoever else writes to the
memory. -/
inductive Visited : World → Prop
  | start (memory : Memory) : Visited (World.start memory)
  | step (step : Step) {world : World} (visited : Visited world) : Visited (step.apply world)
  | acquire (id : Nat) {world : World} (visited : Visited world) :
      Visited { world with table := world.table.acquire id }
  | release (id : Nat) {world : World} (visited : Visited world) :
      Visited { world with table := world.table.release id }
  | foreign (memory : Memory) {world : World} (visited : Visited world) :
      Visited { world with memory }

theorem visited_shaped (visited : Visited world) : Shaped world.table := by
  induction visited with
  | start memory => exact shaped_empty
  | step step visited shaped => exact shaped_apply shaped step
  | acquire id visited shaped => exact shaped_acquire shaped id
  | release id visited shaped => exact shaped_release shaped id
  | foreign memory visited shaped => exact shaped

theorem visited_replay (visited : Visited world) (steps : List Step) :
    Visited (replay steps world) := by
  induction steps generalizing world with
  | nil => exact visited
  | cons step rest further => exact further (.step step visited)

/-- Entries and slots are as they were. -/
def Unchanged (world later : World) : Prop :=
  later.table.entries = world.table.entries ∧ later.memory.content = world.memory.content

theorem unchanged_refl (world : World) : Unchanged world world := ⟨rfl, rfl⟩

/-- Saving for an entry changes it unless that had been saved already. -/
theorem saved_same_iff (shaped : Shaped world.table) (inside : entry ∈ world.table.entries)
    (saved : Saved) :
    (world.table.update entry.id fun other => { other with saved }).entries = world.table.entries ↔
      saved = entry.saved := by
  constructor
  · intro same
    have own := List.map_inj_left.mp (same.trans (List.map_id _).symm) entry inside
    simpa using congrArg Entry.saved own
  · rintro rfl
    refine (List.map_congr_left fun other beside => ?_).trans (List.map_id _)
    split
    · next same => rw [entry_unique shaped.formed.numbered inside beside same]; rfl
    · rfl

/-! ### Moving up -/

/-- What an entry saves for a file table. -/
def refiled (sharers : List Saved) (saved : Saved) (table : FileTable) (memory : Memory) : Saved :=
  recordFile sharers { saved with fOps := some table, lookupHooked := false } table memory

def filing (saved : Saved) (table : FileTable) : Plan :=
  [(table.slot .openFile, saved.openFile), (table.slot .release, saved.release)]

/-- Whether the addresses that an entry was about to save are hooks. -/
def Doubled (saved : Saved) : Prop :=
  saved.openFile = Hook.openFile.addr ∨ saved.release = Hook.release.addr

instance (saved : Saved) : Decidable (Doubled saved) := inferInstanceAs (Decidable (_ ∨ _))

/-- What stays saved when the entry fails to move up. -/
def abandoned (recorded : Saved) : Saved :=
  if Doubled recorded then { recorded with fOps := none } else recorded

/-- The hooks that it tried to put in. -/
def pursued (recorded : Saved) (table : FileTable) : Plan :=
  if Doubled recorded then [] else filing recorded table

/-- Moving up, once the lookup hooks are out. -/
def refile (entry : Entry) (recorded : Saved) (table : FileTable) (dropped : Nat) : Change Nat := do
  if Doubled recorded then
    saveEntry entry.id { recorded with fOps := none }
    throw (.doublePatch entry.fsType)
  saveEntry entry.id recorded
  let opens ← hookSlot entry.fsType (table.slot .openFile) recorded.openFile
  let releases ← hookSlot entry.fsType (table.slot .release) recorded.release
  return dropped + opens + releases

theorem repatchFile_refiles (sharers : List Saved) (entry : Entry) (table : FileTable)
    (world : World) :
    on (repatchFile sharers entry table) world =
      if entry.saved.lookupHooked then
        on (do
          let dropped ← dropLookupHooks sharers entry.saved
          refile entry (refiled sharers entry.saved table (← get).memory) table dropped) world
      else on (refile entry (refiled sharers entry.saved table world.memory) table 0) world := by
  by_cases asked : entry.saved.lookupHooked = true
  · simp only [repatchFile, asked, if_true]
    rfl
  · have unasked : entry.saved.lookupHooked = false := by simpa using asked
    simp only [repatchFile, unasked, refile, refiled, Doubled, Bool.false_eq_true, if_false,
      on_get_bind]
    rfl

theorem pair_stumbles {Value : Type} (fsType : String) (first second : Slot × Addr)
    {last : Nat → Nat → Change Value}
    (succeeds : ∀ once again world, ∃ value, (on (last once again) world).1 = .ok value) :
    Stumbles [first, second] (do
      let once ← hookSlot fsType first.1 first.2
      let again ← hookSlot fsType second.1 second.2
      last once again) :=
  stumbles_bind (hookSlot_stumbles fsType _ _) (hookSlot_proceeds fsType _ _) fun once =>
    stumbles_bind (hookSlot_stumbles fsType _ _) (hookSlot_proceeds fsType _ _) fun again =>
      stumbles_never (succeeds once again)

theorem refile_fails {recorded : Saved} {table : FileTable} {dropped : Nat}
    (ran : on (refile entry recorded table dropped) world = (.error error, later)) :
    later.table = world.table.update entry.id (fun other => { other with saved := abandoned recorded }) ∧
      later.memory.content = (pursued recorded table).attempted world.memory.content := by
  unfold refile at ran
  by_cases doubled : Doubled recorded
  · simp only [if_pos doubled, saveEntry, on_modify_bind] at ran
    obtain ⟨_, rfl⟩ := Prod.mk.inj ran
    rw [abandoned, pursued, if_pos doubled, if_pos doubled]
    exact ⟨rfl, rfl⟩
  · simp only [if_neg doubled, saveEntry, on_modify_bind] at ran
    obtain ⟨_, poked⟩ := pair_stumbles entry.fsType (table.slot .openFile, recorded.openFile)
      (table.slot .release, recorded.release) (fun _ _ _ => ⟨_, rfl⟩) _ _ _ ran
    rw [abandoned, pursued, if_neg doubled, if_neg doubled]
    exact ⟨poked.table, poked.content⟩

theorem recordFile_unasked (sharers : List Saved) (saved : Saved) (table : FileTable)
    (memory : Memory) :
    (recordFile sharers saved table memory).lookupHooked = saved.lookupHooked := by
  unfold recordFile
  split <;> rfl

theorem abandoned_unasked (sharers : List Saved) (saved : Saved) (table : FileTable)
    (memory : Memory) : (abandoned (refiled sharers saved table memory)).lookupHooked = false := by
  unfold abandoned
  split <;> exact recordFile_unasked sharers _ table memory

theorem pursued_distinct (recorded : Saved) (table : FileTable) :
    ((pursued recorded table).map (·.1)).Nodup := by
  unfold pursued
  split
  · exact List.nodup_nil
  · simp [filing, FileTable.slot]

/-- An entry that fails to move up leaves no trace only if it had failed so
before: it has saved what it saves now and asks for no lookups any more. -/
theorem repatchFile_fails (shaped : Shaped world.table) (inside : entry ∈ world.table.entries)
    {sharers : List Saved} {table : FileTable}
    (ran : on (repatchFile sharers entry table) world = (.error error, later)) :
    Unchanged world later ↔
      abandoned (refiled sharers entry.saved table world.memory) = entry.saved ∧
        (pursued (refiled sharers entry.saved table world.memory) table).Traceless
          world.memory.content := by
  rw [repatchFile_refiles] at ran
  by_cases asked : entry.saved.lookupHooked = true
  · rw [if_pos asked] at ran
    -- Who asked for lookups does so no longer, and that shows.
    have gone (memory : Memory) : abandoned (refiled sharers entry.saved table memory) ≠ entry.saved := by
      intro same
      have unasked := abandoned_unasked sharers entry.saved table memory
      rw [same, asked] at unasked
      cases unasked
    obtain ⟨dropped, first, ranFirst, poked⟩ := dropLookupHooks_on sharers entry.saved world
    rw [on_bind_ok ranFirst, on_get_bind] at ran
    have saves := (refile_fails ran).1
    rw [poked.table] at saves
    have changed : ¬ Unchanged world later := by
      rintro ⟨entries, _⟩
      rw [saves, saved_same_iff shaped inside] at entries
      exact gone first.memory entries
    exact iff_of_false changed fun traceless => gone world.memory traceless.1
  · rw [if_neg asked] at ran
    obtain ⟨saves, content⟩ := refile_fails ran
    rw [Unchanged, saves, saved_same_iff shaped inside, content,
      attempted_traceless _ (pursued_distinct _ table)]

/-! ### Lookups -/

def lookingUp (saved : Saved) (table : InodeTable) : Plan :=
  [(table.slot .lookup, saved.lookup), (table.slot .create, saved.create)]

/-- Addresses that are read from the slots are found there. -/
theorem reread_passable {saved : Saved} (missing : saved.lookup = Addr.null) (table : InodeTable)
    (content : Slot → Addr) : (lookingUp (reread saved table content) table).Passable content := by
  rw [reread, if_pos missing]
  exact ⟨.inr rfl, ready_hookAt _ (.inr rfl), trivial⟩

theorem repatchInode_fails (shaped : Shaped world.table) (inside : entry ∈ world.table.entries)
    {table : InodeTable} (used : entry.saved.iOps = some table)
    (ran : on (repatchInode entry) world = (.error error, later)) :
    Unchanged world later ↔ (lookingUp entry.saved table).Traceless world.memory.content := by
  rw [repatchInode_reread world used, saveEntry, on_modify_bind] at ran
  obtain ⟨impassable, poked⟩ := pair_stumbles entry.fsType
    (table.slot .lookup, (reread entry.saved table world.memory.content).lookup)
    (table.slot .create, (reread entry.saved table world.memory.content).create)
    (fun _ _ _ => ⟨_, rfl⟩) _ _ _ ran
  -- A failure means that the addresses were known before.
  have known : reread entry.saved table world.memory.content = entry.saved :=
    if_neg fun missing => impassable (reread_passable missing table world.memory.content)
  rw [known] at poked
  have entries : later.table.entries = world.table.entries := by
    rw [poked.table, saved_same_iff shaped inside]
  rw [Unchanged, and_iff_right entries, poked.content]
  refine attempted_traceless _ ?_
  simp [InodeTable.slot]

/-- What a failing repatch of an entry may leave traces of. -/
def RepatchTraceless (world : World) (entry : Entry) (regular : Option Inode) : Prop :=
  match regularOf regular with
  | some inode =>
      let recorded := refiled (Table.others entry.id world.table.entries) entry.saved inode.fOp
        world.memory
      abandoned recorded = entry.saved ∧ (pursued recorded inode.fOp).Traceless world.memory.content
  | none => ∀ table, entry.saved.iOps = some table →
      (lookingUp entry.saved table).Traceless world.memory.content

theorem repatch_fails (shaped : Shaped world.table) (inside : entry ∈ world.table.entries)
    {regular : Option Inode} (ran : on (repatch entry regular) world = (.error error, later)) :
    Unchanged world later ↔ RepatchTraceless world entry regular := by
  rw [repatch, on_get_bind] at ran
  by_cases opened : openHooked entry.saved world.memory = true
  · rw [if_pos opened] at ran
    cases congrArg Prod.fst ran
  · rw [if_neg opened] at ran
    cases offered : regularOf regular with
    | some inode =>
        simp only [offered] at ran
        simp only [RepatchTraceless, offered]
        exact repatchFile_fails shaped inside ran
    | none =>
        simp only [offered] at ran
        obtain ⟨table, used⟩ := Option.isSome_iff_exists.mp (entry_inode shaped inside)
        simp only [RepatchTraceless, offered, used, Option.some.injEq, forall_eq']
        exact repatchInode_fails shaped inside used ran

/-! ### New entries -/

/-- A hook that is taken out for a new entry makes room for what was there. -/
theorem prepared_frees {sharers : List Saved} {content : Slot → Addr} {request : Request}
    {saved : Saved} (prepared : Prepared sharers content request saved) {slot : Slot}
    (frees : Frees sharers saved slot) : saved.original slot.hook = content slot := by
  obtain ⟨used, alone, known⟩ := frees
  by_cases lookup : lookupHook slot.hook
  · obtain ⟨table, own, same⟩ := uses_inode_table (lookupHook_inode lookup) used
    have root : request.root.iOp = table := Option.some.inj (prepared.iOps.symm.trans own)
    have unfiled : saved.fOps = none := by
      by_contra filed
      obtain ⟨noLookup, noCreate⟩ := prepared.blind filed
      have missing : saved.original slot.hook = Addr.null := by
        rcases lookup with hook | hook
        · rw [hook]; exact noLookup
        · rw [hook]; exact noCreate
      exact known (lookupHook_inode lookup) missing
    rcases lookup_source lookup (prepared.lookups unfiled) with
      ⟨other, member, theirs, _, _⟩ | ⟨_, there⟩
    · have uses : other.Uses slot := by
        rw [same, uses_inode (lookupHook_inode lookup), theirs, root]
      exact absurd uses (alone other member)
    · rw [there, root, ← same]
  · rcases prepared_sourced prepared lookup used with ⟨other, member, uses, _⟩ | ⟨there, _⟩
    · exact absurd uses (alone other member)
    · exact there

/-- A new entry that is given up leaves no hook but those that it put into
slots of its sharers. -/
theorem withdrawn_traceless {sharers : List Saved} {content : Slot → Addr} {request : Request}
    {saved : Saved} (prepared : Prepared sharers content request saved)
    (genuine : ∀ hook : Hook, saved.original hook ≠ hook.addr) :
    freeAll sharers saved (saved.installation.attempted content) = content ↔
      ∀ planned ∈ saved.installation.doable content,
        content planned.1 = planned.1.hook.addr ∨ Frees sharers saved planned.1 := by
  have there (slot : Slot) : saved.installation.attempted content slot =
      if slot ∈ (saved.installation.doable content).map (·.1) then slot.hook.addr
      else content slot :=
    attempted_slot _ content (installation_distinct saved) slot
  constructor
  · intro same planned member
    by_cases frees : Frees sharers saved planned.1
    · exact .inr frees
    · have own := congrFun same planned.1
      rw [freeAll, if_neg (fun freed => frees freed.1), there,
        if_pos (List.mem_map_of_mem member)] at own
      exact .inl own.symm
  · intro spared
    funext slot
    by_cases reached : slot ∈ (saved.installation.doable content).map (·.1)
    · obtain ⟨planned, member, rfl⟩ := List.mem_map.mp reached
      by_cases frees : Frees sharers saved planned.1
      · rw [freeAll, if_pos ⟨frees, by rw [there, if_pos reached]⟩]
        exact prepared_frees prepared frees
      · rw [freeAll, if_neg (fun freed => frees freed.1), there, if_pos reached]
        exact ((spared planned member).resolve_right frees).symm
    · -- A slot that was not reached holds no hook that could be taken out.
      have unhooked : ¬ (Frees sharers saved slot ∧
          saved.installation.attempted content slot = slot.hook.addr) := by
        rintro ⟨frees, hooked⟩
        rw [there, if_neg reached, ← prepared_frees prepared frees] at hooked
        exact genuine slot.hook hooked
      rw [freeAll, if_neg unhooked, there, if_neg reached]

theorem marked_same_iff (entries : List Entry) :
    entries.map (Table.markShared entries) = entries ↔ Told entries := by
  constructor
  · intro same entry inside
    have own := List.map_inj_left.mp (same.trans (List.map_id _).symm) entry inside
    exact (congrArg Entry.shared own).symm
  · intro told
    refine (List.map_congr_left fun entry inside => ?_).trans (List.map_id _)
    rw [Table.markShared, ← told entry inside]
    rfl

/-- The entries but the new one, as it was announced. -/
theorem announced_others (shaped : Shaped world.table) (request : Request) (saved : Saved) :
    (world.announced request saved).table.entries.filter (·.id != world.table.nextId) =
      world.table.entries.map (Table.markShared
        (world.table.entries ++ [request.entry world.table.nextId saved])) := by
  have older : world.table.entries.filter (·.id != world.table.nextId) = world.table.entries := by
    refine List.filter_eq_self.mpr fun entry inside => bne_iff_ne.mpr (Nat.ne_of_lt ?_)
    exact shaped.formed.numbered.below entry.listed (List.mem_map_of_mem inside)
  have left : (world.table.entries ++ [request.entry world.table.nextId saved]).filter
      (·.id != world.table.nextId) = world.table.entries := by
    rw [List.filter_append, older]
    simp [Request.entry, Entry.fresh]
  rw [World.announced, Table.publish, List.filter_map]
  exact congrArg _ left

/-- When a new entry has been taken out, the others are listed as they would be
if they were published again. -/
theorem withdrawn_entries (shaped : Shaped world.table) (request : Request) (saved : Saved)
    {change : Entry → Entry} (ids : ∀ entry : Entry, (change entry).id = entry.id) :
    (((world.announced request saved).table.update world.table.nextId change).retire
      world.table.nextId).entries =
        world.table.entries.map (Table.markShared world.table.entries) := by
  have new : Table.markShared (world.table.entries ++ [request.entry world.table.nextId saved])
      (request.entry world.table.nextId saved) ∈ (world.announced request saved).table.entries :=
    List.mem_map_of_mem (by simp)
  have there : change (Table.markShared
      (world.table.entries ++ [request.entry world.table.nextId saved])
      (request.entry world.table.nextId saved)) ∈
        ((world.announced request saved).table.update world.table.nextId change).entries :=
    List.mem_map.mpr ⟨_, new, if_pos rfl⟩
  have own : (change (Table.markShared
      (world.table.entries ++ [request.entry world.table.nextId saved])
      (request.entry world.table.nextId saved))).id = world.table.nextId := ids _
  rw [retire_entries there own, remove_update fun entry _ own => (ids entry).trans own,
    Table.remove, announced_others shaped, Table.publish, List.map_map]
  refine List.map_congr_left fun entry _ => ?_
  have same : (Table.others entry.id (world.table.entries.map (Table.markShared
        (world.table.entries ++ [request.entry world.table.nextId saved])))).any entry.saved.shares =
      (Table.others entry.id world.table.entries).any entry.saved.shares :=
    others_map (Table.markShared _) (fun _ _ => rfl) (fun _ _ => rfl) entry.id rfl
  exact congrArg (fun shared => { entry with shared }) same

theorem announced_sharers (shaped : Shaped world.table) (request : Request) (saved : Saved) :
    sharers world.table.nextId (world.announced request saved).table.listing =
      world.table.listing.map (·.saved) := by
  rw [← others_listing, Table.others, announced_others shaped, ← saved_listing, List.map_map]
  rfl

/-- What a new entry that is given up leaves: the others, published again, and
the hooks that it could not take out. -/
theorem installFresh_withdraws (shaped : Shaped world.table) {request : Request} {saved : Saved}
    (inode : saved.iOps.isSome = true)
    (ran : on (installFresh request saved) world = (.error error, later)) :
    later.table.entries = world.table.entries.map (Table.markShared world.table.entries) ∧
      later.memory.content = freeAll (world.table.listing.map (·.saved)) saved
        (saved.installation.attempted world.memory.content) := by
  rw [installFresh_anyway request inode] at ran
  rcases tried : on (install (request.entry world.table.nextId saved)) (world.announced request saved)
    with ⟨answer, stopped⟩
  rw [tried] at ran
  cases answer with
  | ok pokes => cases congrArg Prod.fst ran
  | error given =>
      obtain ⟨_, rfl⟩ := Prod.mk.inj ran
      have inode' : (request.entry world.table.nextId saved).saved.iOps.isSome = true := inode
      obtain ⟨_, poked⟩ := install_stumbles inode' _ _ _ tried
      obtain ⟨pokes, left, out, written⟩ := takeOut_anyway inode' stopped
      rw [out]
      constructor
      · rw [written.table, poked.table]
        exact withdrawn_entries shaped request saved fun _ => rfl
      · rw [written.content, poked.content, poked.table]
        show freeAll (sharers world.table.nextId _) saved _ = _
        rw [announced_sharers shaped]
        rfl

/-- What a new entry that is given up may leave traces of. -/
def FreshTraceless (world : World) (saved : Saved) : Prop :=
  Told world.table.entries ∧ ∀ planned ∈ saved.installation.doable world.memory.content,
    world.memory.content planned.1 = planned.1.hook.addr ∨
      Frees (world.table.listing.map (·.saved)) saved planned.1

theorem installFresh_fails (shaped : Shaped world.table) {request : Request} {saved : Saved}
    (taken : prepare (world.table.entries.map (·.saved)) request world.memory = .ok saved)
    (ran : on (installFresh request saved) world = (.error error, later)) :
    later.table.counts.1 = world.table.counts.1 ∧
      (Unchanged world later ↔ FreshTraceless world saved) := by
  rw [saved_listing] at taken
  obtain ⟨prepared, genuine⟩ := prepare_prepared taken
  obtain ⟨entries, content⟩ := installFresh_withdraws shaped (by simp [prepared.iOps]) ran
  constructor
  · show later.table.entries.map Entry.count = _
    rw [entries, List.map_map]
    rfl
  · rw [Unchanged, entries, content, marked_same_iff, withdrawn_traceless prepared genuine]
    rfl

/-! ### Operations -/

/-- Whether a step of the table succeeds. -/
def Step.answer : Step → World → Except PatchError Unit
  | processMount request, world => (on (Patch.processMount request) world).1.map fun _ => ()
  | repatchWithRegular fsType inode, world =>
      (on (Patch.repatchWithRegular fsType inode) world).1.map fun _ => ()
  | reinstall fsType, world => (on (Patch.reinstall fsType) world).1.map fun _ => ()
  | releaseMount fsType count, world => (on (Patch.releaseMount fsType count) world).1.map fun _ => ()
  | restore fsType, world => (on (Patch.restore fsType) world).1.map fun _ => ()
  | purgeRound, world => (on purgeFirst world).1.map fun _ => ()

/-- What a step that fails in a writable memory may leave traces of. -/
def Step.Traceless (world : World) : Step → Prop
  | processMount request =>
      match world.table.entry? request.fsType with
      | some entry => RepatchTraceless world entry request.regular
      | none => ∀ saved,
          prepare (world.table.entries.map (·.saved)) request world.memory = .ok saved →
            FreshTraceless world saved
  | repatchWithRegular fsType inode => ∀ entry, world.table.entry? fsType = some entry →
      RepatchTraceless world entry (some inode)
  | reinstall fsType => ∀ entry, world.table.entry? fsType = some entry →
      entry.saved.installation.Traceless world.memory.content
  | releaseMount _ _ | restore _ | purgeRound => True

variable {Value Result : Type} {traceless : Prop} {change : Change Value}

/-- If the change fails here, it has counted nothing, and it has left no trace
under the very condition. -/
def Excused (traceless : Prop) (change : Change Value) (world : World) : Prop :=
  ∀ error later, on change world = (.error error, later) →
    later.table.counts.1 = world.table.counts.1 ∧ (Unchanged world later ↔ traceless)

theorem excused_idle (answer : Except PatchError Value) (same : on change world = (answer, world))
    (holds : traceless) : Excused traceless change world := by
  intro error later ran
  obtain ⟨_, rfl⟩ := Prod.mk.inj (same.symm.trans ran)
  exact ⟨rfl, iff_of_true (unchanged_refl world) holds⟩

theorem excused_get {next : World → Change Value} (excused : Excused traceless (next world) world) :
    Excused traceless (get >>= next) world := by
  intro error later ran
  rw [on_get_bind] at ran
  exact excused error later ran

theorem excused_ok {value : Value} (answer : (on change world).1 = .ok value) :
    Excused traceless change world := by
  intro error later ran
  rw [ran] at answer
  cases answer

/-- What comes after a change and cannot fail leaves nothing to excuse. -/
theorem excused_bind {next : Value → Change Result} (excused : Excused traceless change world)
    (succeeds : ∀ value world, ∃ result, (on (next value) world).1 = .ok result) :
    Excused traceless (change >>= next) world := by
  intro error later ran
  rw [on_bind] at ran
  rcases first : on change world with ⟨answer, middle⟩
  rw [first] at ran
  cases answer with
  | error given =>
      obtain ⟨rfl, rfl⟩ : given = error ∧ middle = later := by simpa using ran
      exact excused given middle first
  | ok value =>
      obtain ⟨result, fine⟩ := succeeds value middle
      cases fine.symm.trans (congrArg Prod.fst ran)

theorem excused_unprotected (excused : Excused traceless change world.opened) :
    Excused (world.memory.isSealed = true ∨ traceless) (unprotected change) world := by
  cases isSealed : world.memory.isSealed with
  | true => exact excused_idle _ (unprotected_sealed change isSealed) (.inl rfl)
  | false =>
      intro error later ran
      rw [unprotected_on _ isSealed] at ran
      obtain ⟨answer, rfl⟩ := Prod.mk.inj ran
      obtain ⟨counts, traces⟩ := excused error _ (Prod.ext answer rfl)
      exact ⟨counts, traces.trans (by simp)⟩

section Operations

variable (shaped : Shaped world.table)

include shaped

theorem excused_repatch (inside : entry ∈ world.table.entries) (regular : Option Inode) :
    Excused (RepatchTraceless world entry regular) (repatch entry regular) world := by
  intro error later ran
  have counts : later.table.counts = world.table.counts :=
    sparing_after (sparing_repatch (fun _ _ => rfl) entry regular) ran
  exact ⟨congrArg Prod.fst counts, repatch_fails shaped inside ran⟩

theorem excused_install (inside : entry ∈ world.table.entries) :
    Excused (entry.saved.installation.Traceless world.memory.content) (install entry) world := by
  intro error later ran
  obtain ⟨_, poked⟩ := install_stumbles (entry_inode shaped inside) _ _ _ ran
  rw [Unchanged, poked.table, poked.content,
    attempted_traceless _ (installation_distinct entry.saved)]
  exact ⟨rfl, and_iff_right rfl⟩

theorem excused_installFresh {request : Request} {saved : Saved}
    (taken : prepare (world.table.entries.map (·.saved)) request world.memory = .ok saved) :
    Excused (FreshTraceless world saved) (installFresh request saved) world :=
  fun _ _ ran => installFresh_fails shaped taken ran

omit shaped in
/-- Opening the memory shows in no entry. -/
theorem opened_finds (world : World) (fsType : String) :
    world.opened.table.entry? fsType = world.table.entry? fsType := rfl

theorem excused_processMount (request : Request) :
    Excused (world.memory.isSealed = true ∨ (Step.processMount request).Traceless world)
      (processMount request) world := by
  refine excused_unprotected (excused_get ?_)
  have opened : Shaped world.opened.table := shaped
  cases found : world.table.entry? request.fsType with
  | some entry =>
      have inside : entry ∈ world.opened.table.entries := List.mem_of_find?_eq_some found
      simp only [opened_finds, found, Step.Traceless]
      exact excused_bind (excused_repatch opened inside _) fun _ _ => ⟨_, rfl⟩
  | none =>
      have same : prepare (world.opened.table.entries.map (·.saved)) request world.opened.memory =
          prepare (world.table.entries.map (·.saved)) request world.memory := rfl
      simp only [opened_finds, found, same, Step.Traceless]
      cases taken : prepare (world.table.entries.map (·.saved)) request world.memory with
      | error refused =>
          exact excused_idle (.error refused) (on_throw refused _) fun _ impossible => by cases impossible
      | ok saved =>
          simp only [Except.ok.injEq, forall_eq']
          exact excused_installFresh opened taken

theorem excused_repatchWithRegular (fsType : String) (inode : Inode) :
    Excused (world.memory.isSealed = true ∨ (Step.repatchWithRegular fsType inode).Traceless world)
      (repatchWithRegular fsType inode) world := by
  refine excused_unprotected (excused_get ?_)
  have opened : Shaped world.opened.table := shaped
  cases found : world.table.entry? fsType with
  | none =>
      simp only [opened_finds, found, Step.Traceless]
      exact excused_idle (.error (.notPatched fsType)) (on_throw _ _) fun _ impossible => by
        cases impossible
  | some entry =>
      have inside : entry ∈ world.opened.table.entries := List.mem_of_find?_eq_some found
      simp only [opened_finds, found, Step.Traceless, Option.some.injEq, forall_eq']
      exact excused_bind (excused_repatch opened inside _) fun _ _ => ⟨_, rfl⟩

theorem excused_reinstall (fsType : String) :
    Excused (world.memory.isSealed = true ∨ (Step.reinstall fsType).Traceless world)
      (reinstall fsType) world := by
  refine excused_unprotected (excused_get ?_)
  have opened : Shaped world.opened.table := shaped
  cases found : world.table.entry? fsType with
  | none =>
      simp only [opened_finds, found, Step.Traceless]
      exact excused_idle (.error (.notPatched fsType)) (on_throw _ _) fun _ impossible => by
        cases impossible
  | some entry =>
      simp only [opened_finds, found, Step.Traceless, Option.some.injEq, forall_eq']
      exact excused_install opened (List.mem_of_find?_eq_some found)

theorem excused_releaseMount (fsType : String) (count : Nat) :
    Excused (world.memory.isSealed = true ∨ True) (releaseMount fsType count) world := by
  cases isSealed : world.memory.isSealed with
  | true => exact excused_idle _ (unprotected_sealed _ isSealed) (.inr trivial)
  | false =>
      cases found : world.table.entry? fsType with
      | none => exact excused_ok (congrArg Prod.fst (releaseMount_unknown isSealed count found))
      | some entry =>
          by_cases stays : count < entry.uses.toNat ∨ count = 0
          · exact excused_ok (congrArg Prod.fst (releaseMount_drops isSealed found stays))
          · obtain ⟨later, ran, _⟩ := releaseMount_departs shaped isSealed found stays
            exact excused_ok (congrArg Prod.fst ran)

theorem excused_restore (fsType : String) :
    Excused (world.memory.isSealed = true ∨ True) (restore fsType) world := by
  cases isSealed : world.memory.isSealed with
  | true => exact excused_idle _ (unprotected_sealed _ isSealed) (.inr trivial)
  | false =>
      cases found : world.table.entry? fsType with
      | none => exact excused_idle _ (restore_unknown isSealed found) (.inr trivial)
      | some entry =>
          obtain ⟨pokes, later, ran, _⟩ := restore_departs shaped isSealed found
          exact excused_ok (congrArg Prod.fst ran)

theorem excused_purgeFirst :
    Excused (world.memory.isSealed = true ∨ True) purgeFirst world := by
  cases isSealed : world.memory.isSealed with
  | true => exact excused_idle _ (unprotected_sealed _ isSealed) (.inr trivial)
  | false =>
      cases entries : world.table.entries with
      | nil => exact excused_ok (congrArg Prod.fst (purgeFirst_empty isSealed entries))
      | cons entry rest =>
          obtain ⟨later, ran, _⟩ := purgeFirst_departs shaped isSealed entries
          exact excused_ok (congrArg Prod.fst ran)

omit shaped in
theorem excused_answer (excused : Excused traceless change world)
    (failed : (on change world).1.map (fun _ => ()) = .error error) :
    (on change world).2.table.counts.1 = world.table.counts.1 ∧
      (Unchanged world (on change world).2 ↔ traceless) := by
  rcases ran : on change world with ⟨answer, later⟩
  rw [ran] at failed
  cases answer with
  | ok value => cases failed
  | error given => exact excused given later ran

end Operations

/-- A step of the table that fails in a world that can be visited counts
nothing. It leaves entries and slots as they were exactly if the memory is
sealed or the step leaves no trace. -/
theorem failed_step_unchanged_iff (visited : Visited world) (step : Step)
    (failed : step.answer world = .error error) :
    (step.apply world).table.counts.1 = world.table.counts.1 ∧
      (Unchanged world (step.apply world) ↔
        world.memory.isSealed = true ∨ step.Traceless world) := by
  have shaped := visited_shaped visited
  cases step with
  | processMount request => exact excused_answer (excused_processMount shaped request) failed
  | repatchWithRegular fsType inode =>
      exact excused_answer (excused_repatchWithRegular shaped fsType inode) failed
  | reinstall fsType => exact excused_answer (excused_reinstall shaped fsType) failed
  | releaseMount fsType count =>
      exact excused_answer (excused_releaseMount shaped fsType count) failed
  | restore fsType => exact excused_answer (excused_restore shaped fsType) failed
  | purgeRound => exact excused_answer (excused_purgeFirst shaped) failed

/-! Two types have the same file table in common, and one of them has not moved
up yet when somebody else writes to its open slot. -/

def neighbours : World :=
  replay [.processMount ⟨"ext4", plainRoot, none, none, false, 1⟩,
    .processMount ⟨"ext3", plainRoot, none, some plainFile, false, 1⟩] (World.start uniform)

def usurped : World :=
  { neighbours with memory := neighbours.memory.write (plainFile.fOp.slot .openFile) 0xdeadbeef }

theorem usurped_repatch_leaves_trace :
    Visited usurped ∧
      (Step.repatchWithRegular "ext4" plainFile).answer usurped =
        .error (.foreignHook "ext4" .openFile 0xdeadbeef) ∧
      ¬ Unchanged usurped ((Step.repatchWithRegular "ext4" plainFile).apply usurped) := by
  have visited : Visited usurped := .foreign _ (visited_replay (.start uniform) _)
  have failed : (Step.repatchWithRegular "ext4" plainFile).answer usurped =
      .error (.foreignHook "ext4" .openFile 0xdeadbeef) := by rfl
  refine ⟨visited, failed, fun unchanged => ?_⟩
  rcases (failed_step_unchanged_iff visited _ failed).2.mp unchanged with isSealed | traceless
  · cases isSealed
  · obtain ⟨saved, _⟩ : _ ∧ _ := traceless _ rfl
    have asked := congrArg Saved.lookupHooked saved
    cases asked

end Interception.Patch
