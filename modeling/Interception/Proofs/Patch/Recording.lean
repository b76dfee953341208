import Interception.Proofs.Patch.Replaying

/-!
What entries have on record. Where no inode table lacks its lookup and create
operations, a null address of one of these stands for an entry that never
asked: it went to file operations at once. All that is on record besides is
what its slot held at first. An entry keeps its number, and once it is at file
operations it keeps its file table too.
-/

namespace Interception.Patch

variable {initial : Slot → Addr} {world later last : World}

/-! ### Recorded addresses -/

structure Recorded (initial : Slot → Addr) (saved : Saved) : Prop where
  present : ∀ slot : Slot, lookupHook slot.hook → saved.Uses slot → initial slot ≠ Addr.null
  lookups : ∀ slot : Slot, lookupHook slot.hook → saved.Uses slot →
    saved.original slot.hook = initial slot ∨
      (saved.original slot.hook = Addr.null ∧ saved.fOps ≠ none)
  unused : ∀ hook : Hook, saved.slot? hook = none → saved.original hook = Addr.null

/-- Every inode table a step mounts has both operations that bring regular files. -/
def Step.Furnished (initial : Slot → Addr) : Step → Prop
  | processMount request => ∀ hook, lookupHook hook →
      initial (request.root.iOp.slot hook) ≠ Addr.null
  | repatchWithRegular _ _ | reinstall _ | releaseMount _ _ | restore _ | purgeRound => True

/-- At inode operations an entry knows its lookups. -/
theorem recorded_lookup {saved : Saved} (recorded : Recorded initial saved)
    (unfiled : saved.fOps = none) {table : InodeTable} (used : saved.iOps = some table) :
    saved.lookup ≠ Addr.null := by
  have uses : saved.Uses (table.slot .lookup) := (uses_inode (.inl rfl)).mpr used
  have first := (recorded.lookups (table.slot .lookup) (.inl rfl) uses).resolve_right
    fun ⟨_, filed⟩ => filed unfiled
  exact fun missing => recorded.present (table.slot .lookup) (.inl rfl) uses (first ▸ missing)

theorem recorded_armed {saved : Saved} (recorded : Recorded initial saved) :
    Recorded initial (armed saved) := by
  constructor
  case present => exact fun slot lookup used => recorded.present slot lookup (by simpa using used)
  case lookups =>
    intro slot lookup used
    rw [armed_original]
    exact recorded.lookups slot lookup (by simpa using used)
  case unused =>
    intro hook
    rw [armed_slot?, armed_original]
    exact recorded.unused hook

theorem recorded_promoted {saved : Saved} (recorded : Recorded initial saved)
    (unfiled : saved.fOps = none) (table : FileTable) (opens releases : Addr) :
    Recorded initial (promoted saved table opens releases) := by
  constructor
  case present =>
    intro slot lookup used
    exact recorded.present slot lookup ((promoted_uses (lookup_not_file lookup)).mp used)
  case lookups =>
    intro slot lookup used
    have file := lookup_not_file lookup
    rw [promoted_original file]
    -- At inode operations the entry knows its lookups; it takes them along.
    exact .inl ((recorded.lookups slot lookup ((promoted_uses file).mp used)).resolve_right
      fun ⟨_, filed⟩ => filed unfiled)
  case unused =>
    intro hook missing
    cases hook with
    | openFile | release => simp [Saved.slot?, promoted] at missing
    | lookup => exact recorded.unused .lookup missing
    | create => exact recorded.unused .create missing
    | atomicOpen => exact recorded.unused .atomicOpen missing
    | revalidate => exact recorded.unused .revalidate missing

theorem recorded_prepared {content : Slot → Addr} {listing : List Listed}
    (kept : Kept initial content listing) {request : Request} {saved : Saved}
    (prepared : Prepared (listing.map (·.saved)) content request saved)
    (genuine : ∀ hook : Hook, saved.original hook ≠ hook.addr)
    (furnished : (Step.processMount request).Furnished initial) : Recorded initial saved := by
  constructor
  case present =>
    intro slot lookup used
    obtain ⟨table, own, same⟩ := uses_inode_table (lookupHook_inode lookup) used
    rw [prepared.iOps, Option.some.injEq] at own
    rw [same, ← own]
    exact furnished slot.hook lookup
  case lookups =>
    intro slot lookup used
    by_cases files : saved.fOps = none
    · exact .inl (prepared_initial kept prepared slot used fun _ => ⟨files, genuine slot.hook⟩)
    · obtain ⟨noLookup, noCreate⟩ := prepared.blind files
      refine .inr ⟨?_, files⟩
      rcases lookup with hook | hook
      · rw [hook]
        exact noLookup
      · rw [hook]
        exact noCreate
  case unused =>
    intro hook missing
    cases hook with
    | openFile => exact (prepared.unfiled (by simpa [Saved.slot?] using missing)).1
    | release => exact (prepared.unfiled (by simpa [Saved.slot?] using missing)).2
    | lookup | create | atomicOpen => simp [Saved.slot?, prepared.iOps] at missing
    | revalidate => exact prepared.undated (by simpa [Saved.slot?] using missing)

/-- Nothing is read again where everything was there at first. -/
theorem reread_recorded {saved : Saved} (recorded : Recorded initial saved)
    (unfiled : saved.fOps = none) {table : InodeTable} (used : saved.iOps = some table)
    (content : Slot → Addr) : reread saved table content = saved := by
  rw [reread, if_neg (recorded_lookup recorded unfiled used)]

/-- Every listed entry has what it recorded on record. -/
def OnRecord (initial : Slot → Addr) (listing : List Listed) : Prop :=
  ∀ listed ∈ listing, Recorded initial listed.saved

theorem onRecord_turn (sound : Sound initial world)
    (onRecord : OnRecord initial world.table.listing) {step : Step}
    (furnished : step.Furnished initial) (turn : Turn initial step world later) :
    OnRecord initial later.table.listing := by
  cases turn with
  | still turned => exact turned.listing.symm ▸ onRecord
  | repatched member repatched =>
      cases repatched with
      | settled filed turned => exact turned.listing.symm ▸ onRecord
      | promoted unfiled turned =>
          rw [turned.listing]
          refine amend_forall sound.numbered member _ (fun other inside _ => onRecord other inside) ?_
          exact recorded_promoted (onRecord _ member) unfiled _ _ _
      | reread unfiled used turned =>
          rw [turned.listing, reread_recorded (onRecord _ member) unfiled used,
            amend_self sound.numbered member]
          exact onRecord
  | installed same fresh installed =>
      subst same
      rw [installed.listing]
      intro listed member
      rcases List.mem_append.mp member with old | new
      · exact onRecord listed old
      · rw [List.mem_singleton.mp new]
        exact recorded_armed
          (recorded_prepared sound.kept installed.prepared installed.genuine furnished)
  | left leaves member left =>
      rw [left.listing]
      exact fun listed inside => onRecord listed (List.mem_filter.mp inside).1

/-! ### Entries over time -/

/-- Whoever is listed with an old number has been listed all along, under the same
type, and has not lost its file table. New entries have new numbers. -/
structure Advanced (world later : World) : Prop where
  nextId : world.table.nextId ≤ later.table.nextId
  old : ∀ now ∈ later.table.listing, now.id < world.table.nextId →
    ∃ before ∈ world.table.listing, before.id = now.id ∧ before.fsType = now.fsType ∧
      (before.saved.fOps ≠ none → now.saved.fOps = before.saved.fOps)

theorem advanced_refl (world : World) : Advanced world world :=
  ⟨Nat.le_refl _, fun now member _ => ⟨now, member, rfl, rfl, fun _ => rfl⟩⟩

theorem advanced_trans (first : Advanced world later) (second : Advanced later last) :
    Advanced world last := by
  refine ⟨Nat.le_trans first.nextId second.nextId, fun now member early => ?_⟩
  obtain ⟨middle, there, sameId, sameType, kept⟩ :=
    second.old now member (Nat.lt_of_lt_of_le early first.nextId)
  obtain ⟨before, inside, id, type, filed⟩ := first.old middle there (sameId ▸ early)
  refine ⟨before, inside, id.trans sameId, type.trans sameType, fun files => ?_⟩
  have same := filed files
  exact (kept (same ▸ files)).trans same

/-- With every entry in its place, numbers and types stay. -/
theorem advanced_listed (nextId : later.table.nextId = world.table.nextId)
    (listed : ∀ now ∈ later.table.listing, ∃ before ∈ world.table.listing,
      before.id = now.id ∧ before.fsType = now.fsType ∧
        (before.saved.fOps ≠ none → now.saved.fOps = before.saved.fOps)) :
    Advanced world later :=
  ⟨Nat.le_of_eq nextId.symm, fun now member _ => listed now member⟩

theorem advanced_amended (sound : Sound initial world) {listed : Listed}
    (member : listed ∈ world.table.listing) (unfiled : listed.saved.fOps = none) {saved : Saved}
    {content : Slot → Addr}
    (turned : Turned world content (amend listed.id saved world.table.listing) later) :
    Advanced world later := by
  apply advanced_listed turned.nextId
  rw [turned.listing]
  refine amend_forall sound.numbered member saved ?_ ?_
  · exact fun other inside _ => ⟨other, inside, rfl, rfl, fun _ => rfl⟩
  · exact ⟨listed, member, rfl, rfl, fun filed => absurd unfiled filed⟩

theorem advanced_turn (sound : Sound initial world) {step : Step}
    (turn : Turn initial step world later) : Advanced world later := by
  have still {content : Slot → Addr} (turned : Turned world content world.table.listing later) :
      Advanced world later :=
    advanced_listed turned.nextId (turned.listing.symm ▸
      fun now member => ⟨now, member, rfl, rfl, fun _ => rfl⟩)
  cases turn with
  | still turned => exact still turned
  | repatched member repatched =>
      cases repatched with
      | settled filed turned => exact still turned
      | promoted unfiled turned => exact advanced_amended sound member unfiled turned
      | reread unfiled used turned => exact advanced_amended sound member unfiled turned
  | installed same fresh installed =>
      refine ⟨installed.nextId ▸ Nat.le_succ _, fun now member early => ?_⟩
      rw [installed.listing] at member
      rcases List.mem_append.mp member with old | new
      · exact ⟨now, old, rfl, rfl, fun _ => rfl⟩
      · rw [List.mem_singleton.mp new] at early
        exact absurd early (Nat.lt_irrefl _)
  | left leaves member left =>
      apply advanced_listed left.nextId
      rw [left.listing]
      exact fun now inside => ⟨now, (List.mem_filter.mp inside).1, rfl, rfl, fun _ => rfl⟩

theorem advanced_apply (clean : Clean initial) (sound : Sound initial world) (step : Step) :
    Advanced world (step.apply world) := by
  cases isSealed : world.memory.isSealed with
  | true => exact (apply_sealed step isSealed).symm ▸ advanced_refl world
  | false => exact advanced_turn sound (apply_turns clean sound isSealed step)

theorem advanced_replay (clean : Clean initial) (steps : List Step) :
    ∀ world, Sound initial world → Advanced world (replay steps world) := by
  induction steps with
  | nil => exact fun world _ => advanced_refl world
  | cons step rest rest_advanced =>
      intro world sound
      exact advanced_trans (advanced_apply clean sound step)
        (rest_advanced (step.apply world) (sound_apply clean sound step))

end Interception.Patch
