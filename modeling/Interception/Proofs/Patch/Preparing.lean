import Interception.Proofs.Patch.Repatching

/-!
What a new entry saves before its hooks go in. Every address comes from a
sharer of the table or, where that is safe, from the slot itself. Lookups are
saved only by an entry that will hook them: an entry that goes straight to
file operations knows nothing of them.
-/

namespace Interception.Patch

/-- A saved address is a sharer's, or that of a slot which holds no hook or
which nobody else uses. -/
def Sourced (sharers : List Saved) (content : Slot → Addr) (saved : Saved) (slot : Slot) : Prop :=
  (∃ other ∈ sharers, other.Uses slot ∧ other.original slot.hook = saved.original slot.hook) ∨
    (saved.original slot.hook = content slot ∧
      (content slot ≠ slot.hook.addr ∨ ∀ other ∈ sharers, ¬ other.Uses slot))

/-- The lookup and create addresses are both from a sharer that knows the two,
or both from the slots. -/
def LookupSource (sharers : List Saved) (content : Slot → Addr) (table : InodeTable)
    (saved : Saved) : Prop :=
  (∃ other ∈ sharers, other.iOps = some table ∧ other.lookup ≠ Addr.null ∧
      other.create ≠ Addr.null ∧ saved.lookup = other.lookup ∧ saved.create = other.create) ∨
    ((∀ other ∈ sharers, other.iOps = some table →
        other.lookup = Addr.null ∨ other.create = Addr.null) ∧
      saved.lookup = content (table.slot .lookup) ∧ saved.create = content (table.slot .create))

/-- What a new entry saves for its file and inode tables. -/
structure Bare (sharers : List Saved) (content : Slot → Addr) (request : Request)
    (saved : Saved) : Prop where
  iOps : saved.iOps = some request.root.iOp
  fOps : saved.fOps = (regularOf request.regular).map (·.fOp)
  unasked : saved.lookupHooked = false
  files : ∀ table hook, fileHook hook → saved.fOps = some table →
    Sourced sharers content saved (table.slot hook)
  unfiled : saved.fOps = none → saved.openFile = Addr.null ∧ saved.release = Addr.null
  atomics : Sourced sharers content saved (request.root.iOp.slot .atomicOpen)
  lookups : saved.fOps = none → LookupSource sharers content request.root.iOp saved
  blind : saved.fOps ≠ none → saved.lookup = Addr.null ∧ saved.create = Addr.null

/-- What a new entry saves for all its tables. -/
structure Prepared (sharers : List Saved) (content : Slot → Addr) (request : Request)
    (saved : Saved) : Prop extends Bare sharers content request saved where
  dentries : ∀ table, saved.dOps = some table →
    Sourced sharers content saved (table.slot .revalidate)
  undated : saved.dOps = none → saved.revalidate = Addr.null

/-- Only lookups and creations may be saved without a source. -/
theorem prepared_sourced {sharers : List Saved} {content : Slot → Addr} {request : Request}
    {saved : Saved} (prepared : Prepared sharers content request saved) {slot : Slot}
    (settled : ¬ lookupHook slot.hook) (used : saved.Uses slot) :
    Sourced sharers content saved slot := by
  cases hook : slot.hook with
  | openFile | release =>
      have file : fileHook slot.hook := by simp [fileHook, hook]
      obtain ⟨table, own, same⟩ := uses_file_table file used
      rw [same]
      exact prepared.files table slot.hook file own
  | lookup | create => simp [lookupHook, hook] at settled
  | atomicOpen =>
      obtain ⟨table, own, same⟩ := uses_inode_table (.inr (.inr hook)) used
      rw [prepared.iOps, Option.some.injEq] at own
      rw [same, ← own, hook]
      exact prepared.atomics
  | revalidate =>
      obtain ⟨table, own, same⟩ := uses_dentry_table hook used
      rw [same]
      exact prepared.dentries table own

theorem holdsHook_false {saved : Saved} :
    saved.holdsHook = false ↔ ∀ hook : Hook, saved.original hook ≠ hook.addr := by
  simp only [Saved.holdsHook, Bool.or_eq_false_iff, beq_eq_false_iff_ne]
  constructor
  · rintro ⟨⟨⟨⟨⟨opens, releases⟩, lookups⟩, creates⟩, atomics⟩, valid⟩ hook
    cases hook
    · exact opens
    · exact releases
    · exact lookups
    · exact creates
    · exact atomics
    · exact valid
  · intro genuine
    exact ⟨⟨⟨⟨⟨genuine .openFile, genuine .release⟩, genuine .lookup⟩, genuine .create⟩,
      genuine .atomicOpen⟩, genuine .revalidate⟩

theorem recordAtomic_source {fsType : String} {sharers : List Saved} {saved recorded : Saved}
    {table : InodeTable} {memory : Memory} (used : saved.iOps = some table)
    (succeeded : recordAtomic fsType sharers saved table memory = .ok recorded) :
    ∃ atomic, recorded = { saved with atomicOpen := atomic } ∧
      Sourced sharers memory.content { saved with atomicOpen := atomic } (table.slot .atomicOpen) := by
  unfold recordAtomic at succeeded
  by_cases hooked : memory.content (table.slot .atomicOpen) = Hook.atomicOpen.addr
  · simp only [hooked, if_true] at succeeded
    -- The slot holds the hook, so only a sharer can know its address.
    cases found : sharers.find? saved.sharesInode with
    | none => simp [found] at succeeded
    | some sharer =>
        simp only [found, Except.ok.injEq] at succeeded
        obtain ⟨common, own, theirs⟩ := sharesInode_iff.mp (List.find?_some found)
        have equal : common = table := Option.some.inj (own.symm.trans used)
        refine ⟨sharer.atomicOpen, succeeded.symm, .inl ⟨sharer, List.mem_of_find?_eq_some found, ?_, rfl⟩⟩
        exact (uses_inode (.inr (.inr rfl))).mpr (equal ▸ theirs)
  · simp only [hooked, if_false, Except.ok.injEq] at succeeded
    exact ⟨_, succeeded.symm, .inr ⟨rfl, .inl hooked⟩⟩

theorem recordLookup_source (sharers : List Saved) (saved : Saved) {table : InodeTable}
    (memory : Memory) (used : saved.iOps = some table) :
    ∃ lookup create, recordLookup sharers saved table memory = { saved with lookup, create } ∧
      LookupSource sharers memory.content table { saved with lookup, create } := by
  cases found : sharers.find? (fun other => saved.sharesInode other && knowsLookup other) with
  | none =>
      refine ⟨_, _, by rw [recordLookup, found], .inr ⟨?_, rfl, rfl⟩⟩
      intro other member theirs
      have missed := List.find?_eq_none.mp found other member
      have shares := sharesInode_iff.mpr ⟨table, used, theirs⟩
      simp only [shares, knowsLookup, Bool.true_and, Bool.and_eq_true, bne_iff_ne] at missed
      by_cases lookup : other.lookup = Addr.null
      · exact .inl lookup
      · exact .inr (Decidable.byContradiction fun create => missed ⟨lookup, create⟩)
  | some sharer =>
      have fits := List.find?_some found
      simp only [knowsLookup, Bool.and_eq_true, bne_iff_ne] at fits
      obtain ⟨common, own, theirs⟩ := sharesInode_iff.mp fits.1
      have equal : common = table := Option.some.inj (own.symm.trans used)
      exact ⟨_, _, by rw [recordLookup, found],
        .inl ⟨sharer, List.mem_of_find?_eq_some found, equal ▸ theirs, fits.2.1, fits.2.2, rfl, rfl⟩⟩

theorem recordDentry_source (sharers : List Saved) (saved : Saved) {table : DentryTable}
    (memory : Memory) (used : saved.dOps = some table) :
    ∃ valid, recordDentry sharers saved table memory = { saved with revalidate := valid } ∧
      Sourced sharers memory.content { saved with revalidate := valid } (table.slot .revalidate) := by
  cases found : sharers.find? saved.sharesDentry with
  | none =>
      refine ⟨_, by rw [recordDentry, found], .inr ⟨rfl, .inr ?_⟩⟩
      intro other member theirs
      exact List.find?_eq_none.mp found other member
        (sharesDentry_iff.mpr ⟨table, used, uses_dentry.mp theirs⟩)
  | some sharer =>
      obtain ⟨common, own, theirs⟩ := sharesDentry_iff.mp (List.find?_some found)
      have equal : common = table := Option.some.inj (own.symm.trans used)
      exact ⟨_, by rw [recordDentry, found],
        .inl ⟨sharer, List.mem_of_find?_eq_some found, uses_dentry.mpr (equal ▸ theirs), rfl⟩⟩

theorem fileSource_sourced {sharers : List Saved} {content : Slot → Addr} {table : FileTable}
    {saved : Saved} {hook : Hook} (file : fileHook hook)
    (source : FileSource sharers content table saved.openFile saved.release) :
    Sourced sharers content saved (table.slot hook) := by
  rcases source with ⟨other, member, theirs, opens, releases⟩ | ⟨alone, opens, releases⟩
  · refine .inl ⟨other, member, (uses_file file).mpr theirs, ?_⟩
    rcases file with rfl | rfl
    · exact opens
    · exact releases
  · refine .inr ⟨?_, .inr fun other member theirs => alone other member ((uses_file file).mp theirs)⟩
    rcases file with rfl | rfl
    · exact opens.symm
    · exact releases.symm

/-- The addresses of the tables an entry uses stay sourced when only other
fields of it change. -/
theorem sourced_congr {sharers : List Saved} {content : Slot → Addr} {saved other : Saved}
    {slot : Slot} (same : saved.original slot.hook = other.original slot.hook)
    (sourced : Sourced sharers content saved slot) : Sourced sharers content other slot := by
  simpa only [Sourced, same] using sourced

/-- What a prepared entry saves for its dentry table, when it has one. -/
def withDentry (sharers : List Saved) (request : Request) (saved : Saved) (memory : Memory) :
    Saved :=
  match request.hookDentries, request.dOp with
  | true, some dOps => recordDentry sharers { saved with dOps := some dOps } dOps memory
  | _, _ => saved

theorem withDentry_source (sharers : List Saved) (request : Request) {saved : Saved}
    (memory : Memory) (bare : saved.dOps = none) :
    ∃ dOps valid, withDentry sharers request saved memory =
        { saved with dOps := dOps, revalidate := valid } ∧
      (dOps = none → valid = saved.revalidate) ∧
      ∀ table, dOps = some table →
        Sourced sharers memory.content { saved with dOps := dOps, revalidate := valid }
          (table.slot .revalidate) := by
  have without (same : withDentry sharers request saved memory = saved) :
      ∃ dOps valid, withDentry sharers request saved memory =
          { saved with dOps := dOps, revalidate := valid } ∧
        (dOps = none → valid = saved.revalidate) ∧
        ∀ table, dOps = some table →
          Sourced sharers memory.content { saved with dOps := dOps, revalidate := valid }
            (table.slot .revalidate) := by
    refine ⟨none, saved.revalidate, by rw [same, ← bare], fun _ => rfl, ?_⟩
    intro table impossible
    simp at impossible
  cases hookDentries : request.hookDentries with
  | false => exact without (by simp [withDentry, hookDentries])
  | true =>
      cases dOp : request.dOp with
      | none => exact without (by simp [withDentry, dOp])
      | some dOps =>
          obtain ⟨valid, recorded, source⟩ := recordDentry_source sharers
            { saved with dOps := some dOps } memory rfl
          refine ⟨some dOps, valid, by simp [withDentry, hookDentries, dOp, recorded], by simp, ?_⟩
          intro table same
          rw [Option.some.injEq] at same
          exact same ▸ source

/-- What an entry saves before its dentry table is looked at. -/
def bareSaved (sharers : List Saved) (request : Request) (memory : Memory) :
    Except PatchError Saved :=
  match regularOf request.regular with
  | some inode =>
      let withFile := recordFile sharers { Saved.blank with fOps := some inode.fOp } inode.fOp memory
      recordAtomic request.fsType sharers { withFile with iOps := some request.root.iOp }
        request.root.iOp memory
  | none =>
      (recordAtomic request.fsType sharers { Saved.blank with iOps := some request.root.iOp }
        request.root.iOp memory).map
        fun saved => recordLookup sharers saved request.root.iOp memory

theorem bareSaved_bare {sharers : List Saved} {request : Request} {memory : Memory}
    {bare : Saved} (succeeded : bareSaved sharers request memory = .ok bare) :
    Bare sharers memory.content request bare ∧ bare.dOps = none ∧
      bare.revalidate = Addr.null := by
  unfold bareSaved at succeeded
  cases regular : regularOf request.regular with
  | none =>
      simp only [regular] at succeeded
      cases recorded : recordAtomic request.fsType sharers
          { Saved.blank with iOps := some request.root.iOp } request.root.iOp memory with
      | error error => simp [recorded, Except.map] at succeeded
      | ok withAtomic =>
          obtain ⟨atomic, same, atomics⟩ := recordAtomic_source rfl recorded
          obtain ⟨lookup, create, looked, source⟩ := recordLookup_source sharers withAtomic memory
            (show withAtomic.iOps = some request.root.iOp by rw [same])
          simp only [recorded, Except.map, looked, Except.ok.injEq] at succeeded
          subst succeeded
          subst same
          refine ⟨⟨rfl, by simp [regular, Saved.blank], rfl, ?_, fun _ => ⟨rfl, rfl⟩,
            sourced_congr rfl atomics, fun _ => source, ?_⟩, rfl, rfl⟩
          · intro table hook file impossible
            simp [Saved.blank] at impossible
          · intro impossible
            simp [Saved.blank] at impossible
  | some inode =>
      simp only [regular] at succeeded
      obtain ⟨opens, releases, recorded, source⟩ := recordFile_source sharers
        { Saved.blank with fOps := some inode.fOp } memory rfl
      rw [recorded] at succeeded
      obtain ⟨atomic, same, atomics⟩ := recordAtomic_source rfl succeeded
      subst same
      refine ⟨⟨rfl, by simp [regular], rfl, ?_, ?_, atomics, ?_, fun _ => ⟨rfl, rfl⟩⟩, rfl, rfl⟩
      · intro table hook file own
        rw [Option.some.injEq] at own
        subst own
        exact fileSource_sourced file source
      · intro impossible
        simp at impossible
      · intro impossible
        simp at impossible

/-- A new entry is refused when it would save the address of a hook. -/
theorem prepare_bare (sharers : List Saved) (request : Request) (memory : Memory) :
    prepare sharers request memory = (bareSaved sharers request memory).bind fun bare =>
      if (withDentry sharers request bare memory).holdsHook then
        .error (.doublePatch request.fsType)
      else .ok (withDentry sharers request bare memory) := by
  unfold prepare bareSaved
  cases regular : regularOf request.regular with
  | none =>
      cases atomic : recordAtomic request.fsType sharers
          { Saved.blank with iOps := some request.root.iOp } request.root.iOp memory with
      | error error => simp only [atomic]; rfl
      | ok bare => simp only [atomic]; rfl
  | some inode =>
      cases atomic : recordAtomic request.fsType sharers
          { recordFile sharers { Saved.blank with fOps := some inode.fOp } inode.fOp memory with
            iOps := some request.root.iOp } request.root.iOp memory with
      | error error => simp only [atomic]; rfl
      | ok bare => simp only [atomic]; rfl

theorem withDentry_prepared {sharers : List Saved} {request : Request} {memory : Memory}
    {bare : Saved} (recorded : bareSaved sharers request memory = .ok bare) :
    Prepared sharers memory.content request (withDentry sharers request bare memory) := by
  obtain ⟨source, noDentry, noValid⟩ := bareSaved_bare recorded
  obtain ⟨dOps, valid, withOne, undated, dentries⟩ :=
    withDentry_source sharers request memory noDentry
  rw [withOne]
  refine ⟨⟨source.iOps, source.fOps, source.unasked, ?_, source.unfiled,
    sourced_congr rfl source.atomics, source.lookups, source.blind⟩, dentries, ?_⟩
  · intro table hook file own
    refine sourced_congr ?_ (source.files table hook file own)
    rcases file with rfl | rfl <;> rfl
  · intro none
    exact (undated none).trans noValid

/-- What a new entry saves has its sources, and none of it is a hook. -/
theorem prepare_prepared {sharers : List Saved} {request : Request} {memory : Memory}
    {saved : Saved} (succeeded : prepare sharers request memory = .ok saved) :
    Prepared sharers memory.content request saved ∧
      ∀ hook : Hook, saved.original hook ≠ hook.addr := by
  rw [prepare_bare] at succeeded
  cases recorded : bareSaved sharers request memory with
  | error error => simp [recorded, Except.bind] at succeeded
  | ok bare =>
      simp only [recorded, Except.bind] at succeeded
      by_cases hooked : (withDentry sharers request bare memory).holdsHook = true
      · rw [if_pos hooked] at succeeded
        cases succeeded
      · rw [if_neg hooked, Except.ok.injEq] at succeeded
        subst succeeded
        exact ⟨withDentry_prepared recorded, holdsHook_false.mp (by simpa using hooked)⟩

theorem recordAtomic_total (fsType : String) {sharers : List Saved} (saved : Saved)
    {table : InodeTable} {memory : Memory} (used : saved.iOps = some table)
    (known : memory.content (table.slot .atomicOpen) = Hook.atomicOpen.addr →
      ∃ other ∈ sharers, other.iOps = some table) :
    ∃ recorded, recordAtomic fsType sharers saved table memory = .ok recorded := by
  unfold recordAtomic
  by_cases hooked : memory.content (table.slot .atomicOpen) = Hook.atomicOpen.addr
  · obtain ⟨other, member, theirs⟩ := known hooked
    have shares := sharesInode_iff.mpr ⟨table, used, theirs⟩
    cases found : sharers.find? saved.sharesInode with
    | none => exact absurd shares (List.find?_eq_none.mp found other member)
    | some sharer =>
        simp only [hooked, if_true]
        exact ⟨_, rfl⟩
  · simp only [hooked, if_false]
    exact ⟨_, rfl⟩

/-- A new entry is taken when every hook in its way is known to a sharer. -/
theorem prepare_total {sharers : List Saved} {request : Request} {memory : Memory}
    (known : memory.content (request.root.iOp.slot .atomicOpen) = Hook.atomicOpen.addr →
      ∃ other ∈ sharers, other.iOps = some request.root.iOp)
    (genuine : ∀ saved, Prepared sharers memory.content request saved →
      ∀ hook : Hook, saved.original hook ≠ hook.addr) :
    ∃ saved, prepare sharers request memory = .ok saved := by
  have total : ∃ bare, bareSaved sharers request memory = .ok bare := by
    unfold bareSaved
    cases regular : regularOf request.regular with
    | none =>
        obtain ⟨recorded, same⟩ := recordAtomic_total request.fsType
          { Saved.blank with iOps := some request.root.iOp } rfl known
        simp only [same, Except.map]
        exact ⟨_, rfl⟩
    | some inode => exact recordAtomic_total _ _ rfl known
  obtain ⟨bare, recorded⟩ := total
  -- Everything is recorded by now; only a saved hook could still refuse it.
  have clear := holdsHook_false.mpr (genuine _ (withDentry_prepared recorded))
  exact ⟨withDentry sharers request bare memory, by simp [prepare_bare, recorded, Except.bind, clear]⟩

end Interception.Patch
