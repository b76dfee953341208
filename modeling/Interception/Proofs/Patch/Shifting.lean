import Interception.Proofs.Patch.Lending

/-!
Who is listed and who waits aside after a step of the table. Hooks and saved
addresses have no part in it: a step, whether it fails or not, leaves the
entries with the references they had, lists a new one, or takes one out. Who is
taken out with references left waits aside with what it had saved, and nobody
who waits aside is ever touched.
-/

namespace Interception.Patch

open Change

variable {base table later : Table} {world : World} {entry : Entry}

/-- What is owed to an entry, by its number. -/
def Entry.standing (entry : Entry) : Nat × Nat := (entry.id, entry.refs)

structure Alike (base later : Table) : Prop where
  entries : later.entries.map Entry.standing = base.entries.map Entry.standing
  retired : later.retired = base.retired
  nextId : base.nextId ≤ later.nextId

/-- What is left of an entry that is taken out. -/
def Entry.remains (entry : Entry) : List Entry :=
  if entry.retire.drained then [] else [entry.retire]

inductive Shifted (base later : Table) : Prop
  | alike (alike : Alike base later)
  | joined (entries : later.entries.map Entry.standing =
        base.entries.map Entry.standing ++ [(base.nextId, 1)])
      (retired : later.retired = base.retired) (nextId : base.nextId < later.nextId)
  | left {entry gone : Entry} (inside : entry ∈ base.entries)
      (same : gone.standing = entry.standing) (saved : gone.saved = entry.saved)
      (live : gone.retired = false)
      (entries : later.entries.map Entry.standing =
        (base.entries.map Entry.standing).filter (·.1 != entry.id))
      (retired : later.retired = base.retired ++ gone.remains) (nextId : base.nextId ≤ later.nextId)

theorem alike_refl (table : Table) : Alike table table := ⟨rfl, rfl, Nat.le_refl _⟩

theorem alike_trans (first : Alike base table) (second : Alike table later) : Alike base later :=
  ⟨second.entries.trans first.entries, second.retired.trans first.retired,
    Nat.le_trans first.nextId second.nextId⟩

theorem shifted_refl (table : Table) : Shifted table table := .alike (alike_refl table)

/-- A change of one listed entry that takes and gives no reference. -/
theorem alike_update {id : Nat} {change : Entry → Entry}
    (kept : ∀ entry ∈ table.entries, entry.id = id → (change entry).standing = entry.standing)
    (apart : ∀ aside ∈ table.retired, aside.id ≠ id) : Alike table (table.update id change) := by
  refine ⟨?_, mapEntry_missing change apart, Nat.le_refl _⟩
  rw [Table.update, Table.mapEntry, List.map_map]
  apply List.map_congr_left
  intro entry member
  by_cases own : entry.id = id <;> simp [own, kept entry member]

theorem standing_publish (table : Table) (entries : List Entry) :
    (table.publish entries).entries.map Entry.standing = entries.map Entry.standing := by
  simp [Table.publish, Table.markShared, Function.comp_def, Entry.standing]

theorem alike_publish (table : Table) : Alike table (table.publish table.entries) :=
  ⟨standing_publish table table.entries, rfl, Nat.le_refl _⟩

/-- The entry itself is what its number leads to. -/
theorem byId?_own (shaped : Shaped table) (inside : entry ∈ table.entries) :
    table.byId? entry.id = some entry := by
  cases found : table.entries.find? (·.id == entry.id) with
  | none => exact absurd (List.find?_eq_none.mp found entry inside) (by simp)
  | some other =>
      have same : other.id = entry.id := by simpa using List.find?_some found
      obtain rfl := entry_unique shaped.formed.numbered inside (List.mem_of_find?_eq_some found) same
      rw [Table.byId?, List.find?_append, found]
      rfl

theorem retire_parts (shaped : Shaped table) (inside : entry ∈ table.entries) :
    (table.retire entry.id).entries.map Entry.standing =
        (table.entries.map Entry.standing).filter (·.1 != entry.id) ∧
      (table.retire entry.id).retired = table.retired ++ entry.remains := by
  have removed : (table.remove entry.id).entries.map Entry.standing =
      (table.entries.map Entry.standing).filter (·.1 != entry.id) := by
    rw [Table.remove, standing_publish, List.filter_map]
    rfl
  unfold Table.retire Entry.remains
  rw [byId?_own shaped inside]
  by_cases drained : entry.retire.drained = true
  · simp only [drained, if_true, List.append_nil]
    exact ⟨removed, rfl⟩
  · simp only [drained]
    exact ⟨removed, rfl⟩

/-! ### Changes -/

theorem saves_alike (apart : ∀ aside ∈ base.retired, aside.id ≠ entry.id) (saved : Saved)
    (_ : saved.iOps = entry.saved.iOps) : Upholding (Alike base) (saveEntry entry.id saved) :=
  upholding_modify fun _ alike =>
    alike_trans alike (alike_update (fun _ _ _ => rfl) (alike.retired.symm ▸ apart))

theorem alike_publishAll : Upholding (Alike base) publishAll :=
  upholding_modify fun world alike => alike_trans alike (alike_publish world.table)

theorem alike_addUses (apart : ∀ aside ∈ base.retired, aside.id ≠ entry.id) (uses : Nat) :
    Upholding (Alike base) (addUses entry.id uses) :=
  upholding_modify fun _ alike =>
    alike_trans alike (alike_update (fun _ _ _ => rfl) (alike.retired.symm ▸ apart))

/-- Taking an entry out leaves the others as they were. -/
theorem takeOut_parts (shaped : Shaped world.table) {own : Entry} (inside : own ∈ world.table.entries)
    (same : own.id = entry.id) (inode : entry.saved.iOps.isSome = true)
    (apart : ∀ aside ∈ world.table.retired, aside.id ≠ entry.id) :
    (on (takeOut entry) world).2.table.entries.map Entry.standing =
        (world.table.entries.map Entry.standing).filter (·.1 != entry.id) ∧
      (on (takeOut entry) world).2.table.retired =
        world.table.retired ++ { own with installed := false }.remains ∧
      (on (takeOut entry) world).2.table.nextId = world.table.nextId := by
  obtain ⟨pokes, later, ran, written⟩ := takeOut_anyway inode world
  have unhooked : Shaped (world.table.update entry.id fun other => { other with installed := false }) :=
    shaped_counts shaped fun _ _ _ => rfl
  have there : { own with installed := false } ∈
      (world.table.update entry.id fun other => { other with installed := false }).entries :=
    List.mem_map.mpr ⟨own, inside, if_pos same⟩
  have alike : Alike world.table
      (world.table.update entry.id fun other => { other with installed := false }) :=
    alike_update (fun _ _ _ => rfl) apart
  rw [ran, written.table]
  rw [← same] at unhooked there alike ⊢
  obtain ⟨entries, retired⟩ := retire_parts unhooked there
  rw [alike.entries] at entries
  rw [alike.retired] at retired
  exact ⟨entries, retired, retire_nextId _ _⟩

/-- What is taken out with all else as it was. -/
theorem shifted_takeOut (tidy : Tidy base) (alike : Alike base world.table)
    (shaped : Shaped world.table) {gone : Entry} (listed : gone ∈ world.table.entries)
    (inside : entry ∈ base.entries) (same : gone.standing = entry.standing)
    (saved : gone.saved = entry.saved) : Shifted base (on (takeOut gone) world).2.table := by
  have id : gone.id = entry.id := congrArg Prod.fst same
  have apart : ∀ aside ∈ world.table.retired, aside.id ≠ gone.id := by
    rw [alike.retired, id]
    exact tidy.apart entry inside
  obtain ⟨entries, retired, nextId⟩ :=
    takeOut_parts shaped listed rfl (entry_inode shaped listed) apart
  rw [alike.entries, id] at entries
  rw [alike.retired] at retired
  have kept : ({ gone with installed := false } : Entry).standing = entry.standing := same
  exact .left inside kept saved (shaped_live shaped gone listed) entries retired (nextId ▸ alike.nextId)

/-- Before its hooks go in a new entry is listed behind the others. -/
theorem announced_standing (world : World) (request : Request) (saved : Saved) :
    (world.announced request saved).table.entries.map Entry.standing =
      world.table.entries.map Entry.standing ++ [(world.table.nextId, 1)] := by
  rw [World.announced]
  simp only [standing_publish, List.map_append]
  rfl

/-- The number of a new entry is nobody's yet. -/
theorem standing_older (shaped : Shaped table) :
    ∀ standing ∈ table.entries.map Entry.standing, standing.1 < table.nextId := by
  refine List.forall_mem_map.mpr fun entry member => ?_
  exact shaped.formed.numbered.below entry.listed (List.mem_map_of_mem member)

/-- A new entry nobody has taken yet leaves nothing behind. -/
theorem remains_fresh {own : Entry} (standing : own.refs = 1) (live : own.retired = false) :
    own.remains = [] := by
  simp [Entry.remains, Entry.retire, Entry.release, Entry.drained, standing, live]

/-- A new entry whose hooks do not go in comes and goes. -/
theorem alike_withdrawn (tidy : Tidy base) {request : Request} {saved : Saved}
    (inode : saved.iOps.isSome = true) (shaped : Shaped world.table)
    (entries : world.table.entries.map Entry.standing =
      base.entries.map Entry.standing ++ [(base.nextId, 1)])
    (retired : world.table.retired = base.retired) (nextId : base.nextId ≤ world.table.nextId) :
    Alike base (on (takeOut (request.entry base.nextId saved)) world).2.table := by
  have last : (base.nextId, 1) ∈ world.table.entries.map Entry.standing := by simp [entries]
  obtain ⟨own, inside, standing⟩ := List.mem_map.mp last
  have same : own.id = (request.entry base.nextId saved).id := congrArg Prod.fst standing
  have apart : ∀ aside ∈ world.table.retired, aside.id ≠ (request.entry base.nextId saved).id := by
    rw [retired]
    exact fun aside waits => Nat.ne_of_lt (tidy.older aside waits)
  have nothing : { own with installed := false }.remains = [] :=
    remains_fresh (congrArg Prod.snd standing) (shaped_live shaped own inside)
  obtain ⟨left, waits, number⟩ := takeOut_parts shaped inside same inode apart
  refine ⟨?_, ?_, number ▸ nextId⟩
  · have others : (base.entries.map Entry.standing).filter (·.1 != base.nextId) =
        base.entries.map Entry.standing :=
      List.filter_eq_self.mpr fun standing member =>
        bne_iff_ne.mpr (Nat.ne_of_lt (standing_older tidy.shaped standing member))
    have id : (request.entry base.nextId saved).id = base.nextId := rfl
    rw [left, entries, id, List.filter_append, others]
    simp
  · rw [waits, nothing, List.append_nil, retired]

theorem shifted_installFresh (tidy : Tidy world.table) {request : Request} {saved : Saved}
    (missing : world.table.entry? request.fsType = none) (inode : saved.iOps.isSome = true) :
    Shifted world.table (on (installFresh request saved) world).2.table := by
  have standing := announced_standing world request saved
  have apart : ∀ aside ∈ (world.announced request saved).table.retired,
      aside.id ≠ world.table.nextId :=
    fun aside waits => Nat.ne_of_lt (tidy.older aside waits)
  have alike : Alike (world.announced request saved).table
      (on (install (request.entry world.table.nextId saved)) (world.announced request saved)).2.table :=
    upholding_install (saves_alike apart) inode _ (alike_refl _)
  have shaped : Shaped
      (on (install (request.entry world.table.nextId saved)) (world.announced request saved)).2.table :=
    upholding_install (upholding_saves inode) inode _ (shaped_announced tidy.shaped missing inode)
  rw [installFresh_anyway request inode]
  rcases ran : on (install (request.entry world.table.nextId saved)) (world.announced request saved)
    with ⟨answer, hooked⟩
  rw [ran] at alike shaped
  have entries := alike.entries.trans standing
  cases answer with
  | ok pokes =>
      have counted : Alike hooked.table (hooked.table.update world.table.nextId fun entry =>
          { entry.addUses request.uses with installed := true }) :=
        alike_update (fun _ _ _ => rfl) (alike.retired.symm ▸ apart)
      exact .joined (counted.entries.trans entries) (counted.retired.trans alike.retired)
        (Nat.le_trans alike.nextId counted.nextId)
  | error error =>
      exact .alike (alike_withdrawn tidy inode shaped entries alike.retired
        (Nat.le_of_succ_le alike.nextId))

/-! ### Steps -/

/-- Whatever the change finds in the slots, it shifts an tidy table. -/
def Shifting {Value : Type} (change : Change Value) : Prop :=
  ∀ world, Tidy world.table → Shifted world.table (on change world).2.table

theorem shifting_unprotected {Value : Type} {change : Change Value} (inside : Shifting change) :
    Shifting (unprotected change) := by
  intro world tidy
  cases isSealed : world.memory.isSealed with
  | true =>
      rw [unprotected_sealed _ isSealed]
      exact shifted_refl world.table
  | false =>
      rw [unprotected_on _ isSealed]
      exact inside world.opened tidy

theorem shifting_processMount (request : Request) : Shifting (processMount request) := by
  refine shifting_unprotected fun world tidy => ?_
  rw [on_get_bind]
  cases found : world.table.entry? request.fsType with
  | some entry =>
      have inside := List.mem_of_find?_eq_some found
      have apart := tidy.apart entry inside
      have kept : Upholding (Alike world.table) (do
          let pokes ← repatch entry request.regular
          addUses entry.id request.uses
          publishAll
          return (.existing (entry.addUses request.uses).uses.toNat pokes : MountOutcome)) :=
        upholding_bind (upholding_repatch (saves_alike apart) _) fun _ =>
          upholding_bind (alike_addUses apart _) fun _ =>
            upholding_bind alike_publishAll fun _ => upholding_pure _
      exact .alike (kept world (alike_refl world.table))
  | none =>
      simp only
      cases taken : prepare (world.table.entries.map (·.saved)) request world.memory with
      | error error => exact shifted_refl world.table
      | ok saved =>
          have inode : saved.iOps.isSome = true := by
            rw [(prepare_prepared taken).1.iOps]
            rfl
          exact shifted_installFresh tidy found inode

theorem shifting_repatchWithRegular (fsType : String) (regular : Inode) :
    Shifting (repatchWithRegular fsType regular) := by
  refine shifting_unprotected fun world tidy => ?_
  rw [on_get_bind]
  cases found : world.table.entry? fsType with
  | none => exact shifted_refl world.table
  | some entry =>
      have apart := tidy.apart entry (List.mem_of_find?_eq_some found)
      have kept : Upholding (Alike world.table) (do
          let pokes ← repatch entry (some regular)
          publishAll
          return pokes) :=
        upholding_bind (upholding_repatch (saves_alike apart) _) fun _ =>
          upholding_bind alike_publishAll fun _ => upholding_pure _
      exact .alike (kept world (alike_refl world.table))

theorem shifting_reinstall (fsType : String) : Shifting (reinstall fsType) := by
  refine shifting_unprotected fun world tidy => ?_
  rw [on_get_bind]
  cases found : world.table.entry? fsType with
  | none => exact shifted_refl world.table
  | some entry =>
      have inside := List.mem_of_find?_eq_some found
      exact .alike (upholding_install (saves_alike (tidy.apart entry inside))
        (entry_inode tidy.shaped inside) world (alike_refl world.table))

/-- Uses that are dropped are no references. -/
theorem dropping_alike (tidy : Tidy world.table) (inside : entry ∈ world.table.entries)
    (count : Nat) : Alike world.table (world.dropping entry count).table ∧
      Shaped (world.dropping entry count).table ∧
      entry.dropUses count ∈ (world.dropping entry count).table.entries := by
  have only (other : Entry) (beside : other ∈ world.table.entries) (same : other.id = entry.id) :
      other = entry := entry_unique tidy.shaped.formed.numbered inside beside same
  refine ⟨?_, ?_, List.mem_map.mpr ⟨entry, inside, if_pos rfl⟩⟩
  · exact alike_update (fun other beside same => by rw [only other beside same]; rfl)
      (tidy.apart entry inside)
  · exact shaped_counts tidy.shaped fun other beside same => by rw [only other beside same]; rfl

theorem shifting_releaseMount (fsType : String) (count : Nat) :
    Shifting (releaseMount fsType count) := by
  refine shifting_unprotected fun world tidy => ?_
  rw [on_get_bind]
  cases found : world.table.entry? fsType with
  | none => exact shifted_refl world.table
  | some entry =>
      have inside := List.mem_of_find?_eq_some found
      obtain ⟨alike, shaped, listed⟩ := dropping_alike tidy inside count
      simp only [on_modify_bind]
      by_cases stays : 0 < (entry.dropUses count).uses.toNat ∨ count = 0
      · rw [if_pos stays]
        exact .alike alike
      · rw [if_neg stays]
        have left := shifted_takeOut tidy alike shaped listed inside rfl rfl
        obtain ⟨pokes, later, ran, _⟩ :=
          takeOut_anyway (entry_inode shaped listed) (world.dropping entry count)
        rw [ran] at left
        rw [← World.dropping, on_discard_bind ran, on_pure]
        exact left

theorem shifting_restore (fsType : String) : Shifting (restore fsType) := by
  refine shifting_unprotected fun world tidy => ?_
  rw [on_get_bind]
  cases found : world.table.entry? fsType with
  | none => exact shifted_refl world.table
  | some entry =>
      have inside := List.mem_of_find?_eq_some found
      have left : Shifted world.table (on (takeOut entry) world).2.table :=
        shifted_takeOut tidy (alike_refl world.table) tidy.shaped inside inside rfl rfl
      obtain ⟨pokes, later, ran, _⟩ := takeOut_anyway (entry_inode tidy.shaped inside) world
      rw [ran] at left
      simp only [on_bind]
      rw [ran]
      exact left

theorem shifting_purgeFirst : Shifting purgeFirst := by
  refine shifting_unprotected fun world tidy => ?_
  rw [on_get_bind]
  cases entries : world.table.entries with
  | nil => exact shifted_refl world.table
  | cons entry rest =>
      have inside : entry ∈ world.table.entries := by simp [entries]
      have left : Shifted world.table (on (takeOut entry) world).2.table :=
        shifted_takeOut tidy (alike_refl world.table) tidy.shaped inside inside rfl rfl
      obtain ⟨pokes, later, ran, _⟩ := takeOut_anyway (entry_inode tidy.shaped inside) world
      rw [ran] at left
      rw [on_discard_bind ran, on_pure]
      exact left

theorem apply_shifts (tidy : Tidy world.table) (step : Step) :
    Shifted world.table (step.apply world).table := by
  cases step with
  | processMount request => exact shifting_processMount request world tidy
  | repatchWithRegular fsType inode => exact shifting_repatchWithRegular fsType inode world tidy
  | reinstall fsType => exact shifting_reinstall fsType world tidy
  | releaseMount fsType count => exact shifting_releaseMount fsType count world tidy
  | restore fsType => exact shifting_restore fsType world tidy
  | purgeRound => exact shifting_purgeFirst world tidy

/-! ### Who is named -/

variable {Value : Type}

/-- An entry that is listed before and not after. -/
def Gone (before after : Table) (entry : Entry) : Prop :=
  entry ∈ before.entries ∧ ∀ other ∈ after.entries, other.id ≠ entry.id

/-- Whoever makes the change learns of every entry that it has taken out. -/
def Naming (named : Value → Option Nat) (change : Change Value) : Prop :=
  ∀ world, Tidy world.table → ∀ entry, Gone world.table (on change world).2.table entry →
    ∃ value, (on change world).1 = .ok value ∧ named value = some entry.id

theorem alike_stays (alike : Alike base later) : ¬Gone base later entry := by
  rintro ⟨inside, away⟩
  have standing : entry.standing ∈ base.entries.map Entry.standing := List.mem_map_of_mem inside
  rw [← alike.entries] at standing
  obtain ⟨other, member, same⟩ := List.mem_map.mp standing
  exact away other member (congrArg Prod.fst same)

theorem gone_alike {middle : Table} (alike : Alike base middle) (gone : Gone base later entry) :
    ∃ other, Gone middle later other ∧ other.id = entry.id := by
  have standing : entry.standing ∈ base.entries.map Entry.standing := List.mem_map_of_mem gone.1
  rw [← alike.entries] at standing
  obtain ⟨other, member, same⟩ := List.mem_map.mp standing
  have id : other.id = entry.id := congrArg Prod.fst same
  exact ⟨other, ⟨member, id ▸ gone.2⟩, id⟩

theorem takeOut_gone (shaped : Shaped world.table) {own : Entry} (inside : own ∈ world.table.entries)
    (apart : ∀ aside ∈ world.table.retired, aside.id ≠ own.id)
    (gone : Gone world.table (on (takeOut own) world).2.table entry) : entry.id = own.id := by
  by_contra other
  obtain ⟨entries, _⟩ := takeOut_parts shaped inside rfl (entry_inode shaped inside) apart
  have standing : entry.standing ∈ (on (takeOut own) world).2.table.entries.map Entry.standing := by
    rw [entries]
    exact List.mem_filter.mpr ⟨List.mem_map_of_mem gone.1, bne_iff_ne.mpr other⟩
  obtain ⟨still, member, same⟩ := List.mem_map.mp standing
  exact gone.2 still member (congrArg Prod.fst same)

theorem naming_unprotected {named : Value → Option Nat} {change : Change Value}
    (inside : Naming named change) : Naming named (unprotected change) := by
  intro world tidy entry gone
  cases isSealed : world.memory.isSealed with
  | true =>
      rw [unprotected_sealed _ isSealed] at gone
      exact absurd gone (alike_stays (alike_refl world.table))
  | false =>
      rw [unprotected_on _ isSealed] at gone ⊢
      exact inside world.opened tidy entry gone

theorem naming_releaseMount (fsType : String) (count : Nat) :
    Naming Prod.snd (releaseMount fsType count) := by
  refine naming_unprotected fun world tidy entry gone => ?_
  rw [on_get_bind] at gone ⊢
  cases found : world.table.entry? fsType with
  | none =>
      rw [found] at gone
      exact absurd gone (alike_stays (alike_refl world.table))
  | some own =>
      have inside := List.mem_of_find?_eq_some found
      obtain ⟨alike, shaped, listed⟩ := dropping_alike tidy inside count
      simp only [found, on_modify_bind] at gone ⊢
      by_cases stays : 0 < (own.dropUses count).uses.toNat ∨ count = 0
      · rw [if_pos stays] at gone
        exact absurd gone (alike_stays alike)
      · obtain ⟨pokes, later, ran, _⟩ :=
          takeOut_anyway (entry_inode shaped listed) (world.dropping own count)
        rw [if_neg stays] at gone ⊢
        rw [← World.dropping, on_discard_bind ran, on_pure] at gone ⊢
        obtain ⟨other, away, same⟩ := gone_alike alike gone
        have mine : other.id = (own.dropUses count).id := takeOut_gone shaped listed
          (alike.retired ▸ tidy.apart own inside) (by rw [ran]; exact away)
        exact ⟨_, rfl, congrArg some (mine.symm.trans same)⟩

theorem naming_restore (fsType : String) : Naming (fun answer => some answer.2) (restore fsType) := by
  refine naming_unprotected fun world tidy entry gone => ?_
  rw [on_get_bind] at gone ⊢
  cases found : world.table.entry? fsType with
  | none =>
      rw [found] at gone
      exact absurd gone (alike_stays (alike_refl world.table))
  | some own =>
      have inside := List.mem_of_find?_eq_some found
      obtain ⟨pokes, later, ran, _⟩ := takeOut_anyway (entry_inode tidy.shaped inside) world
      simp only [found, on_bind, ran, on_pure] at gone ⊢
      have mine : entry.id = own.id :=
        takeOut_gone tidy.shaped inside (tidy.apart own inside) (by rw [ran]; exact gone)
      exact ⟨_, rfl, congrArg some mine.symm⟩

theorem naming_purgeFirst : Naming id purgeFirst := by
  refine naming_unprotected fun world tidy entry gone => ?_
  rw [on_get_bind] at gone ⊢
  cases entries : world.table.entries with
  | nil => exact absurd gone.1 (by simp [entries])
  | cons own rest =>
      have inside : own ∈ world.table.entries := by simp [entries]
      obtain ⟨pokes, later, ran, _⟩ := takeOut_anyway (entry_inode tidy.shaped inside) world
      simp only [entries] at gone ⊢
      rw [on_discard_bind ran, on_pure] at gone ⊢
      have mine : entry.id = own.id :=
        takeOut_gone tidy.shaped inside (tidy.apart own inside) (by rw [ran]; exact gone)
      exact ⟨_, rfl, congrArg some mine.symm⟩

end Interception.Patch
