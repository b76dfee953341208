import Interception.Proofs.Patch.Shifting

/-!
Custody of the entries. Beside the table stands an account of who has taken an
entry and not given it back, and of what the entries had saved that have left.
Whatever steps the table takes and in whatever order entries are taken and given
back, an entry that is in use is there with what it had saved when it left, and
nobody waits aside whom nobody uses.
-/

namespace Interception.Patch

variable {table later : Table} {world : World} {entry : Entry} {id : Nat}

/-- `uses` has the number of an entry once for each use in flight, and `left` the
numbers of those that have been taken out, with what they had saved. -/
structure Custody where
  uses : Multiset Nat
  left : List (Nat × Saved)

namespace Custody

def opened : Custody := ⟨0, []⟩

def take (id : Nat) (custody : Custody) : Custody := { custody with uses := id ::ₘ custody.uses }

def give (id : Nat) (custody : Custody) : Custody := { custody with uses := custody.uses.erase id }

/-- Enters those that were listed before and are not now. -/
def enter (before after : Table) (custody : Custody) : Custody :=
  let gone := before.entries.filter fun entry => after.entries.all (·.id != entry.id)
  { custody with left := gone.map (fun entry => (entry.id, entry.saved)) ++ custody.left }

end Custody

variable {custody : Custody}

/-- The table as the account has it. -/
structure Secured (table : Table) (custody : Custody) : Prop where
  tidy : Tidy table
  counted : Counted table custody.uses
  entered : ∀ entry ∈ table.retired, (entry.id, entry.saved) ∈ custody.left
  gone : ∀ mark ∈ custody.left, mark.1 < table.nextId ∧ ∀ entry ∈ table.entries, entry.id ≠ mark.1
  once : (custody.left.map Prod.fst).Nodup

theorem secured_empty : Secured Table.empty Custody.opened := by
  refine ⟨tidy_empty, counted_empty, ?_, ?_, ?_⟩ <;> simp [Table.empty, Custody.opened]

/-! ### Taking and giving back -/

theorem gone_renumbered {entries others : List Entry} {number : Nat}
    (ids : others.map (·.id) = entries.map (·.id))
    (gone : ∀ entry ∈ entries, entry.id ≠ number) : ∀ entry ∈ others, entry.id ≠ number := by
  intro entry member same
  have listed : entry.id ∈ entries.map (·.id) := ids ▸ List.mem_map_of_mem member
  obtain ⟨old, inside, alike⟩ := List.mem_map.mp listed
  exact gone old inside (alike.trans same)

theorem secured_take (secured : Secured table custody) (inside : entry ∈ table.entries) :
    Secured (table.acquire entry.id) (custody.take entry.id) := by
  constructor
  case tidy => exact tidy_acquire secured.tidy entry.id
  case counted => exact counted_acquire secured.tidy secured.counted inside
  case entered =>
    have untouched : (table.acquire entry.id).retired = table.retired :=
      mapEntry_missing _ (secured.tidy.apart entry inside)
    rw [untouched]
    exact secured.entered
  case gone =>
    intro mark member
    refine ⟨(secured.gone mark member).1, gone_renumbered ?_ (secured.gone mark member).2⟩
    exact mapEntry_view (fun entry => (acquire_same entry).1) table.entries
  case once => exact secured.once

theorem secured_give (secured : Secured table custody) (held : id ∈ custody.uses) :
    Secured (table.release id) (custody.give id) := by
  constructor
  case tidy => exact tidy_release secured.tidy id
  case counted => exact counted_release secured.tidy secured.counted held
  case entered =>
    intro waiting beside
    obtain ⟨old, inside, rfl⟩ := List.mem_map.mp (List.mem_filter.mp beside).1
    split <;> exact secured.entered old inside
  case gone =>
    intro mark member
    refine ⟨(secured.gone mark member).1, gone_renumbered ?_ (secured.gone mark member).2⟩
    exact mapEntry_view (fun entry => (rfl : entry.release.id = entry.id)) table.entries
  case once => exact secured.once

/-! ### Steps of the table -/

/-- Who is listed after a step was listed before, or is new. -/
theorem shifted_entries (shifted : Shifted table later) :
    ∀ entry ∈ later.entries, (∃ old ∈ table.entries, old.standing = entry.standing) ∨
      entry.standing = (table.nextId, 1) ∧ table.nextId < later.nextId := by
  intro entry member
  have standing := List.mem_map_of_mem (f := Entry.standing) member
  cases shifted with
  | alike alike =>
      rw [alike.entries] at standing
      exact .inl (List.mem_map.mp standing)
  | joined entries retired nextId =>
      rw [entries] at standing
      rcases List.mem_append.mp standing with old | new
      · exact .inl (List.mem_map.mp old)
      · exact .inr ⟨List.mem_singleton.mp new, nextId⟩
  | left inside same saved live entries retired nextId =>
      rw [entries] at standing
      exact .inl (List.mem_map.mp (List.mem_filter.mp standing).1)

theorem shifted_nextId (shifted : Shifted table later) : table.nextId ≤ later.nextId := by
  cases shifted with
  | alike alike => exact alike.nextId
  | joined entries retired nextId => exact Nat.le_of_lt nextId
  | left inside same saved live entries retired nextId => exact nextId

theorem mem_remains {gone waiting : Entry} :
    waiting ∈ gone.remains ↔ gone.retire.drained = false ∧ waiting = gone.retire := by
  unfold Entry.remains
  cases gone.retire.drained <;> simp

theorem retire_same (entry : Entry) : entry.retire.id = entry.id ∧ entry.retire.saved = entry.saved := by
  unfold Entry.retire
  split <;> exact ⟨rfl, rfl⟩

/-- Who waits aside after a step did so before, or has just been taken out with
what it had saved. -/
theorem shifted_retired (shifted : Shifted table later) :
    ∀ waiting ∈ later.retired, waiting ∈ table.retired ∨
      ∃ entry ∈ table.entries, waiting.id = entry.id ∧ waiting.saved = entry.saved ∧
        waiting.retired = true ∧ ∀ other ∈ later.entries, other.id ≠ entry.id := by
  intro waiting beside
  cases shifted with
  | alike alike => exact .inl (alike.retired ▸ beside)
  | joined entries retired nextId => exact .inl (retired ▸ beside)
  | @left entry gone inside same saved live entries retired nextId =>
      rw [retired] at beside
      rcases List.mem_append.mp beside with old | new
      · exact .inl old
      · obtain ⟨_, rfl⟩ := mem_remains.mp new
        refine .inr ⟨entry, inside, ?_, (retire_same gone).2.trans saved, retire_retired gone, ?_⟩
        · exact (retire_same gone).1.trans (congrArg Prod.fst same)
        · intro other member
          have standing := List.mem_map_of_mem (f := Entry.standing) member
          rw [entries] at standing
          exact bne_iff_ne.mp (List.mem_filter.mp standing).2

/-- Nobody who waits aside is touched. -/
theorem shifted_waits (shifted : Shifted table later) :
    ∃ new, later.retired = table.retired ++ new ∧ (new.map (·.id)).Nodup ∧
      ∀ waiting ∈ new, ∃ entry ∈ table.entries, waiting.id = entry.id := by
  cases shifted with
  | alike alike => exact ⟨[], by simp [alike.retired], by simp, by simp⟩
  | joined entries retired nextId => exact ⟨[], by simp [retired], by simp, by simp⟩
  | @left entry gone inside same saved live entries retired nextId =>
      refine ⟨gone.remains, retired, ?_, ?_⟩
      · unfold Entry.remains
        split <;> simp
      · intro waiting member
        obtain ⟨_, rfl⟩ := mem_remains.mp member
        exact ⟨entry, inside, (retire_same gone).1.trans (congrArg Prod.fst same)⟩

theorem entry_older (tidy : Tidy table) (inside : entry ∈ table.entries) :
    entry.id < table.nextId :=
  standing_older tidy.shaped entry.standing (List.mem_map_of_mem inside)

theorem tidy_shifted (tidy : Tidy table) (shaped : Shaped later)
    (shifted : Shifted table later) : Tidy later := by
  have nextId := shifted_nextId shifted
  constructor
  case shaped => exact shaped
  case apart =>
    intro entry member waiting beside
    rcases shifted_retired shifted waiting beside with old | ⟨own, inside, same, _, _, others⟩
    · rcases shifted_entries shifted entry member with ⟨before, there, alike⟩ | ⟨new, _⟩
      · rw [← show before.id = entry.id from congrArg Prod.fst alike]
        exact tidy.apart before there waiting old
      · rw [show entry.id = table.nextId from congrArg Prod.fst new]
        exact Nat.ne_of_lt (tidy.older waiting old)
    · rw [same]
      exact (others entry member).symm
  case distinct =>
    obtain ⟨new, retired, distinct, taken⟩ := shifted_waits shifted
    rw [retired, List.map_append]
    refine List.nodup_append.mpr ⟨tidy.distinct, distinct, ?_⟩
    intro number old other member same
    obtain ⟨waiting, beside, rfl⟩ := List.mem_map.mp old
    obtain ⟨gone, fresh, rfl⟩ := List.mem_map.mp member
    obtain ⟨entry, inside, own⟩ := taken gone fresh
    exact tidy.apart entry inside waiting beside (same.trans own)
  case older =>
    intro waiting beside
    rcases shifted_retired shifted waiting beside with old | ⟨own, inside, same, _⟩
    · exact Nat.lt_of_lt_of_le (tidy.older waiting old) nextId
    · rw [same]
      exact Nat.lt_of_lt_of_le (entry_older tidy inside) nextId
  case retired =>
    intro waiting beside
    rcases shifted_retired shifted waiting beside with old | ⟨_, _, _, _, retired, _⟩
    · exact tidy.retired waiting old
    · exact retired

/-- Nobody has taken a number that is not given out yet. -/
theorem count_unborn (tidy : Tidy table) {uses : Multiset Nat} (counted : Counted table uses) :
    uses.count table.nextId = 0 := by
  rw [Multiset.count_eq_zero]
  intro used
  obtain ⟨entry, there, same⟩ := counted.known table.nextId used
  rcases List.mem_append.mp there with inside | beside
  · exact absurd same (Nat.ne_of_lt (entry_older tidy inside))
  · exact absurd same (Nat.ne_of_lt (tidy.older entry beside))

theorem owed_standing {other : Entry} {out : Nat} (owed : other.Owed out)
    (refs : other.refs = entry.refs) (retired : other.retired = entry.retired) : entry.Owed out := by
  rw [Entry.Owed, ← refs, ← retired]
  exact owed

/-- Who is taken out is owed for the uses in flight, but no longer for its place. -/
theorem gone_owed (tidy : Tidy table) {uses : Multiset Nat} (counted : Counted table uses)
    {gone : Entry} (inside : entry ∈ table.entries) (same : gone.standing = entry.standing)
    (live : gone.retired = false) : gone.retire.Owed (uses.count gone.retire.id) := by
  rw [(retire_same gone).1, show gone.id = entry.id from congrArg Prod.fst same]
  exact owed_retire (owed_standing (counted.listed entry inside) (congrArg Prod.snd same).symm
    ((shaped_live tidy.shaped entry inside).trans live.symm))

/-- Who waits aside after a step waits for a use in flight. -/
theorem shifted_aside (tidy : Tidy table) {uses : Multiset Nat} (counted : Counted table uses)
    (shifted : Shifted table later) :
    ∀ waiting ∈ later.retired, waiting.Owed (uses.count waiting.id) ∧ waiting.id ∈ uses := by
  have before (waiting : Entry) (old : waiting ∈ table.retired) :
      waiting.Owed (uses.count waiting.id) ∧ waiting.id ∈ uses :=
    ⟨counted.aside waiting old, counted.used waiting old⟩
  cases shifted with
  | alike alike => exact alike.retired.symm ▸ before
  | joined entries retired nextId => exact retired.symm ▸ before
  | @left entry gone inside same saved live entries retired nextId =>
      have owed := gone_owed tidy counted inside same live
      rw [retired]
      refine List.forall_mem_append.mpr ⟨before, fun waiting member => ?_⟩
      obtain ⟨waits, rfl⟩ := mem_remains.mp member
      exact ⟨owed, (undrained_iff owed (retire_retired gone)).mp waits⟩

/-- No step loses an entry that is in use. -/
theorem shifted_known (tidy : Tidy table) {uses : Multiset Nat} (counted : Counted table uses)
    (shifted : Shifted table later) :
    ∀ id ∈ uses, ∃ entry ∈ later.entries ++ later.retired, entry.id = id := by
  intro id used
  obtain ⟨own, there, rfl⟩ := counted.known id used
  have listed (there : own.standing ∈ later.entries.map Entry.standing) :
      ∃ entry ∈ later.entries ++ later.retired, entry.id = own.id := by
    obtain ⟨entry, member, same⟩ := List.mem_map.mp there
    exact ⟨entry, List.mem_append_left _ member, congrArg Prod.fst same⟩
  rcases List.mem_append.mp there with inside | beside
  · have standing : own.standing ∈ table.entries.map Entry.standing := List.mem_map_of_mem inside
    cases shifted with
    | alike alike => exact listed (alike.entries ▸ standing)
    | joined entries retired nextId => exact listed (entries ▸ List.mem_append_left _ standing)
    | @left entry gone member same saved live entries retired nextId =>
        by_cases mine : own.id = entry.id
        · have number : gone.retire.id = own.id :=
            ((retire_same gone).1.trans (congrArg Prod.fst same)).trans mine.symm
          have waits := (undrained_iff (gone_owed tidy counted member same live)
            (retire_retired gone)).mpr (number ▸ used)
          refine ⟨gone.retire, List.mem_append_right _ ?_, number⟩
          rw [retired]
          exact List.mem_append_right _ (mem_remains.mpr ⟨waits, rfl⟩)
        · exact listed (entries ▸ List.mem_filter.mpr ⟨standing, bne_iff_ne.mpr mine⟩)
  · obtain ⟨new, waits, _⟩ := shifted_waits shifted
    exact ⟨own, List.mem_append_right _ (waits ▸ List.mem_append_left _ beside), rfl⟩

/-- Every step of the table leaves the uses in flight counted. -/
theorem counted_shifted (tidy : Tidy table) {uses : Multiset Nat} (counted : Counted table uses)
    (shaped : Shaped later) (shifted : Shifted table later) : Counted later uses := by
  constructor
  case listed =>
    intro entry member
    have live := shaped_live shaped entry member
    rcases shifted_entries shifted entry member with ⟨old, inside, same⟩ | ⟨new, _⟩
    · rw [← show old.id = entry.id from congrArg Prod.fst same]
      exact owed_standing (counted.listed old inside) (congrArg Prod.snd same)
        ((shaped_live tidy.shaped old inside).trans live.symm)
    · rw [show entry.id = table.nextId from congrArg Prod.fst new, count_unborn tidy counted,
        Entry.Owed, live, show entry.refs = 1 from congrArg Prod.snd new]
      rfl
  case aside => exact fun waiting beside => (shifted_aside tidy counted shifted waiting beside).1
  case used => exact fun waiting beside => (shifted_aside tidy counted shifted waiting beside).2
  case known => exact shifted_known tidy counted shifted

theorem enter_left (custody : Custody) (mark : Nat × Saved) :
    mark ∈ (custody.enter table later).left ↔
      (∃ entry, Gone table later entry ∧ (entry.id, entry.saved) = mark) ∨ mark ∈ custody.left := by
  simp [Custody.enter, Gone, and_assoc]

theorem secured_shifted (secured : Secured table custody) (shaped : Shaped later)
    (shifted : Shifted table later) : Secured later (custody.enter table later) := by
  constructor
  case tidy => exact tidy_shifted secured.tidy shaped shifted
  case counted => exact counted_shifted secured.tidy secured.counted shaped shifted
  case entered =>
    intro waiting beside
    rw [enter_left]
    rcases shifted_retired shifted waiting beside with old | ⟨entry, inside, id, saved, _, others⟩
    · exact .inr (secured.entered waiting old)
    · exact .inl ⟨entry, ⟨inside, others⟩, by rw [id, saved]⟩
  case gone =>
    intro mark member
    rcases (enter_left custody mark).mp member with ⟨entry, ⟨inside, others⟩, rfl⟩ | old
    · exact ⟨Nat.lt_of_lt_of_le (entry_older secured.tidy inside) (shifted_nextId shifted), others⟩
    · obtain ⟨older, away⟩ := secured.gone mark old
      refine ⟨Nat.lt_of_lt_of_le older (shifted_nextId shifted), fun entry member => ?_⟩
      rcases shifted_entries shifted entry member with ⟨before, there, same⟩ | ⟨new, _⟩
      · rw [← show before.id = entry.id from congrArg Prod.fst same]
        exact away before there
      · rw [show entry.id = table.nextId from congrArg Prod.fst new]
        exact Nat.ne_of_gt older
  case once =>
    have ids := secured.tidy.shaped.formed.numbered.ids
    simp only [Table.listing, List.map_map] at ids
    rw [Custody.enter, List.map_append, List.map_map]
    refine List.nodup_append.mpr ⟨ids.sublist (List.filter_sublist.map _), secured.once, ?_⟩
    intro number new other member same
    obtain ⟨entry, inside, rfl⟩ := List.mem_map.mp new
    obtain ⟨mark, old, rfl⟩ := List.mem_map.mp member
    exact (secured.gone mark old).2 entry (List.mem_filter.mp inside).1 same

/-- Whatever step the table takes. -/
theorem secured_apply {custody : Custody} (secured : Secured world.table custody) (step : Step) :
    Secured (step.apply world).table (custody.enter world.table (step.apply world).table) :=
  secured_shifted secured (shaped_apply secured.tidy.shaped step)
    (apply_shifts secured.tidy step)

/-! ### What the account vouches for -/

/-- What whoever keeps the account can say of the table. Departed entries are
those that were taken out. -/
structure Vouched (table : Table) (custody : Custody) : Prop where
  listed : ∀ entry ∈ table.entries, entry.retired = false ∧
    entry.inFlight = custody.uses.count entry.id ∧ entry.refs = entry.inFlight + 1
  aside : ∀ entry ∈ table.retired, entry.retired = true ∧
    entry.inFlight = custody.uses.count entry.id ∧ entry.refs = entry.inFlight ∧ 0 < entry.refs
  used : ∀ id ∈ custody.uses, ∃ entry, table.byId? id = some entry ∧ entry.id = id
  untakeable : ∀ mark ∈ custody.left, table.acquire mark.1 = table
  drained : ∀ mark ∈ custody.left, table.isDrained mark.1 = true ↔ mark.1 ∉ custody.uses
  cleared : ∀ mark ∈ custody.left, table.byId? mark.1 = none ↔ mark.1 ∉ custody.uses
  unchanged : ∀ mark ∈ custody.left, ∀ entry, table.byId? mark.1 = some entry →
    entry.retired = true ∧ entry.saved = mark.2

/-- An entry with the number of a departed one waits aside. -/
theorem departed_found (secured : Secured table custody) {mark : Nat × Saved}
    (departed : mark ∈ custody.left) :
    table.byId? mark.1 = table.retired.find? (·.id == mark.1) := by
  have missing : table.entries.find? (·.id == mark.1) = none :=
    List.find?_eq_none.mpr fun entry member => by simpa using (secured.gone mark departed).2 entry member
  rw [Table.byId?, List.find?_append, missing, Option.none_or]

theorem departed_drained (secured : Secured table custody) {mark : Nat × Saved}
    (departed : mark ∈ custody.left) : table.isDrained mark.1 = true ↔ mark.1 ∉ custody.uses := by
  rw [Table.isDrained, List.all_eq_true]
  constructor
  · intro drained used
    obtain ⟨entry, there, same⟩ := secured.counted.known mark.1 used
    rcases List.mem_append.mp there with inside | beside
    · exact (secured.gone mark departed).2 entry inside same
    · exact bne_iff_ne.mp (drained entry beside) same
  · intro unused entry beside
    exact bne_iff_ne.mpr fun same => unused (same ▸ secured.counted.used entry beside)

theorem departed_untakeable (secured : Secured table custody) {mark : Nat × Saved}
    (departed : mark ∈ custody.left) : table.acquire mark.1 = table := by
  have entries : Table.mapEntry mark.1 (fun entry => entry.acquire.getD entry) table.entries =
      table.entries := mapEntry_missing _ (secured.gone mark departed).2
  have retired : Table.mapEntry mark.1 (fun entry => entry.acquire.getD entry) table.retired =
      table.retired := by
    refine (List.map_congr_left fun entry beside => ?_).trans (List.map_id table.retired)
    simp only [acquire_retired (secured.tidy.retired entry beside), Option.getD_none, ite_self]
    rfl
  rw [Table.acquire, Table.update, entries, retired]

theorem secured_vouched (secured : Secured table custody) : Vouched table custody := by
  constructor
  case listed =>
    intro entry inside
    have live := shaped_live secured.tidy.shaped entry inside
    have owed := secured.counted.listed entry inside
    exact ⟨live, owed_inFlight owed, (owed_inFlight owed).symm ▸ owed_live owed live⟩
  case aside =>
    intro entry beside
    have retired := secured.tidy.retired entry beside
    have owed := secured.counted.aside entry beside
    have refs := owed_retired owed retired
    refine ⟨retired, owed_inFlight owed, (owed_inFlight owed).symm ▸ refs, ?_⟩
    exact refs ▸ Multiset.count_pos.mpr (secured.counted.used entry beside)
  case used =>
    intro id used
    obtain ⟨own, there, same⟩ := secured.counted.known id used
    cases found : table.byId? id with
    | none => exact absurd same (by simpa using List.find?_eq_none.mp found own there)
    | some entry => exact ⟨entry, rfl, by simpa using List.find?_some found⟩
  case untakeable => exact fun mark departed => departed_untakeable secured departed
  case drained => exact fun mark departed => departed_drained secured departed
  case cleared =>
    intro mark departed
    rw [← departed_drained secured departed, departed_found secured departed, Table.isDrained,
      List.find?_eq_none, List.all_eq_true]
    simp
  case unchanged =>
    intro mark departed entry found
    rw [departed_found secured departed] at found
    have beside := List.mem_of_find?_eq_some found
    have same : entry.id = mark.1 := by simpa using List.find?_some found
    refine ⟨secured.tidy.retired entry beside, ?_⟩
    have alike := List.inj_on_of_nodup_map secured.once (secured.entered entry beside) departed same
    exact congrArg Prod.snd alike

end Interception.Patch
