import Interception.Proofs.Patch.Shaping
import Mathlib.Data.Multiset.AddSub

/-!
The references to an entry. The table holds one until the entry retires, and
every use in flight holds one of its own. Uses come and go in any order and the
entry may be retired again and again, but the references stay accounted for:
none is given back that was not taken, nobody takes a retired entry, and the
last reference goes exactly when the entry is retired and out of use.
-/

namespace Interception.Patch

variable {entry : Entry} {out : Nat} {table : Table} {uses : Multiset Nat}

/-! ### One entry -/

/-- The references are those of so many uses in flight and the table's own. -/
def Entry.Owed (entry : Entry) (out : Nat) : Prop :=
  entry.refs = out + if entry.retired then 0 else 1

theorem owed_fresh (id : Nat) (fsType : String) (hookDentries : Bool) :
    (Entry.fresh id fsType hookDentries).Owed 0 := rfl

theorem owed_live (owed : entry.Owed out) (live : entry.retired = false) : entry.refs = out + 1 := by
  rw [Entry.Owed, live] at owed
  exact owed

theorem owed_retired (owed : entry.Owed out) (retired : entry.retired = true) : entry.refs = out := by
  rw [Entry.Owed, retired] at owed
  exact owed

theorem owed_inFlight (owed : entry.Owed out) : entry.inFlight = out := by
  unfold Entry.inFlight
  cases retired : entry.retired with
  | false => simp [owed_live owed retired]
  | true => simp [owed_retired owed retired]

theorem owed_drained (owed : entry.Owed out) :
    entry.drained = true ↔ entry.retired = true ∧ out = 0 := by
  cases retired : entry.retired with
  | false => simp [Entry.drained, owed_live owed retired]
  | true => simp [Entry.drained, owed_retired owed retired]

theorem acquire_retired (retired : entry.retired = true) : entry.acquire = none := by
  rw [Entry.acquire, retired, if_pos rfl]

theorem acquire_live (live : entry.retired = false) :
    entry.acquire = some { entry with refs := entry.refs + 1 } := by
  rw [Entry.acquire, live, if_neg Bool.false_ne_true]

theorem owed_acquire (owed : entry.Owed out) (live : entry.retired = false) :
    ({ entry with refs := entry.refs + 1 } : Entry).Owed (out + 1) := by
  have refs := owed_live owed live
  simp only [Entry.Owed, live, refs, Bool.false_eq_true, if_false]

theorem owed_release (owed : entry.Owed (out + 1)) : entry.release.Owed out := by
  simp only [Entry.Owed, Entry.release] at owed ⊢
  split at owed <;> simp_all

theorem owed_retire (owed : entry.Owed out) : entry.retire.Owed out := by
  cases retired : entry.retired with
  | true => rwa [Entry.retire, retired, if_pos rfl]
  | false => simp [Entry.retire, Entry.release, Entry.Owed, retired, owed_live owed retired]

theorem retire_retired (entry : Entry) : entry.retire.retired = true := by
  cases retired : entry.retired with
  | true => rwa [Entry.retire, retired, if_pos rfl]
  | false => rw [Entry.retire, retired, if_neg Bool.false_ne_true, Entry.release]

/-- What may become of an entry: it is taken into use, a use is given back, it is
taken off the table. -/
inductive Handling
  | acquire
  | drop
  | retire
  deriving DecidableEq

/-- An entry with the number of those who have taken it and not given it back. -/
structure Lent where
  entry : Entry
  out : Nat

/-- Only who has taken an entry can give it back. -/
def Lent.handle (lent : Lent) : Handling → Lent
  | .acquire =>
      match lent.entry.acquire with
      | some entry => ⟨entry, lent.out + 1⟩
      | none => lent
  | .drop => if lent.out = 0 then lent else ⟨lent.entry.release, lent.out - 1⟩
  | .retire => ⟨lent.entry.retire, lent.out⟩

def Lent.handled (lent : Lent) (handlings : List Handling) : Lent := handlings.foldl Lent.handle lent

theorem handle_owed {lent : Lent} (owed : lent.entry.Owed lent.out) (handling : Handling) :
    (lent.handle handling).entry.Owed (lent.handle handling).out := by
  cases handling with
  | acquire =>
      simp only [Lent.handle]
      cases retired : lent.entry.retired with
      | true => rwa [acquire_retired retired]
      | false =>
          rw [acquire_live retired]
          exact owed_acquire owed retired
  | drop =>
      simp only [Lent.handle]
      split
      · exact owed
      · next some =>
          obtain ⟨out, more⟩ := Nat.exists_eq_succ_of_ne_zero some
          rw [more] at owed ⊢
          exact owed_release owed
  | retire => exact owed_retire owed

theorem handle_retired (lent : Lent) (handling : Handling) :
    (lent.handle handling).entry.retired = true ↔
      lent.entry.retired = true ∨ handling = .retire := by
  cases handling with
  | acquire =>
      simp only [Lent.handle]
      cases retired : lent.entry.retired with
      | true => simp [acquire_retired retired, retired]
      | false => simp [acquire_live retired, retired]
  | drop =>
      simp only [Lent.handle]
      split <;> simp [Entry.release]
  | retire => simp [Lent.handle, retire_retired]

theorem handled_owed (handlings : List Handling) : ∀ lent : Lent, lent.entry.Owed lent.out →
    (lent.handled handlings).entry.Owed (lent.handled handlings).out := by
  induction handlings with
  | nil => exact fun _ owed => owed
  | cons handling rest further =>
      exact fun lent owed => further (lent.handle handling) (handle_owed owed handling)

theorem handled_retired (handlings : List Handling) : ∀ lent : Lent,
    (lent.handled handlings).entry.retired = true ↔
      lent.entry.retired = true ∨ .retire ∈ handlings := by
  induction handlings with
  | nil => simp [Lent.handled]
  | cons handling rest further =>
      intro lent
      have later := further (lent.handle handling)
      rw [handle_retired] at later
      rw [List.mem_cons, ← or_assoc, eq_comm (a := Handling.retire)]
      exact later

/-- How an entry stands after all that has been done with it. -/
structure Lent.Reckons (lent : Lent) (handlings : List Handling) : Prop where
  inFlight : lent.entry.inFlight = lent.out
  refs : lent.entry.refs = lent.out + if lent.entry.retired then 0 else 1
  /-- There is a reference wherever one may be given back. -/
  positive : 0 < lent.out ∨ .retire ∉ handlings → 0 < lent.entry.refs
  retired : lent.entry.retired = true ↔ .retire ∈ handlings
  refused : .retire ∈ handlings → lent.entry.acquire = none ∧ lent.handle .acquire = lent
  drained : lent.entry.drained = true ↔ .retire ∈ handlings ∧ lent.out = 0

theorem handled_reckons (handlings : List Handling) {lent : Lent} (owed : lent.entry.Owed lent.out)
    (live : lent.entry.retired = false) : (lent.handled handlings).Reckons handlings := by
  have later := handled_owed handlings lent owed
  have retired : (lent.handled handlings).entry.retired = true ↔ .retire ∈ handlings := by
    rw [handled_retired, live]
    simp
  constructor
  case inFlight => exact owed_inFlight later
  case refs => exact later
  case positive =>
    rintro (out | never)
    · exact Nat.lt_of_lt_of_le out (later ▸ Nat.le_add_right _ _)
    · rw [owed_live later (by simpa using mt retired.mp never)]
      exact Nat.succ_pos _
  case retired => exact retired
  case refused =>
    intro gone
    have none := acquire_retired (retired.mpr gone)
    exact ⟨none, by simp only [Lent.handle, none]⟩
  case drained => rw [owed_drained later, retired]

/-! ### All entries of a table -/

/-- A table whose entries can be told apart, those aside among them. -/
structure Tidy (table : Table) : Prop where
  shaped : Shaped table
  apart : ∀ entry ∈ table.entries, ∀ aside ∈ table.retired, aside.id ≠ entry.id
  distinct : (table.retired.map (·.id)).Nodup
  older : ∀ aside ∈ table.retired, aside.id < table.nextId
  retired : ∀ aside ∈ table.retired, aside.retired = true

/-- The uses in flight, by the numbers of the entries: every entry has the
references it owes them, and it is aside only as long as there are any. -/
structure Counted (table : Table) (uses : Multiset Nat) : Prop where
  listed : ∀ entry ∈ table.entries, entry.Owed (uses.count entry.id)
  aside : ∀ entry ∈ table.retired, entry.Owed (uses.count entry.id)
  used : ∀ entry ∈ table.retired, entry.id ∈ uses
  known : ∀ id ∈ uses, ∃ entry ∈ table.entries ++ table.retired, entry.id = id

/-- A retired entry is not drained as long as it is in use. -/
theorem undrained_iff {entry : Entry} {uses : Multiset Nat} {id : Nat}
    (owed : entry.Owed (uses.count id)) (retired : entry.retired = true) :
    entry.drained = false ↔ id ∈ uses := by
  rw [← Bool.not_eq_true, owed_drained owed, Multiset.count_eq_zero]
  simp [retired]

theorem tidy_empty : Tidy Table.empty := by
  refine ⟨shaped_empty, ?_, ?_, ?_, ?_⟩ <;> simp [Table.empty]

theorem counted_empty : Counted Table.empty 0 := by
  refine ⟨?_, ?_, ?_, ?_⟩ <;> simp [Table.empty]

theorem mapEntry_missing {id : Nat} (change : Entry → Entry) {entries : List Entry}
    (missing : ∀ entry ∈ entries, entry.id ≠ id) : Table.mapEntry id change entries = entries := by
  rw [Table.mapEntry]
  exact (List.map_congr_left fun entry member => if_neg (missing entry member)).trans
    (List.map_id entries)

/-- A use that is taken adds a reference to its own entry. -/
theorem mapEntry_owed {id : Nat} {change : Entry → Entry} {entries : List Entry}
    {before after : Multiset Nat} (owed : ∀ entry ∈ entries, entry.Owed (before.count entry.id))
    (same : ∀ entry, (change entry).id = entry.id)
    (own : ∀ entry ∈ entries, entry.id = id → (change entry).Owed (after.count id))
    (others : ∀ other, other ≠ id → after.count other = before.count other) :
    ∀ entry ∈ Table.mapEntry id change entries, entry.Owed (after.count entry.id) := by
  refine List.forall_mem_map.mpr fun entry member => ?_
  split
  · next mine =>
      rw [same, mine]
      exact own entry member mine
  · next other =>
      rw [others entry.id other]
      exact owed entry member

/-- Whoever has a number has it still. -/
theorem mapEntry_known {id number : Nat} {change : Entry → Entry}
    (same : ∀ entry, (change entry).id = entry.id) {entries : List Entry}
    (known : ∃ entry ∈ entries, entry.id = number) :
    ∃ entry ∈ Table.mapEntry id change entries, entry.id = number := by
  obtain ⟨entry, inside, rfl⟩ := known
  have present : entry.id ∈ (Table.mapEntry id change entries).map (·.id) :=
    (mapEntry_view same entries).symm ▸ List.mem_map_of_mem inside
  exact List.mem_map.mp present

/-! ### Taking and giving back -/

theorem acquire_same (entry : Entry) :
    (entry.acquire.getD entry).id = entry.id ∧ (entry.acquire.getD entry).saved = entry.saved ∧
      (entry.acquire.getD entry).retired = entry.retired := by
  unfold Entry.acquire
  split <;> exact ⟨rfl, rfl, rfl⟩

/-- What has changed entries in ways that leave numbers and flags alone is still
in order. -/
theorem tidy_changed {later : Table} (tidy : Tidy table) (shaped : Shaped later)
    (nextId : later.nextId = table.nextId)
    (ids : later.entries.map (·.id) = table.entries.map (·.id))
    (aside : (later.retired.map fun entry => (entry.id, entry.retired)).Sublist
      (table.retired.map fun entry => (entry.id, entry.retired))) : Tidy later := by
  have known (entry : Entry) (member : entry ∈ later.retired) :
      ∃ old ∈ table.retired, old.id = entry.id ∧ old.retired = entry.retired := by
    obtain ⟨old, inside, same⟩ := List.mem_map.mp (aside.subset (List.mem_map_of_mem member))
    exact ⟨old, inside, Prod.mk.inj same⟩
  constructor
  case shaped => exact shaped
  case apart =>
    intro entry member waiting beside
    obtain ⟨old, inside, same, _⟩ := known waiting beside
    have listed : entry.id ∈ table.entries.map (·.id) := ids ▸ List.mem_map_of_mem member
    obtain ⟨own, there, mine⟩ := List.mem_map.mp listed
    rw [← same, ← mine]
    exact tidy.apart own there old inside
  case distinct =>
    have fewer := aside.map Prod.fst
    simp only [List.map_map] at fewer
    exact tidy.distinct.sublist fewer
  case older =>
    intro waiting beside
    obtain ⟨old, inside, same, _⟩ := known waiting beside
    rw [← same, nextId]
    exact tidy.older old inside
  case retired =>
    intro waiting beside
    obtain ⟨old, inside, _, same⟩ := known waiting beside
    rw [← same]
    exact tidy.retired old inside

theorem tidy_acquire (tidy : Tidy table) (id : Nat) : Tidy (table.acquire id) := by
  have flags : (table.acquire id).retired.map (fun entry => (entry.id, entry.retired)) =
      table.retired.map fun entry => (entry.id, entry.retired) := by
    refine mapEntry_view (fun entry => ?_) table.retired
    rw [(acquire_same entry).1, (acquire_same entry).2.2]
  refine tidy_changed tidy (shaped_acquire tidy.shaped id) rfl ?_ (flags ▸ .refl _)
  exact mapEntry_view (fun entry => (acquire_same entry).1) table.entries

theorem tidy_release (tidy : Tidy table) (id : Nat) : Tidy (table.release id) := by
  have flags : (Table.mapEntry id Entry.release table.retired).map
      (fun entry => (entry.id, entry.retired)) =
        table.retired.map fun entry => (entry.id, entry.retired) :=
    mapEntry_view (fun entry => (rfl : (entry.release.id, _) = (entry.id, _))) table.retired
  refine tidy_changed tidy (shaped_release tidy.shaped id) rfl ?_ ?_
  · exact mapEntry_view (fun entry => (rfl : entry.release.id = entry.id)) table.entries
  · exact flags ▸ List.filter_sublist.map fun entry : Entry => (entry.id, entry.retired)

/-- An entry that is listed is taken. -/
theorem counted_acquire (tidy : Tidy table) (counted : Counted table uses)
    (inside : entry ∈ table.entries) : Counted (table.acquire entry.id) (entry.id ::ₘ uses) := by
  have others (other : Nat) (different : other ≠ entry.id) :
      (entry.id ::ₘ uses).count other = uses.count other :=
    Multiset.count_cons_of_ne different uses
  have missing := mapEntry_missing (fun entry => entry.acquire.getD entry)
    (tidy.apart entry inside)
  constructor
  case listed =>
    refine mapEntry_owed counted.listed (fun entry => (acquire_same entry).1) ?_ others
    intro own member same
    have live := shaped_live tidy.shaped own member
    rw [acquire_live live, Option.getD_some, Multiset.count_cons_self, ← same]
    exact owed_acquire (counted.listed own member) live
  case aside =>
    rw [Table.acquire, Table.update, missing]
    intro waiting beside
    rw [others waiting.id (tidy.apart entry inside waiting beside)]
    exact counted.aside waiting beside
  case used =>
    rw [Table.acquire, Table.update, missing]
    exact fun waiting beside => Multiset.mem_cons_of_mem (counted.used waiting beside)
  case known =>
    have ids (id : Nat) (known : ∃ own ∈ table.entries ++ table.retired, own.id = id) :
        ∃ own ∈ (table.acquire entry.id).entries ++ (table.acquire entry.id).retired,
          own.id = id := by
      rw [Table.acquire, Table.update, Table.mapEntry, Table.mapEntry, ← List.map_append]
      exact mapEntry_known (fun own => (acquire_same own).1) known
    intro id member
    rcases Multiset.mem_cons.mp member with rfl | old
    · exact ids _ ⟨entry, List.mem_append_left _ inside, rfl⟩
    · exact ids id (counted.known id old)

/-- The last use that is given back takes a retired entry with it. -/
theorem counted_release (tidy : Tidy table) (counted : Counted table uses) {id : Nat}
    (held : id ∈ uses) : Counted (table.release id) (uses.erase id) := by
  have others (other : Nat) (different : other ≠ id) :
      (uses.erase id).count other = uses.count other :=
    Multiset.count_erase_of_ne different uses
  have own (entry : Entry) (owed : entry.Owed (uses.count entry.id)) (same : entry.id = id) :
      entry.release.Owed ((uses.erase id).count id) := by
    rw [same] at owed
    have more := Multiset.count_pos.mpr held
    rw [Multiset.count_erase_self]
    exact owed_release (by rwa [Nat.sub_add_cancel more])
  have aside : ∀ entry ∈ Table.mapEntry id Entry.release table.retired,
      entry.Owed ((uses.erase id).count entry.id) :=
    mapEntry_owed counted.aside (fun _ => rfl) (fun entry member => own entry (counted.aside entry member))
      others
  have retired : ∀ entry ∈ Table.mapEntry id Entry.release table.retired, entry.retired = true := by
    refine List.forall_mem_map.mpr fun entry member => ?_
    split <;> exact tidy.retired entry member
  constructor
  case listed =>
    exact mapEntry_owed counted.listed (fun _ => rfl)
      (fun entry member => own entry (counted.listed entry member)) others
  case aside => exact fun entry member => aside entry (List.mem_filter.mp member).1
  case used =>
    intro entry member
    obtain ⟨inside, waits⟩ := List.mem_filter.mp member
    exact (undrained_iff (aside entry inside) (retired entry inside)).mp (by simpa using waits)
  case known =>
    intro number member
    have numbers {entries : List Entry} (there : ∃ entry ∈ entries, entry.id = number) :
        ∃ entry ∈ Table.mapEntry id Entry.release entries, entry.id = number :=
      mapEntry_known (fun entry => (rfl : entry.release.id = entry.id)) there
    obtain ⟨entry, inside, rfl⟩ := counted.known number (Multiset.mem_of_mem_erase member)
    rcases List.mem_append.mp inside with listed | waiting
    · obtain ⟨later, there, same⟩ := numbers ⟨entry, listed, rfl⟩
      exact ⟨later, List.mem_append_left _ there, same⟩
    · obtain ⟨later, there, same⟩ := numbers ⟨entry, waiting, rfl⟩
      refine ⟨later, List.mem_append_right _ (List.mem_filter.mpr ⟨there, ?_⟩), same⟩
      -- Somebody else has it still, so this was not the last use.
      rw [Bool.not_eq_true']
      exact (undrained_iff (aside later there) (retired later there)).mpr (same ▸ member)

end Interception.Patch
