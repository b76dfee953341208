import Interception.Proofs.Patch.Counting

/-!
Entries and the calls that use them. Between calls nobody uses an entry, and
during a call through a hook one entry is held. Only the operations that hold
and give back touch this; so whatever leaves the table has no call to wait for.
-/

namespace Interception.Patch

open Change

variable {world later : World} {initial : Slot → Addr} {table other : Table} {held : Option Nat}

/-- No entry waits aside, and none is in use but the one that is held. -/
structure InUse (held : Option Nat) (table : Table) : Prop where
  settled : table.retired = []
  refs : ∀ entry ∈ table.entries, entry.refs = if held = some entry.id then 2 else 1

theorem inUse_empty : InUse none Table.empty := ⟨rfl, fun _ member => by cases member⟩

/-- Use shows in the counts. -/
theorem inUse_iff : InUse held table ↔ table.counts.2 = [] ∧
    ∀ count ∈ table.counts.1, count.refs = if held = some count.id then 2 else 1 := by
  constructor
  · rintro ⟨settled, refs⟩
    exact ⟨List.map_eq_nil_iff.mpr settled, List.forall_mem_map.mpr refs⟩
  · rintro ⟨settled, refs⟩
    exact ⟨List.map_eq_nil_iff.mp settled, List.forall_mem_map.mp refs⟩

theorem inUse_counts (inUse : InUse held table) (same : other.counts = table.counts) :
    InUse held other := by
  rw [inUse_iff, same]
  exact inUse_iff.mp inUse

/-- Counting uses does not use an entry. -/
theorem inUse_counted {counts : List Count} {id : Nat} {change : Nat → Nat}
    (settled : table.counts.2 = [])
    (refs : ∀ count ∈ counts, count.refs = if held = some count.id then 2 else 1)
    (counted : table.Counted (adjust id change counts) other) : InUse held other := by
  rw [inUse_iff, counted.listed]
  refine ⟨counted.aside settled, ?_⟩
  intro count member
  obtain ⟨old, inside, rfl⟩ := List.mem_map.mp member
  by_cases own : old.id = id
  · simp only [if_pos own]
    exact refs old inside
  · simp only [if_neg own]
    exact refs old inside

theorem inUse_drained (inUse : InUse held table) (id : Nat) : table.isDrained id = true := by
  simp [Table.isDrained, inUse.settled]

/-! ### Holding and giving back -/

/-- No entry of the list has been retired. -/
def Live (table : Table) : Prop := ∀ entry ∈ table.entries, entry.retired = false

theorem live_kept {content : Slot → Addr} (kept : Kept initial content table.listing) : Live table :=
  fun entry member => kept.live entry.listed (List.mem_map_of_mem member)

theorem inUse_acquire (inUse : InUse none table) (live : Live table) (id : Nat) :
    InUse (some id) (table.acquire id) := by
  constructor
  case settled => simp [Table.acquire, Table.update, Table.mapEntry, inUse.settled]
  case refs =>
    intro entry member
    obtain ⟨old, inside, rfl⟩ := List.mem_map.mp member
    have single : old.refs = 1 := by simpa using inUse.refs old inside
    by_cases own : old.id = id
    · simp [own, Entry.acquire, live old inside, single]
    · simp [own, Ne.symm own, single]

theorem inUse_release {id : Nat} (inUse : InUse (some id) table) : InUse none (table.release id) := by
  constructor
  case settled => simp [Table.release, Table.update, Table.mapEntry, inUse.settled]
  case refs =>
    intro entry member
    obtain ⟨old, inside, rfl⟩ := List.mem_map.mp member
    have refs := inUse.refs old inside
    by_cases own : old.id = id
    · simp [own] at refs
      simp [own, Entry.release, refs]
    · simpa [own, Ne.symm own] using refs

/-! ### Operations of the table -/

theorem repatchWithRegular_counts (fsType : String) (regular : Inode) (world : World) :
    (on (repatchWithRegular fsType regular) world).2.table.counts = world.table.counts := by
  cases isSealed : world.memory.isSealed with
  | true => rw [repatchWithRegular, unprotected_sealed _ isSealed]
  | false =>
      rw [repatchWithRegular, unprotected_on _ isSealed]
      show (on _ world.opened).2.table.shown Entry.count = world.opened.table.shown Entry.count
      refine sparing_bind sparing_get (fun before => ?_) world.opened
      cases before.table.entry? fsType with
      | none => exact sparing_throw _
      | some entry =>
          refine sparing_bind (sparing_repatch (fun _ _ => rfl) entry _) fun pokes => ?_
          exact sparing_bind (sparing_publishAll fun _ _ => rfl) fun _ => sparing_pure pokes

theorem processMount_idle (clean : Clean initial) (sound : Sound initial world)
    (writable : world.memory.isSealed = false) (idle : InUse none world.table) (request : Request) :
    InUse none (on (processMount request) world).2.table := by
  obtain ⟨settled, refs⟩ := inUse_iff.mp idle
  cases found : world.table.entry? request.fsType with
  | some entry =>
      obtain ⟨outcome, last, ran, counted⟩ := processMount_counts clean sound writable found
      rw [ran]
      exact inUse_counted settled refs counted
  | none =>
      rcases processMount_fresh sound writable found with
        ⟨outcome, last, ran, counted⟩ | ⟨error, last, ran, same⟩
      · rw [ran]
        refine inUse_counted settled ?_ counted
        -- The new entry is listed with the table's own reference.
        intro count member
        rcases List.mem_append.mp member with old | new
        · exact refs count old
        · rw [List.mem_singleton.mp new]
          rfl
      · rw [ran, same]
        exact idle

/-- An entry that nobody uses leaves for good. -/
theorem inUse_retire (idle : InUse none table) (live : Live table) (id : Nat) :
    InUse none (table.retire id) := by
  unfold Table.retire
  cases found : table.byId? id with
  | none => exact idle
  | some entry =>
      have listed : entry ∈ table.entries := by
        have somewhere := List.mem_of_find?_eq_some found
        rwa [idle.settled, List.append_nil] at somewhere
      -- Retiring gives back the table's own reference, and that was the last one.
      have drained : entry.retire.drained = true := by
        have single : entry.refs = 1 := by simpa using idle.refs entry listed
        simp [Entry.retire, live entry listed, Entry.release, Entry.drained, single]
      simp only [drained, if_true]
      rw [inUse_iff, counts_remove]
      obtain ⟨settled, refs⟩ := inUse_iff.mp idle
      exact ⟨settled, fun count member => refs count (List.mem_filter.mp member).1⟩

theorem releaseMount_idle (sound : Sound initial world) (writable : world.memory.isSealed = false)
    (idle : InUse none world.table) (fsType : String) (count : Nat) :
    InUse none (on (releaseMount fsType count) world).2.table := by
  obtain ⟨settled, refs⟩ := inUse_iff.mp idle
  cases found : world.table.entry? fsType with
  | none =>
      rw [releaseMount_unknown writable count found]
      exact idle
  | some entry =>
      by_cases stays : count < entry.uses.toNat ∨ count = 0
      · exact inUse_counted settled refs (releaseMount_stays sound writable found stays)
      · obtain ⟨restored, listing, dropped, taken⟩ := releaseMount_takes sound writable found stays
        have live : Live restored := by
          intro other inside
          apply sound.kept.live other.listed
          rw [← listing]
          exact List.mem_map_of_mem inside
        rw [taken]
        exact inUse_retire (inUse_counted settled refs dropped) live entry.id

end Interception.Patch
