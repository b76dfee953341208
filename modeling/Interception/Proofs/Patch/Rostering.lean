import Interception.Proofs.Patch.Shaping

/-!
The roster of the patch table: its types with their uses, in the order in which
they are listed. What an operation does to it depends on the roster alone. The
slots decide whether a mount is refused and how many of them are poked, but a
mount that succeeds is entered on the roster in one way only, and nobody ever
refuses to leave it.
-/

namespace Interception.Patch

open Change

variable {world later : World} {entry : Entry}

/-! ### Rosters -/

abbrev Roster := List (String × Nat)

namespace Roster

/-- The roster with the uses of a type changed. -/
def change (fsType : String) (amount : Nat → Nat) (roster : Roster) : Roster :=
  roster.map fun line => if line.1 = fsType then (line.1, amount line.2) else line

def strike (fsType : String) (roster : Roster) : Roster := roster.filter (·.1 != fsType)

/-- All uses fit the 32 bits in which they are counted. -/
def Small (roster : Roster) : Prop := ∀ line ∈ roster, line.2 < UInt32.size

instance (roster : Roster) : Decidable roster.Small :=
  inferInstanceAs (Decidable (∀ line ∈ roster, line.2 < UInt32.size))

end Roster

theorem grown_small {more uses : Nat} (small : uses + more < UInt32.size) :
    grown more uses = uses + more := Nat.mod_eq_of_lt small

theorem changed_line {roster : Roster} {line : String × Nat} (amount : Nat → Nat)
    (member : line ∈ roster) : (line.1, amount line.2) ∈ roster.change line.1 amount :=
  List.mem_map.mpr ⟨line, member, if_pos rfl⟩

/-- Uses that still fit are plain sums. -/
theorem change_grown {roster : Roster} {fsType : String} {more : Nat}
    (small : (roster.change fsType (· + more)).Small) :
    roster.change fsType (grown more) = roster.change fsType (· + more) := by
  apply List.map_congr_left
  intro line member
  by_cases own : line.1 = fsType
  · have sum := small _ (own ▸ changed_line (· + more) member)
    simp only [own, if_true, grown_small sum]
  · simp only [own, if_false]

def Table.roster (table : Table) : Roster :=
  table.entries.map fun entry => (entry.fsType, entry.uses.toNat)

/-- The roster shows in the counts. -/
def rosterOf (counts : List Count) : Roster := counts.map fun count => (count.fsType, count.uses)

theorem roster_counts (table : Table) : table.roster = rosterOf table.counts.1 := by
  simp [Table.roster, rosterOf, Table.counts, Entry.count]

theorem lookup_counts (fsType : String) (counts : List Count) :
    (rosterOf counts).lookup fsType = useOf fsType counts := by
  induction counts with
  | nil => rfl
  | cons count rest further =>
      simp only [rosterOf, useOf, List.map_cons, List.lookup_cons, List.find?_cons] at further ⊢
      by_cases same : count.fsType = fsType
      · simp [same]
      · have other : (fsType == count.fsType) = false := by simpa using Ne.symm same
        have another : (count.fsType == fsType) = false := by simpa using same
        simp only [other, another, further]

theorem roster_lookup (table : Table) (fsType : String) :
    table.roster.lookup fsType = table.useCount? fsType := by
  rw [roster_counts, lookup_counts, useCount?_counts]

theorem roster_adjusted {counts : List Count} (distinct : Distinct counts) {count : Count}
    (member : count ∈ counts) (amount : Nat → Nat) :
    rosterOf (adjust count.id amount counts) = (rosterOf counts).change count.fsType amount := by
  simp only [rosterOf, adjust, Roster.change, List.map_map]
  apply List.map_congr_left
  intro other inside
  have joined := id_iff_type distinct inside member
  by_cases same : other.id = count.id
  · simp [same, joined.mp same]
  · simp [same, mt joined.mpr same]

theorem roster_struck {counts : List Count} (distinct : Distinct counts) {count : Count}
    (member : count ∈ counts) :
    rosterOf (counts.filter (·.id != count.id)) = (rosterOf counts).strike count.fsType := by
  simp only [rosterOf, Roster.strike, List.filter_map]
  congr 1
  apply List.filter_congr
  intro other inside
  show (other.id != count.id) = (other.fsType != count.fsType)
  rw [Bool.eq_iff_iff, bne_iff_ne, bne_iff_ne]
  exact not_congr (id_iff_type distinct inside member)

/-- A new entry comes last. -/
theorem roster_entered {table : Table} (shaped : Shaped table) (request : Request) :
    rosterOf (adjust table.nextId (grown request.uses)
        (table.counts.1 ++ [request.count table.nextId])) =
      rosterOf table.counts.1 ++ [(request.fsType, grown request.uses 0)] := by
  have older : adjust table.nextId (grown request.uses) table.counts.1 = table.counts.1 := by
    refine (List.map_congr_left fun count member => ?_).trans (List.map_id _)
    obtain ⟨entry, inside, rfl⟩ := List.mem_map.mp member
    have below := shaped.formed.numbered.below entry.listed (List.mem_map_of_mem inside)
    exact if_neg (Nat.ne_of_lt below)
  have latest : adjust table.nextId (grown request.uses) [request.count table.nextId] =
      [⟨table.nextId, request.fsType, grown request.uses 0, 1⟩] := by
    simp [adjust, Request.count]
  have apart : adjust table.nextId (grown request.uses)
      (table.counts.1 ++ [request.count table.nextId]) =
      adjust table.nextId (grown request.uses) table.counts.1 ++
        adjust table.nextId (grown request.uses) [request.count table.nextId] := List.map_append
  rw [apart, older, latest, rosterOf, List.map_append]
  rfl

/-! ### Reinstallations -/

theorem reinstall_counts (shaped : Shaped world.table) (fsType : String) :
    (on (reinstall fsType) world).2.table.counts = world.table.counts := by
  cases isSealed : world.memory.isSealed with
  | true => rw [reinstall, unprotected_sealed _ isSealed]
  | false =>
      rw [reinstall, unprotected_on _ isSealed, on_get_bind]
      cases found : world.opened.table.entry? fsType with
      | none => rfl
      | some entry => exact sparing_install (fun _ _ => rfl) (found_inode shaped found) world.opened

/-! ### Mounts -/

/-- A mount that succeeds lists an unknown type with its uses. -/
theorem processMount_entered (writable : world.memory.isSealed = false) {request : Request}
    {outcome : MountOutcome} (missing : world.table.entry? request.fsType = none)
    (ran : on (processMount request) world = (.ok outcome, later)) :
    (∃ pokes, outcome = .installed pokes) ∧
      world.table.Counted (adjust world.table.nextId (grown request.uses)
        (world.table.counts.1 ++ [request.count world.table.nextId])) later.table := by
  have missing' : world.opened.table.entry? request.fsType = none := missing
  rw [processMount, unprotected_on _ writable] at ran
  simp only [on_get_bind, missing'] at ran
  cases taken : prepare (world.opened.table.entries.map (·.saved)) request world.opened.memory with
  | error error =>
      simp only [taken, on_throw] at ran
      cases congrArg Prod.fst ran
  | ok saved =>
      have inode : saved.iOps.isSome = true := by
        rw [(prepare_prepared taken).1.iOps]
        rfl
      simp only [taken] at ran
      rw [installFresh_anyway request inode] at ran
      rcases installed : on (install (request.entry world.opened.table.nextId saved))
        (world.opened.announced request saved) with ⟨answer, hooked⟩
      have kept : hooked.table.counts = (world.opened.announced request saved).table.counts :=
        sparing_after (sparing_install (fun _ _ => rfl) inode) installed
      have announced := announced_counts world.opened request saved
      rw [installed] at ran
      cases answer with
      | error error => cases congrArg Prod.fst ran
      | ok pokes =>
          simp only [Prod.mk.injEq, Except.ok.injEq] at ran
          obtain ⟨rfl, rfl⟩ := ran
          have raised : hooked.table.Counted (adjust world.table.nextId (grown request.uses)
              hooked.table.counts.1) (hooked.table.update world.table.nextId fun entry =>
                { entry.addUses request.uses with installed := true }) :=
            counted_update _ fun other _ _ => addUses_count other request.uses
          rw [kept, announced.listed] at raised
          exact ⟨⟨pokes, rfl⟩, raised.listed, fun settled => raised.aside (kept ▸ announced.aside settled)⟩

/-! ### Departures -/

/-- An entry has left, and if nobody used it, it has left for good. -/
structure Departed (id : Nat) (world later : World) : Prop where
  counts : later.table.counts.1 = world.table.counts.1.filter (·.id != id)
  idle : InUse none world.table → InUse none later.table
  isSealed : later.memory.isSealed = world.memory.isSealed

theorem takeOut_departs (shaped : Shaped world.table) (inode : entry.saved.iOps.isSome = true) :
    ∃ pokes later, on (takeOut entry) world = (.ok (.ok pokes), later) ∧
      Departed entry.id world later := by
  obtain ⟨pokes, later, ran, written⟩ := takeOut_anyway inode world
  have counts : (world.table.update entry.id fun other => { other with installed := false }).counts =
      world.table.counts := counts_update fun _ => rfl
  have restored : Shaped (world.table.update entry.id fun other => { other with installed := false }) :=
    shaped_counts shaped fun _ _ _ => rfl
  refine ⟨pokes, later, ran, ?_, ?_, written.isSealed⟩
  · rw [written.table, counts_retire, counts]
  · intro idle
    rw [written.table]
    exact inUse_retire (inUse_counts idle counts) (shaped_live restored) entry.id

theorem releaseMount_departs (shaped : Shaped world.table) (writable : world.memory.isSealed = false)
    {fsType : String} {count : Nat} (found : world.table.entry? fsType = some entry)
    (leaves : ¬ (count < entry.uses.toNat ∨ count = 0)) :
    ∃ later, on (releaseMount fsType count) world = (.ok (.restored, some entry.id), later) ∧
      Departed entry.id world later := by
  have found' : world.opened.table.entry? fsType = some entry := found
  have inside := List.mem_of_find?_eq_some found
  have last : ¬ (0 < (entry.dropUses count).uses.toNat ∨ count = 0) :=
    fun kept => leaves (kept.imp_left Entry.dropUses_pos.mp)
  have opened : Shaped world.opened.table := shaped
  have dropped := dropping_counts opened.formed.numbered inside count
  have shaped' : Shaped (world.opened.dropping entry count).table :=
    shaped_counts shaped fun other beside same => by rw [entry_unique shaped.formed.numbered inside beside same]; rfl
  have inode := found_inode shaped found
  change (entry.dropUses count).saved.iOps.isSome = true at inode
  obtain ⟨pokes, left, ran, departed⟩ := takeOut_departs shaped' inode
  refine ⟨left.closed, ?_, ?_, ?_, departed.isSealed⟩
  · rw [releaseMount, unprotected_on _ writable]
    simp only [on_get_bind, found', on_modify_bind, if_neg last]
    rw [← World.dropping, on_discard_bind ran, on_pure]
  · -- The uses that an entry drops before it leaves do not show any more.
    refine departed.counts.trans ?_
    rw [dropped.listed]
    exact without_adjust entry.id (· - count) world.table.counts.1
  · intro idle
    obtain ⟨settled, refs⟩ := inUse_iff.mp idle
    exact departed.idle (inUse_counted settled refs dropped)

theorem restore_departs (shaped : Shaped world.table) (writable : world.memory.isSealed = false)
    {fsType : String} (found : world.table.entry? fsType = some entry) :
    ∃ pokes later, on (restore fsType) world = (.ok (.ok pokes, entry.id), later) ∧
      Departed entry.id world later := by
  have found' : world.opened.table.entry? fsType = some entry := found
  have opened : Shaped world.opened.table := shaped
  obtain ⟨pokes, left, ran, departed⟩ := takeOut_departs opened (found_inode shaped found)
  refine ⟨pokes, left.closed, ?_, departed.counts, departed.idle, departed.isSealed⟩
  rw [restore, unprotected_on _ writable]
  simp only [on_get_bind, found', on_bind_ok ran, on_pure]

theorem purgeFirst_departs (shaped : Shaped world.table) (writable : world.memory.isSealed = false)
    {rest : List Entry} (entries : world.table.entries = entry :: rest) :
    ∃ later, on purgeFirst world = (.ok (some entry.id), later) ∧ Departed entry.id world later := by
  have entries' : world.opened.table.entries = entry :: rest := entries
  have opened : Shaped world.opened.table := shaped
  have first : entry ∈ world.table.entries := by simp [entries]
  obtain ⟨pokes, left, ran, departed⟩ := takeOut_departs opened (entry_inode shaped first)
  refine ⟨left.closed, ?_, departed.counts, departed.idle, departed.isSealed⟩
  rw [purgeFirst, unprotected_on _ writable]
  simp only [on_get_bind, entries', on_discard_bind ran, on_pure]

end Interception.Patch
