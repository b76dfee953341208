import Interception.Proofs.Patch.Sparing

/-!
Use counts. Hooking, repatching and restoring write slots and saved addresses
but leave the counts of every entry as they are; only the operations of the
table themselves count. So a mount that was processed adds its uses to its
type and to no other, and a release takes from its type as many as there are.
-/

namespace Interception.Patch

open Change

variable {Value Result : Type} {world later : World} {initial : Slot → Addr}

/-- What an entry is counted by: its uses and the calls it is in use by. -/
structure Count where
  id : Nat
  fsType : String
  uses : Nat
  refs : Nat
  deriving DecidableEq

def Entry.count (entry : Entry) : Count :=
  ⟨entry.id, entry.fsType, entry.uses.toNat, entry.refs⟩

/-- A use count to which more uses have come. -/
def grown (more uses : Nat) : Nat := (uses + more) % UInt32.size

theorem addUses_count (entry : Entry) (more : Nat) :
    (entry.addUses more).count =
      ⟨entry.id, entry.fsType, grown more entry.uses.toNat, entry.refs⟩ := by
  rw [Entry.count, Entry.addUses_uses]
  rfl

theorem dropUses_count (entry : Entry) (count : Nat) :
    (entry.dropUses count).count =
      ⟨entry.id, entry.fsType, entry.uses.toNat - count, entry.refs⟩ := by
  rw [Entry.count, Entry.dropUses_uses]
  rfl

/-- The counts of the entries and of those that wait aside. -/
def Table.counts (table : Table) : List Count × List Count :=
  (table.entries.map Entry.count, table.retired.map Entry.count)

theorem counts_update {table : Table} {id : Nat} {change : Entry → Entry}
    (kept : ∀ entry : Entry, (change entry).count = entry.count) :
    (table.update id change).counts = table.counts := shown_update kept

theorem counts_publish (table : Table) (entries : List Entry) :
    (table.publish entries).counts = (entries.map Entry.count, table.retired.map Entry.count) :=
  shown_publish (fun _ _ => rfl) table entries

@[simp]
theorem counts_publish_own (table : Table) : (table.publish table.entries).counts = table.counts :=
  counts_publish table table.entries

/-! ### Use counts of types -/

def useOf (fsType : String) (counts : List Count) : Option Nat :=
  (counts.find? (·.fsType == fsType)).map (·.uses)

theorem useCount?_counts (table : Table) (fsType : String) :
    table.useCount? fsType = useOf fsType table.counts.1 := by
  simp [Table.useCount?, Table.entry?, useOf, Table.counts, List.find?_map, Function.comp_def,
    Entry.count]

/-- Entries have numbers and types of their own. -/
structure Distinct (counts : List Count) : Prop where
  ids : (counts.map (·.id)).Nodup
  types : (counts.map (·.fsType)).Nodup

theorem distinct_counts {table : Table} (numbered : Numbered table.nextId table.listing) :
    Distinct table.counts.1 := by
  have ids := numbered.ids
  have types := numbered.types
  simp only [Table.listing, List.map_map, Function.comp_def, Entry.listed] at ids types
  constructor <;> simpa [Table.counts, Function.comp_def, Entry.count]

/-- The counts with the uses under a number changed. -/
def adjust (id : Nat) (change : Nat → Nat) (counts : List Count) : List Count :=
  counts.map fun count => if count.id = id then { count with uses := change count.uses } else count

theorem useOf_member {counts : List Count} (distinct : Distinct counts) {count : Count}
    (member : count ∈ counts) : counts.find? (·.fsType == count.fsType) = some count := by
  cases found : counts.find? (·.fsType == count.fsType) with
  | none => exact absurd (List.find?_eq_none.mp found count member) (by simp)
  | some other =>
      have same : other.fsType = count.fsType := by simpa using List.find?_some found
      rw [List.inj_on_of_nodup_map distinct.types (List.mem_of_find?_eq_some found) member same]

theorem useOf_adjust {counts : List Count} (distinct : Distinct counts) {count : Count}
    (member : count ∈ counts) (change : Nat → Nat) (fsType : String) :
    useOf fsType (adjust count.id change counts) =
      if fsType = count.fsType then some (change count.uses) else useOf fsType counts := by
  have found : (adjust count.id change counts).find? (·.fsType == fsType) =
      (counts.find? (·.fsType == fsType)).map fun other =>
        if other.id = count.id then { other with uses := change other.uses } else other := by
    rw [adjust, List.find?_map]
    congr 2
    funext other
    by_cases same : other.id = count.id <;> simp [same]
  rw [useOf, found]
  split
  · next same => simp [same, useOf_member distinct member]
  · next other =>
      cases there : counts.find? (·.fsType == fsType) with
      | none => simp [useOf, there]
      | some found =>
          have type : found.fsType = fsType := by simpa using List.find?_some there
          have apart : found.id ≠ count.id := by
            intro same
            have inside := List.mem_of_find?_eq_some there
            exact other (type ▸ congrArg Count.fsType
              (List.inj_on_of_nodup_map distinct.ids inside member same))
          simp [useOf, there, apart]

/-- Of two entries with the same type or the same number there is only one. -/
theorem id_iff_type {counts : List Count} (distinct : Distinct counts) {left right : Count}
    (leftMember : left ∈ counts) (rightMember : right ∈ counts) :
    left.id = right.id ↔ left.fsType = right.fsType := by
  constructor
  · intro same
    rw [List.inj_on_of_nodup_map distinct.ids leftMember rightMember same]
  · intro same
    rw [List.inj_on_of_nodup_map distinct.types leftMember rightMember same]

theorem find?_agree {counts : List Count} {left right : Count → Bool}
    (agree : ∀ count ∈ counts, left count = right count) :
    counts.find? left = counts.find? right := by
  induction counts with
  | nil => rfl
  | cons count rest ih =>
      rw [List.find?_cons, List.find?_cons, agree count (by simp),
        ih fun other member => agree other (List.mem_cons_of_mem count member)]

theorem useOf_without {counts : List Count} (distinct : Distinct counts) {count : Count}
    (member : count ∈ counts) (fsType : String) :
    useOf fsType (counts.filter (·.id != count.id)) =
      if fsType = count.fsType then none else useOf fsType counts := by
  rw [useOf, List.find?_filter]
  split
  · next same =>
      rw [List.find?_eq_none.mpr]
      · rfl
      · intro other inside
        have joined := id_iff_type distinct inside member
        simp [same, joined]
  · next other =>
      rw [useOf]
      congr 1
      apply find?_agree
      intro found inside
      have joined := id_iff_type distinct inside member
      by_cases type : found.fsType = fsType
      · simp [joined, type, other]
      · simp [type]

theorem useOf_append {counts : List Count} {count : Count} (fsType : String)
    (fresh : useOf count.fsType counts = none) :
    useOf fsType (counts ++ [count]) =
      if fsType = count.fsType then some count.uses else useOf fsType counts := by
  have absent : counts.find? (·.fsType == count.fsType) = none := by simpa [useOf] using fresh
  rw [useOf, List.find?_append]
  split
  · next same => simp [same, absent]
  · next other =>
      have last : [count].find? (·.fsType == fsType) = none := by simp [Ne.symm other]
      simp [useOf, last]

/-! ### Operations -/

theorem count_listed {table : Table} {fsType : String} {entry : Entry}
    (found : table.entry? fsType = some entry) :
    entry.count ∈ table.counts.1 ∧ entry.count.fsType = fsType :=
  ⟨List.mem_map_of_mem (List.mem_of_find?_eq_some found), by
    simpa [Entry.count] using List.find?_some found⟩

theorem counts_amount {table : Table} {id : Nat} {change : Entry → Entry} (amount : Nat → Nat)
    (counted : ∀ entry ∈ table.entries, entry.id = id →
      (change entry).count = ⟨entry.id, entry.fsType, amount entry.uses.toNat, entry.refs⟩) :
    (table.update id change).counts.1 = adjust id amount table.counts.1 := by
  simp only [Table.counts, Table.update, Table.mapEntry, adjust, List.map_map]
  apply List.map_congr_left
  intro entry member
  simp only [Function.comp_apply]
  by_cases same : entry.id = id
  · rw [if_pos same, counted entry member same, if_pos (show entry.count.id = id from same)]
    rfl
  · rw [if_neg same, if_neg (show ¬ entry.count.id = id from same)]

theorem counts_remove (table : Table) (id : Nat) :
    (table.remove id).counts.1 = table.counts.1.filter (·.id != id) := by
  rw [Table.remove, counts_publish, Table.counts, List.filter_map]
  rfl

theorem counts_retire (table : Table) (id : Nat) :
    (table.retire id).counts.1 = table.counts.1.filter (·.id != id) := by
  unfold Table.retire
  cases found : table.byId? id with
  | none =>
      rw [eq_comm, List.filter_eq_self]
      intro count member
      obtain ⟨entry, inside, rfl⟩ := List.mem_map.mp member
      have missed := List.find?_eq_none.mp found entry (List.mem_append_left _ inside)
      simpa [bne_iff_ne, Entry.count] using missed
  | some entry =>
      rw [← counts_remove]
      by_cases done : entry.retire.drained = true <;> simp [done, Table.counts]

/-- What a change of the table has made of its counts; no entry came to wait
aside. -/
structure Table.Counted (table : Table) (counts : List Count) (after : Table) : Prop where
  listed : after.counts.1 = counts
  aside : table.counts.2 = [] → after.counts.2 = []

theorem counted_update {table : Table} {id : Nat} {change : Entry → Entry} (amount : Nat → Nat)
    (counted : ∀ entry ∈ table.entries, entry.id = id →
      (change entry).count = ⟨entry.id, entry.fsType, amount entry.uses.toNat, entry.refs⟩) :
    table.Counted (adjust id amount table.counts.1) (table.update id change) := by
  refine ⟨counts_amount amount counted, fun settled => ?_⟩
  have nobody : table.retired = [] := List.map_eq_nil_iff.mp settled
  simp [Table.counts, Table.update, Table.mapEntry, nobody]

theorem counted_of {table middle after : Table} {counts : List Count}
    (same : middle.counts = table.counts) (counted : middle.Counted counts after) :
    table.Counted counts after :=
  ⟨counted.listed, fun settled => counted.aside (same ▸ settled)⟩

/-- How the uses of every type stand after some were added to one. -/
def Raised (fsType : String) (uses : Nat) (world later : World) : Prop :=
  ∀ type, later.table.useCount? type =
    if type = fsType then some (grown uses ((world.table.useCount? fsType).getD 0))
    else world.table.useCount? type

/-- How they stand after as many as there are, up to a number, were taken from
one type, which is forgotten with its last use. -/
def Lowered (fsType : String) (count : Nat) (world later : World) : Prop :=
  ∀ type, later.table.useCount? type =
    if type = fsType then (world.table.useCount? fsType).bind fun uses =>
      if count < uses ∨ count = 0 then some (uses - count) else none
    else world.table.useCount? type

theorem raised_amount {fsType : String} {uses : Nat} (raised : Raised fsType uses world later)
    (type : String) :
    (later.table.useCount? type).getD 0 =
      if type = fsType then grown uses ((world.table.useCount? type).getD 0)
      else (world.table.useCount? type).getD 0 := by
  rw [raised type]
  by_cases same : type = fsType <;> simp [same]

/-- As many uses are taken as there are: a type that is forgotten has none left. -/
theorem lowered_amount {fsType : String} {count : Nat} (lowered : Lowered fsType count world later)
    (type : String) :
    (later.table.useCount? type).getD 0 =
      (world.table.useCount? type).getD 0 - if type = fsType then count else 0 := by
  rw [lowered type]
  by_cases same : type = fsType
  · subst same
    cases world.table.useCount? type with
    | none => simp
    | some uses =>
        by_cases more : count < uses ∨ count = 0
        · simp [more]
        · simp [more]
          omega
  · simp [same]

/-- A count that comes down to zero is forgotten. -/
theorem lowered_zero {fsType : String} {count : Nat} (lowered : Lowered fsType count world later)
    (some_uses : 0 < count) (type : String) :
    later.table.useCount? type = some 0 ↔
      type ≠ fsType ∧ world.table.useCount? type = some 0 := by
  rw [lowered type]
  split
  · next same =>
      simp only [same, ne_eq, not_true_eq_false, false_and, iff_false, Option.bind_eq_some_iff,
        not_exists, not_and]
      intro uses used
      split
      · simp only [Option.some.injEq]
        omega
      · simp
  · next other => simp [other]

/-- What is left without an entry does not depend on its uses. -/
theorem without_adjust (id : Nat) (change : Nat → Nat) (counts : List Count) :
    (adjust id change counts).filter (·.id != id) = counts.filter (·.id != id) := by
  induction counts with
  | nil => rfl
  | cons count rest ih =>
      rw [adjust, List.map_cons, ← adjust]
      by_cases same : count.id = id <;> simp [same, ih]

theorem entry_present {table : Table} {fsType : String} {entry : Entry}
    (found : table.entry? fsType = some entry) : table.useCount? fsType = some entry.uses.toNat := by
  rw [Table.useCount?, found]
  rfl

theorem entry_missing {table : Table} {fsType : String} (missing : table.entry? fsType = none) :
    table.useCount? fsType = none := by
  rw [Table.useCount?, missing]
  rfl

/-! ### Mounts -/

/-- A mount that succeeds gives a known type uses. -/
theorem processMount_counted (writable : world.memory.isSealed = false) {request : Request}
    {entry : Entry} {outcome : MountOutcome}
    (found : world.table.entry? request.fsType = some entry)
    (ran : on (processMount request) world = (.ok outcome, later)) :
    (∃ pokes, outcome = .existing (grown request.uses entry.uses.toNat) pokes) ∧
      world.table.Counted (adjust entry.id (grown request.uses) world.table.counts.1) later.table := by
  have found' : world.opened.table.entry? request.fsType = some entry := found
  rw [processMount, unprotected_on _ writable] at ran
  simp only [on_get_bind, found'] at ran
  rcases repatched : on (repatch entry request.regular) world.opened with ⟨answer, first⟩
  have kept : first.table.counts = world.opened.table.counts :=
    sparing_after (sparing_repatch (fun _ _ => rfl) entry request.regular) repatched
  rw [on_bind, repatched] at ran
  cases answer with
  | error error => cases congrArg Prod.fst ran
  | ok pokes =>
      simp only [addUses, publishAll, on_modify_bind, on_pure, Prod.mk.injEq, Except.ok.injEq] at ran
      obtain ⟨rfl, rfl⟩ := ran
      have raised : first.table.Counted (adjust entry.id (grown request.uses) first.table.counts.1)
          (first.table.update entry.id fun entry =>
            entry.addUses request.uses) :=
        counted_update _ fun other _ _ => addUses_count other request.uses
      rw [kept] at raised
      refine ⟨⟨pokes, by rw [Entry.addUses_uses, grown]⟩, counted_of kept ?_⟩
      exact ⟨(congrArg Prod.fst (counts_publish_own _)).trans raised.listed, raised.aside⟩

theorem processMount_counts (clean : Clean initial) (sound : Sound initial world)
    (writable : world.memory.isSealed = false) {request : Request} {entry : Entry}
    (found : world.table.entry? request.fsType = some entry) :
    ∃ outcome last, on (processMount request) world = (.ok outcome, last) ∧
      world.table.Counted (adjust entry.id (grown request.uses) world.table.counts.1) last.table := by
  obtain ⟨pokes, first, ranFirst, _⟩ :=
    repatch_on clean (sound_opened sound) entry (entry_listed found).1 request.regular
  obtain ⟨outcome, last, ran⟩ :
      ∃ outcome last, on (processMount request) world = (.ok outcome, last) := by
    have found' : world.opened.table.entry? request.fsType = some entry := found
    rw [processMount, unprotected_on _ writable]
    simp only [on_get_bind, found', on_bind_ok ranFirst, addUses, publishAll, on_modify_bind, on_pure]
    exact ⟨_, _, rfl⟩
  exact ⟨outcome, last, ran, (processMount_counted writable found ran).2⟩

/-- The count of an entry when it is new. -/
def Request.count (request : Request) (id : Nat) : Count := ⟨id, request.fsType, 0, 1⟩

theorem announced_counts (world : World) (request : Request) (saved : Saved) :
    world.table.Counted (world.table.counts.1 ++ [request.count world.table.nextId])
      (world.announced request saved).table := by
  constructor
  case listed =>
    rw [World.announced, counts_publish, List.map_append]
    rfl
  case aside => exact id

theorem installFresh_counts (sound : Sound initial world) (request : Request) {saved : Saved}
    (prepared : Prepared (world.table.listing.map (·.saved)) world.memory.content request saved)
    (genuine : ∀ hook : Hook, saved.original hook ≠ hook.addr) :
    ∃ outcome last, on (installFresh request saved) world = (.ok outcome, last) ∧
      world.table.Counted (adjust world.table.nextId (grown request.uses)
        (world.table.counts.1 ++ [request.count world.table.nextId])) last.table := by
  obtain ⟨pokes, last, ran, written⟩ := installFresh_runs sound request prepared genuine
  have kept : ((world.announced request saved).table.arm
      (request.entry world.table.nextId saved)).counts = (world.announced request saved).table.counts :=
    shown_arm (fun _ _ => rfl) _ _
  have announced := announced_counts world request saved
  have raised : ((world.announced request saved).table.arm
      (request.entry world.table.nextId saved)).Counted
        (adjust world.table.nextId (grown request.uses)
          ((world.announced request saved).table.arm
            (request.entry world.table.nextId saved)).counts.1)
        (world.admitted request saved) :=
    counted_update _ fun other _ _ => addUses_count other request.uses
  rw [kept, announced.listed] at raised
  refine ⟨_, last, ran, ?_⟩
  rw [written.table]
  exact ⟨raised.listed, fun settled => raised.aside (kept ▸ announced.aside settled)⟩

/-- An unknown type is refused, or comes to be listed with the uses of the mount. -/
theorem processMount_fresh (sound : Sound initial world) (writable : world.memory.isSealed = false)
    {request : Request} (missing : world.table.entry? request.fsType = none) :
    (∃ outcome last, on (processMount request) world = (.ok outcome, last) ∧
        world.table.Counted (adjust world.table.nextId (grown request.uses)
          (world.table.counts.1 ++ [request.count world.table.nextId])) last.table) ∨
      ∃ error last, on (processMount request) world = (.error error, last) ∧
        last.table = world.table := by
  have missing' : world.opened.table.entry? request.fsType = none := missing
  rw [processMount, unprotected_on _ writable]
  simp only [on_get_bind, missing']
  cases taken : prepare (world.opened.table.entries.map (·.saved)) request world.opened.memory with
  | error error =>
      simp only [on_throw]
      exact .inr ⟨error, _, rfl, rfl⟩
  | ok saved =>
      rw [saved_listing] at taken
      obtain ⟨prepared, genuine⟩ := prepare_prepared taken
      obtain ⟨outcome, last, ran, counted⟩ :=
        installFresh_counts (sound_opened sound) request prepared genuine
      simp only [ran]
      exact .inl ⟨outcome, _, rfl, counted⟩

theorem processMount_raises (clean : Clean initial) (sound : Sound initial world)
    (writable : world.memory.isSealed = false) {request : Request} {entry : Entry}
    (found : world.table.entry? request.fsType = some entry) :
    Raised request.fsType request.uses world (on (processMount request) world).2 := by
  obtain ⟨member, type⟩ := count_listed found
  obtain ⟨outcome, last, ran, counted⟩ := processMount_counts clean sound writable found
  intro fsType
  rw [ran, useCount?_counts, counted.listed, show entry.id = entry.count.id from rfl,
    useOf_adjust (distinct_counts sound.numbered) member, type, entry_present found,
    useCount?_counts]
  rfl

/-- The counts with a new one are as distinct as those of a table. -/
theorem distinct_announced (sound : Sound initial world) {request : Request}
    (missing : world.table.entry? request.fsType = none) :
    Distinct (world.table.counts.1 ++ [request.count world.table.nextId]) := by
  rw [← (announced_counts world request Saved.blank).listed]
  apply distinct_counts
  rw [announced_listing]
  exact numbered_append sound.numbered Saved.blank (entry_unlisted.mp missing)

theorem processMount_first (sound : Sound initial world)
    (writable : world.memory.isSealed = false) {request : Request}
    (missing : world.table.entry? request.fsType = none) :
    Raised request.fsType request.uses world (on (processMount request) world).2 ∨
      (on (processMount request) world).2.table = world.table := by
  rcases processMount_fresh sound writable missing with
    ⟨outcome, last, ran, counted⟩ | ⟨error, last, ran, same⟩
  · left
    have unused : useOf request.fsType world.table.counts.1 = none := by
      rw [← useCount?_counts]
      exact entry_missing missing
    have adjusted := useOf_adjust (distinct_announced sound missing)
      (List.mem_append_right _ (List.mem_singleton_self (request.count world.table.nextId)))
      (grown request.uses)
    intro fsType
    rw [ran, useCount?_counts, counted.listed, entry_missing missing, useCount?_counts]
    refine (adjusted fsType).trans ?_
    by_cases type : fsType = request.fsType
    · have own : fsType = (request.count world.table.nextId).fsType := type
      rw [if_pos own, if_pos type]
      rfl
    · have other : ¬ fsType = (request.count world.table.nextId).fsType := type
      rw [if_neg type, if_neg other, useOf_append fsType unused, if_neg other]
  · right
    rw [ran, same]

/-! ### Releases -/

theorem dropping_counts (numbered : Numbered world.table.nextId world.table.listing) {entry : Entry}
    (inside : entry ∈ world.table.entries) (count : Nat) :
    world.table.Counted (adjust entry.id (· - count) world.table.counts.1)
      (world.dropping entry count).table := by
  apply counted_update
  intro other beside same
  rw [entry_unique numbered inside beside same]
  exact dropUses_count entry count

/-- A release that leaves its type in use. -/
theorem releaseMount_stays (sound : Sound initial world)
    (writable : world.memory.isSealed = false) {fsType : String} {count : Nat} {entry : Entry}
    (found : world.table.entry? fsType = some entry) (stays : count < entry.uses.toNat ∨ count = 0) :
    world.table.Counted (adjust entry.id (· - count) world.table.counts.1)
      (on (releaseMount fsType count) world).2.table := by
  rw [releaseMount_drops writable found stays]
  exact dropping_counts sound.numbered (List.mem_of_find?_eq_some found) count

/-- The last release of a type takes its entry out. What happens to the slots
before does not show in the counts. -/
theorem releaseMount_takes (sound : Sound initial world)
    (writable : world.memory.isSealed = false) {fsType : String} {count : Nat} {entry : Entry}
    (found : world.table.entry? fsType = some entry)
    (leaves : ¬ (count < entry.uses.toNat ∨ count = 0)) :
    ∃ restored : Table, restored.listing = world.table.listing ∧
      world.table.Counted (adjust entry.id (· - count) world.table.counts.1) restored ∧
      (on (releaseMount fsType count) world).2.table = restored.retire entry.id := by
  have found' : world.opened.table.entry? fsType = some entry := found
  have last : ¬ (0 < (entry.dropUses count).uses.toNat ∨ count = 0) :=
    fun kept => leaves (kept.imp_left Entry.dropUses_pos.mp)
  have turned := dropping_turned (sound_opened sound) (entry_listed found).1 count
  have member : (entry.dropUses count).listed ∈
      (world.opened.dropping entry count).table.listing :=
    turned.listing.symm ▸ (entry_listed found).1
  have dropped : Sound initial (world.opened.dropping entry count) :=
    sound_turned turned sound.kept sound.numbered
  have counted := dropping_counts (sound_opened sound).numbered (List.mem_of_find?_eq_some found) count
  obtain ⟨pokes, later, ran, written⟩ := takeOut_runs dropped (entry.dropUses count) member
  -- The entry leaves after its slots were restored, which counts nothing.
  have counts : ((world.opened.dropping entry count).table.update entry.id
      fun other => { other with installed := false }).counts =
        (world.opened.dropping entry count).table.counts := counts_update fun _ => rfl
  have listing : ((world.opened.dropping entry count).table.update entry.id
      fun other => { other with installed := false }).listing =
        (world.opened.dropping entry count).table.listing := listing_update_counts fun _ _ _ => rfl
  refine ⟨(world.opened.dropping entry count).table.update entry.id
    fun other => { other with installed := false }, ?_, ⟨?_, ?_⟩, ?_⟩
  · exact listing.trans turned.listing
  · rw [counts]
    exact counted.listed
  · rw [counts]
    exact counted.aside
  · rw [releaseMount, unprotected_on _ writable]
    simp only [on_get_bind, found', on_modify_bind, if_neg last]
    rw [← World.dropping, on_discard_bind ran, on_pure]
    exact written.table

theorem releaseMount_lowers (sound : Sound initial world)
    (writable : world.memory.isSealed = false) (fsType : String) (count : Nat) :
    Lowered fsType count world (on (releaseMount fsType count) world).2 := by
  intro type
  cases found : world.table.entry? fsType with
  | none =>
      rw [Table.useCount?, releaseMount_unknown writable count found, ← Table.useCount?,
        entry_missing found]
      by_cases same : type = fsType
      · rw [if_pos same, same]
        exact entry_missing found
      · rw [if_neg same]
  | some entry =>
      obtain ⟨member, named⟩ := count_listed found
      have distinct := distinct_counts sound.numbered
      have counted := useCount?_counts world.table type
      rw [entry_present found, Option.bind_some, useCount?_counts, counted]
      by_cases stays : count < entry.uses.toNat ∨ count = 0
      · rw [if_pos stays, (releaseMount_stays sound writable found stays).listed]
        rw [← named]
        exact useOf_adjust distinct member (· - count) type
      · obtain ⟨restored, _, dropped, taken⟩ := releaseMount_takes sound writable found stays
        rw [if_neg stays, taken, counts_retire, dropped.listed, without_adjust, ← named]
        exact useOf_without distinct member type

end Interception.Patch
