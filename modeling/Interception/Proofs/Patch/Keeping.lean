import Interception.Proofs.Patch.Preparing
import Mathlib.Data.List.Nodup

/-!
What the patch table keeps true of the slots, whatever comes and goes. Every
slot holds its initial address or its hook. A slot outside lookups and
creations is hooked exactly as long as an entry uses it and wants the hook,
and every entry that uses it saved its initial address. Lookups are looser:
the hooks stay while an entry asks for them, but an entry that never asked
may have saved nothing.
-/

namespace Interception.Patch

/-- The entries have numbers and types of their own. -/
structure Numbered (nextId : Nat) (listing : List Listed) : Prop where
  ids : (listing.map (·.id)).Nodup
  below : ∀ listed ∈ listing, listed.id < nextId
  types : (listing.map (·.fsType)).Nodup

structure Kept (initial content : Slot → Addr) (listing : List Listed) : Prop where
  live : ∀ listed ∈ listing, listed.retired = false
  inode : ∀ listed ∈ listing, listed.saved.iOps.isSome = true
  asked : ∀ listed ∈ listing, listed.saved.lookupHooked = listed.saved.fOps.isNone
  settled : ∀ listed ∈ listing, ∀ slot : Slot, ¬ lookupHook slot.hook → listed.saved.Uses slot →
    listed.saved.original slot.hook = initial slot
  hooked : ∀ listed ∈ listing, ∀ slot : Slot, listed.saved.Uses slot →
    listed.saved.wants slot.hook = true → content slot = slot.hook.addr
  idle : ∀ slot : Slot, ¬ lookupHook slot.hook →
    (∀ listed ∈ listing, listed.saved.Uses slot → listed.saved.wants slot.hook = false) →
    content slot = initial slot
  either : ∀ slot : Slot, content slot = initial slot ∨ content slot = slot.hook.addr
  lookups : ∀ listed ∈ listing, ∀ slot : Slot, lookupHook slot.hook → listed.saved.Uses slot →
    listed.saved.original slot.hook = initial slot ∨
      listed.saved.original slot.hook = slot.hook.addr ∨
      (listed.saved.original slot.hook = Addr.null ∧ listed.saved.fOps ≠ none)

/-- No slot holds its own hook to begin with. -/
def Clean (initial : Slot → Addr) : Prop := ∀ slot : Slot, initial slot ≠ slot.hook.addr

variable {initial content : Slot → Addr} {listing : List Listed}

theorem kept_start (initial : Slot → Addr) : Kept initial initial [] := by
  constructor <;> simp

theorem numbered_start (nextId : Nat) : Numbered nextId [] := by
  constructor <;> simp

/-! ### Numbers -/

theorem numbered_unique {nextId : Nat} (numbered : Numbered nextId listing) {left right : Listed}
    (leftMember : left ∈ listing) (rightMember : right ∈ listing) (same : left.id = right.id) :
    left = right :=
  List.inj_on_of_nodup_map numbered.ids leftMember rightMember same

theorem numbered_type {nextId : Nat} (numbered : Numbered nextId listing) {left right : Listed}
    (leftMember : left ∈ listing) (rightMember : right ∈ listing)
    (same : left.fsType = right.fsType) : left = right :=
  List.inj_on_of_nodup_map numbered.types leftMember rightMember same

theorem entry_unique {table : Table} (numbered : Numbered table.nextId table.listing)
    {entry other : Entry} (inside : entry ∈ table.entries) (beside : other ∈ table.entries)
    (same : other.id = entry.id) : other = entry := by
  have ids := numbered.ids
  simp only [Table.listing, List.map_map] at ids
  exact List.inj_on_of_nodup_map ids beside inside same

theorem numbered_append {nextId : Nat} (numbered : Numbered nextId listing) {fsType : String}
    (saved : Saved) (fresh : ∀ listed ∈ listing, listed.fsType ≠ fsType) :
    Numbered (nextId + 1) (listing ++ [⟨nextId, fsType, saved, false⟩]) := by
  constructor
  case ids =>
    rw [List.map_append, List.nodup_append]
    refine ⟨numbered.ids, by simp, ?_⟩
    intro id member other last
    obtain ⟨listed, inside, rfl⟩ := List.mem_map.mp member
    have below := numbered.below listed inside
    simp only [List.map_cons, List.map_nil, List.mem_singleton] at last
    omega
  case below =>
    intro listed member
    rcases List.mem_append.mp member with old | new
    · exact Nat.lt_succ_of_lt (numbered.below listed old)
    · simp [List.mem_singleton.mp new]
  case types =>
    rw [List.map_append, List.nodup_append]
    refine ⟨numbered.types, by simp, ?_⟩
    intro type member other last
    obtain ⟨listed, inside, rfl⟩ := List.mem_map.mp member
    simp only [List.map_cons, List.map_nil, List.mem_singleton] at last
    exact last ▸ fresh listed inside

theorem numbered_amend {nextId : Nat} (numbered : Numbered nextId listing) (id : Nat)
    (saved : Saved) : Numbered nextId (amend id saved listing) := by
  have ids : (amend id saved listing).map (·.id) = listing.map (·.id) := by
    rw [amend, List.map_map]
    apply List.map_congr_left
    intro listed _
    by_cases same : listed.id = id <;> simp [same]
  have types : (amend id saved listing).map (·.fsType) = listing.map (·.fsType) := by
    rw [amend, List.map_map]
    apply List.map_congr_left
    intro listed _
    by_cases same : listed.id = id <;> simp [same]
  refine ⟨ids ▸ numbered.ids, ?_, types ▸ numbered.types⟩
  intro listed member
  obtain ⟨old, inside, rfl⟩ := mem_amend.mp member
  have below := numbered.below old inside
  by_cases same : old.id = id <;> simpa [same] using below

theorem numbered_filter {nextId : Nat} (numbered : Numbered nextId listing) (id : Nat) :
    Numbered nextId (listing.filter (·.id != id)) := by
  have sublist := List.filter_sublist (l := listing) (p := (·.id != id))
  exact ⟨(sublist.map _).nodup numbered.ids,
    fun listed member => numbered.below listed (List.mem_filter.mp member).1,
    (sublist.map _).nodup numbered.types⟩

/-- What holds of the amended entry and of all the others holds throughout. -/
theorem amend_forall {nextId : Nat} (numbered : Numbered nextId listing) {listed : Listed}
    (member : listed ∈ listing) (saved : Saved) {P : Listed → Prop}
    (others : ∀ other ∈ listing, other.id ≠ listed.id → P other) (own : P { listed with saved }) :
    ∀ other ∈ amend listed.id saved listing, P other := by
  intro other amended
  obtain ⟨old, inside, rfl⟩ := mem_amend.mp amended
  by_cases same : old.id = listed.id
  · rw [if_pos same, numbered_unique numbered inside member same]
    exact own
  · rw [if_neg same]
    exact others old inside same

/-- Saving again what an entry has saved changes nothing. -/
theorem amend_self {nextId : Nat} (numbered : Numbered nextId listing) {listed : Listed}
    (member : listed ∈ listing) : amend listed.id listed.saved listing = listing := by
  refine (List.map_congr_left ?_).trans (List.map_id listing)
  intro other inside
  by_cases same : other.id = listed.id
  · rw [if_pos same, numbered_unique numbered inside member same]
    rfl
  · rw [if_neg same]
    rfl

theorem amend_own (listed : Listed) (saved : Saved) (member : listed ∈ listing) :
    { listed with saved } ∈ amend listed.id saved listing :=
  mem_amend.mpr ⟨listed, member, by simp⟩

theorem amend_other {listed other : Listed} (saved : Saved) (inside : other ∈ listing)
    (different : other.id ≠ listed.id) : other ∈ amend listed.id saved listing :=
  mem_amend.mpr ⟨other, inside, by simp [different]⟩

/-! ### A new entry -/

theorem lookup_source {sharers : List Saved} {table : InodeTable} {saved : Saved} {hook : Hook}
    (lookup : lookupHook hook) (source : LookupSource sharers content table saved) :
    (∃ other ∈ sharers, other.iOps = some table ∧ other.original hook ≠ Addr.null ∧
        saved.original hook = other.original hook) ∨
      ((∀ other ∈ sharers, other.iOps = some table →
          other.lookup = Addr.null ∨ other.create = Addr.null) ∧
        saved.original hook = content (table.slot hook)) := by
  rcases source with ⟨other, member, theirs, lookups, creates, sameLookup, sameCreate⟩ |
    ⟨unknown, sameLookup, sameCreate⟩
  · refine .inl ⟨other, member, theirs, ?_⟩
    rcases lookup with rfl | rfl
    · exact ⟨lookups, sameLookup⟩
    · exact ⟨creates, sameCreate⟩
  · refine .inr ⟨unknown, ?_⟩
    rcases lookup with rfl | rfl
    · exact sameLookup
    · exact sameCreate

/-- An entry saves the initial addresses of the slots it will hook. -/
theorem prepared_initial (kept : Kept initial content listing) {request : Request} {saved : Saved}
    (prepared : Prepared (listing.map (·.saved)) content request saved) (slot : Slot)
    (used : saved.Uses slot)
    (known : lookupHook slot.hook → saved.fOps = none ∧ saved.original slot.hook ≠ slot.hook.addr) :
    saved.original slot.hook = initial slot := by
  by_cases lookup : lookupHook slot.hook
  · obtain ⟨table, own, same⟩ := uses_inode_table (lookupHook_inode lookup) used
    rw [prepared.iOps, Option.some.injEq] at own
    subst own
    obtain ⟨unfiled, genuine⟩ := known lookup
    -- The address is a sharer's, who may have missed it, or that of the slot itself.
    rcases lookup_source lookup (prepared.lookups unfiled) with
      ⟨other, member, theirs, present, copied⟩ | ⟨_, loaded⟩
    · obtain ⟨listed, inside, rfl⟩ := List.mem_map.mp member
      have used : listed.saved.Uses slot := same ▸ (uses_inode (lookupHook_inode lookup)).mpr theirs
      rw [copied] at genuine ⊢
      rcases kept.lookups listed inside slot lookup used with first | hooked | ⟨missing, _⟩
      · exact first
      · exact absurd hooked genuine
      · exact absurd missing present
    · rw [← same] at loaded
      rw [loaded] at genuine ⊢
      exact (kept.either slot).resolve_right genuine
  · rcases prepared_sourced prepared lookup used with ⟨other, member, theirs, same⟩ | ⟨same, safe⟩
    · obtain ⟨listed, inside, rfl⟩ := List.mem_map.mp member
      rw [← same]
      exact kept.settled listed inside slot lookup theirs
    · rw [same]
      rcases safe with unhooked | alone
      · exact (kept.either slot).resolve_right unhooked
      · apply kept.idle slot lookup
        intro listed inside theirs
        exact absurd theirs (alone listed.saved (List.mem_map_of_mem inside))

theorem armed_known {saved : Saved} {slot : Slot} (wanted : (armed saved).wants slot.hook = true)
    (lookup : lookupHook slot.hook) : saved.fOps = none := by
  rcases lookup with hook | hook <;> simpa [hook, Saved.wants, armed] using wanted

theorem prepared_ready (kept : Kept initial content listing) {request : Request} {saved : Saved}
    (prepared : Prepared (listing.map (·.saved)) content request saved)
    (genuine : ∀ hook : Hook, saved.original hook ≠ hook.addr) :
    AllReady (armed saved) content := by
  intro slot used wanted
  have first := prepared_initial kept prepared slot (by simpa using used)
    fun lookup => ⟨armed_known wanted lookup, genuine slot.hook⟩
  rw [armed_original, first]
  exact (kept.either slot).symm

theorem hookAll_cases (saved : Saved) (slot : Slot) :
    hookAll saved content slot = slot.hook.addr ∨ hookAll saved content slot = content slot := by
  by_cases new : saved.Uses slot ∧ saved.wants slot.hook = true
  · exact .inl (if_pos new)
  · exact .inr (if_neg new)

/-- A new entry has saved what is in the lookup slots, or nothing of them. -/
theorem armed_lookups (kept : Kept initial content listing) {request : Request} {saved : Saved}
    (prepared : Prepared (listing.map (·.saved)) content request saved)
    (genuine : ∀ hook : Hook, saved.original hook ≠ hook.addr) {slot : Slot}
    (lookup : lookupHook slot.hook) (used : (armed saved).Uses slot) :
    (armed saved).original slot.hook = initial slot ∨
      ((armed saved).original slot.hook = Addr.null ∧ (armed saved).fOps ≠ none) := by
  rw [armed_original]
  cases files : saved.fOps with
  | none =>
      exact .inl (prepared_initial kept prepared slot (by simpa using used)
        fun _ => ⟨files, genuine slot.hook⟩)
  | some table =>
      -- An entry with a file table never looked at the lookups.
      have blind := prepared.blind (by simp [files])
      refine .inr ⟨?_, by simp [files]⟩
      rcases lookup with hook | hook
      · simpa [hook, Saved.original] using blind.1
      · simpa [hook, Saved.original] using blind.2

theorem kept_installed (kept : Kept initial content listing) {request : Request} {saved : Saved}
    (prepared : Prepared (listing.map (·.saved)) content request saved)
    (genuine : ∀ hook : Hook, saved.original hook ≠ hook.addr) (id : Nat) (fsType : String) :
    Kept initial (hookAll (armed saved) content) (listing ++ [⟨id, fsType, armed saved, false⟩]) := by
  have members {P : Listed → Prop} (old : ∀ listed ∈ listing, P listed)
      (new : P ⟨id, fsType, armed saved, false⟩) :
      ∀ listed ∈ listing ++ [⟨id, fsType, armed saved, false⟩], P listed := by
    intro listed member
    rcases List.mem_append.mp member with inside | last
    · exact old listed inside
    · exact List.mem_singleton.mp last ▸ new
  constructor
  case live => exact members kept.live rfl
  case inode => exact members kept.inode (by simp [armed, prepared.iOps])
  case asked => exact members kept.asked (by simp [armed])
  case settled =>
    apply members kept.settled
    intro slot settled used
    rw [armed_original]
    exact prepared_initial kept prepared slot (by simpa using used) fun lookup => absurd lookup settled
  case hooked =>
    refine members ?_ ?_
    · intro listed inside slot used wanted
      have there := kept.hooked listed inside slot used wanted
      simp [hookAll, there]
    · intro slot used wanted
      exact if_pos ⟨used, wanted⟩
  case idle =>
    intro slot settled unwanted
    have new : ¬ ((armed saved).Uses slot ∧ (armed saved).wants slot.hook = true) := by
      rintro ⟨used, wanted⟩
      have idle := unwanted ⟨id, fsType, armed saved, false⟩ (by simp) used
      rw [wanted] at idle
      cases idle
    rw [hookAll, if_neg new]
    exact kept.idle slot settled fun listed inside => unwanted listed (List.mem_append_left _ inside)
  case either =>
    intro slot
    rcases hookAll_cases (armed saved) slot with hooked | same
    · exact .inr hooked
    · exact same ▸ kept.either slot
  case lookups =>
    apply members kept.lookups
    intro slot lookup used
    exact (armed_lookups kept prepared genuine lookup used).imp_right .inr

/-! ### An entry that moves up to file operations -/

/-- The initial addresses are saved for a file table, whoever they come from. -/
theorem fileSource_initial (kept : Kept initial content listing) (listed : Listed)
    (unfiled : ∀ other ∈ listing, other.id = listed.id → other.saved.fOps = none)
    {table : FileTable} {opens releases : Addr}
    (source : FileSource (sharers listed.id listing) content table opens releases) :
    opens = initial (table.slot .openFile) ∧ releases = initial (table.slot .release) := by
  have opening : ¬ lookupHook (table.slot .openFile).hook := by simp [lookupHook]
  have releasing : ¬ lookupHook (table.slot .release).hook := by simp [lookupHook]
  rcases source with ⟨saved, member, theirs, rfl, rfl⟩ | ⟨alone, rfl, rfl⟩
  · obtain ⟨other, inside, _, rfl⟩ := mem_sharers.mp member
    exact ⟨kept.settled other inside _ opening ((uses_file (.inl rfl)).mpr theirs),
      kept.settled other inside _ releasing ((uses_file (.inr rfl)).mpr theirs)⟩
  · have nobody (other : Listed) (inside : other ∈ listing) : other.saved.fOps ≠ some table := by
      by_cases own : other.id = listed.id
      · simp [unfiled other inside own]
      · exact alone other.saved (mem_sharers.mpr ⟨other, inside, own, rfl⟩)
    refine ⟨kept.idle _ opening ?_, kept.idle _ releasing ?_⟩
    · intro other inside used
      exact absurd ((uses_file (.inl rfl)).mp used) (nobody other inside)
    · intro other inside used
      exact absurd ((uses_file (.inr rfl)).mp used) (nobody other inside)

theorem promoted_uses {saved : Saved} {table : FileTable} {opens releases : Addr} {slot : Slot}
    (other : ¬ fileHook slot.hook) :
    (promoted saved table opens releases).Uses slot ↔ saved.Uses slot := by
  cases hook : slot.hook <;> simp_all [fileHook, Saved.Uses, Saved.slot?, promoted]

theorem promoted_original {saved : Saved} {table : FileTable} {opens releases : Addr} {hook : Hook}
    (other : ¬ fileHook hook) :
    (promoted saved table opens releases).original hook = saved.original hook := by
  cases hook <;> simp_all [fileHook, Saved.original, promoted]

theorem promoted_wants {saved : Saved} {table : FileTable} {opens releases : Addr} {hook : Hook}
    (wanted : (promoted saved table opens releases).wants hook = true) :
    fileHook hook ∨ (¬ lookupHook hook ∧ saved.wants hook = true) := by
  cases hook <;> simp_all [fileHook, lookupHook, Saved.wants, promoted]

theorem promoted_wants_eq {saved : Saved} {table : FileTable} {opens releases : Addr} {hook : Hook}
    (file : ¬ fileHook hook) (settled : ¬ lookupHook hook) :
    (promoted saved table opens releases).wants hook = saved.wants hook := by
  cases hook <;> simp_all [fileHook, lookupHook, Saved.wants, promoted]

theorem lookup_not_file {hook : Hook} (lookup : lookupHook hook) : ¬ fileHook hook := by
  rcases lookup with rfl | rfl <;> simp [fileHook]

theorem fileSlot_cases (table : FileTable) (slot : Slot) :
    (∃ hook, fileHook hook ∧ slot = table.slot hook) ∨
      ∀ hook, fileHook hook → slot ≠ table.slot hook := by
  by_cases there : ∃ hook, fileHook hook ∧ slot = table.slot hook
  · exact .inl there
  · exact .inr fun hook file same => there ⟨hook, file, same⟩

theorem not_fileSlot {table : FileTable} {slot : Slot} (other : ¬ fileHook slot.hook) (hook : Hook)
    (file : fileHook hook) : slot ≠ table.slot hook := by
  rintro rfl
  exact other file

/-- The slots after a move up: the file table is hooked and nothing but lookups
has lost a hook. -/
theorem promoteAll_file {sharers : List Saved} {saved : Saved} {table : FileTable} {hook : Hook}
    (file : fileHook hook) :
    promoteAll sharers saved table content (table.slot hook) = hook.addr := by
  rcases file with rfl | rfl <;> simp [promoteAll, hookAt, FileTable.slot]

theorem promoteAll_other {sharers : List Saved} {saved : Saved} {table : FileTable} {slot : Slot}
    (other : ∀ hook, fileHook hook → slot ≠ table.slot hook) :
    promoteAll sharers saved table content slot = dropAll sharers saved content slot := by
  simp [promoteAll, hookAt, other .release (.inr rfl), other .openFile (.inl rfl)]

theorem dropAll_either (kept : Kept initial content listing) {listed : Listed}
    (member : listed ∈ listing) (unfiled : listed.saved.fOps = none) (sharers : List Saved)
    (slot : Slot) :
    dropAll sharers listed.saved content slot = initial slot ∨
      dropAll sharers listed.saved content slot = slot.hook.addr := by
  by_cases drops : Drops sharers listed.saved slot ∧ content slot = slot.hook.addr
  · rw [dropAll, if_pos drops]
    rcases kept.lookups listed member slot drops.1.1 drops.1.2.1 with first | hooked | ⟨_, filed⟩
    · exact .inl first
    · exact .inr hooked
    · exact absurd unfiled filed
  · rw [dropAll, if_neg drops]
    exact kept.either slot

/-- Hooks that another entry wants stay when an entry stops asking for lookups. -/
theorem dropAll_wanted {sharers : List Saved} {saved other : Saved} {slot : Slot}
    (sharer : other ∈ sharers) (used : other.Uses slot) (wanted : other.wants slot.hook = true) :
    dropAll sharers saved content slot = content slot := by
  have keeps : ¬ Drops sharers saved slot := by
    rintro ⟨lookup, _, unasked⟩
    have idle := unasked other sharer used
    rcases lookup with hook | hook <;> simp [hook, Saved.wants, idle] at wanted
  simp [dropAll, keeps]

/-- Of the file slots a moved entry uses those of its new table. -/
theorem promoted_slot {saved : Saved} {table : FileTable} {opens releases : Addr} {slot : Slot}
    (file : fileHook slot.hook) (used : (promoted saved table opens releases).Uses slot) :
    slot = table.slot slot.hook := by
  obtain ⟨own, uses, same⟩ := uses_file_table file used
  have equal : table = own := Option.some.inj uses
  exact equal ▸ same

theorem unfiled_unused {saved : Saved} {slot : Slot} (unfiled : saved.fOps = none)
    (file : fileHook slot.hook) : ¬ saved.Uses slot := by
  intro used
  obtain ⟨table, uses, _⟩ := uses_file_table file used
  simp [unfiled] at uses

/-- An entry that moves up keeps the initial addresses it has saved and saves
those of its file table. -/
theorem promoted_initial (kept : Kept initial content listing) {listed : Listed}
    (member : listed ∈ listing) {table : FileTable} {slot : Slot} (settled : ¬ lookupHook slot.hook)
    (used : (promoted listed.saved table (initial (table.slot .openFile))
      (initial (table.slot .release))).Uses slot) :
    (promoted listed.saved table (initial (table.slot .openFile))
      (initial (table.slot .release))).original slot.hook = initial slot := by
  by_cases file : fileHook slot.hook
  · have same := promoted_slot file used
    rcases file with hook | hook <;> rw [hook] at same ⊢ <;> rw [same] <;> rfl
  · rw [promoted_original file]
    exact kept.settled listed member slot settled ((promoted_uses file).mp used)

theorem promoteAll_shared (kept : Kept initial content listing) {listed other : Listed}
    (inside : other ∈ listing) (different : other.id ≠ listed.id) (table : FileTable) {slot : Slot}
    (used : other.saved.Uses slot) (wanted : other.saved.wants slot.hook = true) :
    promoteAll (sharers listed.id listing) listed.saved table content slot = slot.hook.addr := by
  have sharer := mem_sharers.mpr ⟨other, inside, different, rfl⟩
  -- A slot is one of the two that are hooked now, or is as dropping left it.
  rcases fileSlot_cases table slot with ⟨hook, file, rfl⟩ | elsewhere
  · exact promoteAll_file file
  · rw [promoteAll_other elsewhere, dropAll_wanted sharer used wanted]
    exact kept.hooked other inside slot used wanted

theorem promoteAll_own (kept : Kept initial content listing) {listed : Listed}
    (member : listed ∈ listing) {sharers : List Saved} {table : FileTable} {opens releases : Addr}
    {slot : Slot} (used : (promoted listed.saved table opens releases).Uses slot)
    (wanted : (promoted listed.saved table opens releases).wants slot.hook = true) :
    promoteAll sharers listed.saved table content slot = slot.hook.addr := by
  by_cases file : fileHook slot.hook
  · rw [promoted_slot file used]
    exact promoteAll_file file
  · obtain ⟨settled, wanted⟩ := (promoted_wants wanted).resolve_left file
    rw [promoteAll_other (not_fileSlot file), dropAll_file settled]
    exact kept.hooked listed member slot ((promoted_uses file).mp used) wanted

/-- A slot that nobody wants hooked after the move is as it was at first. -/
theorem promoteAll_idle (kept : Kept initial content listing) {nextId : Nat}
    (numbered : Numbered nextId listing) {listed : Listed} (member : listed ∈ listing)
    (unfiled : listed.saved.fOps = none) {table : FileTable} {opens releases : Addr} {slot : Slot}
    (settled : ¬ lookupHook slot.hook)
    (unwanted : ∀ other ∈ amend listed.id (promoted listed.saved table opens releases) listing,
      other.saved.Uses slot → other.saved.wants slot.hook = false) :
    promoteAll (sharers listed.id listing) listed.saved table content slot = initial slot := by
  have own := unwanted _ (amend_own listed _ member)
  rcases fileSlot_cases table slot with ⟨hook, file, rfl⟩ | elsewhere
  · have wanted : (promoted listed.saved table opens releases).wants hook = true := by
      rcases file with rfl | rfl <;> rfl
    -- The entry wants the new file slots, so none of them is idle.
    have idle := own ((uses_file file).mpr rfl)
    rw [fileTable_slot_hook, wanted] at idle
    cases idle
  · rw [promoteAll_other elsewhere, dropAll_file settled]
    apply kept.idle slot settled
    intro other inside used
    by_cases same : other.id = listed.id
    · rw [numbered_unique numbered inside member same] at used ⊢
      have file : ¬ fileHook slot.hook := fun file => unfiled_unused unfiled file used
      rw [← promoted_wants_eq file settled]
      exact own ((promoted_uses file).mpr used)
    · exact unwanted other (amend_other _ inside same) used

theorem promoteAll_either (kept : Kept initial content listing) {listed : Listed}
    (member : listed ∈ listing) (unfiled : listed.saved.fOps = none) (sharers : List Saved)
    (table : FileTable) (slot : Slot) :
    promoteAll sharers listed.saved table content slot = initial slot ∨
      promoteAll sharers listed.saved table content slot = slot.hook.addr := by
  rcases fileSlot_cases table slot with ⟨hook, file, rfl⟩ | elsewhere
  · exact .inr (promoteAll_file file)
  · rw [promoteAll_other elsewhere]
    exact dropAll_either kept member unfiled _ slot

theorem kept_promoted (kept : Kept initial content listing) {nextId : Nat}
    (numbered : Numbered nextId listing) {listed : Listed} (member : listed ∈ listing)
    (unfiled : listed.saved.fOps = none) (table : FileTable) :
    Kept initial (promoteAll (sharers listed.id listing) listed.saved table content)
      (amend listed.id (promoted listed.saved table (initial (table.slot .openFile))
        (initial (table.slot .release))) listing) := by
  have across {P : Listed → Prop} := amend_forall (P := P) numbered member
    (promoted listed.saved table (initial (table.slot .openFile)) (initial (table.slot .release)))
  constructor
  case live => exact across (fun other inside _ => kept.live other inside) (kept.live listed member)
  case inode =>
    exact across (fun other inside _ => kept.inode other inside) (kept.inode listed member)
  case asked => exact across (fun other inside _ => kept.asked other inside) rfl
  case settled =>
    exact across (fun other inside _ => kept.settled other inside)
      fun _ settled used => promoted_initial kept member settled used
  case hooked =>
    exact across (fun _ inside different _ => promoteAll_shared kept inside different table)
      fun _ used wanted => promoteAll_own kept member used wanted
  case idle => exact fun _ => promoteAll_idle kept numbered member unfiled
  case either => exact promoteAll_either kept member unfiled _ table
  case lookups =>
    apply across (fun other inside _ => kept.lookups other inside)
    intro slot lookup used
    have file := lookup_not_file lookup
    rw [promoted_original file]
    rcases kept.lookups listed member slot lookup ((promoted_uses file).mp used) with
      first | hooked | ⟨_, filed⟩
    · exact .inl first
    · exact .inr (.inl hooked)
    · exact absurd unfiled filed

/-! ### An entry that reads its lookup addresses again -/

theorem reread_slot? (saved : Saved) (table : InodeTable) (content : Slot → Addr) (hook : Hook) :
    (reread saved table content).slot? hook = saved.slot? hook := by
  unfold reread
  split <;> cases hook <;> rfl

theorem reread_uses {saved : Saved} {table : InodeTable} {slot : Slot} :
    (reread saved table content).Uses slot ↔ saved.Uses slot := by
  rw [Saved.Uses, Saved.Uses, reread_slot?]

theorem reread_wants (saved : Saved) (table : InodeTable) (content : Slot → Addr) (hook : Hook) :
    (reread saved table content).wants hook = saved.wants hook := by
  unfold reread
  split <;> cases hook <;> rfl

theorem reread_original {saved : Saved} {table : InodeTable} {hook : Hook}
    (settled : ¬ lookupHook hook) :
    (reread saved table content).original hook = saved.original hook := by
  unfold reread
  split <;> cases hook <;> simp_all [lookupHook, Saved.original]

theorem reread_lookup {saved : Saved} {table : InodeTable} {hook : Hook} (lookup : lookupHook hook) :
    (reread saved table content).original hook =
      if saved.lookup = Addr.null then content (table.slot hook) else saved.original hook := by
  unfold reread
  rcases lookup with rfl | rfl <;> split <;> rfl

theorem kept_reread (kept : Kept initial content listing) {nextId : Nat}
    (numbered : Numbered nextId listing) {listed : Listed} (member : listed ∈ listing)
    {table : InodeTable} (used : listed.saved.iOps = some table) :
    Kept initial content (amend listed.id (reread listed.saved table content) listing) := by
  have across {P : Listed → Prop} := amend_forall (P := P) numbered member
    (reread listed.saved table content)
  have unchanged : (reread listed.saved table content).iOps = listed.saved.iOps ∧
      (reread listed.saved table content).fOps = listed.saved.fOps ∧
      (reread listed.saved table content).lookupHooked = listed.saved.lookupHooked := by
    unfold reread
    split <;> exact ⟨rfl, rfl, rfl⟩
  obtain ⟨iOps, fOps, asked⟩ := unchanged
  constructor
  case live => exact across (fun other inside _ => kept.live other inside) (kept.live listed member)
  case inode =>
    exact across (fun other inside _ => kept.inode other inside) (iOps ▸ kept.inode listed member)
  case asked =>
    apply across (fun other inside _ => kept.asked other inside)
    rw [asked, fOps]
    exact kept.asked listed member
  case settled =>
    apply across (fun other inside _ => kept.settled other inside)
    intro slot settled uses
    rw [reread_original settled]
    exact kept.settled listed member slot settled (reread_uses.mp uses)
  case hooked =>
    apply across (fun other inside _ => kept.hooked other inside)
    intro slot uses wanted
    rw [reread_wants] at wanted
    exact kept.hooked listed member slot (reread_uses.mp uses) wanted
  case idle =>
    intro slot settled unwanted
    apply kept.idle slot settled
    intro other inside uses
    by_cases same : other.id = listed.id
    · rw [numbered_unique numbered inside member same] at uses ⊢
      rw [← reread_wants listed.saved table content]
      exact unwanted _ (amend_own listed _ member) (reread_uses.mpr uses)
    · exact unwanted other (amend_other _ inside same) uses
  case either => exact kept.either
  case lookups =>
    apply across (fun other inside _ => kept.lookups other inside)
    intro slot lookup uses
    have usedBefore := reread_uses.mp uses
    obtain ⟨own, theirs, same⟩ := uses_inode_table (lookupHook_inode lookup) usedBefore
    have equal : own = table := Option.some.inj (theirs.symm.trans used)
    rw [reread_lookup lookup, fOps, ← equal, ← same]
    by_cases missing : listed.saved.lookup = Addr.null
    · rw [if_pos missing]
      exact (kept.either slot).imp_right .inl
    · rw [if_neg missing]
      exact kept.lookups listed member slot lookup usedBefore

/-! ### An entry that leaves -/

/-- Outside lookups an entry's wish follows from the address it saved. -/
theorem wants_settled {left right : Saved} {hook : Hook} (settled : ¬ lookupHook hook)
    (alike : left.original hook = right.original hook) : left.wants hook = right.wants hook := by
  cases hook <;> simp_all [lookupHook, Saved.wants, Saved.original]

theorem wanted_known {saved : Saved} {hook : Hook} (settled : ¬ lookupHook hook)
    (wanted : saved.wants hook = true) : inodeHook hook → saved.original hook ≠ Addr.null := by
  rintro (rfl | rfl | rfl)
  · simp [lookupHook] at settled
  · simp [lookupHook] at settled
  · simpa [Saved.wants, Saved.original] using wanted

theorem mem_left {listed other : Listed} :
    other ∈ listing.filter (·.id != listed.id) ↔ other ∈ listing ∧ other.id ≠ listed.id := by
  simp

/-- Slots of an entry that another one uses too keep what is in them. -/
theorem freeAll_shared {listed other : Listed} (inside : other ∈ listing)
    (different : other.id ≠ listed.id) {slot : Slot} (used : other.saved.Uses slot) :
    freeAll (sharers listed.id listing) listed.saved content slot = content slot := by
  have shared : ¬ Frees (sharers listed.id listing) listed.saved slot :=
    fun frees => frees.2.1 other.saved (mem_sharers.mpr ⟨other, inside, different, rfl⟩) used
  simp [freeAll, shared]

/-- Nobody who stays uses a slot that the entry wants hooked and the others do
not: a sharer would want it no less than the entry does. -/
theorem frees_unwanted (kept : Kept initial content listing) {listed : Listed}
    (member : listed ∈ listing) {slot : Slot} (settled : ¬ lookupHook slot.hook)
    (used : listed.saved.Uses slot) (wanted : listed.saved.wants slot.hook = true)
    (unwanted : ∀ other ∈ listing.filter (·.id != listed.id), other.saved.Uses slot →
      other.saved.wants slot.hook = false) :
    Frees (sharers listed.id listing) listed.saved slot := by
  refine ⟨used, ?_, wanted_known settled wanted⟩
  intro saved theirs uses
  obtain ⟨other, inside, different, rfl⟩ := mem_sharers.mp theirs
  have idle := unwanted other (mem_left.mpr ⟨inside, different⟩) uses
  have alike : other.saved.original slot.hook = listed.saved.original slot.hook :=
    (kept.settled other inside slot settled uses).trans
      (kept.settled listed member slot settled used).symm
  rw [wants_settled settled alike, wanted] at idle
  cases idle

/-- A slot that nobody wants hooked once the entry has left is as it was at
first. -/
theorem freeAll_idle (kept : Kept initial content listing) {nextId : Nat}
    (numbered : Numbered nextId listing) {listed : Listed} (member : listed ∈ listing) {slot : Slot}
    (settled : ¬ lookupHook slot.hook)
    (unwanted : ∀ other ∈ listing.filter (·.id != listed.id), other.saved.Uses slot →
      other.saved.wants slot.hook = false) :
    freeAll (sharers listed.id listing) listed.saved content slot = initial slot := by
  by_cases freed : Frees (sharers listed.id listing) listed.saved slot ∧ content slot = slot.hook.addr
  · rw [freeAll, if_pos freed]
    exact kept.settled listed member slot settled freed.1.1
  · rw [freeAll, if_neg freed]
    apply kept.idle slot settled
    intro other inside used
    by_cases same : other.id = listed.id
    · rw [numbered_unique numbered inside member same] at used ⊢
      rw [← Bool.not_eq_true]
      intro wanted
      exact freed ⟨frees_unwanted kept member settled used wanted unwanted,
        kept.hooked listed member slot used wanted⟩
    · exact unwanted other (mem_left.mpr ⟨inside, same⟩) used

theorem freeAll_either (kept : Kept initial content listing) {listed : Listed}
    (member : listed ∈ listing) (sharers : List Saved) (slot : Slot) :
    freeAll sharers listed.saved content slot = initial slot ∨
      freeAll sharers listed.saved content slot = slot.hook.addr := by
  by_cases freed : Frees sharers listed.saved slot ∧ content slot = slot.hook.addr
  · rw [freeAll, if_pos freed]
    by_cases lookup : lookupHook slot.hook
    · have present := freed.1.2.2 (lookupHook_inode lookup)
      rcases kept.lookups listed member slot lookup freed.1.1 with first | hooked | ⟨missing, _⟩
      · exact .inl first
      · exact .inr hooked
      · exact absurd missing present
    · exact .inl (kept.settled listed member slot lookup freed.1.1)
  · rw [freeAll, if_neg freed]
    exact kept.either slot

theorem kept_left (kept : Kept initial content listing) {nextId : Nat}
    (numbered : Numbered nextId listing) {listed : Listed} (member : listed ∈ listing) :
    Kept initial (freeAll (sharers listed.id listing) listed.saved content)
      (listing.filter (·.id != listed.id)) := by
  constructor
  case live => exact fun other left => kept.live other (mem_left.mp left).1
  case inode => exact fun other left => kept.inode other (mem_left.mp left).1
  case asked => exact fun other left => kept.asked other (mem_left.mp left).1
  case settled => exact fun other left => kept.settled other (mem_left.mp left).1
  case hooked =>
    intro other left slot used wanted
    obtain ⟨inside, different⟩ := mem_left.mp left
    rw [freeAll_shared inside different used]
    exact kept.hooked other inside slot used wanted
  case idle => exact fun _ => freeAll_idle kept numbered member
  case either => exact freeAll_either kept member _
  case lookups => exact fun other left => kept.lookups other (mem_left.mp left).1

end Interception.Patch
