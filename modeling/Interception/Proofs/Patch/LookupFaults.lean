import Interception.Proofs.Patch.LookupHooks

/-!
The steps that break the law of the lookup hooks, and a proof that there are
no others. In an orderly world the lookup and create hooks of a table come and
go together, and an entry has saved both initial addresses or, if it went
straight to file operations, neither.
-/

namespace Interception.Patch

variable {initial content : Slot → Addr} {listing : List Listed} {world later : World}

def Knows (initial : Slot → Addr) (table : InodeTable) (saved : Saved) : Prop :=
  ∀ hook, lookupHook hook → saved.original hook = initial (table.slot hook)

/-- The law of the lookup hooks of every table. -/
def LookupLaw (initial content : Slot → Addr) (listing : List Listed) : Prop :=
  ∀ table hook, lookupHook hook → HookLaw initial content listing table hook

structure Orderly (initial content : Slot → Addr) (listing : List Listed) : Prop where
  law : LookupLaw initial content listing
  pair : ∀ listed ∈ listing, ∀ table, listed.saved.iOps = some table →
    Knows initial table listed.saved ∨ (listed.saved.fOps ≠ none ∧
      listed.saved.lookup = Addr.null ∧ listed.saved.create = Addr.null)
  both : ∀ table : InodeTable, content (table.slot .lookup) = Hook.lookup.addr ↔
    content (table.slot .create) = Hook.create.addr

theorem orderly_start (clean : Clean initial) : Orderly initial initial [] := by
  refine ⟨?_, by simp, ?_⟩
  · intro table hook _
    exact ⟨fun hooked => absurd hooked (clean (table.slot hook)), by simp⟩
  · intro table
    exact ⟨fun hooked => absurd hooked (clean (table.slot .lookup)),
      fun hooked => absurd hooked (clean (table.slot .create))⟩

/-- One of the two hooks is in place only if both are. -/
theorem orderly_both (orderly : Orderly initial content listing) {table : InodeTable}
    {hook other : Hook} (lookup : lookupHook hook) (another : lookupHook other)
    (hooked : content (table.slot hook) = hook.addr) :
    content (table.slot other) = other.addr := by
  have both := orderly.both table
  rcases lookup with rfl | rfl <;> rcases another with rfl | rfl
  · exact hooked
  · exact both.mp hooked
  · exact both.mpr hooked
  · exact hooked

/-! ### The lookup slots after a turn -/

theorem hookAll_lookup {saved : Saved} {table : InodeTable} {hook : Hook}
    (lookup : lookupHook hook) :
    hookAll (armed saved) content (table.slot hook) =
      if saved.iOps = some table ∧ saved.fOps = none then hook.addr
      else content (table.slot hook) := by
  have wanted : (armed saved).wants hook = saved.fOps.isNone := by
    rcases lookup with rfl | rfl <;> rfl
  simp [hookAll, uses_inode (lookupHook_inode lookup), wanted]

/-- The lookup hooks an entry takes along when it moves up. -/
theorem promoteAll_lookup {sharers : List Saved} {saved : Saved} {files : FileTable}
    {table : InodeTable} {hook : Hook} (lookup : lookupHook hook) :
    promoteAll sharers saved files content (table.slot hook) =
      if (saved.iOps = some table ∧
          ∀ other ∈ sharers, other.iOps = some table → other.lookupHooked = false) ∧
          content (table.slot hook) = hook.addr
      then saved.original hook else content (table.slot hook) := by
  rw [promoteAll_other (not_fileSlot (lookup_not_file lookup))]
  simp [dropAll, Drops, lookup, uses_inode (lookupHook_inode lookup)]

theorem freeAll_lookup {sharers : List Saved} {saved : Saved} {table : InodeTable} {hook : Hook}
    (lookup : lookupHook hook) :
    freeAll sharers saved content (table.slot hook) =
      if (saved.iOps = some table ∧ (∀ other ∈ sharers, other.iOps ≠ some table) ∧
          saved.original hook ≠ Addr.null) ∧ content (table.slot hook) = hook.addr
      then saved.original hook else content (table.slot hook) := by
  have inode := lookupHook_inode lookup
  simp [freeAll, Frees, inode, uses_inode inode]

/-! ### New entries -/

/-- A new entry and the others fall out over the lookups of their table: it
has them hooked although one of the others does not know the addresses, or
it does not know them itself although they are hooked. -/
def Blinded (initial content : Slot → Addr) (listing : List Listed) (request : Request) : Prop :=
  let table := request.root.iOp
  match regularOf request.regular with
  | none =>
      content (table.slot .lookup) ≠ Hook.lookup.addr ∧
        ∃ listed ∈ listing, listed.saved.iOps = some table ∧ ¬ Knows initial table listed.saved
  | some _ =>
      content (table.slot .lookup) = Hook.lookup.addr ∧
        ¬ (initial (table.slot .lookup) = Addr.null ∧ initial (table.slot .create) = Addr.null)

theorem append_cases {listed new : Listed} (member : listed ∈ listing ++ [new]) :
    listed ∈ listing ∨ listed = new := by simpa using member

/-- In a table whose lookups are hooked everyone knows the addresses. -/
theorem orderly_knows (orderly : Orderly initial content listing) {table : InodeTable}
    (hooked : content (table.slot .lookup) = Hook.lookup.addr) {listed : Listed}
    (member : listed ∈ listing) (uses : listed.saved.iOps = some table) :
    Knows initial table listed.saved := by
  intro hook lookup
  exact (orderly.law table hook lookup).known (orderly_both orderly (.inl rfl) lookup hooked) listed
    member uses

/-- The hooks of a table keep their law when an entry is added that has not moved
them and knows what is there if it uses the table. -/
theorem law_appended {table : InodeTable} {hook : Hook} {changed : Slot → Addr} {new : Listed}
    (before : HookLaw initial content listing table hook)
    (same : changed (table.slot hook) = content (table.slot hook))
    (knows : content (table.slot hook) = hook.addr → new.saved.iOps = some table →
      new.saved.original hook = initial (table.slot hook)) :
    HookLaw initial changed (listing ++ [new]) table hook := by
  constructor <;> rw [same]
  · intro hooked
    obtain ⟨listed, member, theirs⟩ := before.used hooked
    exact ⟨listed, List.mem_append_left _ member, theirs⟩
  · intro hooked listed member theirs
    rcases append_cases member with old | rfl
    · exact before.known hooked listed old theirs
    · exact knows hooked theirs

/-- The hooks of a table have their law when an entry that uses it comes in and
everybody in it knows the addresses. -/
theorem law_known {table : InodeTable} {hook : Hook} {changed : Slot → Addr} {new : Listed}
    (lookup : lookupHook hook) (uses : new.saved.iOps = some table)
    (own : Knows initial table new.saved)
    (others : ∀ listed ∈ listing, listed.saved.iOps = some table →
      Knows initial table listed.saved) :
    HookLaw initial changed (listing ++ [new]) table hook := by
  refine ⟨fun _ => ⟨new, List.mem_append_right _ (List.mem_singleton_self _), uses⟩, ?_⟩
  intro _ listed member theirs
  rcases append_cases member with old | rfl
  · exact others listed old theirs hook lookup
  · exact own hook lookup

/-- A new entry that asks for lookups must find that all users of its table
know their addresses. -/
theorem orderly_asking (orderly : Orderly initial content listing) {saved : Saved}
    {table : InodeTable} (uses : saved.iOps = some table) (unfiled : saved.fOps = none)
    (knows : Knows initial table saved) (id : Nat) (fsType : String)
    (others : content (table.slot .lookup) ≠ Hook.lookup.addr →
      ∀ listed ∈ listing, listed.saved.iOps = some table → Knows initial table listed.saved) :
    Orderly initial (hookAll (armed saved) content)
      (listing ++ [⟨id, fsType, armed saved, false⟩]) := by
  have elsewhere {other : InodeTable} (different : other ≠ table) (hook : Hook)
      (lookup : lookupHook hook) :
      hookAll (armed saved) content (other.slot hook) = content (other.slot hook) := by
    rw [hookAll_lookup lookup, if_neg]
    rintro ⟨same, _⟩
    exact different (Option.some.inj (same.symm.trans uses))
  have knowsArmed : Knows initial table (armed saved) := by
    intro hook lookup
    rw [armed_original]
    exact knows hook lookup
  have everybody (listed : Listed) (member : listed ∈ listing) (theirs : listed.saved.iOps = some table) :
      Knows initial table listed.saved := by
    by_cases hooked : content (table.slot .lookup) = Hook.lookup.addr
    · exact orderly_knows orderly hooked member theirs
    · exact others hooked listed member theirs
  -- Outside the table the new entry asks for nothing is hooked or freed.
  constructor
  case law =>
    intro other hook lookup
    by_cases same : other = table
    · exact same ▸ law_known lookup uses knowsArmed everybody
    · refine law_appended (orderly.law other hook lookup) (elsewhere same hook lookup) ?_
      exact fun _ theirs => absurd (Option.some.inj (theirs.symm.trans uses)) same
  case pair =>
    intro listed member other theirs
    rcases append_cases member with old | rfl
    · exact orderly.pair listed old other theirs
    · rw [armed_iOps, uses, Option.some.injEq] at theirs
      exact .inl (theirs ▸ knowsArmed)
  case both =>
    intro other
    by_cases same : other = table
    · have hooked (hook : Hook) (lookup : lookupHook hook) :
          hookAll (armed saved) content (other.slot hook) = hook.addr := by
        rw [hookAll_lookup lookup, if_pos ⟨same ▸ uses, unfiled⟩]
      exact iff_of_true (hooked .lookup (.inl rfl)) (hooked .create (.inr rfl))
    · rw [elsewhere same .lookup (.inl rfl), elsewhere same .create (.inr rfl)]
      exact orderly.both other

/-- A new entry that knows nothing of lookups must not find any hooked, unless
there is nothing to know. -/
theorem orderly_filed (orderly : Orderly initial content listing) {saved : Saved}
    {table : InodeTable} (uses : saved.iOps = some table) (filed : saved.fOps ≠ none)
    (blind : saved.lookup = Addr.null ∧ saved.create = Addr.null) (id : Nat) (fsType : String)
    (vacant : content (table.slot .lookup) = Hook.lookup.addr →
      initial (table.slot .lookup) = Addr.null ∧ initial (table.slot .create) = Addr.null) :
    Orderly initial (hookAll (armed saved) content)
      (listing ++ [⟨id, fsType, armed saved, false⟩]) := by
  have kept (other : InodeTable) (hook : Hook) (lookup : lookupHook hook) :
      hookAll (armed saved) content (other.slot hook) = content (other.slot hook) := by
    rw [hookAll_lookup lookup, if_neg]
    rintro ⟨_, unfiled⟩
    exact filed unfiled
  constructor
  case law =>
    intro other hook lookup
    refine law_appended (orderly.law other hook lookup) (kept other hook lookup) ?_
    intro hooked theirs
    rw [armed_iOps, uses, Option.some.injEq] at theirs
    subst theirs
    -- The new entry saved nothing, which is right if there is nothing to save.
    have missing := vacant (orderly_both orderly lookup (.inl rfl) hooked)
    rw [armed_original]
    rcases lookup with rfl | rfl
    · exact blind.1.trans missing.1.symm
    · exact blind.2.trans missing.2.symm
  case pair =>
    intro listed member other theirs
    rcases append_cases member with old | rfl
    · exact orderly.pair listed old other theirs
    · exact .inr ⟨filed, blind⟩
  case both =>
    intro other
    rw [kept other .lookup (.inl rfl), kept other .create (.inr rfl)]
    exact orderly.both other

theorem orderly_installed (kept : Kept initial content listing)
    (orderly : Orderly initial content listing) {request : Request} {saved : Saved}
    (prepared : Prepared (listing.map (·.saved)) content request saved)
    (genuine : ∀ hook : Hook, saved.original hook ≠ hook.addr) (id : Nat) (fsType : String)
    (calm : ¬ Blinded initial content listing request) :
    Orderly initial (hookAll (armed saved) content)
      (listing ++ [⟨id, fsType, armed saved, false⟩]) := by
  have filed := prepared.fOps
  unfold Blinded at calm
  cases regular : regularOf request.regular with
  | none =>
      simp only [regular] at calm
      have unfiled : saved.fOps = none := by simp [filed, regular]
      have knows : Knows initial request.root.iOp saved := by
        intro hook lookup
        exact prepared_initial kept prepared (request.root.iOp.slot hook)
          ((uses_inode (lookupHook_inode lookup)).mpr prepared.iOps) fun _ => ⟨unfiled, genuine hook⟩
      apply orderly_asking orderly prepared.iOps unfiled knows id fsType
      intro unhooked listed member theirs
      apply Classical.byContradiction
      intro ignorant
      exact calm ⟨unhooked, listed, member, theirs, ignorant⟩
  | some inode =>
      simp only [regular] at calm
      have moved : saved.fOps ≠ none := by simp [filed, regular]
      apply orderly_filed orderly prepared.iOps moved (prepared.blind moved) id fsType
      intro hooked
      exact Decidable.byContradiction fun present => calm ⟨hooked, present⟩

/-- After such a quarrel the law is broken. -/
theorem blinded_unlawful (orderly : Orderly initial content listing) {request : Request}
    {saved : Saved} (prepared : Prepared (listing.map (·.saved)) content request saved)
    (id : Nat) (fsType : String) (blinded : Blinded initial content listing request) :
    ¬ LookupLaw initial (hookAll (armed saved) content)
      (listing ++ [⟨id, fsType, armed saved, false⟩]) := by
  intro law
  have filed := prepared.fOps
  unfold Blinded at blinded
  cases regular : regularOf request.regular with
  | none =>
      simp only [regular] at blinded
      obtain ⟨_, listed, member, theirs, ignorant⟩ := blinded
      have unfiled : saved.fOps = none := by simp [filed, regular]
      apply ignorant
      intro hook lookup
      refine (law request.root.iOp hook lookup).known ?_ listed (List.mem_append_left _ member) theirs
      rw [hookAll_lookup lookup, if_pos ⟨prepared.iOps, unfiled⟩]
  | some inode =>
      simp only [regular] at blinded
      obtain ⟨hooked, present⟩ := blinded
      have moved : saved.fOps ≠ none := by simp [filed, regular]
      have own (hook : Hook) (lookup : lookupHook hook) :
          saved.original hook = initial (request.root.iOp.slot hook) := by
        rw [← armed_original saved hook]
        refine (law request.root.iOp hook lookup).known ?_ ⟨id, fsType, armed saved, false⟩ (by simp)
          prepared.iOps
        rw [hookAll_lookup lookup, if_neg fun asked => moved asked.2]
        exact orderly_both orderly (.inl rfl) lookup hooked
      have blind := prepared.blind moved
      exact present ⟨(own .lookup (.inl rfl)).symm.trans blind.1,
        (own .create (.inr rfl)).symm.trans blind.2⟩

theorem null_genuine (hook : Hook) : Addr.null ≠ hook.addr := by
  cases hook <;> decide

theorem orderly_unhooked (kept : Kept initial content listing)
    (orderly : Orderly initial content listing) {table : InodeTable}
    (unhooked : content (table.slot .lookup) ≠ Hook.lookup.addr) {hook : Hook}
    (lookup : lookupHook hook) : content (table.slot hook) = initial (table.slot hook) := by
  apply (kept.either (table.slot hook)).resolve_right
  intro hooked
  exact unhooked (orderly_both orderly lookup (.inl rfl) hooked)

/-- The lookup addresses saved by an entry that starts the quarrel are no
hooks. -/
theorem blinded_genuine (clean : Clean initial) (kept : Kept initial content listing)
    (orderly : Orderly initial content listing) {request : Request} {saved : Saved}
    (prepared : Prepared (listing.map (·.saved)) content request saved)
    (blinded : Blinded initial content listing request) {hook : Hook} (lookup : lookupHook hook) :
    saved.original hook ≠ hook.addr := by
  have filed := prepared.fOps
  unfold Blinded at blinded
  cases regular : regularOf request.regular with
  | none =>
      simp only [regular] at blinded
      have unfiled : saved.fOps = none := by simp [filed, regular]
      rcases lookup_source lookup (prepared.lookups unfiled) with
        ⟨other, member, theirs, present, copied⟩ | ⟨_, loaded⟩
      · obtain ⟨listed, inside, rfl⟩ := List.mem_map.mp member
        rw [copied]
        rcases orderly.pair listed inside _ theirs with knows | ⟨_, blind⟩
        · rw [knows hook lookup]
          exact clean (request.root.iOp.slot hook)
        · rcases lookup with rfl | rfl
          · exact absurd blind.1 present
          · exact absurd blind.2 present
      · rw [loaded, orderly_unhooked kept orderly blinded.1 lookup]
        exact clean (request.root.iOp.slot hook)
  | some inode =>
      have blind := prepared.blind (by simp [filed, regular])
      rcases lookup with rfl | rfl
      · exact fun same => null_genuine .lookup (blind.1.symm.trans same)
      · exact fun same => null_genuine .create (blind.2.symm.trans same)

/-- Nothing stops an entry from being installed into such a quarrel. -/
theorem blinded_taken (clean : Clean initial) (sound : Sound initial world)
    (orderly : Orderly initial world.memory.content world.table.listing) {request : Request}
    (blinded : Blinded initial world.memory.content world.table.listing request) :
    ∃ saved, prepare (world.table.listing.map (·.saved)) request world.memory = .ok saved := by
  apply prepare_total
  · intro hooked
    have law := (inodeLaw_iff sound (.inr (.inr rfl))).mp
      (atomicOpen_lawful clean sound request.root.iOp)
    obtain ⟨listed, member, uses⟩ := law.used hooked
    exact ⟨listed.saved, List.mem_map_of_mem member, uses⟩
  · intro saved prepared hook
    by_cases lookup : lookupHook hook
    · exact blinded_genuine clean sound.kept orderly prepared blinded lookup
    · -- A hook has a slot and the slot's first address, or no slot and no address.
      cases found : saved.slot? hook with
      | some slot =>
          have own := slot?_hook found
          subst own
          rw [prepared_initial sound.kept prepared slot found fun asked => absurd asked lookup]
          exact clean slot
      | none =>
          have missing : saved.original hook = Addr.null := by
            cases hook with
            | openFile => exact (prepared.unfiled (by simpa [Saved.slot?] using found)).1
            | release => exact (prepared.unfiled (by simpa [Saved.slot?] using found)).2
            | lookup => exact absurd (.inl rfl) lookup
            | create => exact absurd (.inr rfl) lookup
            | atomicOpen => simp [Saved.slot?, prepared.iOps] at found
            | revalidate => exact prepared.undated (by simpa [Saved.slot?] using found)
          rw [missing]
          exact null_genuine hook

/-! ### Entries that move up or read their addresses again -/

/-- A lookup hook survives a move up only where nothing was taken out. -/
theorem promoteAll_hooked (clean : Clean initial) {sharers : List Saved} {saved : Saved}
    {files : FileTable} {table : InodeTable}
    (knows : saved.iOps = some table → Knows initial table saved) {hook : Hook}
    (lookup : lookupHook hook)
    (hooked : promoteAll sharers saved files content (table.slot hook) = hook.addr) :
    ¬ (saved.iOps = some table ∧
        ∀ other ∈ sharers, other.iOps = some table → other.lookupHooked = false) ∧
      content (table.slot hook) = hook.addr := by
  rw [promoteAll_lookup lookup] at hooked
  -- A hook that was taken out has left the address that was saved.
  by_cases there : content (table.slot hook) = hook.addr
  · refine ⟨?_, there⟩
    intro dropped
    rw [if_pos ⟨dropped, there⟩, knows dropped.1 hook lookup] at hooked
    exact clean (table.slot hook) hooked
  · rw [if_neg fun dropped => there dropped.2] at hooked
    exact absurd hooked there

theorem orderly_promoted (clean : Clean initial) (orderly : Orderly initial content listing)
    {nextId : Nat} (numbered : Numbered nextId listing) {listed : Listed} (member : listed ∈ listing)
    (unfiled : listed.saved.fOps = none) (files : FileTable) (opens releases : Addr) :
    Orderly initial (promoteAll (sharers listed.id listing) listed.saved files content)
      (amend listed.id (promoted listed.saved files opens releases) listing) := by
  have across {P : Listed → Prop} := amend_forall (P := P) numbered member
    (promoted listed.saved files opens releases)
  have knows (table : InodeTable) (uses : listed.saved.iOps = some table) :
      Knows initial table listed.saved :=
    (orderly.pair listed member table uses).resolve_right fun moved => moved.1 unfiled
  have together (table : InodeTable) (hook other : Hook) (lookup : lookupHook hook)
      (another : lookupHook other)
      (hooked : promoteAll (sharers listed.id listing) listed.saved files content
        (table.slot hook) = hook.addr) :
      promoteAll (sharers listed.id listing) listed.saved files content (table.slot other) =
        other.addr := by
    obtain ⟨stays, before⟩ := promoteAll_hooked clean (knows table) lookup hooked
    rw [promoteAll_lookup another, if_neg fun dropped => stays dropped.1]
    exact orderly_both orderly lookup another before
  constructor
  case law =>
    intro table hook lookup
    have before := orderly.law table hook lookup
    constructor
    · intro hooked
      obtain ⟨_, there⟩ := promoteAll_hooked clean (knows table) lookup hooked
      obtain ⟨other, inside, uses⟩ := before.used there
      by_cases same : other.id = listed.id
      · rw [numbered_unique numbered inside member same] at uses
        exact ⟨_, amend_own listed _ member, uses⟩
      · exact ⟨other, amend_other _ inside same, uses⟩
    · intro hooked
      obtain ⟨_, there⟩ := promoteAll_hooked clean (knows table) lookup hooked
      apply across (fun other inside _ => before.known there other inside)
      intro uses
      rw [promoted_original (lookup_not_file lookup)]
      exact knows table uses hook lookup
  case pair =>
    apply across (fun other inside _ => orderly.pair other inside)
    intro table uses
    refine .inl ?_
    intro hook lookup
    rw [promoted_original (lookup_not_file lookup)]
    exact knows table uses hook lookup
  case both =>
    intro table
    exact ⟨together table .lookup .create (.inl rfl) (.inr rfl),
      together table .create .lookup (.inr rfl) (.inl rfl)⟩

/-- An entry that reads the address of a hook as if it were genuine. -/
def Unread (initial : Slot → Addr) (saved : Saved) : Prop :=
  saved.fOps = none ∧ ∃ table, saved.iOps = some table ∧ initial (table.slot .lookup) = Addr.null

theorem orderly_reread (orderly : Orderly initial content listing) {nextId : Nat}
    (numbered : Numbered nextId listing) {listed : Listed} (member : listed ∈ listing)
    {table : InodeTable} (unfiled : listed.saved.fOps = none)
    (uses : listed.saved.iOps = some table) (calm : ¬ Unread initial listed.saved) :
    Orderly initial content (amend listed.id (reread listed.saved table content) listing) := by
  have knows := (orderly.pair listed member table uses).resolve_right fun moved => moved.1 unfiled
  have present : listed.saved.lookup ≠ Addr.null := by
    intro missing
    exact calm ⟨unfiled, table, uses, (knows .lookup (.inl rfl)).symm.trans missing⟩
  rw [reread, if_neg present, amend_self numbered member]
  exact orderly

theorem unread_unlawful (clean : Clean initial) (kept : Kept initial content listing)
    (orderly : Orderly initial content listing) {listed : Listed} (member : listed ∈ listing)
    {table : InodeTable} (uses : listed.saved.iOps = some table)
    (unread : Unread initial listed.saved) :
    ¬ LookupLaw initial content (amend listed.id (reread listed.saved table content) listing) := by
  intro law
  obtain ⟨unfiled, common, theirs, vacant⟩ := unread
  obtain rfl : common = table := Option.some.inj (theirs.symm.trans uses)
  have asked : listed.saved.lookupHooked = true := by simp [kept.asked listed member, unfiled]
  have hooked : content (common.slot .lookup) = Hook.lookup.addr :=
    kept.hooked listed member (common.slot .lookup) ((uses_inode (.inl rfl)).mpr uses) asked
  have knows := (orderly.pair listed member common uses).resolve_right fun moved => moved.1 unfiled
  have missing : listed.saved.lookup = Addr.null := (knows .lookup (.inl rfl)).trans vacant
  -- What it reads from the slot is the hook, and no slot held its hook at first.
  have own := (law common .lookup (.inl rfl)).known hooked _
    (amend_own listed (reread listed.saved common content) member) (by simp [reread, missing, uses])
  rw [reread_lookup (.inl rfl), if_pos missing, hooked] at own
  exact clean (common.slot .lookup) own.symm

/-! ### Entries that leave -/

/-- The last user of a table leaves hooks behind, because it takes a missing
operation for one that was never hooked. -/
def Stranded (initial content : Slot → Addr) (listing : List Listed) (listed : Listed) : Prop :=
  ∃ table, listed.saved.iOps = some table ∧
    (∀ other ∈ listing, other.id ≠ listed.id → other.saved.iOps ≠ some table) ∧
    content (table.slot .lookup) = Hook.lookup.addr ∧
    ∃ hook, lookupHook hook ∧ initial (table.slot hook) = Addr.null

/-- A lookup hook survives a departure only where the departing entry had
nothing to put back or somebody else uses the table. -/
theorem freeAll_hooked (clean : Clean initial) (orderly : Orderly initial content listing)
    {listed : Listed} (member : listed ∈ listing) {table : InodeTable} {hook : Hook}
    (lookup : lookupHook hook)
    (hooked : freeAll (sharers listed.id listing) listed.saved content (table.slot hook) =
      hook.addr) :
    content (table.slot hook) = hook.addr ∧
      (listed.saved.iOps = some table →
        (∀ other ∈ listing, other.id ≠ listed.id → other.saved.iOps ≠ some table) →
        initial (table.slot hook) = Addr.null) := by
  rw [freeAll_lookup lookup] at hooked
  by_cases there : content (table.slot hook) = hook.addr
  · refine ⟨there, ?_⟩
    intro uses alone
    have own := (orderly.law table hook lookup).known there listed member uses
    apply Decidable.byContradiction
    intro present
    rw [← own] at present
    have unshared : ∀ other ∈ sharers listed.id listing, other.iOps ≠ some table := by
      intro other sharer
      obtain ⟨third, inside, different, rfl⟩ := mem_sharers.mp sharer
      exact alone third inside different
    rw [if_pos ⟨⟨uses, unshared, present⟩, there⟩, own] at hooked
    exact clean (table.slot hook) hooked
  · rw [if_neg fun freed => there freed.2] at hooked
    exact absurd hooked there

/-- Somebody else uses the table, or its last user would leave a hook behind that
it cannot put back. -/
theorem unstranded_shared (orderly : Orderly initial content listing) {listed : Listed}
    (calm : ¬ Stranded initial content listing listed) {table : InodeTable} {hook : Hook}
    (lookup : lookupHook hook) (there : content (table.slot hook) = hook.addr)
    (uses : listed.saved.iOps = some table)
    (null : (∀ other ∈ listing, other.id ≠ listed.id → other.saved.iOps ≠ some table) →
      initial (table.slot hook) = Addr.null) :
    ∃ other ∈ listing, other.id ≠ listed.id ∧ other.saved.iOps = some table := by
  apply Decidable.byContradiction
  intro nobody
  have alone : ∀ other ∈ listing, other.id ≠ listed.id → other.saved.iOps ≠ some table :=
    fun other inside different theirs => nobody ⟨other, inside, different, theirs⟩
  exact calm ⟨table, uses, alone, orderly_both orderly lookup (.inl rfl) there, hook, lookup,
    null alone⟩

/-- Both hooks of a table stay for the same reason: somebody else uses it. -/
theorem freeAll_together (clean : Clean initial) (orderly : Orderly initial content listing)
    {listed : Listed} (member : listed ∈ listing) (calm : ¬ Stranded initial content listing listed)
    {table : InodeTable} {hook another : Hook} (lookup : lookupHook hook)
    (lookup' : lookupHook another)
    (hooked : freeAll (sharers listed.id listing) listed.saved content (table.slot hook) =
      hook.addr) :
    freeAll (sharers listed.id listing) listed.saved content (table.slot another) =
      another.addr := by
  obtain ⟨there, null⟩ := freeAll_hooked clean orderly member lookup hooked
  have before := orderly_both orderly lookup lookup' there
  rw [freeAll_lookup lookup']
  refine (if_neg ?_).trans before
  rintro ⟨⟨uses, unshared, _⟩, _⟩
  obtain ⟨other, inside, different, theirs⟩ :=
    unstranded_shared orderly calm lookup there uses (null uses)
  exact unshared other.saved (mem_sharers.mpr ⟨other, inside, different, rfl⟩) theirs

theorem orderly_left (clean : Clean initial) (orderly : Orderly initial content listing)
    {nextId : Nat} (numbered : Numbered nextId listing) {listed : Listed} (member : listed ∈ listing)
    (calm : ¬ Stranded initial content listing listed) :
    Orderly initial (freeAll (sharers listed.id listing) listed.saved content)
      (listing.filter (·.id != listed.id)) := by
  constructor
  case law =>
    intro table hook lookup
    have before := orderly.law table hook lookup
    constructor
    · intro hooked
      obtain ⟨there, null⟩ := freeAll_hooked clean orderly member lookup hooked
      obtain ⟨other, inside, uses⟩ := before.used there
      by_cases same : other.id = listed.id
      · rw [numbered_unique numbered inside member same] at uses
        obtain ⟨third, inside, different, theirs⟩ :=
          unstranded_shared orderly calm lookup there uses (null uses)
        exact ⟨third, mem_left.mpr ⟨inside, different⟩, theirs⟩
      · exact ⟨other, mem_left.mpr ⟨inside, same⟩, uses⟩
    · intro hooked other left uses
      obtain ⟨there, _⟩ := freeAll_hooked clean orderly member lookup hooked
      exact before.known there other (mem_left.mp left).1 uses
  case pair =>
    intro other left table uses
    exact orderly.pair other (mem_left.mp left).1 table uses
  case both =>
    intro table
    exact ⟨freeAll_together clean orderly member calm (.inl rfl) (.inr rfl),
      freeAll_together clean orderly member calm (.inr rfl) (.inl rfl)⟩

theorem stranded_unlawful (orderly : Orderly initial content listing) {listed : Listed}
    (member : listed ∈ listing) (stranded : Stranded initial content listing listed) :
    ¬ LookupLaw initial (freeAll (sharers listed.id listing) listed.saved content)
      (listing.filter (·.id != listed.id)) := by
  intro law
  obtain ⟨table, uses, alone, hooked, hook, lookup, vacant⟩ := stranded
  have there := orderly_both orderly (.inl rfl) lookup hooked
  have own := (orderly.law table hook lookup).known there listed member uses
  -- With nothing saved to put back, the hook is left where it is.
  have left : freeAll (sharers listed.id listing) listed.saved content (table.slot hook) =
      hook.addr := by
    rw [freeAll_lookup lookup]
    exact (if_neg fun freed => freed.1.2.2 (own.trans vacant)).trans there
  obtain ⟨other, filtered, theirs⟩ := (law table hook lookup).used left
  have stays : other ∈ listing ∧ other.id ≠ listed.id := by simpa using filtered
  exact alone other stays.1 stays.2 theirs

end Interception.Patch
