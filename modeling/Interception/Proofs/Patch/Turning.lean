import Interception.Proofs.Patch.Keeping

/-!
What each operation of the table does to a sound world: which entry it
repatches, installs or takes out, and what the slots hold afterwards. None of
them meets a foreign hook. A sealed memory refuses them all and nothing
changes.
-/

namespace Interception.Patch

open Change

structure Sound (initial : Slot → Addr) (world : World) : Prop where
  kept : Kept initial world.memory.content world.table.listing
  numbered : Numbered world.table.nextId world.table.listing

variable {initial : Slot → Addr} {world later : World}

/-- What becomes of a listed entry that is repatched for a regular file, or
for none. -/
inductive Repatched (initial : Slot → Addr) (world : World) (listed : Listed) :
    Option Inode → World → Prop
  | settled {regular : Option Inode} {later : World} (filed : listed.saved.fOps ≠ none)
      (turned : Turned world world.memory.content world.table.listing later) :
      Repatched initial world listed regular later
  | promoted {inode : Inode} {later : World} (unfiled : listed.saved.fOps = none)
      (turned : Turned world
        (promoteAll (sharers listed.id world.table.listing) listed.saved inode.fOp
          world.memory.content)
        (amend listed.id (promoted listed.saved inode.fOp (initial (inode.fOp.slot .openFile))
          (initial (inode.fOp.slot .release))) world.table.listing) later) :
      Repatched initial world listed (some inode) later
  | reread {table : InodeTable} {later : World} (unfiled : listed.saved.fOps = none)
      (used : listed.saved.iOps = some table)
      (turned : Turned world world.memory.content
        (amend listed.id (reread listed.saved table world.memory.content) world.table.listing)
        later) :
      Repatched initial world listed none later

def Request.entry (request : Request) (id : Nat) (saved : Saved) : Entry :=
  { Entry.fresh id request.fsType request.hookDentries with saved }

/-- The world in which a new entry is listed but not hooked yet. -/
def World.announced (world : World) (request : Request) (saved : Saved) : World :=
  { world with
    table := { world.table with nextId := world.table.nextId + 1 }.publish
      (world.table.entries ++ [request.entry world.table.nextId saved]) }

/-- The table once a new entry is hooked, which then counts as installed and
used. -/
def World.admitted (world : World) (request : Request) (saved : Saved) : Table :=
  ((world.announced request saved).table.arm (request.entry world.table.nextId saved)).update
    world.table.nextId fun entry =>
      { entry.addUses request.uses with installed := true }

/-- A new entry has been installed with what it had prepared. -/
structure Installed (request : Request) (saved : Saved) (world later : World) : Prop where
  prepared : Prepared (world.table.listing.map (·.saved)) world.memory.content request saved
  genuine : ∀ hook : Hook, saved.original hook ≠ hook.addr
  content : later.memory.content = hookAll (armed saved) world.memory.content
  listing : later.table.listing =
    world.table.listing ++ [⟨world.table.nextId, request.fsType, armed saved, false⟩]
  nextId : later.table.nextId = world.table.nextId + 1
  isSealed : later.memory.isSealed = world.memory.isSealed
  entries : later.table.entries = (world.admitted request saved).entries

/-- An entry has left and freed the slots nobody else uses. -/
structure Left (listed : Listed) (world later : World) : Prop extends
    Turned world
      (freeAll (sharers listed.id world.table.listing) listed.saved world.memory.content)
      (world.table.listing.filter (·.id != listed.id)) later where
  entries : later.table.entries = (world.table.remove listed.id).entries

/-! ### Soundness is kept -/

theorem sound_turned {content : Slot → Addr} {listing : List Listed}
    (turned : Turned world content listing later) (kept : Kept initial content listing)
    (numbered : Numbered world.table.nextId listing) : Sound initial later := by
  constructor
  · rw [turned.content, turned.listing]
    exact kept
  · rw [turned.nextId, turned.listing]
    exact numbered

theorem sound_repatched (sound : Sound initial world) {listed : Listed}
    (member : listed ∈ world.table.listing) {regular : Option Inode}
    (repatched : Repatched initial world listed regular later) : Sound initial later := by
  cases repatched with
  | settled filed turned => exact sound_turned turned sound.kept sound.numbered
  | promoted unfiled turned =>
      exact sound_turned turned (kept_promoted sound.kept sound.numbered member unfiled _)
        (numbered_amend sound.numbered _ _)
  | reread unfiled used turned =>
      exact sound_turned turned (kept_reread sound.kept sound.numbered member used)
        (numbered_amend sound.numbered _ _)

theorem sound_installed (sound : Sound initial world) {request : Request} {saved : Saved}
    (fresh : ∀ listed ∈ world.table.listing, listed.fsType ≠ request.fsType)
    (installed : Installed request saved world later) : Sound initial later := by
  constructor
  · rw [installed.content, installed.listing]
    exact kept_installed sound.kept installed.prepared installed.genuine _ _
  · rw [installed.nextId, installed.listing]
    exact numbered_append sound.numbered _ fresh

theorem sound_left (sound : Sound initial world) {listed : Listed}
    (member : listed ∈ world.table.listing) (left : Left listed world later) :
    Sound initial later :=
  sound_turned left.toTurned (kept_left sound.kept sound.numbered member)
    (numbered_filter sound.numbered _)

/-! ### Entries -/

theorem repatch_on (clean : Clean initial) (sound : Sound initial world) (entry : Entry)
    (member : entry.listed ∈ world.table.listing) (regular : Option Inode) :
    ∃ pokes later, on (repatch entry regular) world = (.ok pokes, later) ∧
      Repatched initial world entry.listed (regularOf regular) later := by
  have unasked := sound.kept.asked entry.listed member
  cases files : entry.saved.fOps with
  | some table =>
      have hooked : world.memory.content (table.slot .openFile) = Hook.openFile.addr :=
        sound.kept.hooked entry.listed member (table.slot .openFile)
          ((uses_file (.inl rfl)).mpr files) rfl
      refine ⟨0, world, ?_, .settled (by simp [Entry.listed, files]) (Turned.refl world)⟩
      simp [repatch, openHooked, files, hooked]
  | none =>
      have unfiled : entry.listed.saved.fOps = none := files
      have asked : entry.saved.lookupHooked = true := by
        simpa [Entry.listed, files] using unasked
      cases found : regularOf regular with
      | some inode =>
          -- The entry has no file table yet, so it is not its own sharer.
          have alone (other : Listed) (inside : other ∈ world.table.listing)
              (same : other.id = entry.listed.id) : other.saved.fOps = none := by
            rw [numbered_unique sound.numbered inside member same]
            exact files
          have ready (opens releases : Addr)
              (source : FileSource (sharers entry.id world.table.listing) world.memory.content
                inode.fOp opens releases) :
              opens ≠ Hook.openFile.addr ∧ releases ≠ Hook.release.addr ∧
                Ready world.memory.content (inode.fOp.slot .openFile) opens ∧
                Ready world.memory.content (inode.fOp.slot .release) releases := by
            obtain ⟨rfl, rfl⟩ := fileSource_initial sound.kept entry.listed alone source
            exact ⟨clean _, clean _, (sound.kept.either _).symm, (sound.kept.either _).symm⟩
          obtain ⟨opens, releases, pokes, later, source, ran, turned⟩ :=
            repatchFile_ready asked ready
          obtain ⟨rfl, rfl⟩ := fileSource_initial sound.kept entry.listed alone source
          refine ⟨pokes, later, ?_, .promoted unfiled turned⟩
          simp [repatch, openHooked, files, found, others_listing, ran]
      | none =>
          obtain ⟨table, used⟩ := Option.isSome_iff_exists.mp (sound.kept.inode entry.listed member)
          have lookup := sound.kept.hooked entry.listed member (table.slot .lookup)
            ((uses_inode (.inl rfl)).mpr used) asked
          have create := sound.kept.hooked entry.listed member (table.slot .create)
            ((uses_inode (.inr (.inl rfl))).mpr used) asked
          obtain ⟨pokes, later, ran, turned⟩ := repatchInode_hooked used asked lookup create
          refine ⟨pokes, later, ?_, .reread unfiled used turned⟩
          simp [repatch, openHooked, files, found, ran]

/-- An entry in the listing asks for lookups just when installing it would. -/
theorem armed_listed (sound : Sound initial world) {entry : Entry}
    (member : entry.listed ∈ world.table.listing) : armed entry.saved = entry.saved := by
  have asked := sound.kept.asked entry.listed member
  simp only [Entry.listed] at asked
  simp [armed, ← asked]

/-- Installing a listed entry leaves every entry as it was. -/
theorem arm_entries (sound : Sound initial world) {entry : Entry}
    (member : entry.listed ∈ world.table.listing) :
    (world.table.arm entry).entries = world.table.entries := by
  unfold Table.arm
  split
  · rfl
  · rw [armed_listed sound member]
    refine (List.map_congr_left fun other inside => ?_).trans (List.map_id _)
    by_cases same : other.id = entry.id
    · have listed : other.listed ∈ world.table.listing := List.mem_map_of_mem inside
      have saved : other.saved = entry.saved :=
        congrArg Listed.saved (numbered_unique sound.numbered listed member same)
      rw [if_pos same, ← saved]
      rfl
    · rw [if_neg same]
      rfl

/-- A listed entry is hooked already: installing it again pokes nothing. -/
theorem install_again (sound : Sound initial world) (entry : Entry)
    (member : entry.listed ∈ world.table.listing) :
    on (install entry) world = (.ok 0, { world with table := world.table.arm entry }) := by
  apply install_hooked (sound.kept.inode entry.listed member)
  rw [armed_listed sound member]
  exact fun slot used wanted => sound.kept.hooked entry.listed member slot used wanted

/-- The table once an entry has been restored and taken out. -/
def Table.without (table : Table) (entry : Entry) : Table :=
  (table.update entry.id fun other => { other with installed := false }).retire entry.id

theorem takeOut_runs (sound : Sound initial world) (entry : Entry)
    (member : entry.listed ∈ world.table.listing) :
    ∃ pokes later, on (takeOut entry) world = (.ok (.ok pokes), later) ∧
      Written world
        (freeAll (sharers entry.id world.table.listing) entry.saved world.memory.content)
        (world.table.without entry) later := by
  obtain ⟨pokes, restored, ran, written⟩ :=
    restoreEntry_on world (sound.kept.inode entry.listed member)
  have lifted : on (ExceptT.lift (restoreEntry entry).run : Change (Except PatchError Nat)) world =
      (.ok (.ok pokes), restored) := by simp [ran]
  refine ⟨pokes, { restored with table := restored.table.retire entry.id }, ?_, written.content, ?_,
    written.isSealed⟩
  · simp only [takeOut, on_bind_ok lifted, on_modify_bind, on_pure]
  · rw [written.table, Table.without]

theorem without_nextId (table : Table) (entry : Entry) :
    (table.without entry).nextId = table.nextId := by
  rw [Table.without, retire_nextId, update_nextId]

theorem listing_without (table : Table) (entry : Entry) :
    (table.without entry).listing = table.listing.filter (·.id != entry.id) := by
  have kept : (table.update entry.id fun other => { other with installed := false }).listing =
      table.listing := listing_update_counts fun _ _ _ => rfl
  rw [Table.without, listing_retire, kept]

theorem entries_without {table : Table} {entry : Entry} (member : entry.listed ∈ table.listing) :
    (table.without entry).entries = (table.remove entry.id).entries := by
  obtain ⟨own, inside, same⟩ := List.mem_map.mp member
  have numbers : own.id = entry.id := congrArg Listed.id same
  have there : { own with installed := false } ∈
      (table.update entry.id fun other => { other with installed := false }).entries :=
    List.mem_map.mpr ⟨own, inside, by rw [if_pos numbers]⟩
  rw [Table.without, retire_entries there numbers]
  exact remove_update fun _ _ own => own

theorem takeOut_on (sound : Sound initial world) (entry : Entry)
    (member : entry.listed ∈ world.table.listing) :
    ∃ pokes later, on (takeOut entry) world = (.ok (.ok pokes), later) ∧
      Left entry.listed world later := by
  obtain ⟨pokes, later, ran, written⟩ := takeOut_runs sound entry member
  have left := Turned.of_written written (without_nextId world.table entry)
  rw [listing_without] at left
  exact ⟨pokes, later, ran, left, by rw [written.table, entries_without member]; rfl⟩

theorem announced_listing (world : World) (request : Request) (saved : Saved) :
    (world.announced request saved).table.listing =
      world.table.listing ++ [⟨world.table.nextId, request.fsType, saved, false⟩] := by
  rw [World.announced, listing_publish, List.map_append]
  rfl

theorem amend_last {listing : List Listed} {nextId : Nat} (numbered : Numbered nextId listing)
    (fsType : String) (first second : Saved) :
    amend nextId second (listing ++ [⟨nextId, fsType, first, false⟩]) =
      listing ++ [⟨nextId, fsType, second, false⟩] := by
  have kept : amend nextId second listing = listing := by
    refine (List.map_congr_left ?_).trans (List.map_id listing)
    intro other inside
    have below := numbered.below other inside
    have different : other.id ≠ nextId := by omega
    rw [if_neg different]
    rfl
  rw [amend, List.map_append, ← amend, kept]
  simp

/-- A fresh installation is that of the announced entry. -/
theorem installFresh_runs (sound : Sound initial world) (request : Request) {saved : Saved}
    (prepared : Prepared (world.table.listing.map (·.saved)) world.memory.content request saved)
    (genuine : ∀ hook : Hook, saved.original hook ≠ hook.addr) :
    ∃ pokes later, on (installFresh request saved) world = (.ok (.installed pokes), later) ∧
      Written world (hookAll (armed saved) world.memory.content) (world.admitted request saved)
        later := by
  have ready := prepared_ready sound.kept prepared genuine
  obtain ⟨pokes, hooked, ran, written⟩ := install_ready
    (show (request.entry world.table.nextId saved).saved.iOps.isSome = true by
      simp [Request.entry, prepared.iOps])
    (show AllReady (armed (request.entry world.table.nextId saved).saved)
      (world.announced request saved).memory.content from ready)
  have lifted : on (ExceptT.lift (install (request.entry world.table.nextId saved)).run :
      Change (Except PatchError Nat)) (world.announced request saved) = (.ok (.ok pokes), hooked) := by
    simp [ran]
  refine ⟨pokes, { hooked with table := world.admitted request saved }, ?_, written.content, rfl,
    written.isSealed⟩
  unfold installFresh
  simp only [on_get_bind, on_modify_bind]
  rw [← Request.entry, ← World.announced, on_bind_ok lifted]
  simp only [on_modify_bind, on_pure, written.table, World.admitted]

theorem listing_admitted (sound : Sound initial world) (request : Request) {saved : Saved}
    (unasked : saved.lookupHooked = false) :
    (world.admitted request saved).listing =
      world.table.listing ++ [⟨world.table.nextId, request.fsType, armed saved, false⟩] := by
  have counted : (world.admitted request saved).listing =
      ((world.announced request saved).table.arm
        (request.entry world.table.nextId saved)).listing :=
    listing_update_counts fun _ _ _ => rfl
  rw [counted, listing_arm, announced_listing]
  by_cases files : saved.fOps.isSome = true
  · have same : armed saved = saved := by
      rw [armed, Option.isNone_eq_false_iff.mpr files, ← unasked]
    rw [if_pos (show (request.entry _ saved).saved.fOps.isSome = true from files), same]
  · rw [if_neg (show ¬ (request.entry _ saved).saved.fOps.isSome = true from files)]
    exact amend_last sound.numbered _ _ _

theorem installFresh_on (sound : Sound initial world) (request : Request) {saved : Saved}
    (prepared : Prepared (world.table.listing.map (·.saved)) world.memory.content request saved)
    (genuine : ∀ hook : Hook, saved.original hook ≠ hook.addr) :
    ∃ pokes later, on (installFresh request saved) world = (.ok (.installed pokes), later) ∧
      Installed request saved world later := by
  obtain ⟨pokes, later, ran, written⟩ := installFresh_runs sound request prepared genuine
  refine ⟨pokes, later, ran, prepared, genuine, written.content, ?_, ?_, written.isSealed,
    by rw [written.table]⟩
  · rw [written.table, listing_admitted sound request prepared.unasked]
  · rw [written.table, World.admitted, update_nextId, arm_nextId]
    rfl

/-! ### Operations -/

theorem publishAll_on (world : World) :
    ∃ later, on publishAll world = (.ok (), later) ∧
      Turned world world.memory.content world.table.listing later :=
  ⟨_, rfl, rfl, listing_publish world.table world.table.entries, rfl, rfl⟩

theorem addUses_on (id uses : Nat) (world : World) :
    ∃ later, on (addUses id uses) world = (.ok (), later) ∧
      Turned world world.memory.content world.table.listing later :=
  ⟨_, rfl, rfl, listing_update_counts fun _ _ _ => rfl, rfl, rfl⟩

theorem turned_trans {middle : World} {content : Slot → Addr} {listing : List Listed}
    (first : Turned world content listing middle)
    (second : Turned middle middle.memory.content middle.table.listing later) :
    Turned world content listing later :=
  ⟨second.content.trans first.content, second.listing.trans first.listing,
    second.nextId.trans first.nextId, second.isSealed.trans first.isSealed⟩

/-- What follows a repatch without touching slots or listing leaves it a
repatch. -/
theorem repatched_after {middle : World} {listed : Listed} {regular : Option Inode}
    (repatched : Repatched initial world listed regular middle)
    (second : Turned middle middle.memory.content middle.table.listing later) :
    Repatched initial world listed regular later := by
  cases repatched with
  | settled filed turned => exact .settled filed (turned_trans turned second)
  | promoted unfiled turned => exact .promoted unfiled (turned_trans turned second)
  | reread unfiled used turned => exact .reread unfiled used (turned_trans turned second)

/-- Leaving the unprotected region touches neither slots nor table. -/
theorem turned_closed (world : World) :
    Turned world world.memory.content world.table.listing world.closed := ⟨rfl, rfl, rfl, rfl⟩

/-- An unprotected region in which nothing happens changes nothing. -/
theorem region_idle (world : World) : world.opened.closed = world := rfl

theorem turned_opened {content : Slot → Addr} {listing : List Listed}
    (turned : Turned world.opened content listing later) : Turned world content listing later :=
  ⟨turned.content, turned.listing, turned.nextId, turned.isSealed⟩

theorem sound_opened (sound : Sound initial world) : Sound initial world.opened :=
  ⟨sound.kept, sound.numbered⟩

theorem repatched_opened {listed : Listed} {regular : Option Inode}
    (repatched : Repatched initial world.opened listed regular later) :
    Repatched initial world listed regular later := by
  cases repatched with
  | settled filed turned => exact .settled filed (turned_opened turned)
  | promoted unfiled turned => exact .promoted unfiled (turned_opened turned)
  | reread unfiled used turned => exact .reread unfiled used (turned_opened turned)

theorem processMount_known (clean : Clean initial) (sound : Sound initial world)
    (writable : world.memory.isSealed = false) {request : Request} {entry : Entry}
    (found : world.table.entry? request.fsType = some entry) :
    Repatched initial world entry.listed (regularOf request.regular)
      (on (processMount request) world).2 := by
  obtain ⟨member, _⟩ := entry_listed found
  obtain ⟨pokes, first, ranFirst, repatched⟩ :=
    repatch_on clean (sound_opened sound) entry member request.regular
  obtain ⟨second, ranSecond, counted⟩ := addUses_on entry.id request.uses first
  obtain ⟨last, ranLast, published⟩ := publishAll_on second
  have found' : world.opened.table.entry? request.fsType = some entry := found
  rw [processMount, unprotected_on _ writable]
  simp only [on_get_bind, found', on_bind_ok ranFirst, on_bind_ok ranSecond, on_bind_ok ranLast,
    on_pure]
  exact repatched_after (repatched_after (repatched_after (repatched_opened repatched) counted)
    published) (turned_closed last)

theorem processMount_installs (sound : Sound initial world)
    (writable : world.memory.isSealed = false) {request : Request} {saved : Saved}
    (missing : world.table.entry? request.fsType = none)
    (taken : prepare (world.table.listing.map (·.saved)) request world.memory = .ok saved) :
    Installed request saved world (on (processMount request) world).2 := by
  obtain ⟨prepared, genuine⟩ := prepare_prepared taken
  obtain ⟨pokes, last, ran, installed⟩ :=
    installFresh_on (sound_opened sound) request prepared genuine
  have missing' : world.opened.table.entry? request.fsType = none := missing
  have taken' : prepare (world.opened.table.entries.map (·.saved)) request world.opened.memory =
      .ok saved := by
    rw [saved_listing]
    exact taken
  rw [processMount, unprotected_on _ writable]
  simp only [on_get_bind, missing', taken', ran]
  exact ⟨prepared, genuine, installed.content, installed.listing, installed.nextId,
    installed.isSealed, installed.entries⟩

theorem processMount_refuses (writable : world.memory.isSealed = false) {request : Request}
    {error : PatchError} (missing : world.table.entry? request.fsType = none)
    (refused : prepare (world.table.listing.map (·.saved)) request world.memory = .error error) :
    (on (processMount request) world).2 = world := by
  have missing' : world.opened.table.entry? request.fsType = none := missing
  have refused' : prepare (world.opened.table.entries.map (·.saved)) request world.opened.memory =
      .error error := by
    rw [saved_listing]
    exact refused
  rw [processMount, unprotected_on _ writable]
  simp only [on_get_bind, missing', refused', on_throw]
  exact region_idle world

theorem repatchWithRegular_known (clean : Clean initial) (sound : Sound initial world)
    (writable : world.memory.isSealed = false) {fsType : String} (inode : Inode) {entry : Entry}
    (found : world.table.entry? fsType = some entry) :
    Repatched initial world entry.listed (regularOf (some inode))
      (on (repatchWithRegular fsType inode) world).2 := by
  obtain ⟨member, _⟩ := entry_listed found
  obtain ⟨pokes, first, ranFirst, repatched⟩ :=
    repatch_on clean (sound_opened sound) entry member (some inode)
  obtain ⟨last, ranLast, published⟩ := publishAll_on first
  have found' : world.opened.table.entry? fsType = some entry := found
  rw [repatchWithRegular, unprotected_on _ writable]
  simp only [on_get_bind, found', on_bind_ok ranFirst, on_bind_ok ranLast, on_pure]
  exact repatched_after (repatched_after (repatched_opened repatched) published)
    (turned_closed last)

theorem repatchWithRegular_unknown (writable : world.memory.isSealed = false) {fsType : String}
    (inode : Inode) (missing : world.table.entry? fsType = none) :
    (on (repatchWithRegular fsType inode) world).2 = world := by
  have missing' : world.opened.table.entry? fsType = none := missing
  rw [repatchWithRegular, unprotected_on _ writable]
  simp only [on_get_bind, missing', on_throw]
  exact region_idle world

/-- A type that is listed is hooked already, so that reinstalling it changes no
slot and no entry. -/
theorem reinstall_known (sound : Sound initial world) (writable : world.memory.isSealed = false)
    {fsType : String} {entry : Entry} (found : world.table.entry? fsType = some entry) :
    on (reinstall fsType) world = (.ok 0, { world with table := world.table.arm entry }) := by
  have found' : world.opened.table.entry? fsType = some entry := found
  have ran := install_again (sound_opened sound) entry (entry_listed found).1
  rw [reinstall, unprotected_on _ writable]
  simp only [on_get_bind, found', ran]
  rfl

theorem reinstall_unknown (writable : world.memory.isSealed = false) {fsType : String}
    (missing : world.table.entry? fsType = none) : (on (reinstall fsType) world).2 = world := by
  have missing' : world.opened.table.entry? fsType = none := missing
  rw [reinstall, unprotected_on _ writable]
  simp only [on_get_bind, missing', on_throw]
  exact region_idle world

theorem reinstall_on (sound : Sound initial world) (writable : world.memory.isSealed = false)
    (fsType : String) :
    Turned world world.memory.content world.table.listing (on (reinstall fsType) world).2 := by
  cases found : world.table.entry? fsType with
  | none => exact .of_eq (reinstall_unknown writable found)
  | some entry =>
      have same := arm_entries sound (entry_listed found).1
      rw [reinstall_known sound writable found]
      exact ⟨rfl, congrArg (List.map Entry.listed) same, arm_nextId _ _, rfl⟩

/-! ### Departures -/

/-- Whoever leaves within an unprotected region has left after it. -/
theorem left_region {listed : Listed} (left : Left listed world.opened later) :
    Left listed world later.closed :=
  ⟨turned_trans (turned_opened left.toTurned) (turned_closed later), left.entries⟩

/-- The world in which an entry has dropped some of its uses. -/
def World.dropping (world : World) (entry : Entry) (count : Nat) : World :=
  { world with table := world.table.update entry.id fun _ => entry.dropUses count }

theorem dropping_turned (sound : Sound initial world) {entry : Entry}
    (member : entry.listed ∈ world.table.listing) (count : Nat) :
    Turned world world.memory.content world.table.listing (world.dropping entry count) := by
  refine ⟨rfl, ?_, rfl, rfl⟩
  apply listing_update_counts
  intro other inside same
  have listed : other.listed ∈ world.table.listing := List.mem_map_of_mem inside
  exact (numbered_unique sound.numbered listed member same).symm

theorem releaseMount_drops (writable : world.memory.isSealed = false) {fsType : String}
    {count : Nat} {entry : Entry} (found : world.table.entry? fsType = some entry)
    (stays : count < entry.uses.toNat ∨ count = 0) :
    on (releaseMount fsType count) world =
      (.ok (.released (entry.uses.toNat - count), none), world.dropping entry count) := by
  have found' : world.opened.table.entry? fsType = some entry := found
  have kept : 0 < (entry.dropUses count).uses.toNat ∨ count = 0 := stays.imp_left Entry.dropUses_pos.mpr
  rw [releaseMount, unprotected_on _ writable]
  simp only [on_get_bind, found', on_modify_bind, if_pos kept, on_pure]
  rw [Entry.dropUses_uses]
  rfl

theorem releaseMount_counts (sound : Sound initial world)
    (writable : world.memory.isSealed = false) {fsType : String} {count : Nat} {entry : Entry}
    (found : world.table.entry? fsType = some entry) (stays : count < entry.uses.toNat ∨ count = 0) :
    Turned world world.memory.content world.table.listing
      (on (releaseMount fsType count) world).2 := by
  rw [releaseMount_drops writable found stays]
  exact dropping_turned sound (entry_listed found).1 count

theorem releaseMount_leaves (sound : Sound initial world)
    (writable : world.memory.isSealed = false) {fsType : String} {count : Nat} {entry : Entry}
    (found : world.table.entry? fsType = some entry)
    (leaves : ¬ (count < entry.uses.toNat ∨ count = 0)) :
    Left entry.listed world (on (releaseMount fsType count) world).2 := by
  have found' : world.opened.table.entry? fsType = some entry := found
  have drained : ¬ (0 < (entry.dropUses count).uses.toNat ∨ count = 0) :=
    fun kept => leaves (kept.imp_left Entry.dropUses_pos.mp)
  have dropped := dropping_turned (sound_opened sound) (entry_listed found).1 count
  -- Dropping uses does not show in the listing, so the entry leaves as it was listed.
  have listing : (world.opened.dropping entry count).table.listing = world.table.listing :=
    dropped.listing
  have soundDropped : Sound initial (world.opened.dropping entry count) :=
    sound_turned dropped sound.kept sound.numbered
  obtain ⟨pokes, last, ran, left⟩ := takeOut_on soundDropped (entry.dropUses count)
    (listing ▸ (entry_listed found).1)
  have gone : Left entry.listed world.opened last := by
    refine ⟨⟨?_, ?_, left.nextId, left.isSealed⟩, ?_⟩
    · rw [left.content, listing]
      rfl
    · rw [left.listing, listing]
      rfl
    · rw [left.entries]
      exact remove_update fun _ _ _ => rfl
  rw [releaseMount, unprotected_on _ writable]
  simp only [on_get_bind, found', on_modify_bind, if_neg drained]
  rw [← World.dropping, on_discard_bind ran, on_pure]
  exact left_region gone

theorem releaseMount_unknown (writable : world.memory.isSealed = false) {fsType : String}
    (count : Nat) (missing : world.table.entry? fsType = none) :
    on (releaseMount fsType count) world = (.ok (.notTracked, none), world) := by
  have missing' : world.opened.table.entry? fsType = none := missing
  rw [releaseMount, unprotected_on _ writable]
  simp only [on_get_bind, missing', on_pure]
  rw [region_idle]

theorem restore_known (sound : Sound initial world) (writable : world.memory.isSealed = false)
    {fsType : String} {entry : Entry} (found : world.table.entry? fsType = some entry) :
    Left entry.listed world (on (restore fsType) world).2 := by
  have found' : world.opened.table.entry? fsType = some entry := found
  obtain ⟨pokes, last, ran, left⟩ := takeOut_on (sound_opened sound) entry (entry_listed found).1
  rw [restore, unprotected_on _ writable]
  simp only [on_get_bind, found', on_bind_ok ran, on_pure]
  exact left_region left

theorem restore_unknown (writable : world.memory.isSealed = false) {fsType : String}
    (missing : world.table.entry? fsType = none) :
    on (restore fsType) world = (.error (.notPatched fsType), world) := by
  have missing' : world.opened.table.entry? fsType = none := missing
  rw [restore, unprotected_on _ writable]
  simp only [on_get_bind, missing', on_throw]
  rw [region_idle]

theorem purgeFirst_leaves (sound : Sound initial world) (writable : world.memory.isSealed = false)
    {entry : Entry} (first : world.table.entries.head? = some entry) :
    Left entry.listed world (on purgeFirst world).2 := by
  obtain ⟨rest, entries⟩ := List.head?_eq_some_iff.mp first
  have member : entry.listed ∈ world.table.listing := by
    simp [Table.listing, entries]
  have entries' : world.opened.table.entries = entry :: rest := entries
  obtain ⟨pokes, last, ran, left⟩ := takeOut_on (sound_opened sound) entry member
  rw [purgeFirst, unprotected_on _ writable]
  simp only [on_get_bind, entries', on_discard_bind ran, on_pure]
  exact left_region left

theorem purgeFirst_empty (writable : world.memory.isSealed = false)
    (empty : world.table.entries = []) : on purgeFirst world = (.ok none, world) := by
  have empty' : world.opened.table.entries = [] := empty
  rw [purgeFirst, unprotected_on _ writable]
  simp only [on_get_bind, empty', on_pure]
  rw [region_idle]

end Interception.Patch
