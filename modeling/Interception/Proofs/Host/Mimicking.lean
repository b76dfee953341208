import Interception.Proofs.Host.Shadowing

/-!
Files opened and closed in a hooked kernel. Whatever slot a call comes to, it
holds what it held at first or a hook; whoever comes to the hook finds what
the slot held at first, which is never missing, and ends there. So the way
through the hooks ends at the very function that the shadow calls at once.
-/

namespace Interception.Host

open Syscall Patch

variable {Value : Type} {origin : Kernel} {attended : Prop} {held : Option Nat} {host : Host}
  {point : MountPoint}

/-! ### What is behind a hook -/

theorem fileHook_genuine (pristine : Pristine origin) (tended : Tended origin host)
    {table : FileTable} {hook : Hook} (file : fileHook hook)
    (hooked : host.kernel.load (table.slot hook) = hook.addr) :
    ∃ entry, host.table.byFileTable? table = some entry ∧
      entry.saved.original hook = origin.load (table.slot hook) ∧
      origin.load (table.slot hook) ≠ Addr.null := by
  have law : FileLaw origin.memory.content host.world table :=
    fileLaw_kept pristine.clean tended.watched.sound.kept table
  -- An entry that uses the table knows whose it is, so the slot was not empty.
  obtain ⟨user, inside, uses⟩ := (law.hooked hook file).mp hooked
  obtain ⟨driver, member, rfl⟩ := tended.filed user.listed (List.mem_map_of_mem inside) table uses
  obtain ⟨entry, found, _, genuine⟩ := law.found hook file hooked
  exact ⟨entry, found, genuine, pristine.separate.files driver member hook file⟩

/-- Atomic opens and revalidations are hooked only where an entry has saved
something. -/
theorem hooked_filled (pristine : Pristine origin) (tended : Tended origin host) {slot : Slot}
    (optional : slot.hook = .atomicOpen ∨ slot.hook = .revalidate)
    (hooked : host.kernel.load slot = slot.hook.addr) : origin.load slot ≠ Addr.null := by
  have kept := tended.watched.sound.kept
  have settled : ¬ lookupHook slot.hook := by
    rcases optional with same | same <;> simp [same, lookupHook]
  obtain ⟨entry, inside, uses, wanted⟩ := hooked_wanted pristine.clean kept slot settled hooked
  have saved := entry_settled kept inside slot settled uses
  rw [Kernel.load, ← saved]
  rcases optional with same | same <;> simpa [same, Saved.wants, Saved.original] using wanted

theorem inodeHook_genuine (pristine : Pristine origin) (tended : Tended origin host)
    {table : InodeTable} {hook : Hook} (inode : inodeHook hook)
    (hooked : host.kernel.load (table.slot hook) = hook.addr) (fsType : String) :
    ∃ user, Table.byInodeTable? table fsType host.table.entries = some user ∧
      user.original hook = origin.load (table.slot hook) ∧
      origin.load (table.slot hook) ≠ Addr.null := by
  have sound := tended.watched.sound
  have atomic : HookLaw origin.memory.content host.world.memory.content host.world.table.listing
      table .atomicOpen :=
    (inodeLaw_iff sound (.inr (.inr rfl))).mp (atomicOpen_lawful pristine.clean sound table)
  have lookups (lookup : lookupHook hook) :
      HookLaw origin.memory.content host.world.memory.content host.world.table.listing table hook ∧
        origin.load (table.slot hook) ≠ Addr.null := by
    have law := tended.orderly.law table hook lookup
    obtain ⟨listed, member, uses⟩ := law.used hooked
    exact ⟨law, listed_filled pristine.separate tended.watched member uses lookup⟩
  have both : HookLaw origin.memory.content host.world.memory.content host.world.table.listing
      table hook ∧ origin.load (table.slot hook) ≠ Addr.null := by
    rcases inode with rfl | rfl | rfl
    · exact lookups (.inl rfl)
    · exact lookups (.inr rfl)
    · exact ⟨atomic, hooked_filled pristine tended (.inl rfl) hooked⟩
  obtain ⟨user, found, genuine⟩ := hookLaw_found inode both.1 hooked fsType
  exact ⟨user, found, genuine, both.2⟩

theorem dentryHook_genuine (pristine : Pristine origin) (tended : Tended origin host)
    {table : DentryTable}
    (hooked : host.kernel.load (table.slot .revalidate) = Hook.revalidate.addr)
    (fsType : String) :
    ∃ user, Table.byDentryTable? table fsType host.table.entries = some user ∧
      user.revalidate = origin.load (table.slot .revalidate) ∧
      origin.load (table.slot .revalidate) ≠ Addr.null := by
  have kept := tended.watched.sound.kept
  have law : DentryLaw origin.memory.content host.world table :=
    dentryLaw_kept pristine.clean kept table
  obtain ⟨user, found, genuine⟩ := law.found hooked fsType
  exact ⟨user, found, genuine, hooked_filled pristine tended (.inr rfl) hooked⟩

/-! ### Hooks -/

/-- A file that turns up changes nothing the shadow knows. -/
theorem mimics_passOn (pristine : Pristine origin) (fit : Fit origin attended held host)
    {entry : Option Nat} {genuine : Addr} {missing : Syscall Host Value}
    {step : Kernel → Except Errno Value × Kernel} {found : Value → Option Inode}
    (present : genuine ≠ Addr.null) (fetches : Fetches origin step found host.kernel) :
    Mimics origin attended held (passOn entry genuine missing step found) (native step) host := by
  have stepped : Fit origin attended held { host with kernel := (step host.kernel).2 } :=
    fit_kernel fit fetches.furnished fetches.stays
  unfold Mimics
  rw [passOn_on present, native_shadow fetches.neutral]
  cases answered : (step host.kernel).1 with
  | error errno => exact ⟨_, .error errno, rfl, rfl, stepped⟩
  | ok value =>
      cases here : found value with
      | none =>
          simp only [here]
          exact ⟨_, .ok value, rfl, rfl, stepped⟩
      | some inode =>
          simp only [here]
          obtain ⟨fsType, bears⟩ := fetches.bears value inode answered here
          obtain ⟨after, ran, kept, counts⟩ := repatchSeen_tends pristine.clean pristine.separate
            stepped.tended entry (bears_filed fit.tended.watched bears)
          rw [ran]
          exact ⟨_, .ok value, rfl, rfl,
            fit_inWorld kept (inUse_counts stepped.inUse counts) stepped.lenient⟩

theorem mimics_throughInode (pristine : Pristine origin) (fit : Fit origin attended none host)
    {dir : Inode} {hook : Hook} (inode : inodeHook hook)
    (hooked : host.kernel.load (dir.iOp.slot hook) = hook.addr) {label : String}
    {genuine : Table.InodeMatch → Addr} (reads : ∀ user, genuine user = user.original hook)
    {step : Addr → Kernel → Except Errno Value × Kernel} {found : Value → Option Inode}
    (fetches : ∀ target, Fetches origin (step target) found host.kernel) :
    Mimics origin attended none (throughInode label dir genuine step found)
      (native (step (origin.load (dir.iOp.slot hook)))) host := by
  obtain ⟨user, same, first, present⟩ :=
    inodeHook_genuine pristine fit.tended inode hooked dir.fsType
  have same' : Table.byInodeTable? dir.iOp dir.fsType (host.entered label).table.entries =
      some user := same
  apply mimics_gated
  apply mimics_read
  simp only [same']
  apply mimics_holding (fit_entered fit label)
  intro held later kept kernel
  rw [(reads user).trans first]
  exact mimics_passOn pristine kept present (kernel ▸ fetches _)

theorem mimics_hookRevalidate (pristine : Pristine origin) (fit : Fit origin attended none host)
    {path : String} {inode : Inode} {dOp : DentryTable}
    (bears : ∃ fsType, host.kernel.Bears fsType inode)
    (hooked : host.kernel.load (dOp.slot .revalidate) = Hook.revalidate.addr) :
    Mimics origin attended none (hookRevalidate ⟨path, some inode, dOp⟩)
      (native (·.nativeRevalidate (origin.load (dOp.slot .revalidate)))) host := by
  obtain ⟨user, same, first, present⟩ :=
    dentryHook_genuine pristine fit.tended hooked inode.fsType
  have same' : Table.byDentryTable? dOp inode.fsType
      (host.entered Hook.revalidate.slotName).table.entries = some user := same
  apply mimics_gated
  apply mimics_read
  simp only [dentryType, same']
  apply mimics_holding (fit_entered fit _)
  intro held later kept kernel
  show Mimics origin attended held (passOn user.entry user.revalidate (pure true)
    (fun kernel => kernel.nativeRevalidate user.revalidate) fun _ => some inode) _ later
  rw [first]
  apply mimics_passOn pristine kept present
  apply nativeRevalidate_fetches kept.tended.watched.furnished
  rintro file ⟨⟩
  exact kernel ▸ bears

/-- An event that may be examined on the way. -/
theorem mimics_consulted (fit : Fit origin attended held host) {asked : Bool}
    {consult rest ghost : Syscall Host Unit}
    (consulted : asked = true → Unseen origin attended held consult host)
    (after : ∀ later, Fit origin attended held later →
      Mimics origin attended held rest ghost later) :
    Mimics origin attended held (if asked then do consult; rest else rest) ghost host := by
  cases asked with
  | false => exact after host fit
  | true => exact mimics_after (consulted rfl) fun later _ _ _ kept => after later kept

theorem mimics_hookOpen (pristine : Pristine origin) (fit : Fit origin attended none host)
    (caller : Caller) (task : Personality) (inode : Inode) (file : OpenFile)
    (hooked : host.kernel.load (inode.fOp.slot .openFile) = Hook.openFile.addr) :
    Mimics origin attended none (hookOpen caller task inode file)
      (native (·.nativeOpen (origin.load (inode.fOp.slot .openFile)))) host := by
  obtain ⟨entry, found, first, present⟩ := fileHook_genuine pristine fit.tended (.inl rfl) hooked
  have found' : (host.entered Hook.openFile.slotName).table.byFileTable? inode.fOp = some entry :=
    found
  have genuine : entry.saved.openFile = origin.load (inode.fOp.slot .openFile) := first
  apply mimics_gated
  apply mimics_read
  simp only [found']
  apply mimics_holding (fit_entered fit _)
  intro held later kept _
  apply mimics_read
  apply mimics_consulted kept (fun examined => examine_unseen kept examined task _)
  intro last open'
  rw [genuine, if_neg present]
  exact mimics_native open' (nativeOpen_fetches open'.tended.watched.furnished _)

theorem mimics_hookRelease (pristine : Pristine origin) (fit : Fit origin attended none host)
    (caller : Caller) (task : Personality) (inode : Inode) (file : OpenFile)
    (hooked : host.kernel.load (inode.fOp.slot .release) = Hook.release.addr) :
    Mimics origin attended none (hookRelease caller task inode file)
      (native (·.nativeRelease (origin.load (inode.fOp.slot .release)))) host := by
  obtain ⟨entry, found, first, present⟩ := fileHook_genuine pristine fit.tended (.inr rfl) hooked
  have found' : (host.entered Hook.release.slotName).table.byFileTable? inode.fOp = some entry :=
    found
  have genuine : entry.saved.release = origin.load (inode.fOp.slot .release) := first
  apply mimics_gated
  apply mimics_read
  simp only [found']
  apply mimics_holding (fit_entered fit _)
  intro held later kept _
  apply mimics_read
  apply mimics_consulted kept
    (fun examined => ignoringFailure_unseen (examine_unseen kept examined task _))
  intro last closed
  rw [genuine, if_neg present]
  exact mimics_native closed (nativeRelease_fetches closed.tended.watched.furnished _)

/-! ### Slots -/

theorem dispatch_unaltered (pristine : Pristine origin) (fit : Fit origin attended none host)
    {slot : Slot} {hooked : Syscall Host Value}
    {plain : Addr → Kernel → Except Errno Value × Kernel}
    {found : Value → Option Inode}
    (fetches : ∀ target, Fetches origin (plain target) found host.kernel)
    (inside : host.kernel.load slot = slot.hook.addr →
      Mimics origin attended none hooked (native (plain (origin.load slot))) host) :
    Unaltered origin attended (dispatch slot hooked plain) host := by
  have genuine : origin.load slot ≠ slot.hook.addr := pristine.clean slot
  have bare : on (dispatch slot hooked plain) (host.shadow origin) =
      on (native (plain (origin.load slot))) (host.shadow origin) := by
    have same : (host.shadow origin).kernel.load slot = origin.load slot := rfl
    rw [dispatch, on_get_bind]
    simp only [same, if_neg genuine]
  unfold Unaltered Mimics
  rw [bare, dispatch, on_get_bind]
  by_cases here : host.kernel.load slot = slot.hook.addr
  · simp only [here, if_true, fit_attached pristine fit]
    exact inside here
  · have initial : host.kernel.load slot = origin.load slot :=
      (fit.tended.watched.sound.kept.either slot).resolve_right here
    simp only [initial, if_neg genuine]
    exact mimics_native fit (fetches _)

theorem dispatchLookup_unaltered (pristine : Pristine origin) (fit : Fit origin attended none host)
    {dir : Inode} (places : host.kernel.Places dir) (name : String) :
    Unaltered origin attended (dispatchLookup dir name) host := by
  have fetches (target : Addr) :
      Fetches origin (·.nativeLookup target dir name) id host.kernel :=
    nativeLookup_fetches fit.tended.watched.furnished places target name
  apply dispatch_unaltered pristine fit fetches
  intro hooked
  rw [hookLookup_through]
  exact mimics_throughInode pristine fit (.inl rfl) hooked (fun _ => rfl) fetches

/-- A directory opens atomically in the shadow if it does so behind the hooks. -/
theorem atomic_absent (pristine : Pristine origin) (fit : Fit origin attended held host)
    (dir : Inode) :
    host.kernel.load (dir.iOp.slot .atomicOpen) = Addr.null ↔
      origin.load (dir.iOp.slot .atomicOpen) = Addr.null := by
  rcases fit.tended.watched.sound.kept.either (dir.iOp.slot .atomicOpen) with same | hooked
  · have initial : host.kernel.load (dir.iOp.slot .atomicOpen) =
        origin.load (dir.iOp.slot .atomicOpen) := same
    rw [initial]
  · have here : host.kernel.load (dir.iOp.slot .atomicOpen) = Hook.atomicOpen.addr := hooked
    obtain ⟨_, _, _, present⟩ :=
      inodeHook_genuine pristine fit.tended (.inr (.inr rfl)) here dir.fsType
    have filled : Hook.atomicOpen.addr ≠ Addr.null := by decide
    simp [here, filled, present]

theorem dispatchCreate_unaltered (pristine : Pristine origin) (fit : Fit origin attended none host)
    {dir : Inode} (places : host.kernel.Places dir) (name : String) :
    Unaltered origin attended (dispatchCreate dir name) host := by
  have furnished := fit.tended.watched.furnished
  have creates (target : Addr) :
      Fetches origin (·.nativeCreate target dir name) some host.kernel :=
    nativeCreate_fetches furnished places target name
  have opens (target : Addr) :
      Fetches origin (·.nativeAtomicOpen target dir name) some host.kernel :=
    nativeAtomicOpen_fetches furnished places target name
  have same : (host.shadow origin).kernel.load (dir.iOp.slot .atomicOpen) =
      origin.load (dir.iOp.slot .atomicOpen) := rfl
  apply mimics_get
  simp only [same, atomic_absent pristine fit dir]
  by_cases absent : origin.load (dir.iOp.slot .atomicOpen) = Addr.null
  · simp only [absent, if_true]
    apply dispatch_unaltered pristine fit creates
    intro hooked
    rw [hookCreate_through]
    exact mimics_throughInode pristine fit (.inr (.inl rfl)) hooked (fun _ => rfl) creates
  · simp only [if_neg absent]
    apply dispatch_unaltered pristine fit opens
    intro hooked
    rw [hookAtomicOpen_through]
    exact mimics_throughInode pristine fit (.inr (.inr rfl)) hooked (fun _ => rfl) opens

/-! ### The walk -/

theorem revalidateCached_unaltered (pristine : Pristine origin)
    (fit : Fit origin attended none host) {driver : Driver} (base : Base origin driver host point)
    (path rest : String) :
    Unaltered origin attended (revalidateCached point path rest) host := by
  have furnished := fit.tended.watched.furnished
  obtain ⟨mount, inside, _, latest⟩ := base.present
  have cached : (host.shadow origin).kernel.cached point.path rest =
      host.kernel.cached point.path rest := rfl
  apply mimics_get
  rw [cached]
  cases point.dOp with
  | none => exact mimics_pure fit ()
  | some dOp =>
      cases found : host.kernel.cached point.path rest with
      | none => exact mimics_pure fit ()
      | some inode =>
          have bears := Kernel.cached_bears furnished latest found
          have revalidated :
              Unaltered origin attended (dispatchRevalidate ⟨path, some inode, dOp⟩) host := by
            have fetches (target : Addr) :
                Fetches origin (·.nativeRevalidate target) (fun _ => none) host.kernel :=
              nativeRevalidate_fetches furnished target (by simp)
            apply dispatch_unaltered pristine fit fetches
            exact fun hooked => mimics_hookRevalidate pristine fit ⟨_, bears⟩ hooked
          exact mimics_bind revalidated fun _ _ _ kept => mimics_pure kept ()

theorem walkTo_unaltered (pristine : Pristine origin) (fit : Fit origin attended none host)
    {driver : Driver} (base : Base origin driver host point) (path rest : String)
    (flags : UInt32) :
    Unaltered origin attended (walkTo point path rest flags) host := by
  have clean := pristine.clean
  -- The mount stays where it is on the whole way.
  have here (later : Host) (trod : Trod origin True driver point.fsType host later) :
      Directory origin driver later point.root ∧ point.root.fsType = point.fsType := by
    obtain ⟨mount, inside, same, _⟩ := base.present
    obtain ⟨other, there, kept⟩ := trod.points mount inside
    exact directory_root (trod.watched fit.tended.watched) base.known
      ⟨other, there, kept.trans same⟩
  unfold walkTo
  by_cases root : rest = ""
  · rw [if_pos root]
    exact mimics_pure fit point.root
  rw [if_neg root]
  apply mimics_bind (revalidateCached_unaltered pristine fit base path rest)
  intro second _ ranFirst fitSecond
  obtain ⟨_, _, revalidated, trodFirst, _⟩ :=
    revalidateCached_discovers clean fit.tended.watched base path rest
  cases ranFirst.symm.trans revalidated
  obtain ⟨directory, type⟩ := here second trodFirst
  apply mimics_bind (dispatchLookup_unaltered pristine fitSecond directory.places rest)
  intro third answer ranSecond fitThird
  cases answer with
  | some inode => exact mimics_pure fitThird inode
  | none =>
      obtain ⟨_, _, looked, trodSecond, _⟩ :=
        dispatchLookup_discovers clean fitSecond.tended.watched directory rest
      cases ranSecond.symm.trans looked
      obtain ⟨directory', _⟩ := here third (trodFirst.trans (type ▸ trodSecond))
      by_cases creating : createFlag flags = true
      · simp only [creating, if_true]
        exact dispatchCreate_unaltered pristine fitThird directory'.places rest
      · simp only [creating]
        exact mimics_throw fitThird Errno.ENOENT

theorem resolve_unaltered (fit : Fit origin attended none host) (path : String) :
    Unaltered origin attended (resolve path) host :=
  ⟨host, _, resolve_on path host, resolve_on path (host.shadow origin), fit⟩

theorem resolve_base (watched : Watched origin True host) {path rest : String} {later : Host}
    (ran : on (resolve path) host = .done later (.ok (point, rest))) :
    ∃ driver, Base origin driver later point := by
  rw [resolve_on] at ran
  cases resolved : Mounts.resolve path host.kernel.mounts with
  | error reason =>
      rw [resolved] at ran
      cases reason <;> cases ran
  | ok found =>
      rw [resolved] at ran
      cases ran
      exact base_resolved watched resolved

theorem openFile_unaltered (pristine : Pristine origin) (fit : Fit origin attended none host)
    (caller : Caller) (task : Personality) (path : String) (flags : UInt32) :
    Unaltered origin attended (openFile caller task path flags) host := by
  apply mimics_bind (resolve_unaltered fit path)
  rintro second ⟨point, rest⟩ resolved fitSecond
  obtain ⟨driver, base⟩ := resolve_base fit.tended.watched resolved
  apply mimics_bind (walkTo_unaltered pristine fitSecond base path rest flags)
  intro third inode _ fitThird
  apply mimics_bind
  · apply dispatch_unaltered pristine fitThird
      (fun target => nativeOpen_fetches fitThird.tended.watched.furnished target)
    exact mimics_hookOpen pristine fitThird caller task inode _
  · intro last _ _ fitLast
    exact mimics_pure fitLast _

theorem closeFile_unaltered (pristine : Pristine origin) (fit : Fit origin attended none host)
    (caller : Caller) (task : Personality) (file : OpenFile) :
    Unaltered origin attended (closeFile caller task file) host := by
  apply dispatch_unaltered pristine fit
    (fun target => nativeRelease_fetches fit.tended.watched.furnished target)
  exact mimics_hookRelease pristine fit caller task file.inode file

end Interception.Host
