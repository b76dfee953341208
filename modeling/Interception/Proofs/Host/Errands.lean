import Interception.Proofs.Host.Walking

/-!
Host calls keep a host watched. Mounts, unmounts, opens and closes may sleep
inside a hook; whatever others do meanwhile, as long as the host is watched
when a call goes on, the call leaves it watched.
-/

namespace Interception.Host

open Syscall Patch

variable {Value : Type} {origin : Kernel} {strays : Prop} {host later : Host}

/-- A call keeps a host watched, sleeping or not. -/
abbrev Safe (origin : Kernel) (strays : Prop) (call : Syscall Host Value) : Prop :=
  Keeps (Watched origin strays) (fun _ => True) call

theorem safe_gated {label : String} {body : Syscall Host Value} (inside : Safe origin strays body) :
    Safe origin strays (gated label body) :=
  keeps_gated (fun _ watched => watched_counted watched rfl rfl rfl)
    (fun _ watched => watched_counted watched rfl rfl rfl) inside

theorem safe_holding {entry : Option Nat} {body : Syscall Host Value}
    (inside : Safe origin strays body) : Safe origin strays (holding entry body) :=
  keeps_holding (fun id host watched => watched_counted watched rfl (listing_acquire host.table id) rfl)
    (fun id host watched => watched_counted watched rfl (listing_release host.table id) rfl) inside

theorem safe_examined (caller : Caller) (task : Personality) (event : Event) :
    Safe origin strays (examineInside caller task event) :=
  examine_keeps watched_blind _ task event

theorem nativeOpen_stays (target : Addr) (kernel : Kernel) :
    (kernel.Furnished → (kernel.nativeOpen target).2.Furnished) ∧
      Kernel.Stays kernel (kernel.nativeOpen target).2 := by
  unfold Kernel.nativeOpen
  split
  · exact ⟨fun furnished => Kernel.furnished_unmoved furnished rfl rfl rfl, rfl, rfl, rfl, rfl, rfl⟩
  · exact ⟨id, Kernel.Stays.refl kernel⟩

theorem nativeRelease_tame (target : Addr) (kernel : Kernel) :
    Kernel.Tame kernel (kernel.nativeRelease target).2 := by
  unfold Kernel.nativeRelease
  split
  · exact Kernel.tame_counted rfl
  · exact Kernel.Tame.refl kernel

theorem safe_nativeOpen (target : Addr) : Safe origin strays (native (·.nativeOpen target)) := by
  refine keeps_native (fun host watched => ?_) fun _ _ _ => trivial
  obtain ⟨furnished, stays⟩ := nativeOpen_stays target host.kernel
  exact watched_same watched (furnished watched.furnished) stays rfl rfl

theorem safe_nativeRelease (target : Addr) :
    Safe origin strays (native (·.nativeRelease target)) := by
  refine keeps_native (fun host watched => ?_) fun _ _ _ => trivial
  have tame := nativeRelease_tame target host.kernel
  exact watched_same watched (tame.furnished watched.furnished) tame.stays rfl rfl

theorem safe_dispatch {slot : Slot} {hooked : Syscall Host Value}
    {plain : Addr → Kernel → Except Errno Value × Kernel} (inside : Safe origin strays hooked)
    (native : ∀ target, Safe origin strays (Host.native (plain target))) :
    Safe origin strays (dispatch slot hooked plain) := by
  apply keeps_bind keeps_get
  intro host
  exact keeps_ite (keeps_ite inside (keeps_throw trivial)) (native _)

/-! ### Opens and closes -/

theorem safe_hookOpen (caller : Caller) (task : Personality) (inode : Inode) (file : OpenFile) :
    Safe origin strays (hookOpen caller task inode file) := by
  refine safe_gated (keeps_bind keeps_get fun host => ?_)
  cases host.table.byFileTable? inode.fOp with
  | none => exact keeps_throw trivial
  | some entry =>
      have last : Safe origin strays (if entry.saved.openFile = Addr.null then return ()
          else native (·.nativeOpen entry.saved.openFile)) :=
        keeps_ite (keeps_pure ()) (safe_nativeOpen _)
      refine safe_holding (keeps_bind keeps_get fun current => ?_)
      exact keeps_ite (keeps_bind (safe_examined caller task _) fun _ => last) last

theorem safe_hookRelease (caller : Caller) (task : Personality) (inode : Inode) (file : OpenFile) :
    Safe origin strays (hookRelease caller task inode file) := by
  refine safe_gated (keeps_bind keeps_get fun host => ?_)
  cases host.table.byFileTable? inode.fOp with
  | none => exact keeps_throw trivial
  | some entry =>
      have last : Safe origin strays (if entry.saved.release = Addr.null then return ()
          else native (·.nativeRelease entry.saved.release)) :=
        keeps_ite (keeps_pure ()) (safe_nativeRelease _)
      refine safe_holding (keeps_bind keeps_get fun current => ?_)
      exact keeps_ite (keeps_bind (keeps_ignoringFailure (safe_examined caller task _)) fun _ => last)
        last

theorem safe_closeFile (caller : Caller) (task : Personality) (file : OpenFile) :
    Safe origin strays (closeFile caller task file) :=
  safe_dispatch (safe_hookRelease caller task file.inode file) safe_nativeRelease

theorem resolve_on (path : String) (host : Host) :
    on (resolve path) host = .done host
      (match Mounts.resolve path host.kernel.mounts with
        | .ok found => .ok found
        | .error .noMount => .error Errno.ENOENT
        | .error .badCut => .error Errno.EINVAL) := by
  rw [resolve, on_get_bind]
  cases Mounts.resolve path host.kernel.mounts with
  | ok found => rfl
  | error reason => cases reason <;> rfl

theorem walkTo_watched (clean : Clean origin.memory.content) (watched : Watched origin strays host)
    {path rest : String} {point : MountPoint}
    (resolved : Mounts.resolve path host.kernel.mounts = .ok (point, rest)) (flags : UInt32) :
    ∃ later answer, on (walkTo point path rest flags) host = .done later answer ∧
      Watched origin strays later := by
  by_cases root : rest = ""
  · refine ⟨host, .ok point.root, ?_, watched⟩
    rw [walkTo, if_pos root, on_pure]
  · obtain ⟨driver, base⟩ := base_resolved watched resolved
    obtain ⟨later, answer, ran, trod, _⟩ :=
      walkTo_discovers clean watched base path root flags
    exact ⟨later, answer, ran, trod.watched watched⟩

theorem safe_openFile (clean : Clean origin.memory.content) (caller : Caller) (task : Personality)
    (path : String) (flags : UInt32) : Safe origin strays (openFile caller task path flags) := by
  intro host watched
  rw [openFile, on_bind, resolve_on, Run.bind_done]
  cases resolved : Mounts.resolve path host.kernel.mounts with
  | error reason => cases reason <;> exact ⟨watched, fun _ _ => trivial⟩
  | ok found =>
      obtain ⟨point, rest⟩ := found
      -- The walk never sleeps, so only the open itself may be held up.
      obtain ⟨later, answer, ran, kept⟩ := walkTo_watched clean watched resolved flags
      simp only [andThen]
      rw [on_bind, ran, Run.bind_done]
      cases answer with
      | error errno => exact ⟨kept, fun _ _ => trivial⟩
      | ok inode =>
          have last : Safe origin strays (do
              dispatch (inode.fOp.slot .openFile) (hookOpen caller task inode ⟨some path, flags, inode⟩)
                fun target kernel => kernel.nativeOpen target
              return (⟨some path, flags, inode⟩ : OpenFile)) :=
            keeps_bind (safe_dispatch (safe_hookOpen caller task inode _) safe_nativeOpen)
              fun _ => keeps_pure _
          exact last later kept

/-! ### Mounts -/

theorem safe_hookPreMount (caller : Caller) (task : Personality) (device dir fsType : String)
    (flags : UInt64) : Safe origin strays (hookPreMount caller task device dir fsType flags) :=
  safe_gated <| keeps_bind keeps_get fun _ =>
    keeps_ite (safe_examined caller task _) (keeps_pure ())

/-- A mount whose type may be hooked: its root is the driver's, and what it
offers for hooking is too, unless entries may stray. -/
structure Hookable (origin : Kernel) (strays : Prop) (host : Host) (point : MountPoint)
    (driver : Driver) : Prop where
  known : origin.driver? point.fsType = some driver
  inodes : point.root.iOp = driver.inodeOps
  offered : ∀ inode, host.kernel.findRegular point = some inode →
    inode.fOp = driver.fileOps ∨ strays

theorem scanned_found {point : MountPoint} {fromMount : Bool} {inode : Inode}
    (found : host.scanned point fromMount = some inode) :
    host.kernel.findRegular point = some inode := by
  unfold scanned at found
  split at found
  · cases found
  · exact found

theorem processMount_on (clean : Clean origin.memory.content)
    (watched : Watched origin strays host) {point : MountPoint} {driver : Driver}
    (hookable : Hookable origin strays host point driver) (fromMount : Bool) :
    ∃ later answer, processMount point fromMount host = .done later answer ∧
      Watched origin strays later ∧ later.kernel.mounts = host.kernel.mounts := by
  rw [processMount, Call.get_bind]
  by_cases skipped : host.hook.skip.contains point.fsType = true
  · rw [if_pos skipped]
    exact ⟨host, .ok none, rfl, watched, rfl⟩
  · rw [if_neg skipped]
    have kept : Watched origin strays (host.inWorld
        (Change.on (Patch.processMount (host.patchRequest point fromMount)) host.world).2) :=
      watched_processMount clean watched hookable.known hookable.inodes
        fun inode found => hookable.offered inode (scanned_found found)
    rw [Call.bind_done (change_on _ host)]
    cases (Change.on (Patch.processMount (host.patchRequest point fromMount)) host.world).1 with
    | ok outcome => exact ⟨_, _, rfl, kept, rfl⟩
    | error error => exact ⟨_, _, rfl, kept, rfl⟩

theorem hookPostMount_on (clean : Clean origin.memory.content) (watched : Watched origin strays host)
    {point : MountPoint} {flags : UInt64}
    (fresh : mountUncounted flags = false → ∃ driver, Hookable origin strays host point driver) :
    ∃ later answer, on (hookPostMount point flags) host = .done later answer ∧
      Watched origin strays later := by
  have inner : ∃ later answer, on (if mountUncounted flags then return ()
      else discard <| (ExceptT.lift (processMount point true) : Syscall Host _) : Syscall Host Unit)
        (host.entered "mount") = .done later answer ∧ Watched origin strays later := by
    have entered : Watched origin strays (host.entered "mount") :=
      watched_counted watched rfl rfl rfl
    cases counted : mountUncounted flags with
    | true => exact ⟨_, .ok (), rfl, entered⟩
    | false =>
        -- A mount that counts is one of those just made.
        obtain ⟨driver, hookable⟩ := fresh counted
        have hookable' : Hookable origin strays (host.entered "mount") point driver :=
          ⟨hookable.known, hookable.inodes, hookable.offered⟩
        obtain ⟨later, answer, ran, kept, _⟩ := processMount_on clean entered hookable' true
        refine ⟨later, .ok (), ?_, kept⟩
        show ((processMount point true (host.entered "mount")).bind _).bind _ = _
        rw [ran]
        rfl
  obtain ⟨later, answer, ran, kept⟩ := inner
  refine ⟨later.leaving, answer, ?_, watched_counted kept rfl rfl rfl⟩
  show on (gated "mount" _) host = _
  rw [gated_on]
  exact congrArg (Run.bind _) ran

/-! ### New mount points -/

theorem watched_mounts (watched : Watched origin strays host) {mounts : List Mount}
    (furnished : Kernel.Furnished { host.kernel with mounts := mounts }) :
    Watched origin strays { host with kernel.mounts := mounts } :=
  watched_same watched furnished ⟨rfl, rfl, rfl, rfl, rfl⟩ rfl rfl

theorem remountPoint_on (watched : Watched origin strays host) (dir : String) (flags : UInt64) :
    ∃ later answer, on (remountPoint dir flags) host = .done later answer ∧
      Watched origin strays later := by
  rw [remountPoint, on_get_bind]
  cases place : Mounts.at? dir host.kernel.mounts with
  | none =>
      simp only [place]
      exact ⟨host, .error Errno.EINVAL, rfl, watched⟩
  | some mount =>
      simp only [place]
      refine ⟨_, .ok { mount.point with flags }, rfl, watched_mounts watched ?_⟩
      exact Kernel.furnished_changed watched.furnished _ fun _ _ =>
        ⟨rfl, rfl, fun _ member => .inl member⟩

theorem bindPoint_on (watched : Watched origin strays host) (device dir : String)
    (flags : UInt64) :
    ∃ later answer, on (bindPoint device dir flags) host = .done later answer ∧
      Watched origin strays later := by
  rw [bindPoint, on_bind, resolve_on, Run.bind_done]
  cases resolved : Mounts.resolve device host.kernel.mounts with
  | error reason => cases reason <;> exact ⟨host, _, rfl, watched⟩
  | ok found =>
      obtain ⟨source, rest⟩ := found
      obtain ⟨mount, inside, same, _⟩ := Mounts.resolve_ok resolved
      refine ⟨_, .ok { source with device, path := dir, flags }, rfl, watched_mounts watched ?_⟩
      exact Kernel.furnished_bind watched.furnished ⟨mount, inside, same⟩ device dir flags

/-- A new mount is the latest on its directory and offers no file yet. -/
theorem newPoint_on (watched : Watched origin strays host) (device dir fsType : String)
    (flags : UInt64) :
    ∃ later answer, on (newPoint device dir fsType flags) host = .done later answer ∧
      Watched origin strays later ∧
      ∀ point, answer = .ok point → ∃ driver, Hookable origin strays later point driver := by
  rw [newPoint, on_get_bind]
  by_cases busy : host.kernel.mounts.any (·.point.path == dir) = true
  · rw [if_pos busy]
    exact ⟨host, .error Errno.EBUSY, rfl, watched, by simp⟩
  · rw [if_neg busy, on_bind, native_on]
    cases mounted : host.kernel.premount device dir fsType with
    | error errno => exact ⟨host, .error errno, rfl, watched, by simp⟩
    | ok made =>
        obtain ⟨point, kernel⟩ := made
        obtain ⟨furnished, stays, ⟨_, driver, known, inodes⟩, rfl, mounts⟩ :=
          Kernel.furnished_premount watched.furnished mounted
        have kept : Watched origin strays { host with kernel } :=
          watched_same watched furnished stays rfl rfl
        refine ⟨{ host with kernel }, .ok { point with flags }, rfl, kept, ?_⟩
        rintro other ⟨⟩
        refine ⟨driver, ?_, inodes, ?_⟩
        · rw [← watched_driver? kept]
          exact known
        · intro inode found
          have latest : Mounts.at? point.path kernel.mounts = some ⟨point, []⟩ := by
            rw [mounts]
            exact Mounts.latest_append _ _ (by simp)
          rw [Kernel.findRegular, latest] at found
          cases found

/-- The native step of a new mount. -/
def premounting (device dir fsType : String) (kernel : Kernel) :
    Except Errno MountPoint × Kernel :=
  match kernel.premount device dir fsType with
  | .ok (point, later) => (.ok point, later)
  | .error errno => (.error errno, kernel)

theorem premounting_stays (device dir fsType : String) (kernel : Kernel) :
    Kernel.Stays kernel (premounting device dir fsType kernel).2 := by
  unfold premounting
  split
  · next made => exact Kernel.premount_stays made
  · exact Kernel.Stays.refl kernel

/-- The mount point a mount call makes or changes. -/
def placing (device dir fsType : String) (flags : UInt64) : Syscall Host MountPoint :=
  if MountFlags.has flags MountFlags.remount then remountPoint dir flags
  else if MountFlags.has flags MountFlags.bind then bindPoint device dir flags
  else newPoint device dir fsType flags

theorem placing_bind (device dir fsType : String) (flags : UInt64)
    (next : MountPoint → Syscall Host Value) :
    placing device dir fsType flags >>= next =
      if MountFlags.has flags MountFlags.remount then remountPoint dir flags >>= next
      else if MountFlags.has flags MountFlags.bind then bindPoint device dir flags >>= next
      else newPoint device dir fsType flags >>= next := by
  unfold placing
  split
  · rfl
  · split <;> rfl

theorem placing_on (watched : Watched origin strays host) (device dir fsType : String)
    (flags : UInt64) :
    ∃ later answer, on (placing device dir fsType flags) host = .done later answer ∧
      Watched origin strays later ∧ ∀ point, answer = .ok point → mountUncounted flags = false →
        ∃ driver, Hookable origin strays later point driver := by
  unfold placing
  by_cases again : MountFlags.has flags MountFlags.remount = true
  · rw [if_pos again]
    obtain ⟨later, answer, ran, kept⟩ := remountPoint_on watched dir flags
    exact ⟨later, answer, ran, kept, by simp [mountUncounted, again]⟩
  · rw [if_neg again]
    by_cases bound : MountFlags.has flags MountFlags.bind = true
    · rw [if_pos bound]
      obtain ⟨later, answer, ran, kept⟩ := bindPoint_on watched device dir flags
      exact ⟨later, answer, ran, kept, by simp [mountUncounted, bound]⟩
    · rw [if_neg bound]
      obtain ⟨later, answer, ran, kept, hookable⟩ := newPoint_on watched device dir fsType flags
      exact ⟨later, answer, ran, kept, fun point same _ => hookable point same⟩

theorem safe_mount (clean : Clean origin.memory.content) (caller : Caller) (task : Personality)
    (device dir fsType : String) (flags : UInt64) :
    Safe origin strays (mount caller task device dir fsType flags) := by
  have last (attached : Bool) : Safe origin strays (do
      let point ← placing device dir fsType flags
      if attached then hookPostMount point flags) := by
    intro host watched
    -- Nothing sleeps between the change of the mounts and the hook after it.
    obtain ⟨middle, answer, ran, kept, hookable⟩ := placing_on watched device dir fsType flags
    rw [on_bind, ran, Run.bind_done]
    cases answer with
    | error errno => exact ⟨kept, fun _ _ => trivial⟩
    | ok point =>
        simp only [andThen]
        cases attached with
        | false => exact ⟨kept, fun _ _ => trivial⟩
        | true =>
            obtain ⟨later, final, ranLast, keptLast⟩ :=
              hookPostMount_on clean kept (hookable point rfl)
            simp only [if_true]
            rw [ranLast]
            exact ⟨keptLast, fun _ _ => trivial⟩
  simp only [placing_bind] at last
  apply keeps_bind keeps_get
  intro host
  cases host.kernel.attached with
  | false => exact last false
  | true =>
      exact keeps_bind (safe_hookPreMount caller task device dir fsType flags) fun _ => last true

/-! ### Unmounts -/

theorem safe_hookPreUmount (caller : Caller) (task : Personality) (dir : String) :
    Safe origin strays (hookPreUmount caller task dir) := by
  refine safe_gated (keeps_bind keeps_get fun host => ?_)
  cases host.kernel.mountAt? dir with
  | none => exact keeps_pure none
  | some mount =>
      apply keeps_bind keeps_get
      intro current
      exact keeps_ite
        (keeps_bind (keeps_ignoringFailure (safe_examined caller task _)) fun _ => keeps_pure _)
        (keeps_pure _)

theorem awaitDrained_keeps {during : Host → Prop} (entry : Nat) :
    Call.Keeps during (fun _ => True) (awaitDrained entry) := by
  apply Call.keeps_then Call.keeps_get
  intro host
  by_cases drained : host.table.isDrained entry = true
  · simp only [drained, if_true]
    exact Call.keeps_pure trivial
  · simp only [drained]
    exact Call.keeps_then (Call.keeps_sleep _ _) fun _ => Call.keeps_pure trivial

theorem releaseMount_keeps (fsType : String) (count : Nat) :
    Call.Keeps (Watched origin strays) (fun _ => True) (releaseMount fsType count) := by
  have changed : Call.Keeps (Watched origin strays) (fun _ => True)
      (change (Patch.releaseMount fsType count)) := by
    intro host watched
    rw [change_on]
    exact ⟨watched_releaseMount watched fsType count, trivial⟩
  apply Call.keeps_then changed
  intro answer
  rcases answer with error | ⟨outcome, left⟩
  · exact Call.keeps_pure trivial
  · cases left with
    | none => exact Call.keeps_pure trivial
    | some entry => exact Call.keeps_then (awaitDrained_keeps entry) fun _ => Call.keeps_pure trivial

theorem safe_hookPostUmount (succeeded : Bool) (context : UmountContext) :
    Safe origin strays (hookPostUmount succeeded context) := by
  apply safe_gated
  cases succeeded with
  | false => exact keeps_pure ()
  | true =>
      exact keeps_bind (keeps_lift (releaseMount_keeps context.fsType context.count))
        fun _ => keeps_pure ()

theorem safe_umount (caller : Caller) (task : Personality) (dir : String) :
    Safe origin strays (umount caller task dir) := by
  have removing (after : Bool → Syscall Host Unit)
      (quiet : ∀ removed, Safe origin strays (after removed)) : Safe origin strays (do
        let mounts := (← get).kernel.mounts
        let removed := (Mounts.at? dir mounts).isSome
        setMounts (Mounts.removeLatest (·.point.path == dir) mounts)
        after removed
        if removed then return () else throw Errno.EINVAL) := by
    intro host watched
    have removed : Watched origin strays { host with
        kernel.mounts := Mounts.removeLatest (·.point.path == dir) host.kernel.mounts } :=
      watched_mounts watched (Kernel.furnished_umount watched.furnished _)
    have answered (removed : Bool) : Safe origin strays (if removed then return ()
        else throw Errno.EINVAL : Syscall Host Unit) := keeps_ite (keeps_pure ()) (keeps_throw trivial)
    rw [on_get_bind]
    exact keeps_bind (quiet _) (fun _ => answered _) _ removed
  apply keeps_bind keeps_get
  intro host
  cases host.kernel.attached with
  | false => exact removing (fun _ => pure ()) fun _ => keeps_pure ()
  | true =>
      apply keeps_bind (safe_hookPreUmount caller task dir)
      intro context
      cases context with
      | none => exact removing (fun _ => pure ()) fun _ => keeps_pure ()
      | some context =>
          exact removing (fun removed => hookPostUmount removed context)
            fun removed => safe_hookPostUmount removed context

/-! ### Errands -/

/-- What a thread may be sent for. -/
inductive Errand
  | mount (caller : Caller) (task : Personality) (device dir fsType : String) (flags : UInt64)
  | umount (caller : Caller) (task : Personality) (dir : String)
  | openFile (caller : Caller) (task : Personality) (path : String) (flags : UInt32)
  | closeFile (caller : Caller) (task : Personality) (file : OpenFile)

def Errand.call : Errand → Call Host Unit
  | mount caller task device dir fsType flags =>
      discard (Host.mount caller task device dir fsType flags).run
  | umount caller task dir => discard (Host.umount caller task dir).run
  | openFile caller task path flags => discard (Host.openFile caller task path flags).run
  | closeFile caller task file => discard (Host.closeFile caller task file).run

theorem errand_keeps (clean : Clean origin.memory.content) (errand : Errand) :
    Call.Keeps (Watched origin strays) (fun _ => True) errand.call := by
  have forgotten {Value : Type} {call : Syscall Host Value} (safe : Safe origin strays call) :
      Call.Keeps (Watched origin strays) (fun _ => True) (discard call.run) := by
    refine Call.keeps_then (fun host watched => ?_) fun _ => Call.keeps_pure trivial
    exact Run.meets_imp (safe host watched) fun _ _ _ _ => trivial
  cases errand with
  | mount caller task device dir fsType flags =>
      exact forgotten (safe_mount clean caller task device dir fsType flags)
  | umount caller task dir => exact forgotten (safe_umount caller task dir)
  | openFile caller task path flags => exact forgotten (safe_openFile clean caller task path flags)
  | closeFile caller task file => exact forgotten (safe_closeFile caller task file)

end Interception.Host
