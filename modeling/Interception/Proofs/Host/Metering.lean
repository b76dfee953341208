import Interception.Proofs.Host.Overseeing
import Interception.Proofs.Host.Scenes

/-!
The calls of a service are all woven. Hooks hold the entries they find, mounts and
opens are native functions and steps of the patch table, and client traffic,
shutdowns and settings change what is measured in honest steps only.
-/

namespace Interception.Host

open Vetting Patch Syscall

variable {Value : Type} {host before after : Host}

/-! ### Hooks -/

theorem change_honest {step : Change Value} (upholds : Upholding Shaped step) (host : Host) :
    Honest host (change step host).state :=
  honest_table (fun shaped => upholds host.world shaped) rfl rfl

theorem knit_native {step : Kernel → Except Errno Value × Kernel}
    (stays : ∀ kernel, Kernel.Stays kernel (step kernel).2) : Knit (native step) := by
  refine knit_bind (woven_map Except.ok (.kernel step stays)) ?_
  intro result
  cases result with
  | ok value => exact knit_pure value
  | error errno => exact knit_throw errno

theorem knit_nativeOpen (target : Addr) : Knit (native (·.nativeOpen target)) :=
  knit_native fun kernel => (nativeOpen_stays target kernel).2

theorem knit_nativeRelease (target : Addr) : Knit (native (·.nativeRelease target)) :=
  knit_native fun kernel => (nativeRelease_tame target kernel).stays

theorem knit_gated (label : String) {body : Syscall Host Value} (inside : Knit body) :
    Knit (gated label body) := by
  refine knit_bind (knit_modify fun _ => modest_apart ⟨rfl, rfl⟩ rfl rfl) fun _ => ?_
  refine knit_bind (knit_lift inside) fun result => ?_
  refine knit_bind (knit_modify fun _ => modest_apart ⟨rfl, rfl⟩ rfl rfl) fun _ => ?_
  cases result with
  | ok value => exact knit_pure value
  | error errno => exact knit_throw errno

theorem holding_lending (entry : Option Nat) (body : Syscall Host Value) :
    (holding entry body).run = lending entry body.run := by
  cases entry with
  | none => rfl
  | some id => exact funext fun host => holding_on id body host

/-- A call that holds an entry in use, if any, and one the table lists. -/
def Holds (table : Table) (call : Syscall Host Value) : Prop :=
  ∃ entry body, (∀ id, entry = some id → ∃ own ∈ table.entries, own.id = id) ∧ Knit body ∧
    call = holding entry body

theorem holds_none {table : Table} {call : Syscall Host Value} (knit : Knit call) :
    Holds table call := ⟨none, call, by simp, knit, rfl⟩

/-- Who finds an entry listed may hold it in use. -/
theorem knit_held {next : Host → Syscall Host Value} (holds : ∀ host, Holds host.table (next host)) :
    Knit (get >>= next) := by
  choose entry body listed inside same using holds
  have held : Woven (get >>= fun host => lending (entry host) (body host).run) :=
    .hold entry listed inside
  refine cast (congrArg Woven (funext fun host => ?_)) held
  show lending (entry host) (body host).run host = on (get >>= next) host
  rw [on_get_bind, same, ← holding_lending]
  rfl

/-! What a step leaves is what a step of the table leaves. -/

theorem woven_processMount_change (request : Patch.Request) :
    Woven (change (Patch.processMount request)) :=
  .change _ (.processMount request) fun _ => rfl

theorem woven_repatch_change (fsType : String) (inode : Inode) :
    Woven (change (Patch.repatchWithRegular fsType inode)) :=
  .change _ (.repatchWithRegular fsType inode) fun _ => rfl

theorem knit_examineInside (caller : Caller) (task : Personality) (event : Event) :
    Knit (examineInside caller task event) := knit_examine _ task event

theorem knit_hookOpen (caller : Caller) (task : Personality) (inode : Inode) (file : OpenFile) :
    Knit (hookOpen caller task inode file) := by
  refine knit_gated _ (knit_held fun host => ?_)
  cases found : host.table.byFileTable? inode.fOp with
  | none => exact holds_none (knit_throw _)
  | some entry =>
  refine ⟨some entry.id, _, ?_, ?_, rfl⟩
  · rintro id ⟨⟩
    exact ⟨entry, List.mem_of_find?_eq_some found, rfl⟩
  · have last : Knit (if entry.saved.openFile = Addr.null then return ()
        else native (·.nativeOpen entry.saved.openFile)) :=
      knit_ite (knit_pure ()) (knit_nativeOpen _)
    refine knit_bind knit_get fun current => ?_
    exact knit_ite (knit_bind (knit_examineInside caller task _) fun _ => last) last

theorem knit_hookRelease (caller : Caller) (task : Personality) (inode : Inode)
    (file : OpenFile) : Knit (hookRelease caller task inode file) := by
  refine knit_gated _ (knit_held fun host => ?_)
  cases found : host.table.byFileTable? inode.fOp with
  | none => exact holds_none (knit_throw _)
  | some entry =>
  refine ⟨some entry.id, _, ?_, ?_, rfl⟩
  · rintro id ⟨⟩
    exact ⟨entry, List.mem_of_find?_eq_some found, rfl⟩
  · have last : Knit (if entry.saved.release = Addr.null then return ()
        else native (·.nativeRelease entry.saved.release)) :=
      knit_ite (knit_pure ()) (knit_nativeRelease _)
    refine knit_bind knit_get fun current => knit_ite (knit_bind ?_ fun _ => last) last
    exact .plain (plain_ignoringFailure (plain_examine _ task _))

theorem woven_repatchSeen (entry : Option Nat) (inode : Inode) :
    Woven (repatchSeen entry inode) := by
  refine .bind woven_get fun host => ?_
  cases entry.bind host.table.byId? with
  | none => exact woven_pure ()
  | some found =>
      exact woven_ite (woven_discard (woven_repatch_change found.fsType inode)) (woven_pure ())

theorem knit_passOn (entry : Option Nat) (genuine : Addr) {missing : Syscall Host Value}
    (absent : Knit missing) {step : Kernel → Except Errno Value × Kernel}
    (stays : ∀ kernel, Kernel.Stays kernel (step kernel).2) (found : Value → Option Inode) :
    Knit (passOn entry genuine missing step found) := by
  refine knit_ite absent (knit_bind (knit_native stays) fun result => ?_)
  cases found result with
  | none => exact knit_pure result
  | some inode =>
      exact knit_bind (knit_lift (woven_repatchSeen entry inode)) fun _ => knit_pure result

theorem knit_throughInode (label : String) (dir : Inode) (genuine : Table.InodeMatch → Addr)
    {step : Addr → Kernel → Except Errno Value × Kernel}
    (stays : ∀ target kernel, Kernel.Stays kernel (step target kernel).2)
    (found : Value → Option Inode) : Knit (throughInode label dir genuine step found) := by
  refine knit_gated _ (knit_held fun host => ?_)
  cases there : Table.byInodeTable? dir.iOp dir.fsType host.table.entries with
  | none => exact holds_none (knit_throw _)
  | some user =>
      refine ⟨user.entry, _, fun id named => ?_,
        knit_passOn user.entry (genuine user) (knit_throw _) (stays (genuine user)) found, rfl⟩
      obtain ⟨own, inside, same, _⟩ := byInodeTable?_entry there named
      exact ⟨own, inside, same⟩

theorem knit_hookRevalidate (dentry : Dentry) : Knit (hookRevalidate dentry) := by
  refine knit_gated _ (knit_held fun host => ?_)
  cases there : Table.byDentryTable? dentry.dOp (dentryType dentry) host.table.entries with
  | none => exact holds_none (knit_throw _)
  | some user =>
      refine ⟨user.entry, _, fun id named => ?_,
        knit_passOn user.entry user.revalidate (knit_pure true)
          (fun _ => (Kernel.nativeRevalidate_tame user.revalidate).stays) fun _ => dentry.inode, rfl⟩
      obtain ⟨own, inside, same, _⟩ := byDentryTable?_entry there named
      exact ⟨own, inside, same⟩

/-! ### Entries -/

theorem plain_awaitDrained (entry : Nat) : Plain (awaitDrained entry) := by
  refine .bind plain_get fun host => ?_
  split
  · exact .pure ()
  · exact .bind (.sleep _ _) fun _ => .pure ()

theorem woven_releaseMount (fsType : String) (count : Nat) :
    Woven (releaseMount fsType count) := by
  refine Woven.bind (Woven.change _ (.releaseMount fsType count) fun _ => rfl) fun result => ?_
  rcases result with error | ⟨outcome, left⟩
  · exact woven_pure _
  · cases left with
    | none => exact woven_pure _
    | some entry => exact Woven.bind (.plain (plain_awaitDrained entry)) fun _ => woven_pure _

theorem woven_restore (fsType : String) : Woven (restore fsType) := by
  refine Woven.bind (Woven.change _ (.restore fsType) fun _ => rfl) fun result => ?_
  rcases result with error | ⟨restored, entry⟩
  · exact woven_pure _
  · exact Woven.bind (.plain (plain_awaitDrained entry)) fun _ => woven_pure _

theorem woven_purgeRounds (rounds : Nat) : ∀ purged, Woven (purgeRounds rounds purged) := by
  induction rounds with
  | zero => exact fun purged => woven_pure _
  | succ rounds further =>
      intro purged
      refine Woven.bind (Woven.change _ .purgeRound fun _ => rfl) fun result => ?_
      rcases result with error | left
      · exact woven_pure _
      · cases left with
        | none => exact woven_pure _
        | some entry => exact Woven.bind (.plain (plain_awaitDrained entry)) fun _ => further _

theorem woven_purge : Woven purge :=
  Woven.bind woven_get fun _ => woven_purgeRounds _ 0

theorem woven_processMount (mount : MountPoint) (fromMount : Bool) :
    Woven (processMount mount fromMount) := by
  refine Woven.bind woven_get fun host => woven_ite (woven_pure _) ?_
  refine Woven.bind (woven_processMount_change _) fun result => ?_
  cases result with
  | ok outcome => exact woven_pure _
  | error error => exact woven_pure _

theorem woven_walkMounts (mounts : List MountPoint) : Woven (walkMounts mounts) := by
  induction mounts with
  | nil => exact woven_pure ()
  | cons mount rest further =>
      exact Woven.bind (woven_discard (woven_processMount mount false)) fun _ => further

/-! ### Calls into the kernel -/

theorem knit_dispatch (slot : Slot) {hooked : Syscall Host Value} (inside : Knit hooked)
    {plain : Addr → Kernel → Except Errno Value × Kernel}
    (stays : ∀ target kernel, Kernel.Stays kernel (plain target kernel).2) :
    Knit (dispatch slot hooked plain) :=
  knit_bind knit_get fun _ =>
    knit_ite (knit_ite inside (knit_throw _)) (knit_native (stays _))

theorem knit_dispatchLookup (dir : Inode) (name : String) :
    Knit (dispatchLookup dir name) := by
  have stays (target : Addr) (kernel : Kernel) :
      Kernel.Stays kernel (kernel.nativeLookup target dir name).2 :=
    (Kernel.nativeLookup_tame target dir name).stays
  rw [dispatchLookup, hookLookup_through]
  exact knit_dispatch _ (knit_throughInode _ _ _ stays _) stays

theorem knit_dispatchCreate (dir : Inode) (name : String) :
    Knit (dispatchCreate dir name) := by
  have creates (target : Addr) (kernel : Kernel) :
      Kernel.Stays kernel (kernel.nativeCreate target dir name).2 :=
    Kernel.nativeCreate_stays target dir name
  have opens (target : Addr) (kernel : Kernel) :
      Kernel.Stays kernel (kernel.nativeAtomicOpen target dir name).2 :=
    Kernel.nativeAtomicOpen_stays target dir name
  have opening := knit_dispatch (dir.iOp.slot .atomicOpen) (knit_throughInode
    Hook.atomicOpen.slotName dir (·.atomicOpen) opens some) opens
  have creating := knit_dispatch (dir.iOp.slot .create) (knit_throughInode
    Hook.create.slotName dir (·.create) creates some) creates
  exact knit_bind knit_get fun _ => knit_ite creating opening

theorem knit_dispatchRevalidate (dentry : Dentry) : Knit (dispatchRevalidate dentry) :=
  knit_dispatch _ (knit_hookRevalidate dentry) fun target _ =>
    (Kernel.nativeRevalidate_tame target).stays

theorem knit_resolve (path : String) : Knit (resolve path) := by
  refine knit_bind knit_get fun host => ?_
  rcases Mounts.resolve path host.kernel.mounts with reason | found
  · cases reason <;> exact knit_throw _
  · exact knit_pure found

theorem knit_walkTo (mount : MountPoint) (path rest : String) (flags : UInt32) :
    Knit (walkTo mount path rest flags) := by
  refine knit_ite (knit_pure _) (knit_bind ?_ fun _ => ?_)
  · refine knit_bind knit_get fun host => ?_
    cases mount.dOp with
    | none => exact knit_pure ()
    | some dOp =>
        cases host.kernel.cached mount.path rest with
        | none => exact knit_pure ()
        | some inode => exact knit_discard (knit_dispatchRevalidate _)
  · refine knit_bind (knit_dispatchLookup mount.root rest) fun found => ?_
    cases found with
    | some inode => exact knit_pure inode
    | none => exact knit_ite (knit_dispatchCreate mount.root rest) (knit_throw _)

theorem knit_openFile (caller : Caller) (task : Personality) (path : String) (flags : UInt32) :
    Knit (openFile caller task path flags) := by
  refine knit_bind (knit_resolve path) fun found => ?_
  obtain ⟨point, rest⟩ := found
  refine knit_bind (knit_walkTo point path rest flags) fun inode => ?_
  exact knit_bind (knit_dispatch _ (knit_hookOpen caller task inode _) fun target kernel =>
    (nativeOpen_stays target kernel).2) fun _ => knit_pure _

theorem knit_closeFile (caller : Caller) (task : Personality) (file : OpenFile) :
    Knit (closeFile caller task file) :=
  knit_dispatch _ (knit_hookRelease caller task file.inode file) fun target kernel =>
    (nativeRelease_tame target kernel).stays

theorem knit_setMounts (mounts : List Mount) :
    Knit (ExceptT.lift (setMounts mounts) : Syscall Host Unit) :=
  knit_lift (.kernel (fun kernel => (PUnit.unit, { kernel with mounts }))
    fun _ => ⟨rfl, rfl, rfl, rfl, rfl⟩)

theorem knit_placing (device dir fsType : String) (flags : UInt64) :
    Knit (placing device dir fsType flags) := by
  refine knit_ite ?remount (knit_ite ?bind ?fresh)
  case remount =>
    refine knit_bind knit_get fun host => ?_
    dsimp only
    cases Mounts.at? dir host.kernel.mounts with
    | none => exact knit_throw _
    | some mount => exact knit_bind (knit_setMounts _) fun _ => knit_pure _
  case bind =>
    refine knit_bind (knit_resolve device) fun found => ?_
    refine knit_bind knit_get fun host => ?_
    exact knit_bind (knit_setMounts _) fun _ => knit_pure _
  case fresh =>
    have making : Knit (native (premounting device dir fsType)) :=
      knit_native (premounting_stays device dir fsType)
    refine knit_bind knit_get fun host => ?_
    refine knit_ite (knit_bind (knit_throw _) fun _ => ?_) ?_
    · exact knit_bind making fun _ => knit_pure _
    · exact knit_bind making fun _ => knit_pure _

theorem knit_hookPostMount (mount : MountPoint) (flags : UInt64) :
    Knit (hookPostMount mount flags) := by
  refine knit_gated _ (knit_ite (knit_pure ()) (knit_discard ?_))
  exact knit_lift (woven_processMount mount true)

/-- What an interceptor asks the chain before a mount moves nothing. -/
theorem plain_hookPreMount (caller : Caller) (task : Personality) (device dir fsType : String)
    (flags : UInt64) : Plain (hookPreMount caller task device dir fsType flags).run := by
  refine plain_gated _ (plain_andThen (plain_lift plain_get) fun host => ?_)
  split
  · exact plain_examine _ task _
  · exact .pure (Except.ok ())

theorem knit_mount (caller : Caller) (task : Personality) (device dir fsType : String)
    (flags : UInt64) : Knit (mount caller task device dir fsType flags) := by
  have last (attached : Bool) : Knit (do
      let point ← placing device dir fsType flags
      if attached then hookPostMount point flags) :=
    knit_bind (knit_placing device dir fsType flags) fun point =>
      knit_ite (knit_hookPostMount point flags) (knit_pure ())
  simp only [placing_bind] at last
  refine knit_bind knit_get fun host => ?_
  cases host.kernel.attached with
  | false => exact last false
  | true =>
      exact knit_bind (.plain (plain_hookPreMount caller task device dir fsType flags))
        fun _ => last true

theorem plain_hookPreUmount (caller : Caller) (task : Personality) (dir : String) :
    Plain (hookPreUmount caller task dir).run := by
  refine plain_gated _ (plain_andThen (plain_lift plain_get) fun host => ?_)
  cases host.kernel.mountAt? dir with
  | none => exact .pure (Except.ok none)
  | some mount =>
      refine plain_andThen (plain_lift plain_get) fun current => ?_
      dsimp only
      split
      · exact plain_andThen (plain_ignoringFailure (plain_examine _ task _))
          fun _ => .pure (Except.ok _)
      · exact .pure (Except.ok _)

theorem knit_hookPostUmount (succeeded : Bool) (context : UmountContext) :
    Knit (hookPostUmount succeeded context) := by
  refine knit_gated _ (knit_ite (knit_discard ?_) (knit_pure ()))
  exact knit_lift (woven_releaseMount context.fsType context.count)

theorem knit_umount (caller : Caller) (task : Personality) (dir : String) :
    Knit (umount caller task dir) := by
  have removing (after : Bool → Syscall Host Unit) (quiet : ∀ removed, Knit (after removed)) :
      Knit (do
        let mounts := (← get).kernel.mounts
        let removed := (Mounts.at? dir mounts).isSome
        setMounts (Mounts.removeLatest (·.point.path == dir) mounts)
        after removed
        if removed then return () else throw Errno.EINVAL) :=
    knit_bind knit_get fun host => knit_bind (knit_setMounts _) fun _ =>
      knit_bind (quiet _) fun _ => knit_ite (knit_pure ()) (knit_throw _)
  refine knit_bind knit_get fun host => ?_
  cases host.kernel.attached with
  | false => exact removing (fun _ => pure ()) fun _ => knit_pure ()
  | true =>
      refine knit_bind (.plain (plain_hookPreUmount caller task dir)) fun context => ?_
      cases context with
      | none => exact removing (fun _ => pure ()) fun _ => knit_pure ()
      | some context =>
          exact removing (fun removed => hookPostUmount removed context)
            fun removed => knit_hookPostUmount removed context

/-! ### Clients -/

theorem fetchPass_tacit (control : Controller) (client : ClientId) (groups : GroupMask) :
    Tacit control (control.fetchPass client groups).2 := by
  unfold Controller.fetchPass
  split <;> exact ⟨id, rfl, rfl⟩

theorem woven_fetch (client : ClientId) (wait : Nat) : Woven (fetch client wait) := by
  have pass (groups : GroupMask) : Woven (fetchPass client groups) :=
    woven_step _ fun host =>
      modest_vetting (fetchPass_tacit host.vetting client groups) ⟨rfl, rfl⟩ rfl
  refine Woven.bind woven_get fun host => ?_
  cases host.vetting.fetchGroups client with
  | error error => exact woven_pure _
  | ok groups =>
      refine Woven.bind (pass groups) fun result => ?_
      rcases result with error | request
      · exact woven_pure _
      · cases request with
        | some request => exact woven_pure _
        | none =>
            refine Woven.bind woven_get fun now => ?_
            refine Woven.bind (woven_sleep _ _) fun expired => ?_
            exact woven_ite (woven_pure _) (pass groups)

/-- A client that is admitted or turned away leaves the gauge right. -/
theorem register_tacit {control later : Controller} {name : String} {bits : UInt8} {pid : Int32}
    {id : ClientId} {records : List AuditRecord}
    (registered : control.register name bits pid = .ok (id, later, records)) :
    Tacit control later := by
  unfold Controller.register at registered
  split at registered
  · cases registered
  · split at registered
    · cases registered
    · split at registered
      · cases registered
      · obtain ⟨_, rest⟩ := Prod.mk.inj (Except.ok.inj registered)
        obtain ⟨rfl, _⟩ := Prod.mk.inj rest
        exact ⟨fun _ => rfl, rfl, rfl⟩

theorem register_modest (caller : Caller) (name : String) (groups : UInt8) (pid : Int32)
    (host : Host) : Modest host (registerClient caller name groups pid host).state := by
  show Modest host (Prod.snd _)
  beta_reduce
  cases registered : host.vetting.register name groups pid with
  | error error => exact modest_apart (apart_refl host) rfl rfl
  | ok admitted => exact modest_vetting (register_tacit registered) ⟨rfl, rfl⟩ rfl

theorem register_honest (caller : Caller) (name : String) (groups : UInt8) (pid : Int32)
    (host : Host) : Honest host (registerClient caller name groups pid host).state :=
  (register_modest caller name groups pid host).honest

theorem woven_register (caller : Caller) (name : String) (groups : UInt8) (pid : Int32) :
    Woven (registerClient caller name groups pid) :=
  woven_step _ (register_modest caller name groups pid)

theorem unregister_tacit (control : Controller) (id : ClientId) :
    Tacit control (control.unregister id).2.1 := by
  unfold Controller.unregister Controller.dropClient
  cases control.clients.get? id with
  | none => exact ⟨fun gauge => gauge, rfl, rfl⟩
  | some client => exact ⟨fun _ => rfl, rfl, rfl⟩

theorem woven_unregister (caller : Caller) (client : ClientId) :
    Woven (unregisterClient caller client) :=
  woven_step _ fun host => modest_vetting (unregister_tacit host.vetting client) ⟨rfl, rfl⟩ rfl

theorem woven_waitIdle (wait : Nat) : Woven (waitIdle wait) := by
  refine Woven.bind woven_get fun host => woven_ite (woven_pure _) ?_
  refine Woven.bind woven_get fun host => ?_
  exact Woven.bind (woven_discard (woven_sleep _ _)) fun _ =>
    woven_reading fun host => host.active == 0

theorem woven_hookShutdown (wait : Nat) : Woven (hookShutdown wait) := by
  refine Woven.bind (woven_modify fun _ => modest_apart ⟨rfl, rfl⟩ rfl rfl) fun _ => ?_
  refine Woven.bind woven_purge fun result => ?_
  cases result with
  | error error => exact woven_pure _
  | ok purged =>
      exact Woven.bind (woven_discard (woven_waitIdle wait)) fun _ => woven_pure _

theorem woven_shutdown : Woven shutdown :=
  Woven.bind (woven_modifyVetting fun _ => ⟨id, rfl, rfl⟩) fun _ => woven_hookShutdown _

/-! ### Settings -/

theorem set_tacit {control later : Controller} {key value : String}
    (set : control.set key value = .ok later) : Tacit control later := by
  unfold Controller.set at set
  split at set
  · cases set
  · split at set
    · split at set
      · obtain rfl := Except.ok.inj set
        exact ⟨id, rfl, rfl⟩
      · cases set
    · split at set
      · obtain rfl := Except.ok.inj set
        exact ⟨id, rfl, rfl⟩
      · cases set
      · cases set

theorem setActive_geared (mode : Degraded) (now : Nat) (active : Bool) :
    Geared mode (mode.setActive now active).1 := by
  unfold Degraded.setActive
  split
  · exact enter_geared mode now _
  · have left := leave_geared { mode with count := 0 } "cleared by configuration"
    exact ⟨left.gauge, left.trips⟩

theorem disable_geared (mode : Degraded) : Geared mode mode.disable.1 := by
  have left := leave_geared { mode with enabled := false, count := 0 } "processor disabled"
  exact ⟨left.gauge, left.trips⟩

theorem update_geared {mode : Degraded} {now : Nat} {key value : String}
    {changed : Degraded × List AuditRecord} (updated : mode.update now value key = some (.ok changed)) :
    Geared mode changed.1 := by
  unfold Degraded.update at updated
  split at updated
  case h_1 =>
    split at updated
    · obtain rfl := Except.ok.inj (Option.some.inj updated)
      exact geared_kept rfl rfl rfl
    · obtain rfl := Except.ok.inj (Option.some.inj updated)
      exact disable_geared mode
    · cases Option.some.inj updated
  case h_2 =>
    obtain ⟨threshold, rfl⟩ := mapped_ok (Option.some.inj updated)
    exact geared_kept rfl rfl rfl
  case h_3 =>
    split at updated
    · obtain rfl := Except.ok.inj (Option.some.inj updated)
      exact setActive_geared mode now _
    · cases Option.some.inj updated
  case h_4 =>
    split at updated
    · obtain rfl := Except.ok.inj (Option.some.inj updated)
      exact geared_kept rfl rfl rfl
    · cases Option.some.inj updated
  case h_5 =>
    split at updated
    · obtain rfl := Except.ok.inj (Option.some.inj updated)
      exact geared_kept rfl rfl rfl
    · cases Option.some.inj updated
  case h_6 => cases updated

theorem set_geared {mode : Degraded} {now : Nat} {key value : String}
    {changed : Degraded × List AuditRecord} (set : mode.set now key value = .ok changed) :
    Geared mode changed.1 := by
  unfold Degraded.set at set
  split at set
  · cases set
  · split at set
    · next updated =>
        obtain rfl := Except.ok.inj set
        exact update_geared updated
    · cases set
    · cases set

theorem setDirect_modest {caller : Caller} {host later : Host} {component : Component}
    {key value : String} (set : setDirect caller host component key value = .ok later) :
    Modest host later := by
  have apart : Apart host later := ⟨(setDirect_apart set).1, (setDirect_apart set).2⟩
  unfold setDirect at set
  cases component with
  | hook =>
      obtain ⟨_, rfl⟩ := mapped_ok set
      exact modest_apart apart rfl rfl
  | actionLog =>
      obtain ⟨_, rfl⟩ := mapped_ok set
      exact modest_apart apart rfl rfl
  | vetting =>
      cases changed : host.vetting.set key value with
      | error error => simp [changed, Except.map] at set
      | ok vetting =>
          simp only [changed, Except.map, Except.ok.injEq] at set
          subst set
          exact modest_vetting (set_tacit changed) apart rfl
  | degraded =>
      cases changed : host.degraded.set host.clock key value with
      | error error => simp [changed, Except.map] at set
      | ok degraded =>
          simp only [changed, Except.map, Except.ok.injEq] at set
          subst set
          exact modest_degraded (set_geared changed) apart rfl

theorem setSetting_modest {caller : Caller} {host later : Host} {name key value : String}
    (set : setSetting caller host name key value = .ok later) : Modest host later := by
  obtain ⟨component, direct⟩ := setSetting_direct set
  exact setDirect_modest direct

theorem switchFilter_modest (caller : Caller) (host : Host) (on : Bool) (filter : FilterRef) :
    Modest host (switchFilter caller host on filter) := by
  cases filter with
  | actionLog => exact modest_apart ⟨rfl, rfl⟩ rfl rfl
  | vetting => exact modest_vetting ⟨id, rfl, rfl⟩ ⟨rfl, rfl⟩ rfl
  | scripted index => exact modest_apart ⟨rfl, rfl⟩ rfl rfl
  | degraded =>
      cases on with
      | true => exact modest_degraded (geared_kept rfl rfl rfl) ⟨rfl, rfl⟩ rfl
      | false => exact modest_degraded (disable_geared host.degraded) ⟨rfl, rfl⟩ rfl

/-- A setting that is refused changes nothing. -/
def orElse (host : Host) (result : Except SettingError Host) : Host := result.toOption.getD host

theorem orElse_modest {result : Except SettingError Host}
    (modest : ∀ later, result = .ok later → Modest host later) : Modest host (host.orElse result) := by
  cases result with
  | ok later => exact modest later rfl
  | error error => exact modest_apart (apart_refl host) rfl rfl

theorem adjusting_modest (caller : Caller) (component : Component) (key value : String)
    (host : Host) : Modest host (host.orElse (setDirect caller host component key value)) :=
  orElse_modest fun _ set => setDirect_modest set

theorem adjusting_honest (caller : Caller) (component : Component) (key value : String)
    (host : Host) : Honest host (host.orElse (setDirect caller host component key value)) :=
  (adjusting_modest caller component key value host).honest

end Interception.Host
