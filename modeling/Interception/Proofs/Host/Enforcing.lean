import Interception.Proofs.Host.FileCalls
import Interception.Proofs.Host.Serving

/-!
What a verdict is enforced on. A mount asks the chain before it has moved
anything, and an error ends it there. Closes and unmounts ask as well, but whatever
they are told, a close goes on to the native function, and an unmount takes away the
mount that is there by then. The uses it drops are those of the mount that was
there when it was called.
-/

namespace Interception.Host

open Vetting Syscall Patch

variable {origin : Kernel} {first host later : Host}

theorem plain_apart {Value : Type} {call : Syscall Host Value} (plain : Plain call.run) (host : Host) :
    Run.Strides Apart (fun start state _ => Apart start state) host (on call host) :=
  plain_strides plain host host (apart_refl host)

/-! ### Closes -/

/-- A run that leaves the kernel to others until, in its last stride, it calls a
native release, and that answers what the release has answered. -/
def Closes (genuine : Addr) : Host → Run Host (Except Errno Unit) → Prop :=
  Run.Strides (fun start state => state.kernel = start.kernel)
    fun start state answer => start.kernel.nativeRelease genuine = (answer, state.kernel)

theorem closes_native (genuine : Addr) (host : Host) :
    Closes genuine host (on (native (·.nativeRelease genuine)) host) := by
  rw [native_on]
  rfl

theorem closes_from {genuine : Addr} {run : Run Host (Except Errno Unit)}
    (closes : Closes genuine later run) (same : later.kernel = host.kernel) :
    Closes genuine host run :=
  Run.strides_from (fun _ => (·.trans same)) (fun _ _ => (same ▸ ·)) closes

theorem closes_ending {genuine : Addr} {run : Run Host (Except Errno Unit)} {last : Host → Host}
    (same : ∀ host, (last host).kernel = host.kernel) (closes : Closes genuine host run) :
    Closes genuine host (run.bind fun answer later => .done (last later) answer) := by
  refine Run.strides_bind (fun start state answer released => ?_) host closes
  exact released.trans (by rw [same])

theorem ignoringFailure_answers (body : Syscall Host Unit) (host : Host) :
    Run.Meets (fun _ => True) (fun _ answer => answer = .ok ()) (on (ignoringFailure body) host) := by
  have unfailing : Keeps (fun _ => True) (fun _ => False) (ignoringFailure body) :=
    keeps_ignoringFailure fun host _ =>
      Run.meets_imp (Run.meets_true (on body host)) fun _ _ _ _ _ _ => trivial
  refine Run.meets_imp (unfailing host trivial) fun _ answer _ fine => ?_
  cases answer with
  | ok value => rfl
  | error errno => exact (fine errno rfl).elim

/-- What is asked before the native release, and whatever the answer is, does not
matter to it. -/
theorem closes_examined (genuine : Addr) (caller : Caller) (task : Personality) (event : Event)
    (host : Host) :
    Closes genuine host (on (do
      ignoringFailure (examineInside caller task event)
      native (·.nativeRelease genuine)) host) := by
  have asked : Run.Strides Apart (fun start state _ => Apart start state) host
      (on (ignoringFailure (examineInside caller task event)) host) :=
    plain_apart (plain_ignoringFailure (plain_examine _ task event)) host
  rw [on_bind]
  refine Run.strides_bind (fun start state answer met => ?_) host (Run.strides_imp
    (fun _ _ apart => apart.kernel) (fun _ _ _ met => met) host
    (Run.strides_ends (ignoringFailure_answers _ host) host asked))
  obtain ⟨apart, rfl⟩ := met
  exact closes_from (closes_native genuine state) apart.kernel

theorem hookRelease_closes {entry : Entry} (caller : Caller) (task : Personality) (inode : Inode)
    (file : OpenFile) (found : host.table.byFileTable? inode.fOp = some entry)
    (present : entry.saved.release ≠ Addr.null) :
    Closes entry.saved.release host (on (hookRelease caller task inode file) host) := by
  have found' : (host.entered Hook.release.slotName).table.byFileTable? inode.fOp = some entry :=
    found
  rw [hookRelease, gated_on]
  refine closes_ending (fun _ => rfl) ?_
  rw [on_get_bind]
  simp only [found', holding_on, if_neg present]
  refine closes_ending (fun _ => rfl) ?_
  rw [on_get_bind]
  split
  · exact closes_from (closes_examined _ caller task _ _) rfl
  · exact closes_from (closes_native _ _) rfl

theorem closeFile_closes (intact : Intact origin host) (clean : Clean origin.memory.content)
    (attached : origin.attached = true) (caller : Caller) (task : Personality) {file : OpenFile}
    (present : origin.load (file.inode.fOp.slot .release) ≠ Addr.null) :
    Closes (origin.load (file.inode.fOp.slot .release)) host
      (on (closeFile caller task file) host) := by
  have law : FileLaw origin.memory.content host.world file.inode.fOp :=
    fileLaw_kept clean intact.sound.kept file.inode.fOp
  have attached' : host.kernel.attached = true := intact.attached.trans attached
  rw [closeFile, dispatch, on_get_bind]
  simp only [attached', if_true]
  split
  · next hooked =>
      obtain ⟨entry, found, _, saved⟩ := law.found .release (.inr rfl) hooked
      have saved' : entry.saved.release = origin.load (file.inode.fOp.slot .release) := saved
      rw [← saved'] at present ⊢
      exact hookRelease_closes caller task file.inode file found present
  · next unhooked =>
      have genuine : host.kernel.load (file.inode.fOp.slot .release) =
          origin.load (file.inode.fOp.slot .release) := law.unhooked .release (.inr rfl) unhooked
      rw [← genuine]
      exact closes_native _ host

/-! ### Unmounts -/

/-- The latest mount of a directory is gone, and so many uses are dropped from the
entry of a type, if it has one. -/
structure Unmounted (dir fsType : String) (count : Nat) (host later : Host) : Prop where
  removed : ∃ before mount after memory, host.kernel.mounts = before ++ mount :: after ∧
    mount.point.path = dir ∧ (∀ other ∈ after, other.point.path ≠ dir) ∧
    later.kernel = { host.kernel with mounts := before ++ after, memory }
  lowered : Lowered fsType count host.world later.world

theorem world_apart (apart : Apart host later) : later.world = host.world := by
  simp only [world, apart.kernel, apart.table]

theorem unmounted_apart {dir fsType : String} {count : Nat} {last : Host}
    (unmounted : Unmounted dir fsType count host later) (apart : Apart later last) :
    Unmounted dir fsType count host last := by
  obtain ⟨removed, lowered⟩ := unmounted
  rw [← apart.kernel] at removed
  rw [← world_apart apart] at lowered
  exact ⟨removed, lowered⟩

/-- What is left of an unmount once the chain is done with. -/
inductive Unmounts (dir fsType : String) (count : Nat) : Host → Run Host (Except Errno Unit) → Prop
  | missing {host later : Host} (nobody : ∀ mount ∈ host.kernel.mounts, mount.point.path ≠ dir)
      (apart : Apart host later) :
      Unmounts dir fsType count host (.done later (.error Errno.EINVAL))
  | removes {host later : Host} (unmounted : Unmounted dir fsType count host later) :
      Unmounts dir fsType count host (.done later (.ok ()))
  | waits {host later : Host} {sleep : Sleep} {resume : Bool → Host → Run Host (Except Errno Unit)}
      (unmounted : Unmounted dir fsType count host later)
      (further : ∀ expired woken, Run.Strides Apart
        (fun start state answer => Apart start state ∧ answer = .ok ()) woken
        (resume expired woken)) :
      Unmounts dir fsType count host (.asleep later sleep resume)

/-- The change comes first, and whatever follows leaves kernel and table to others. -/
theorem unmounts_of_strides {dir fsType : String} {count : Nat}
    {run : Run Host (Except Errno Unit)} (unmounted : Unmounted dir fsType count host later)
    (strides : Run.Strides Apart (fun start state answer => Apart start state ∧ answer = .ok ())
      later run) : Unmounts dir fsType count host run := by
  cases run with
  | done state answer =>
      obtain ⟨apart, rfl⟩ := strides
      exact .removes (unmounted_apart unmounted apart)
  | asleep state sleep resume =>
      exact .waits (unmounted_apart unmounted strides.1) strides.2

theorem releaseMount_strides (fsType : String) (count : Nat) (host : Host) :
    Run.Strides Apart (fun start state _ => Apart start state)
      (host.inWorld (Change.on (Patch.releaseMount fsType count) host.world).2)
      (releaseMount fsType count host) := by
  rw [releaseMount, Call.bind_done (change_on _ host)]
  have reached := apart_refl (host.inWorld (Change.on (Patch.releaseMount fsType count) host.world).2)
  rcases (Change.on (Patch.releaseMount fsType count) host.world).1 with error | ⟨outcome, left⟩
  · exact reached
  · cases left with
    | none => exact reached
    | some entry =>
        exact plain_strides (.bind (plain_awaitDrained entry) fun _ => .pure _) _ _ reached

theorem hookPostUmount_strides (context : UmountContext) (host : Host) :
    Run.Strides Apart (fun start state answer => Apart start state ∧ answer = .ok ())
      (host.inWorld (Change.on (Patch.releaseMount context.fsType context.count) host.world).2)
      (on (hookPostUmount true context) host) := by
  rw [hookPostUmount_on]
  refine Run.strides_bind ?_ _ (Run.strides_from ?_ ?_
    (releaseMount_strides context.fsType context.count (host.entered "umount")))
  · exact fun _ _ _ apart => ⟨⟨apart.kernel, apart.table⟩, rfl⟩
  · exact fun _ apart => ⟨apart.kernel, apart.table⟩
  · exact fun _ _ apart => ⟨apart.kernel, apart.table⟩

theorem unmounted_released (intact : Intact origin host) (apart : Apart host later)
    (context : UmountContext) {before after : List Mount} {mount : Mount} {dir : String}
    (split : host.kernel.mounts = before ++ mount :: after) (place : mount.point.path = dir)
    (behind : ∀ other ∈ after, other.point.path ≠ dir) :
    Unmounted dir context.fsType context.count host
      ({ later with kernel.mounts := before ++ after }.inWorld
        (Change.on (Patch.releaseMount context.fsType context.count) host.world).2) := by
  constructor
  case removed =>
    refine ⟨before, mount, after,
      (Change.on (Patch.releaseMount context.fsType context.count) host.world).2.memory, split,
      place, behind, ?_⟩
    rw [← apart.kernel]
    rfl
  case lowered =>
    exact releaseMount_lowers intact.sound intact.writable context.fsType context.count

/-- The change of the mounts and the hook after it, once the hook before it has
named a type and a number of uses. -/
theorem unmounting_unmounts (intact : Intact origin host) (apart : Apart host later)
    (context : UmountContext) (dir : String) :
    Unmounts dir context.fsType context.count host (on (do
      hookPostUmount (Mounts.at? dir later.kernel.mounts).isSome context
      if (Mounts.at? dir later.kernel.mounts).isSome then return () else throw Errno.EINVAL)
      { later with
        kernel.mounts := Mounts.removeLatest (·.point.path == dir) later.kernel.mounts }) := by
  have same : later.kernel.mounts = host.kernel.mounts := congrArg Kernel.mounts apart.kernel
  rw [on_bind]
  cases found : (Mounts.at? dir later.kernel.mounts).isSome with
  | false =>
      have missing : Mounts.at? dir later.kernel.mounts = none := by simpa using found
      have nobody := Mounts.at?_none missing
      rw [same] at nobody
      rw [Mounts.removeLatest_missing missing]
      exact .missing nobody ⟨apart.kernel, apart.table⟩
  | true =>
      obtain ⟨before, mount, after, split, place, behind, left⟩ := Mounts.removeLatest_splits found
      rw [left]
      refine unmounts_of_strides (unmounted_released intact apart context (same ▸ split) place behind) ?_
      rw [← world_apart apart]
      refine Run.strides_bind (fun start state answer met => ?_) _ (hookPostUmount_strides context _)
      obtain ⟨apart, rfl⟩ := met
      exact ⟨apart, rfl⟩

theorem umount_unmounts (attached : origin.attached = true) (intact : Intact origin host)
    (caller : Caller) (task : Personality) {dir : String} {mount : Mount}
    (found : Mounts.at? dir host.kernel.mounts = some mount) :
    Run.Until (Intact origin) Apart
      (Unmounts dir mount.point.fsType mount.point.uses) host
      (on (umount caller task dir) host) := by
  have context : host.umountContext dir =
      some ⟨dir, mount.point.fsType, mount.point.uses⟩ := by
    simp only [umountContext, Kernel.mountAt?, found, Option.map_some]
  have asked := plain_apart (plain_hookPreUmount caller task dir) host
  have answered : Run.Meets (fun _ => True) (fun _ answer => answer = .ok (host.umountContext dir))
      (on (hookPreUmount caller task dir) host) :=
    hookPreUmount_keeps (fun _ _ _ _ => id) trivial caller task dir
  rw [umount_on (intact.attached.trans attached)]
  refine Run.until_bind (fun start state answer intact met => ?_) host intact
    (Run.strides_ends answered host asked)
  obtain ⟨apart, rfl⟩ := met
  rw [context]
  exact unmounting_unmounts intact apart
    ⟨dir, mount.point.fsType, mount.point.uses⟩ dir

/-! ### Mounts -/

/-- A call that first asks, without moving anything, and ends with the error it is
told, if it is told one. -/
structure Asks (asking : Run Host (Except Errno Unit)) (host : Host)
    (whole : Run Host (Except Errno Unit)) : Prop where
  quiet : Run.Strides Apart (fun start state _ => Apart start state) host asking
  bound : ∃ rest, whole = asking.bind (andThen rest)

theorem mount_asks (attached : host.kernel.attached = true) (caller : Caller) (task : Personality)
    (device dir fsType : String) (flags : UInt64) :
    Asks (on (hookPreMount caller task device dir fsType flags) host) host
      (on (mount caller task device dir fsType flags) host) :=
  ⟨plain_apart (plain_hookPreMount caller task device dir fsType flags) host, _,
    mount_on attached caller task device dir fsType flags⟩

/-- A host of a service, with whatever sleeps over it. -/
def Arises (first host : Host) : Prop := ∃ sleepers, Serves first ⟨host, sleepers⟩

/-- In every service, whatever its chain and whatever else is going on: a close of a
file of one of the kernel's drivers leaves the kernel alone until it calls, once,
the native release that was in the slot at first, which can be called, and answers
as that does. An unmount of a directory with a mount asks, which changes nothing,
and then takes the latest mount of the directory away and drops as many uses as the
mount counted for that was the latest when it was called, from the entry of that
mount's type; if no mount is left by then it fails and drops none. A mount asks
first, which changes nothing, and an error there ends it with just that error. -/
theorem only_mounts_refused {first host : Host} (assembled : first.kernel.Assembled)
    (roomy : first.kernel.Roomy) (empty : first.table = Table.empty) (served : Arises first host)
    (caller : Caller) (task : Personality) :
    (∀ driver ∈ first.kernel.drivers, ∀ file : OpenFile,
      file.inode.fOp = driver.fileOps ∨ file.inode.fOp = driver.dirOps →
        host.kernel.callable (first.kernel.load (file.inode.fOp.slot .release)) .release = true ∧
          Closes (first.kernel.load (file.inode.fOp.slot .release)) host
            (on (closeFile caller task file) host)) ∧
      (∀ dir mount, Mounts.at? dir host.kernel.mounts = some mount →
        Run.Until (Arises first) Apart
          (Unmounts dir mount.point.fsType mount.point.uses) host
          (on (umount caller task dir) host)) ∧
      ∀ device dir fsType flags,
        Asks (on (hookPreMount caller task device dir fsType flags) host) host
          (on (mount caller task device dir fsType flags) host) := by
  have filled := Kernel.assembled_filled assembled roomy
  have clean : Clean first.kernel.memory.content := Kernel.addressed_genuine filled.addressed roomy
  have kept {later : Host} (served : Arises first later) :
      Intact { first.kernel with attached := true } later := by
    obtain ⟨sleepers, serves⟩ := served
    exact (serves_intact clean filled.addressed.writable empty serves).intact
  have intact := kept served
  refine ⟨fun driver member file own => ?_, fun dir mount found => ?_,
    mount_asks intact.attached caller task⟩
  · have present : first.kernel.load (file.inode.fOp.slot .release) ≠ Addr.null := by
      apply filled.files driver member
      rcases own with same | same <;> simp [Driver.fileSlots, same]
    refine ⟨?_, closeFile_closes intact clean rfl caller task present⟩
    rw [Kernel.callable, intact.natives]
    exact Kernel.addressed_callable filled.addressed present
  · exact Run.until_imp (fun _ => kept) (umount_unmounts rfl intact caller task found)

/-! Two mounts of a type, and a client that is asked about the unmount of one of
them. While it thinks about it, the mount is replaced by one of another type. -/

def contestedKernel : Kernel :=
  (((Kernel.empty.register "ext4" false false).2.register "tmpfs" false false).2.withMount
    "/dev/a" "/a" "ext4").withMount "/dev/b" "/b" "ext4"

theorem contestedKernel_assembled : contestedKernel.Assembled := by
  have registered : (Kernel.empty.register "ext4" false false).2.Assembled :=
    .register false false rfl .empty
  have fresh : (Kernel.empty.register "ext4" false false).2.driver? "tmpfs" = none :=
    Option.isNone_iff_eq_none.mp (by decide +kernel)
  exact Kernel.assembled_withMount (Kernel.assembled_withMount (.register false false fresh registered)
    "/dev/a" "/a" "ext4") "/dev/b" "/b" "ext4"

/-- A service that has every event vetted. -/
def vettingHost : Host :=
  { attach (bare contestedKernel) with
    hook.enabled := true, hook.ops := fun _ => true, chain := [.vetting]
    vetting := Controller.ofRules true
      ⟨5, 5, false, false, fun _ => true, ⟨[], 0, false⟩, .next⟩ }

def guardedHost : Host := (registerClient idleCaller "guard" 1 7 vettingHost).state

def contestedUmount : Run Host (Except Errno Unit) :=
  on (umount idleCaller idleTask "/a") guardedHost

/-- A caller that the chain is not asked about. -/
def innerCaller : Caller := ⟨"main", none, true⟩

def contestedHost : Host :=
  let umounted := (on (umount innerCaller idleTask "/a") contestedUmount.state).state
  (on (mount innerCaller idleTask "/dev/t" "/a" "tmpfs" 0) umounted).state

theorem guardedHost_serves : Serves (bare contestedKernel) ⟨guardedHost, []⟩ := by
  have apart : Apart (attach (bare contestedKernel)) vettingHost := ⟨rfl, rfl⟩
  exact .send (.register idleCaller "guard" 1 7) (.configure apart .start)

theorem guarded_only_mounts_refused : contestedKernel.Assembled ∧ contestedKernel.Roomy ∧
    Arises (bare contestedKernel) guardedHost ∧
    (∃ driver ∈ contestedKernel.drivers,
      Closes (contestedKernel.load (driver.fileOps.slot .release)) guardedHost
        (on (closeFile idleCaller idleTask ⟨none, 0, { plainFile with fOp := driver.fileOps }⟩)
          guardedHost)) ∧
    ∃ mount, Mounts.at? "/a" guardedHost.kernel.mounts = some mount ∧
      Run.Until (Arises (bare contestedKernel)) Apart
        (Unmounts "/a" mount.point.fsType mount.point.uses) guardedHost
        contestedUmount := by
  have roomy : contestedKernel.Roomy := by decide +kernel
  have served : Arises (bare contestedKernel) guardedHost := ⟨[], guardedHost_serves⟩
  obtain ⟨closes, unmounts, _⟩ := only_mounts_refused contestedKernel_assembled roomy rfl served
    idleCaller idleTask
  obtain ⟨driver, known⟩ : ∃ driver, contestedKernel.driver? "ext4" = some driver :=
    Option.isSome_iff_exists.mp (by decide +kernel)
  obtain ⟨mount, found⟩ : ∃ mount, Mounts.at? "/a" guardedHost.kernel.mounts = some mount :=
    Option.isSome_iff_exists.mp (by decide +kernel)
  have member := List.mem_of_find?_eq_some known
  have closed := closes driver member ⟨none, 0, { plainFile with fOp := driver.fileOps }⟩ (.inl rfl)
  exact ⟨contestedKernel_assembled, roomy, served, ⟨driver, member, closed.2⟩, mount, found,
    unmounts "/a" mount found⟩

/-- The host and the answer of a run that sleeps once and wakes up to a host. -/
def wokenTo (later : Host) : Run Host (Except Errno Unit) → Option (Host × Except Errno Unit)
  | .done .. => none
  | .asleep _ _ resume =>
      match resume true later with
      | .done last answer => some (last, answer)
      | .asleep .. => none

theorem wokenTo_some {run : Run Host (Except Errno Unit)} {ended : Host × Except Errno Unit}
    (woken : wokenTo later run = some ended) :
    ∃ sleep resume, run = .asleep run.state sleep resume ∧
      resume true later = .done ended.1 ended.2 := by
  cases run with
  | done state answer => cases woken
  | asleep state sleep resume =>
      refine ⟨sleep, resume, rfl, ?_⟩
      rw [wokenTo] at woken
      split at woken
      · next ran =>
          obtain rfl := Option.some.inj woken
          exact ran
      · cases woken

/-- The unmount takes away a mount of one type and drops a use of another. -/
theorem contested_umount_charges_other : ∃ sleep resume later,
    Arises (bare contestedKernel) guardedHost ∧
      (Mounts.at? "/a" guardedHost.kernel.mounts).map (·.point.fsType) = some "ext4" ∧
      on (umount idleCaller idleTask "/a") guardedHost =
        .asleep contestedUmount.state sleep resume ∧
      Serves (bare contestedKernel) ⟨contestedHost, [fun expired host =>
        (resume expired host).bind fun _ later => .done later ()]⟩ ∧
      (Mounts.at? "/a" contestedHost.kernel.mounts).map (·.point.fsType) = some "tmpfs" ∧
      contestedHost.table.useCount? "tmpfs" = some 1 ∧
      contestedHost.table.useCount? "ext4" = some 1 ∧
      resume true contestedHost = .done later (.ok ()) ∧
      Mounts.at? "/a" later.kernel.mounts = none ∧
      later.table.useCount? "tmpfs" = some 1 ∧ later.table.useCount? "ext4" = none := by
  obtain ⟨⟨later, answer⟩, ended⟩ : ∃ ended, wokenTo contestedHost contestedUmount = some ended :=
    Option.isSome_iff_exists.mp (by decide +kernel)
  have looks {Value : Type} (look : Host × Except Errno Unit → Value) {value : Value}
      (same : (wokenTo contestedHost contestedUmount).map look = some value) :
      look (later, answer) = value := by
    rw [ended, Option.map_some] at same
    exact Option.some.inj same
  obtain ⟨sleep, resume, asleep, woken⟩ := wokenTo_some ended
  have fine : answer.isOk = true := looks (·.2.isOk) (by decide +kernel)
  have place : (Mounts.at? "/a" later.kernel.mounts).isNone = true :=
    looks (fun ended => (Mounts.at? "/a" ended.1.kernel.mounts).isNone) (by decide +kernel)
  have other : later.table.useCount? "tmpfs" = some 1 :=
    looks (·.1.table.useCount? "tmpfs") (by decide +kernel)
  have own : later.table.useCount? "ext4" = none :=
    looks (·.1.table.useCount? "ext4") (by decide +kernel)
  obtain rfl : answer = .ok () := by
    cases answer with
    | ok value => rfl
    | error errno => cases fine
  have called := Serves.send (.errand (.umount idleCaller idleTask "/a")) guardedHost_serves
  change Serves _ (Scene.after [] (contestedUmount.bind fun _ later => .done later ())) at called
  rw [asleep] at called
  have umounted := Serves.send (.errand (.umount innerCaller idleTask "/a")) called
  have contested := Serves.send
    (.errand (.mount innerCaller idleTask "/dev/t" "/a" "tmpfs" 0)) umounted
  refine ⟨sleep, resume, later, ⟨[], guardedHost_serves⟩, by decide +kernel, asleep, contested,
    by decide +kernel, by decide +kernel, by decide +kernel, woken, Option.isNone_iff_eq_none.mp place,
    other, own⟩

end Interception.Host
