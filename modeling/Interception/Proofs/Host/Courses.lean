import Interception.Host.Service
import Interception.Proofs.Host.Reckoning

/-!
Mounts and unmounts of a hooked kernel, one after the other. The hook after a
mount adds uses unless the flags say that no new filesystem came in; the hook
after an unmount drops uses whatever kind of mount is gone. So a bind mount
that comes and goes leaves its type with fewer uses than counted mounts, and
the type may be given up while some of them are still there. The same happens
to a type whose uses have outgrown 32 bits.
-/

namespace Interception.Host

open Syscall Patch

variable {origin : Kernel} {strays : Prop} {host middle later : Host} {ledger : Ledger}

/-- Whatever else has changed, kernel and patch table have not. -/
structure Apart (host later : Host) : Prop where
  kernel : later.kernel = host.kernel
  table : later.table = host.table

theorem apart_refl (host : Host) : Apart host host := ⟨rfl, rfl⟩

theorem apart_trans (first : Apart host middle) (second : Apart middle later) : Apart host later :=
  ⟨second.kernel.trans first.kernel, second.table.trans first.table⟩

theorem apart_blind (host : Host) : Blind (Apart host) :=
  fun _ _ kernel table first => apart_trans first ⟨kernel, table⟩

theorem ends_apart {Value : Type} {after : Host → Value → Prop} {run : Run Host Value}
    {value : Value} (met : Run.Meets (Apart host) after run) (ended : Run.Ends Apart run later value) :
    Apart host later ∧ after later value :=
  Run.meets_ends met (fun _ _ meanwhile before => apart_trans before meanwhile) ended

/-- The roll has the mounts on it, and the table the uses the ledger reckons. -/
structure Balanced (origin : Kernel) (strays : Prop) (host : Host) (ledger : Ledger) : Prop where
  watched : Watched origin strays host
  follows : Follows ledger.roll host.kernel.mounts
  reckoned : Reckoned host.table ledger

theorem balanced_apart (balanced : Balanced origin strays host ledger) (apart : Apart host later) :
    Balanced origin strays later ledger := by
  constructor
  case watched => exact watched_blind host later apart.kernel apart.table balanced.watched
  case follows => exact apart.kernel ▸ balanced.follows
  case reckoned => exact apart.table ▸ balanced.reckoned

/-! ### Mounts -/

/-- Enters the mount that a call has made, if it made one: the first that is
not on the roll yet. -/
def Ledger.enrol (ordinary : Bool) (host : Host) (ledger : Ledger) : Ledger :=
  match host.kernel.mounts.drop ledger.roll.length with
  | [] => ledger
  | mount :: _ => ledger.enter mount.point (ordinary && host.tracks mount.point.fsType)

/-- What a mount call does to the mounts: it fails and leaves them, changes
one in its place, or puts one at the end. -/
inductive Placed (flags : UInt64) (host later : Host) : Except Errno MountPoint → Prop
  | failed (errno : Errno) (same : later = host) : Placed flags host later (.error errno)
  | again (point : MountPoint) (uncounted : mountUncounted flags = true)
      (same : places later.kernel.mounts = places host.kernel.mounts) :
      Placed flags host later (.ok point)
  | made (point : MountPoint) (mount : Mount)
      (mounts : later.kernel.mounts = host.kernel.mounts ++ [mount])
      (alike : ∀ counted, Enrolled.of point counted = Enrolled.of mount.point counted) :
      Placed flags host later (.ok point)

theorem remountPoint_placed {flags : UInt64} (again : MountFlags.has flags MountFlags.remount = true)
    (dir : String) (host : Host) :
    ∃ later answer, on (remountPoint dir flags) host = .done later answer ∧
      later.table = host.table ∧ Placed flags host later answer := by
  have uncounted : mountUncounted flags = true := by simp [mountUncounted, again]
  rw [remountPoint, on_get_bind]
  cases place : Mounts.at? dir host.kernel.mounts with
  | none =>
      simp only [place]
      exact ⟨host, _, rfl, rfl, .failed Errno.EINVAL rfl⟩
  | some mount =>
      simp only [place]
      have same : places (Mounts.changeLatest (·.point.path == dir)
          (fun mount => { mount with point.flags := flags }) host.kernel.mounts) =
          places host.kernel.mounts := by
        apply follows_changed
        exact fun _ => rfl
      exact ⟨_, .ok { mount.point with flags }, rfl, rfl, .again _ uncounted same⟩

theorem bindPoint_placed (device dir : String) (flags : UInt64) (host : Host) :
    ∃ later answer, on (bindPoint device dir flags) host = .done later answer ∧
      later.table = host.table ∧ Placed flags host later answer := by
  rw [bindPoint, on_bind, resolve_on, Run.bind_done]
  cases resolved : Mounts.resolve device host.kernel.mounts with
  | error reason => cases reason <;> exact ⟨host, _, rfl, rfl, .failed _ rfl⟩
  | ok found =>
      obtain ⟨source, rest⟩ := found
      exact ⟨_, _, rfl, rfl, .made { source with device, path := dir, flags } _ rfl fun _ => rfl⟩

theorem newPoint_placed (watched : Watched origin strays host) (device dir fsType : String)
    (flags : UInt64) :
    ∃ later answer, on (newPoint device dir fsType flags) host = .done later answer ∧
      later.table = host.table ∧ Placed flags host later answer := by
  rw [newPoint, on_get_bind]
  by_cases busy : host.kernel.mounts.any (·.point.path == dir) = true
  · rw [if_pos busy]
    exact ⟨host, _, rfl, rfl, .failed Errno.EBUSY rfl⟩
  · rw [if_neg busy, on_bind, native_on]
    cases mounted : host.kernel.premount device dir fsType with
    | error errno => exact ⟨host, _, rfl, rfl, .failed errno rfl⟩
    | ok made =>
        obtain ⟨point, kernel⟩ := made
        have mounts := (Kernel.furnished_premount watched.furnished mounted).2.2.2.2
        exact ⟨{ host with kernel }, .ok { point with flags }, rfl, rfl,
          .made { point with flags } ⟨point, []⟩ mounts fun _ => rfl⟩

theorem placing_placed (watched : Watched origin strays host) (device dir fsType : String)
    (flags : UInt64) :
    ∃ later answer, on (placing device dir fsType flags) host = .done later answer ∧
      later.table = host.table ∧ Placed flags host later answer := by
  unfold placing
  by_cases again : MountFlags.has flags MountFlags.remount = true
  · rw [if_pos again]
    exact remountPoint_placed again dir host
  · rw [if_neg again]
    split
    · exact bindPoint_placed device dir flags host
    · exact newPoint_placed watched device dir fsType flags

theorem hookPostMount_uncounted {flags : UInt64} (uncounted : mountUncounted flags = true)
    (point : MountPoint) (host : Host) :
    on (hookPostMount point flags) host = .done (host.entered "mount").leaving (.ok ()) := by
  rw [hookPostMount, gated_on, if_pos uncounted]
  rfl

theorem hookPostMount_counted {flags : UInt64} (counted : mountUncounted flags = false)
    (point : MountPoint) (host : Host) :
    on (hookPostMount point flags) host =
      (processMount point true (host.entered "mount")).bind fun _ later =>
        .done later.leaving (.ok ()) := by
  rw [hookPostMount, gated_on, counted, if_neg Bool.false_ne_true]
  show Run.bind _ (((processMount point true _).bind _).bind _) = _
  simp only [Run.bind_assoc]
  rfl

theorem hookPreMount_apart (caller : Caller) (task : Personality) (device dir fsType : String)
    (flags : UInt64) (host : Host) :
    Run.Meets (Apart host) (fun _ _ => True)
      (on (hookPreMount caller task device dir fsType flags) host) := by
  have quiet : Keeps (Apart host) (fun _ => True)
      (hookPreMount caller task device dir fsType flags) := by
    refine keeps_gated (fun _ apart => ⟨apart.kernel, apart.table⟩)
      (fun _ apart => ⟨apart.kernel, apart.table⟩) ?_
    exact keeps_bind keeps_get fun _ =>
      keeps_ite (examine_keeps (apart_blind host) _ task _) (keeps_pure ())
  exact Run.meets_imp (quiet host (apart_refl host)) fun _ _ _ _ => trivial

/-- A mount call on an attached kernel: the hook before it, the change of the
mounts and the hook after it. -/
theorem mount_on (attached : host.kernel.attached = true) (caller : Caller) (task : Personality)
    (device dir fsType : String) (flags : UInt64) :
    on (mount caller task device dir fsType flags) host =
      (on (hookPreMount caller task device dir fsType flags) host).bind (andThen fun _ middle =>
        (on (placing device dir fsType flags) middle).bind (andThen fun point =>
          on (hookPostMount point flags))) := by
  rw [mount, on_get_bind]
  simp only [attached, if_true]
  rw [on_bind]
  congr 2
  funext _ middle
  rw [← on_bind, placing_bind]

theorem enrol_none (follows : Follows ledger.roll host.kernel.mounts) (ordinary : Bool) :
    ledger.enrol ordinary host = ledger := by
  rw [Ledger.enrol, follows_length follows, List.drop_length]

theorem enrol_last {mount : Mount} (follows : Follows ledger.roll host.kernel.mounts)
    (mounts : later.kernel.mounts = host.kernel.mounts ++ [mount]) (ordinary : Bool) :
    ledger.enrol ordinary later =
      ledger.enter mount.point (ordinary && later.tracks mount.point.fsType) := by
  rw [Ledger.enrol, mounts, follows_length follows, List.drop_left]

theorem follows_places {mounts changed : List Mount} {roll : List Enrolled}
    (follows : Follows roll mounts) (same : places changed = places mounts) :
    Follows roll changed := by
  rw [Follows, same]
  exact follows

/-- The hook after a mount that does not count leaves the uses alone. -/
theorem balanced_uncounted (balanced : Balanced origin strays host ledger) {flags : UInt64}
    {point : MountPoint} (watched : Watched origin strays middle)
    (table : middle.table = host.table) (placed : Placed flags host middle (.ok point)) :
    Balanced origin strays (middle.entered "mount").leaving
      (ledger.enrol false (middle.entered "mount").leaving) := by
  have reckoned : Reckoned middle.table ledger := table ▸ balanced.reckoned
  have kept : Watched origin strays (middle.entered "mount").leaving :=
    watched_counted watched rfl rfl rfl
  cases placed with
  | again point _ same =>
      have follows : Follows ledger.roll (middle.entered "mount").leaving.kernel.mounts :=
        follows_places balanced.follows same
      rw [enrol_none follows]
      exact ⟨kept, follows, reckoned⟩
  | made point mount mounts alike =>
      have mounts' : (middle.entered "mount").leaving.kernel.mounts =
          host.kernel.mounts ++ [mount] := mounts
      rw [enrol_last balanced.follows mounts']
      refine ⟨kept, ?_, reckoned_passed reckoned mount.point fun _ => rfl⟩
      exact (congrArg _ mounts).mpr (follows_entered balanced.follows mount false)

/-- The hook after a mount that counts adds its uses if the type is tracked. -/
theorem balanced_counted (clean : Clean origin.memory.content)
    (balanced : Balanced origin strays host ledger) {point : MountPoint} {mount : Mount}
    {driver : Driver} (watched : Watched origin strays middle) (table : middle.table = host.table)
    (hookable : Hookable origin strays middle point driver)
    (mounts : middle.kernel.mounts = host.kernel.mounts ++ [mount])
    (alike : ∀ counted, Enrolled.of point counted = Enrolled.of mount.point counted) :
    ∃ later answer, processMount point true (middle.entered "mount") = .done later answer ∧
      Balanced origin strays later.leaving (ledger.enrol true later.leaving) := by
  have reckoned : Reckoned middle.table ledger := table ▸ balanced.reckoned
  have entered : Watched origin strays (middle.entered "mount") :=
    watched_counted watched rfl rfl rfl
  obtain ⟨later, answer, ran, kept, same⟩ := processMount_on clean entered
    ⟨hookable.known, hookable.inodes, hookable.offered⟩ true
  have mounts' : later.leaving.kernel.mounts = host.kernel.mounts ++ [mount] := same.trans mounts
  obtain ⟨_, counted⟩ := processMount_reckoned clean entered reckoned ran
  have type : point.fsType = mount.point.fsType := congrArg Enrolled.fsType (alike true)
  rw [Ledger.enter, alike, type] at counted
  refine ⟨later, answer, ran, ?_⟩
  rw [enrol_last balanced.follows mounts']
  refine ⟨watched_counted kept rfl rfl rfl, ?_, counted⟩
  exact (congrArg _ mounts').mpr (follows_entered balanced.follows mount _)

/-- The hook after a mount adds uses for exactly those mounts that the ledger
enters as counted. -/
theorem balanced_postMount (clean : Clean origin.memory.content)
    (balanced : Balanced origin strays host ledger) {flags : UInt64} {point : MountPoint}
    (watched : Watched origin strays middle) (table : middle.table = host.table)
    (placed : Placed flags host middle (.ok point))
    (hookable : mountUncounted flags = false → ∃ driver, Hookable origin strays middle point driver) :
    ∃ later, on (hookPostMount point flags) middle = .done later (.ok ()) ∧
      Balanced origin strays later (ledger.enrol (!mountUncounted flags) later) := by
  -- A mount that is changed in its place has flags that do not count.
  cases uncounted : mountUncounted flags with
  | true =>
      exact ⟨_, hookPostMount_uncounted uncounted point middle,
        balanced_uncounted balanced watched table placed⟩
  | false =>
      obtain ⟨driver, hookable⟩ := hookable uncounted
      cases placed with
      | again point counted same =>
          rw [uncounted] at counted
          cases counted
      | made point mount mounts alike =>
          obtain ⟨later, answer, ran, kept⟩ :=
            balanced_counted clean balanced watched table hookable mounts alike
          exact ⟨later.leaving, by rw [hookPostMount_counted uncounted, ran, Run.bind_done], kept⟩

/-- A mount keeps the ledger balanced once the mount it made is entered. -/
theorem balanced_mount (clean : Clean origin.memory.content) (attached : origin.attached = true)
    (balanced : Balanced origin strays host ledger) {caller : Caller} {task : Personality}
    {device dir fsType : String} {flags : UInt64} {answer : Except Errno Unit}
    (ended : Run.Ends Apart (on (mount caller task device dir fsType flags) host) later answer) :
    Balanced origin strays later (ledger.enrol (!mountUncounted flags) later) := by
  have attached' : host.kernel.attached = true := balanced.watched.attached.trans attached
  rw [mount_on attached', Run.ends_bind] at ended
  obtain ⟨middle, allowed, asked, ended⟩ := ended
  have before : Balanced origin strays middle ledger :=
    balanced_apart balanced (ends_apart (hookPreMount_apart _ _ _ _ _ _ _) asked).1
  cases allowed with
  | error errno =>
      obtain ⟨rfl, _⟩ := Run.ends_done ended
      rw [enrol_none before.follows]
      exact before
  | ok value =>
      obtain ⟨placed, point, ranPlacing, watched, hookable⟩ :=
        placing_on before.watched device dir fsType flags
      obtain ⟨_, _, ranAgain, table, shape⟩ := placing_placed before.watched device dir fsType flags
      rw [ranPlacing] at ranAgain
      cases ranAgain
      simp only [andThen, ranPlacing, Run.bind_done] at ended
      cases point with
      | error errno =>
          obtain ⟨rfl, _⟩ := Run.ends_done ended
          cases shape with
          | failed errno same =>
              rw [same, enrol_none before.follows]
              exact before
      | ok point =>
          obtain ⟨last, ranLast, kept⟩ :=
            balanced_postMount clean before watched table shape (hookable point rfl)
          simp only [ranLast] at ended
          obtain ⟨rfl, _⟩ := Run.ends_done ended
          exact kept

/-! ### Unmounts -/

def umountContext (host : Host) (dir : String) : Option UmountContext :=
  (host.kernel.mountAt? dir).map fun mount => ⟨dir, mount.fsType, mount.uses⟩

theorem hookPreUmount_keeps {during : Host → Prop} (blind : Blind during) (before : during host)
    (caller : Caller) (task : Personality) (dir : String) :
    Run.Meets during (fun _ answer => answer = .ok (host.umountContext dir))
      (on (hookPreUmount caller task dir) host) := by
  have examined (event : Event) : Keeps during (fun _ => False)
      (ignoringFailure (examineInside caller task event)) :=
    keeps_ignoringFailure (examine_keeps blind _ task event)
  have answered (value : Option UmountContext) (middle : Host) (kept : during middle)
      (same : value = host.umountContext dir) :
      Run.Meets during
        (fun _ (answer : Except Errno _) => answer = .ok (host.umountContext dir))
        (.done middle.leaving (.ok value)) :=
    ⟨blind middle middle.leaving rfl rfl kept, by rw [same]⟩
  have entered : during (host.entered "umount") := blind host _ rfl rfl before
  have same : (host.entered "umount").kernel.mountAt? dir = host.kernel.mountAt? dir := rfl
  rw [hookPreUmount, gated_on, on_get_bind, same]
  cases found : host.kernel.mountAt? dir with
  | none => exact answered none _ entered (by rw [umountContext, found]; rfl)
  | some mount =>
      have context : some ⟨dir, mount.fsType, mount.uses⟩ = host.umountContext dir := by
        rw [umountContext, found]
        rfl
      simp only [on_get_bind]
      split
      · -- The examination may sleep and its verdict is dropped.
        rw [on_bind, Run.bind_assoc]
        apply Run.meets_bind (examined _ _ entered)
        intro result middle kept unfailing
        cases result with
        | error errno => exact (unfailing errno rfl).elim
        | ok value => exact answered _ middle kept context
      · exact answered _ _ entered context

theorem hookPreUmount_apart (caller : Caller) (task : Personality) (dir : String) (host : Host) :
    Run.Meets (Apart host) (fun _ answer => answer = .ok (host.umountContext dir))
      (on (hookPreUmount caller task dir) host) :=
  hookPreUmount_keeps (apart_blind host) (apart_refl host) caller task dir

theorem releaseMount_apart (fsType : String) (count : Nat) (host : Host) :
    Run.Meets (Apart (host.inWorld (Change.on (Patch.releaseMount fsType count) host.world).2))
      (fun _ _ => True) (releaseMount fsType count host) := by
  rw [releaseMount, Call.bind_done (change_on _ host)]
  have released := apart_refl
    (host.inWorld (Change.on (Patch.releaseMount fsType count) host.world).2)
  rcases (Change.on (Patch.releaseMount fsType count) host.world).1 with error | ⟨outcome, left⟩
  · exact ⟨released, trivial⟩
  · cases left with
    | none => exact ⟨released, trivial⟩
    | some entry =>
        exact Call.keeps_then (awaitDrained_keeps entry) (fun _ => Call.keeps_pure trivial) _ released

/-- An unmount call on an attached kernel. -/
theorem umount_on (attached : host.kernel.attached = true) (caller : Caller) (task : Personality)
    (dir : String) :
    on (umount caller task dir) host =
      (on (hookPreUmount caller task dir) host).bind (andThen fun context middle =>
        on (do
          match context with
          | some context => hookPostUmount (Mounts.at? dir middle.kernel.mounts).isSome context
          | none => pure ()
          if (Mounts.at? dir middle.kernel.mounts).isSome then return () else throw Errno.EINVAL)
          { middle with
            kernel.mounts := Mounts.removeLatest (·.point.path == dir) middle.kernel.mounts }) := by
  rw [umount, on_get_bind]
  simp only [attached, if_true]
  rw [on_bind]
  rfl

theorem hookPostUmount_on (context : UmountContext) (host : Host) :
    on (hookPostUmount true context) host =
      (releaseMount context.fsType context.count (host.entered "umount")).bind fun _ later =>
        .done later.leaving (.ok ()) := by
  rw [hookPostUmount, gated_on, if_pos rfl]
  show Run.bind _ (((releaseMount _ _ _).bind _).bind _) = _
  simp only [Run.bind_assoc]
  rfl

/-- The hook after an unmount drops the uses of what the ledger strikes off. -/
theorem balanced_postUmount (watched : Watched origin strays host)
    (reckoned : Reckoned host.table ledger) {dir : String} {gone : Enrolled}
    (found : ledger.roll.find? (·.dir == dir) = some gone)
    (follows : Follows (ledger.strike dir).roll host.kernel.mounts) {answer : Except Errno Unit}
    (ended : Run.Ends Apart (on (hookPostUmount true ⟨dir, gone.fsType, gone.weight⟩) host) later
      answer) : answer = .ok () ∧ Balanced origin strays later (ledger.strike dir) := by
  rw [hookPostUmount_on, Run.ends_bind] at ended
  obtain ⟨released, outcome, running, ended⟩ := ended
  obtain ⟨rfl, rfl⟩ := Run.ends_done ended
  have entered : Watched origin strays (host.entered "umount") :=
    watched_counted watched rfl rfl rfl
  have apart := (ends_apart (releaseMount_apart _ _ _) running).1
  have kept := watched_blind _ _ apart.kernel apart.table
    (watched_releaseMount entered gone.fsType gone.weight)
  have lowered : Lowered gone.fsType gone.weight host.world released.leaving.world := by
    rw [world, world, show released.leaving.table = released.table from rfl, apart.table]
    exact releaseMount_lowers entered.sound entered.writable gone.fsType gone.weight
  refine ⟨rfl, watched_counted kept rfl rfl rfl, ?_, reckoned_lowered reckoned found lowered⟩
  have mounts : released.kernel.mounts = host.kernel.mounts :=
    (congrArg Kernel.mounts apart.kernel).trans rfl
  exact (congrArg _ mounts).mpr follows

theorem strike_none {dir : String} (found : ledger.roll.find? (·.dir == dir) = none) :
    ledger.strike dir = ledger := by
  rw [Ledger.strike, found]

theorem strike_some {dir : String} {gone : Enrolled}
    (found : ledger.roll.find? (·.dir == dir) = some gone) :
    ledger.strike dir = ledger.without gone (ledger.roll.eraseP (·.dir == dir)) := by
  rw [Ledger.strike, found]

/-- What the hook before an unmount learns is what the ledger strikes off. -/
theorem umountContext_struck (follows : Follows ledger.roll host.kernel.mounts) (dir : String) :
    host.umountContext dir = (ledger.roll.find? (·.dir == dir)).map fun gone =>
      ⟨dir, gone.fsType, gone.weight⟩ := by
  have place := congrArg (Option.map fun place => (⟨dir, place.2.1, place.2.2⟩ : UmountContext))
    (follows_found follows dir)
  rw [Option.map_map, Option.map_map] at place
  rw [umountContext, Kernel.mountAt?, Option.map_map]
  exact place.symm

theorem at_struck (follows : Follows ledger.roll host.kernel.mounts) (dir : String) :
    (Mounts.at? dir host.kernel.mounts).isSome = (ledger.roll.find? (·.dir == dir)).isSome := by
  simpa only [Option.isSome_map] using (congrArg Option.isSome (follows_found follows dir)).symm

theorem balanced_umount (attached : origin.attached = true)
    (balanced : Balanced origin strays host ledger) {caller : Caller} {task : Personality}
    {dir : String} {answer : Except Errno Unit}
    (ended : Run.Ends Apart (on (umount caller task dir) host) later answer) :
    Balanced origin strays later (ledger.strike dir) := by
  have attached' : host.kernel.attached = true := balanced.watched.attached.trans attached
  rw [umount_on attached', Run.ends_bind] at ended
  obtain ⟨middle, context, asked, ended⟩ := ended
  obtain ⟨apart, rfl⟩ := ends_apart (hookPreUmount_apart _ _ _ _) asked
  have before := balanced_apart balanced apart
  have struck := follows_struck before.follows dir
  have watched := watched_mounts before.watched
    (Kernel.furnished_umount before.watched.furnished (·.point.path == dir))
  simp only [andThen, umountContext_struck balanced.follows, at_struck before.follows] at ended
  -- The roll is searched as the mounts are, so both find the same or nothing.
  cases found : ledger.roll.find? (·.dir == dir) with
  | none =>
      have stays : ledger.roll.eraseP (·.dir == dir) = ledger.roll :=
        List.eraseP_of_forall_not (List.find?_eq_none.mp found)
      simp only [found, Option.map_none, Option.isSome_none, Bool.false_eq_true, if_false] at ended
      obtain ⟨rfl, _⟩ := Run.ends_done ended
      rw [strike_none found]
      exact ⟨watched, stays ▸ struck, before.reckoned⟩
  | some gone =>
      have follows : Follows (ledger.strike dir).roll
          (Mounts.removeLatest (·.point.path == dir) middle.kernel.mounts) := by
        rw [strike_some found]
        exact struck
      simp only [found, Option.map_some, Option.isSome_some, if_true] at ended
      rw [on_bind, Run.ends_bind] at ended
      obtain ⟨last, value, dropping, ended⟩ := ended
      obtain ⟨rfl, kept⟩ := balanced_postUmount watched before.reckoned found follows dropping
      obtain ⟨rfl, _⟩ := Run.ends_done ended
      exact kept

/-! ### Courses -/

/-- The ledger of a walk over mounts, each one counted if its type is tracked
once it has been processed. -/
def Ledger.walked : List MountPoint → Host → Ledger → Ledger
  | [], _, ledger => ledger
  | point :: rest, host, ledger =>
      let later := ((processMount point false).start host).state
      walked rest later (ledger.enter point (later.tracks point.fsType))

/-- Mounts and unmounts, any number of them, on an attached kernel. While a
call sleeps, and between calls, others may change all but kernel and table. -/
inductive Course (first : Host) : Host → Ledger → Prop
  | start : Course first (attach first)
      (Ledger.empty.walked (first.kernel.mounts.map (·.point)) first)
  | aside {host later : Host} {ledger : Ledger} (apart : Apart host later)
      (course : Course first host ledger) : Course first later ledger
  | mount {host later : Host} {ledger : Ledger} (caller : Caller) (task : Personality)
      (device dir fsType : String) (flags : UInt64) {answer : Except Errno Unit}
      (ended : Run.Ends Apart (on (mount caller task device dir fsType flags) host) later answer)
      (course : Course first host ledger) :
      Course first later (ledger.enrol (!mountUncounted flags) later)
  | umount {host later : Host} {ledger : Ledger} (caller : Caller) (task : Personality)
      (dir : String) {answer : Except Errno Unit}
      (ended : Run.Ends Apart (on (umount caller task dir) host) later answer)
      (course : Course first host ledger) : Course first later (ledger.strike dir)

theorem walked_balanced (clean : Clean origin.memory.content) (mounts : List Mount) :
    ∀ host ledger done, Watched origin strays host → (¬ Tidy host.kernel → strays) →
      (∀ mount ∈ mounts, mount ∈ host.kernel.mounts) → Follows ledger.roll done →
      Reckoned host.table ledger →
      ((walkMounts (mounts.map (·.point))).start host).state.kernel.mounts = host.kernel.mounts ∧
        Follows (ledger.walked (mounts.map (·.point)) host).roll (done ++ mounts) ∧
        Reckoned ((walkMounts (mounts.map (·.point))).start host).state.table
          (ledger.walked (mounts.map (·.point)) host) := by
  induction mounts with
  | nil =>
      intro host ledger done _ _ _ follows reckoned
      rw [List.append_nil]
      exact ⟨rfl, follows, reckoned⟩
  | cons mount rest rest_walked =>
      intro host ledger done watched loose present follows reckoned
      obtain ⟨driver, hookable⟩ := hookable_mount watched loose (present mount (by simp))
      obtain ⟨middle, answer, ran, kept, mounts⟩ := processMount_on clean watched hookable false
      obtain ⟨_, counted⟩ := processMount_reckoned clean watched reckoned ran
      have loose' : ¬ Tidy middle.kernel → strays := by
        simpa only [Tidy, Kernel.findRegular, mounts] using loose
      have walk : (walkMounts ((mount :: rest).map (·.point))).start host =
          (walkMounts (rest.map (·.point))).start middle := by
        show ((processMount mount.point false host).bind _).bind _ = _
        rw [ran]
        rfl
      have met : ((processMount mount.point false).start host).state = middle := by
        rw [Call.start, ran]
        rfl
      have further := rest_walked middle _ (done ++ [mount]) kept loose' (by
        rw [mounts]
        exact fun other member => present other (List.mem_cons_of_mem _ member))
        (follows_entered follows mount (middle.tracks mount.point.fsType)) counted
      rw [mounts] at further
      rw [walk, List.append_cons]
      simp only [List.map_cons, Ledger.walked, met]
      exact further

theorem balanced_attach {first : Host} (clean : Clean first.kernel.memory.content)
    (furnished : first.kernel.Furnished) (writable : first.kernel.memory.isSealed = false)
    (empty : first.table = Table.empty) :
    Balanced { first.kernel with attached := true } (¬ Tidy first.kernel) (attach first)
      (Ledger.empty.walked (first.kernel.mounts.map (·.point)) first) := by
  obtain ⟨mounts, follows, reckoned⟩ := walked_balanced clean first.kernel.mounts first Ledger.empty
    [] (watched_first furnished writable empty) id (fun _ member => member) rfl
    (empty ▸ reckoned_empty)
  exact ⟨watched_attach clean furnished writable empty, mounts.symm ▸ follows, reckoned⟩

/-- Every step of a course keeps the ledger balanced, so all of them do. -/
theorem course_balanced {first : Host} (clean : Clean first.kernel.memory.content)
    (furnished : first.kernel.Furnished) (writable : first.kernel.memory.isSealed = false)
    (empty : first.table = Table.empty) (course : Course first host ledger) :
    Balanced { first.kernel with attached := true } (¬ Tidy first.kernel) host ledger := by
  have clean' : Clean ({ first.kernel with attached := true } : Kernel).memory.content := clean
  induction course with
  | start => exact balanced_attach clean furnished writable empty
  | aside apart course balanced => exact balanced_apart balanced apart
  | mount caller task device dir fsType flags ended course balanced =>
      exact balanced_mount clean' rfl balanced ended
  | umount caller task dir ended course balanced => exact balanced_umount rfl balanced ended

/-- In every course a type is in the table exactly as long as its counted
mounts weigh more than what is lost to it, to unmounts of uncounted ones or
because it did not fit 32 bits, or its uses have just started over at zero.
Where nothing was lost that is as long as one counted mount is there. -/
theorem tracked_iff_unspent {first : Host} (assembled : first.kernel.Assembled)
    (roomy : first.kernel.Roomy) (empty : first.table = Table.empty)
    (course : Course first host ledger) (fsType : String) :
    Follows ledger.roll host.kernel.mounts ∧
      (host.table.useCount? fsType).getD 0 + ledger.lost fsType = standing fsType ledger.roll ∧
      (host.table.contains fsType = true ↔
        ledger.lost fsType < standing fsType ledger.roll ∨ ledger.zeroed fsType = true) ∧
      (fsType ∉ ledger.strays → fsType ∉ ledger.wrapped → (host.table.contains fsType = true ↔
        ∃ enrolled ∈ ledger.roll, enrolled.counted = true ∧ enrolled.fsType = fsType)) := by
  have ready := Kernel.assembled_ready assembled roomy
  have clean : Clean first.kernel.memory.content := Kernel.addressed_genuine ready.addressed roomy
  have balanced := course_balanced clean (Kernel.assembled_furnished assembled)
    ready.addressed.writable empty course
  have uses := balanced.reckoned.uses fsType
  have tracked : host.table.contains fsType = true ↔
      ledger.lost fsType < standing fsType ledger.roll ∨ ledger.zeroed fsType = true := by
    rw [contains_iff, balanced.reckoned.zero]
    apply or_congr_left
    omega
  refine ⟨balanced.follows, uses, tracked, ?_⟩
  intro spared fits
  rw [tracked, ← standing_pos balanced.reckoned.weights,
    balanced.reckoned.spared fsType spared fits, balanced.reckoned.fitting fsType fits]
  simp

/-! A mount, and another one bound to it that comes and goes. -/

def boundKernel : Kernel :=
  ((Kernel.empty.register "ext4" false false).2.withMount "/dev/a" "/a" "ext4").withFile "/a" "f"

theorem boundKernel_assembled : boundKernel.Assembled :=
  Kernel.assembled_withFile (Kernel.assembled_withMount (.register false false rfl .empty)
    "/dev/a" "/a" "ext4") "/a" "f"

def shell : Personality := ⟨1, 1, 0, 0, 0, 0, "sh"⟩

def boundHost : Host :=
  (on (mount ⟨"main", none, false⟩ shell "/a" "/b" "ext4" MountFlags.bind)
    (attach (bare boundKernel))).state

def unboundHost : Host := (on (umount ⟨"main", none, false⟩ shell "/b") boundHost).state

def unboundLedger : Ledger :=
  ((Ledger.empty.walked (boundKernel.mounts.map (·.point)) (bare boundKernel)).enrol
    (!mountUncounted MountFlags.bind) boundHost).strike "/b"

theorem unbound_course : Course (bare boundKernel) unboundHost unboundLedger := by
  have bound : Run.Ends Apart (on (mount ⟨"main", none, false⟩ shell "/a" "/b" "ext4"
      MountFlags.bind) (attach (bare boundKernel))) boundHost (.ok ()) :=
    .done _ _
  have unbound : Run.Ends Apart (on (umount ⟨"main", none, false⟩ shell "/b") boundHost)
      unboundHost (.ok ()) := .done _ _
  exact .umount _ _ "/b" unbound (.mount _ _ "/a" "/b" "ext4" MountFlags.bind bound .start)

/-- The counted mount is still there, and its type is no longer tracked. -/
theorem unbound_untracked :
    (∃ enrolled ∈ unboundLedger.roll, enrolled.counted = true ∧ enrolled.fsType = "ext4") ∧
      unboundHost.table.contains "ext4" = false := by
  have reckoned := tracked_iff_unspent boundKernel_assembled (by decide +kernel) rfl unbound_course
    "ext4"
  have spent : ¬ (unboundLedger.lost "ext4" < standing "ext4" unboundLedger.roll ∨
      unboundLedger.zeroed "ext4" = true) := by decide +kernel
  have counted : ∃ enrolled ∈ unboundLedger.roll,
      enrolled.counted = true ∧ enrolled.fsType = "ext4" := by decide +kernel
  exact ⟨counted, by simpa using mt reckoned.2.2.1.mp spent⟩

end Interception.Host
