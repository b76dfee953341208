import Interception.Proofs.Host.Lenience
import Interception.Proofs.Host.Tending

/-!
A hooked host and its shadow: the bare host that nothing is attached to, over
the same kernel with its slots as they were at first. A call mimics another if
it ends at once on the hooked host and the other one does so on the shadow,
with the same answer, and the shadow of the one host is the other host again.
-/

namespace Interception

/-- The kernel without hooks, over the slots of another one. -/
def Kernel.unhooked (kernel origin : Kernel) : Kernel :=
  { kernel with memory := origin.memory, attached := false }

namespace Host

open Syscall Patch

variable {Value Result : Type} {origin : Kernel} {attended : Prop} {held : Option Nat}
  {host later : Host}

def shadow (origin : Kernel) (host : Host) : Host :=
  { bare (host.kernel.unhooked origin) with clock := host.clock }

/-- A kernel that is fit to be hooked, with the hooks' target attached. -/
structure Pristine (origin : Kernel) : Prop where
  clean : Clean origin.memory.content
  separate : origin.Separate
  attached : origin.attached = true

/-- What is true of a hooked host all the time, with a held entry or without. -/
structure Fit (origin : Kernel) (attended : Prop) (held : Option Nat) (host : Host) : Prop where
  tended : Tended origin host
  inUse : InUse held host.table
  lenient : Lenient attended host

theorem fit_attached (pristine : Pristine origin) (fit : Fit origin attended held host) :
    host.kernel.attached = true :=
  fit.tended.watched.attached.trans pristine.attached

/-! ### Steps that leave no trace in the shadow -/

theorem fit_entered (fit : Fit origin attended held host) (label : String) :
    Fit origin attended held (host.entered label) :=
  ⟨tended_counted fit.tended rfl rfl rfl, fit.inUse,
    ⟨fit.lenient.chain, fit.lenient.calm, fit.lenient.vetting⟩⟩

theorem fit_leaving (fit : Fit origin attended held host) : Fit origin attended held host.leaving :=
  ⟨tended_counted fit.tended rfl rfl rfl, fit.inUse,
    ⟨fit.lenient.chain, fit.lenient.calm, fit.lenient.vetting⟩⟩

theorem fit_taking (fit : Fit origin attended none host) (id : Nat) :
    Fit origin attended (some id) (host.takingUse id) := by
  refine ⟨tended_counted fit.tended rfl (listing_acquire host.table id) rfl, ?_,
    ⟨fit.lenient.chain, fit.lenient.calm, fit.lenient.vetting⟩⟩
  exact inUse_acquire fit.inUse (live_kept fit.tended.watched.sound.kept) id

theorem fit_giving {id : Nat} (fit : Fit origin attended (some id) host) :
    Fit origin attended none (host.givingUse id) :=
  ⟨tended_counted fit.tended rfl (listing_release host.table id) rfl, inUse_release fit.inUse,
    ⟨fit.lenient.chain, fit.lenient.calm, fit.lenient.vetting⟩⟩

theorem fit_inWorld {after : World} (tended : Tended origin (host.inWorld after))
    (inUse : InUse held after.table) (lenient : Lenient attended host) :
    Fit origin attended held (host.inWorld after) :=
  ⟨tended, inUse, ⟨lenient.chain, lenient.calm, lenient.vetting⟩⟩

theorem fit_spared (fit : Fit origin attended held host) (spared : Spared host later) :
    Fit origin attended held later ∧ later.shadow origin = host.shadow origin := by
  constructor
  · refine ⟨tended_counted fit.tended spared.kernel ?_ ?_, ?_, lenient_spared fit.lenient spared⟩
    · rw [spared.table]
    · rw [spared.table]
    · rw [spared.table]
      exact fit.inUse
  · rw [shadow, shadow, spared.kernel, spared.clock]

/-- A step of the kernel that the hooks rest on stays out of. -/
theorem fit_kernel (fit : Fit origin attended held host) {kernel : Kernel}
    (furnished : kernel.Furnished) (stays : Kernel.Stays host.kernel kernel) :
    Fit origin attended held { host with kernel } :=
  ⟨tended_same fit.tended furnished stays rfl rfl, fit.inUse,
    ⟨fit.lenient.chain, fit.lenient.calm, fit.lenient.vetting⟩⟩

theorem fit_mounts (fit : Fit origin attended held host) {mounts : List Mount}
    (furnished : Kernel.Furnished { host.kernel with mounts := mounts }) :
    Fit origin attended held { host with kernel.mounts := mounts } :=
  fit_kernel fit furnished ⟨rfl, rfl, rfl, rfl, rfl⟩

/-! ### Calls that mimic each other -/

def Mimics (origin : Kernel) (attended : Prop) (held : Option Nat) (call ghost : Syscall Host Value)
    (host : Host) : Prop :=
  ∃ later answer, on call host = .done later answer ∧
    on ghost (host.shadow origin) = .done (later.shadow origin) answer ∧
    Fit origin attended held later

/-- A call that the hooks make no difference to. -/
abbrev Unaltered (origin : Kernel) (attended : Prop) (call : Syscall Host Value) (host : Host) :
    Prop :=
  Mimics origin attended none call call host

theorem mimics_pure (fit : Fit origin attended held host) (value : Value) :
    Mimics origin attended held (pure value) (pure value) host :=
  ⟨host, .ok value, rfl, rfl, fit⟩

theorem mimics_throw (fit : Fit origin attended held host) (errno : Errno) :
    Mimics origin attended held (throw errno : Syscall Host Value) (throw errno) host :=
  ⟨host, .error errno, rfl, rfl, fit⟩

theorem mimics_get {next ghostNext : Host → Syscall Host Value}
    (inside : Mimics origin attended held (next host) (ghostNext (host.shadow origin)) host) :
    Mimics origin attended held (get >>= next) (get >>= ghostNext) host := by
  unfold Mimics
  rw [on_get_bind, on_get_bind]
  exact inside

/-- The shadow need not look at itself. -/
theorem mimics_read {next : Host → Syscall Host Value} {ghost : Syscall Host Value}
    (inside : Mimics origin attended held (next host) ghost host) :
    Mimics origin attended held (get >>= next) ghost host := by
  unfold Mimics
  rw [on_get_bind]
  exact inside

theorem mimics_bind {call ghost : Syscall Host Value} {next ghostNext : Value → Syscall Host Result}
    (first : Mimics origin attended held call ghost host)
    (second : ∀ later value, on call host = .done later (.ok value) →
      Fit origin attended held later →
      Mimics origin attended held (next value) (ghostNext value) later) :
    Mimics origin attended held (call >>= next) (ghost >>= ghostNext) host := by
  obtain ⟨later, answer, ran, ghostRan, fit⟩ := first
  unfold Mimics
  rw [on_bind, on_bind, ran, ghostRan, Run.bind_done, Run.bind_done]
  cases answer with
  | error errno => exact ⟨later, .error errno, rfl, rfl, fit⟩
  | ok value => exact second later value ran fit

theorem mimics_gated {label : String} {body ghost : Syscall Host Value}
    (inside : Mimics origin attended held body ghost (host.entered label)) :
    Mimics origin attended held (gated label body) ghost host := by
  obtain ⟨later, answer, ran, ghostRan, fit⟩ := inside
  refine ⟨later.leaving, answer, ?_, ghostRan, fit_leaving fit⟩
  rw [gated_on, ran, Run.bind_done]

/-- Only between calls is no entry held. -/
theorem mimics_holding (fit : Fit origin attended none host) (entry : Option Nat)
    {body ghost : Syscall Host Value}
    (inside : ∀ held later, Fit origin attended held later → later.kernel = host.kernel →
      Mimics origin attended held body ghost later) :
    Mimics origin attended none (holding entry body) ghost host := by
  cases entry with
  | none => exact inside none host fit rfl
  | some id =>
      obtain ⟨later, answer, ran, ghostRan, kept⟩ :=
        inside (some id) (host.takingUse id) (fit_taking fit id) rfl
      refine ⟨later.givingUse id, answer, ?_, ghostRan, fit_giving kept⟩
      rw [holding_on, ran, Run.bind_done]

/-! ### Calls the shadow knows nothing of -/

def Unseen (origin : Kernel) (attended : Prop) (held : Option Nat) (call : Syscall Host Value)
    (host : Host) : Prop :=
  ∃ later value, on call host = .done later (.ok value) ∧
    later.shadow origin = host.shadow origin ∧ Fit origin attended held later

theorem unseen_pure (fit : Fit origin attended held host) (value : Value) :
    Unseen origin attended held (pure value) host :=
  ⟨host, value, rfl, rfl, fit⟩

theorem unseen_get {next : Host → Syscall Host Value}
    (inside : Unseen origin attended held (next host) host) :
    Unseen origin attended held (get >>= next) host := by
  unfold Unseen
  rw [on_get_bind]
  exact inside

theorem unseen_bind {call : Syscall Host Value} {next : Value → Syscall Host Result}
    (first : Unseen origin attended held call host)
    (second : ∀ later value, Fit origin attended held later →
      Unseen origin attended held (next value) later) :
    Unseen origin attended held (call >>= next) host := by
  obtain ⟨later, value, ran, same, fit⟩ := first
  obtain ⟨last, result, ranNext, sameNext, kept⟩ := second later value fit
  refine ⟨last, result, ?_, sameNext.trans same, kept⟩
  rw [on_bind, ran, Run.bind_done]
  exact ranNext

theorem unseen_gated {label : String} {body : Syscall Host Value}
    (inside : Unseen origin attended held body (host.entered label)) :
    Unseen origin attended held (gated label body) host := by
  obtain ⟨later, value, ran, same, fit⟩ := inside
  refine ⟨later.leaving, value, ?_, same, fit_leaving fit⟩
  rw [gated_on, ran, Run.bind_done]

theorem mimics_after {call : Syscall Host Value} {next : Value → Syscall Host Result}
    {ghost : Syscall Host Result} (first : Unseen origin attended held call host)
    (second : ∀ later value, on call host = .done later (.ok value) →
      later.shadow origin = host.shadow origin → Fit origin attended held later →
      Mimics origin attended held (next value) ghost later) :
    Mimics origin attended held (call >>= next) ghost host := by
  obtain ⟨later, value, ran, same, fit⟩ := first
  have following := second later value ran same fit
  unfold Mimics at following ⊢
  rw [same] at following
  rw [on_bind, ran, Run.bind_done]
  exact following

theorem examine_unseen (fit : Fit origin attended held host) {caller : Caller}
    {operation : Operation} (examined : host.intercepts caller operation = true)
    (task : Personality) (event : Event) :
    Unseen origin attended held (examineInside caller task event) host := by
  -- Nothing is examined while interception is off.
  have enabled : host.hook.enabled = true := by
    rw [intercepts, Bool.and_eq_true, Bool.and_eq_true] at examined
    exact examined.1.1
  have tolerant : Tolerant attended host.vetting :=
    fit.lenient.vetting.resolve_left (by simp [enabled])
  obtain ⟨later, ran, spared⟩ := examine_passes fit.lenient tolerant _ task event
  obtain ⟨kept, same⟩ := fit_spared fit spared
  exact ⟨later, (), ran, same, kept⟩

theorem ignoringFailure_unseen {body : Syscall Host Unit}
    (inside : Unseen origin attended held body host) :
    Unseen origin attended held (ignoringFailure body) host := by
  obtain ⟨later, value, ran, same, fit⟩ := inside
  refine ⟨later, (), ?_, same, fit⟩
  show on (ExceptT.lift body.run >>= fun _ => pure ()) host = _
  rw [on_bind, on_answer, ran]
  rfl

/-! ### Native functions -/

/-- A step that goes by what stays of a kernel when hooks come and go. -/
def Neutral (origin : Kernel) (step : Kernel → Except Errno Value × Kernel) : Prop :=
  ∀ kernel : Kernel, step (kernel.unhooked origin) =
    ((step kernel).1, (step kernel).2.unhooked origin)

/-- A native step that brings files of known drivers and keeps the kernel in order. -/
structure Fetches (origin : Kernel) (step : Kernel → Except Errno Value × Kernel)
    (found : Value → Option Inode) (kernel : Kernel) : Prop where
  neutral : Neutral origin step
  furnished : (step kernel).2.Furnished
  stays : Kernel.Stays kernel (step kernel).2
  bears : ∀ value inode, (step kernel).1 = .ok value → found value = some inode →
    ∃ fsType, kernel.Bears fsType inode

theorem native_shadow {step : Kernel → Except Errno Value × Kernel} (neutral : Neutral origin step)
    (host : Host) :
    on (native step) (host.shadow origin) =
      .done ({ host with kernel := (step host.kernel).2 }.shadow origin) (step host.kernel).1 := by
  have stepped : step (host.shadow origin).kernel =
      ((step host.kernel).1, (step host.kernel).2.unhooked origin) := neutral host.kernel
  rw [native_on, stepped]
  rfl

theorem mimics_native (fit : Fit origin attended held host)
    {step : Kernel → Except Errno Value × Kernel} {found : Value → Option Inode}
    (fetches : Fetches origin step found host.kernel) :
    Mimics origin attended held (native step) (native step) host :=
  ⟨_, _, native_on step host, native_shadow fetches.neutral host,
    fit_kernel fit fetches.furnished fetches.stays⟩

variable {kernel : Kernel}

/-- What may be called is told by the native functions, not by slots. -/
theorem neutral_called (target : Addr) (hook : Hook)
    {step : Kernel → Except Errno Value × Kernel} (neutral : Neutral origin step) :
    Neutral origin fun kernel =>
      if kernel.callable target hook then step kernel else (.error Errno.EINVAL, kernel) := by
  intro kernel
  have same : (kernel.unhooked origin).callable target hook = kernel.callable target hook := rfl
  simp only [same]
  split
  · exact neutral kernel
  · rfl

theorem createIn_neutral (dir : Inode) (name : String) :
    Neutral origin (·.createIn dir name) := by
  intro kernel
  have drivers : (kernel.unhooked origin).driver? dir.fsType = kernel.driver? dir.fsType := rfl
  have mounts : (kernel.unhooked origin).mounts = kernel.mounts := rfl
  simp only [Kernel.createIn, drivers, mounts]
  cases kernel.driver? dir.fsType with
  | none => rfl
  | some driver =>
      cases Mounts.latest (Kernel.rootedAt dir) kernel.mounts with
      | none => rfl
      | some mount =>
          simp only
          cases mount.file? name <;> rfl

theorem nativeOpen_fetches (furnished : kernel.Furnished) (target : Addr) :
    Fetches origin (·.nativeOpen target) (fun _ => none) kernel := by
  obtain ⟨kept, stays⟩ := nativeOpen_stays target kernel
  exact ⟨neutral_called target .openFile fun _ => rfl, kept furnished, stays, by simp⟩

theorem nativeRelease_fetches (furnished : kernel.Furnished) (target : Addr) :
    Fetches origin (·.nativeRelease target) (fun _ => none) kernel := by
  have tame := nativeRelease_tame target kernel
  exact ⟨neutral_called target .release fun _ => rfl, tame.furnished furnished, tame.stays, by simp⟩

theorem nativeRevalidate_fetches (furnished : kernel.Furnished) (target : Addr)
    {inode : Option Inode}
    (bears : ∀ file, inode = some file → ∃ fsType, kernel.Bears fsType file) :
    Fetches origin (·.nativeRevalidate target) (fun _ => inode) kernel := by
  have tame : Kernel.Tame kernel (kernel.nativeRevalidate target).2 :=
    Kernel.nativeRevalidate_tame target
  exact ⟨neutral_called target .revalidate fun _ => rfl, tame.furnished furnished, tame.stays,
    fun _ file _ same => bears file same⟩

theorem nativeLookup_fetches (furnished : kernel.Furnished) {dir : Inode}
    (places : kernel.Places dir) (target : Addr) (name : String) :
    Fetches origin (·.nativeLookup target dir name) id kernel := by
  have tame : Kernel.Tame kernel (kernel.nativeLookup target dir name).2 :=
    Kernel.nativeLookup_tame target dir name
  refine ⟨neutral_called target .lookup fun _ => rfl, tame.furnished furnished, tame.stays, ?_⟩
  rintro value inode answered rfl
  exact ⟨dir.fsType, Kernel.nativeLookup_bears furnished places answered⟩

theorem nativeCreate_fetches (furnished : kernel.Furnished) {dir : Inode}
    (places : kernel.Places dir) (target : Addr) (name : String) :
    Fetches origin (·.nativeCreate target dir name) some kernel := by
  obtain ⟨tame, bears⟩ := Kernel.nativeCreate_spec furnished places target name
  constructor
  case neutral =>
    exact neutral_called target .create fun kernel =>
      createIn_neutral dir name { kernel with calls.create := kernel.calls.create + 1 }
  case furnished => exact tame.furnished furnished
  case stays => exact tame.stays
  case bears =>
    rintro value inode answered ⟨⟩
    exact ⟨dir.fsType, bears value answered⟩

theorem nativeAtomicOpen_fetches (furnished : kernel.Furnished) {dir : Inode}
    (places : kernel.Places dir) (target : Addr) (name : String) :
    Fetches origin (·.nativeAtomicOpen target dir name) some kernel := by
  obtain ⟨tame, bears⟩ := Kernel.nativeAtomicOpen_spec furnished places target name
  constructor
  case neutral =>
    exact neutral_called target .atomicOpen fun kernel =>
      createIn_neutral dir name { kernel with calls.atomicOpen := kernel.calls.atomicOpen + 1 }
  case furnished => exact tame.furnished furnished
  case stays => exact tame.stays
  case bears =>
    rintro value inode answered ⟨⟩
    exact ⟨dir.fsType, bears value answered⟩

end Host

end Interception
