import Interception.Proofs.Host.Courses
import Interception.Proofs.Host.Mimicking

/-!
Mounts and unmounts in a hooked kernel and in its shadow. The change of the
mounts is the same in both. What the hooks before and after it do, to filters
and to the patch table, the shadow knows nothing of: none of them sleeps,
refuses anything or touches a mount.
-/

namespace Interception.Host

open Syscall Patch

variable {origin : Kernel} {attended : Prop} {held : Option Nat} {host : Host}
  {point : MountPoint}

/-! ### Mount points -/

theorem remountPoint_unaltered (fit : Fit origin attended none host) (dir : String)
    (flags : UInt64) :
    Unaltered origin attended (remountPoint dir flags) host := by
  have same : (host.shadow origin).kernel.mounts = host.kernel.mounts := rfl
  apply mimics_get
  rw [same]
  cases place : Mounts.at? dir host.kernel.mounts with
  | none =>
      simp only [place]
      exact mimics_throw fit Errno.EINVAL
  | some mount =>
      simp only [place]
      refine ⟨_, .ok { mount.point with flags }, rfl, rfl, fit_mounts fit ?_⟩
      exact Kernel.furnished_changed fit.tended.watched.furnished _ fun _ _ =>
        ⟨rfl, rfl, fun _ member => .inl member⟩

theorem bindPoint_unaltered (fit : Fit origin attended none host) (device dir : String)
    (flags : UInt64) :
    Unaltered origin attended (bindPoint device dir flags) host := by
  apply mimics_bind (resolve_unaltered fit device)
  rintro later ⟨source, rest⟩ resolved kept
  obtain ⟨driver, base⟩ := resolve_base fit.tended.watched resolved
  obtain ⟨mount, inside, same, _⟩ := base.present
  refine ⟨_, .ok { source with device, path := dir, flags }, rfl, rfl, fit_mounts kept ?_⟩
  exact Kernel.furnished_bind kept.tended.watched.furnished ⟨mount, inside, same⟩ device dir flags

theorem premounting_neutral (device dir fsType : String) :
    Neutral origin (premounting device dir fsType) := by
  intro kernel
  have drivers : (kernel.unhooked origin).driver? fsType = kernel.driver? fsType := rfl
  simp only [premounting, Kernel.premount, drivers]
  cases kernel.driver? fsType <;> rfl

theorem premounting_fetches {kernel : Kernel} (furnished : kernel.Furnished)
    (device dir fsType : String) :
    Fetches origin (premounting device dir fsType) (fun _ => none) kernel := by
  have kept : (premounting device dir fsType kernel).2.Furnished := by
    unfold premounting
    split
    · next made => exact (Kernel.furnished_premount furnished made).1
    · exact furnished
  exact ⟨premounting_neutral device dir fsType, kept, premounting_stays device dir fsType kernel,
    by simp⟩

theorem newPoint_unaltered (fit : Fit origin attended none host) (device dir fsType : String)
    (flags : UInt64) :
    Unaltered origin attended (newPoint device dir fsType flags) host := by
  have same : (host.shadow origin).kernel.mounts = host.kernel.mounts := rfl
  apply mimics_get
  rw [same]
  by_cases busy : host.kernel.mounts.any (·.point.path == dir) = true
  · rw [if_pos busy]
    exact ⟨host, .error Errno.EBUSY, rfl, rfl, fit⟩
  · rw [if_neg busy]
    have fetches : Fetches origin (premounting device dir fsType) (fun _ => none) host.kernel :=
      premounting_fetches fit.tended.watched.furnished device dir fsType
    exact mimics_bind (mimics_native fit fetches) fun _ _ _ kept => mimics_pure kept _

theorem placing_unaltered (fit : Fit origin attended none host) (device dir fsType : String)
    (flags : UInt64) :
    Unaltered origin attended (placing device dir fsType flags) host := by
  unfold placing
  split
  · exact remountPoint_unaltered fit dir flags
  · split
    · exact bindPoint_unaltered fit device dir flags
    · exact newPoint_unaltered fit device dir fsType flags

/-! ### Mounts -/

theorem hookPreMount_unseen (fit : Fit origin attended held host) (caller : Caller)
    (task : Personality) (device dir fsType : String) (flags : UInt64) :
    Unseen origin attended held (hookPreMount caller task device dir fsType flags) host := by
  have entered := fit_entered fit "mount"
  apply unseen_gated
  apply unseen_get
  by_cases asked : (host.entered "mount").intercepts caller .mount = true ∧
      !MountFlags.has flags MountFlags.ignored
  · rw [if_pos asked]
    exact examine_unseen entered asked.1 task _
  · rw [if_neg asked]
    exact unseen_pure entered ()

theorem hookPostMount_unseen (pristine : Pristine origin) (fit : Fit origin attended none host)
    {flags : UInt64}
    (hookable : mountUncounted flags = false → ∃ driver, Hookable origin True host point driver) :
    Unseen origin attended none (hookPostMount point flags) host := by
  have entered := fit_entered fit "mount"
  cases uncounted : mountUncounted flags with
  | true => exact ⟨_, (), hookPostMount_uncounted uncounted point host, rfl, fit_leaving entered⟩
  | false =>
      obtain ⟨driver, hookable⟩ := hookable uncounted
      have hookable' : Hookable origin True (host.entered "mount") point driver :=
        ⟨hookable.known, hookable.inodes, hookable.offered⟩
      obtain ⟨after, answer, ran, kept, idle⟩ := processMount_tends pristine.clean
        pristine.separate entered.tended entered.inUse hookable' true
      refine ⟨((host.entered "mount").inWorld after).leaving, (), ?_, rfl,
        fit_leaving (fit_inWorld kept idle entered.lenient)⟩
      rw [hookPostMount_counted uncounted, ran, Run.bind_done]

theorem mount_bare (detached : host.kernel.attached = false) (caller : Caller) (task : Personality)
    (device dir fsType : String) (flags : UInt64) :
    on (mount caller task device dir fsType flags) host =
      (on (placing device dir fsType flags) host).bind (andThen fun _ => on (pure ())) := by
  rw [mount, on_get_bind]
  simp only [detached, Bool.false_eq_true, if_false]
  rw [← on_bind, placing_bind]

theorem mount_unaltered (pristine : Pristine origin) (fit : Fit origin attended none host)
    (caller : Caller) (task : Personality) (device dir fsType : String) (flags : UInt64) :
    Unaltered origin attended (mount caller task device dir fsType flags) host := by
  obtain ⟨middle, _, asked, same, before⟩ :=
    hookPreMount_unseen fit caller task device dir fsType flags
  obtain ⟨later, answer, placed, ghostPlaced, kept⟩ :=
    placing_unaltered before device dir fsType flags
  have ghost : on (mount caller task device dir fsType flags) (host.shadow origin) =
      (Run.done (later.shadow origin) answer).bind (andThen fun _ => on (pure ())) := by
    rw [mount_bare rfl, ← same, ghostPlaced]
  unfold Unaltered Mimics
  rw [mount_on (fit_attached pristine fit), asked, Run.bind_done, ghost]
  simp only [andThen, placed, Run.bind_done]
  cases answer with
  | error errno => exact ⟨later, .error errno, rfl, rfl, kept⟩
  | ok point =>
      obtain ⟨_, _, placedAgain, _, hookable⟩ :=
        placing_on before.tended.watched device dir fsType flags
      cases placed.symm.trans placedAgain
      obtain ⟨last, _, ran, unmoved, after⟩ :=
        hookPostMount_unseen pristine kept (hookable point rfl)
      refine ⟨last, .ok (), ran, ?_, after⟩
      rw [unmoved]
      rfl

/-! ### Unmounts -/

theorem hookPreUmount_unseen (fit : Fit origin attended held host) (caller : Caller)
    (task : Personality) (dir : String) :
    Unseen origin attended held (hookPreUmount caller task dir) host := by
  have entered := fit_entered fit "umount"
  apply unseen_gated
  apply unseen_get
  cases (host.entered "umount").kernel.mountAt? dir with
  | none => exact unseen_pure entered none
  | some mount =>
      apply unseen_get
      by_cases asked : (host.entered "umount").intercepts caller .umount = true
      · simp only [asked, if_true]
        exact unseen_bind (ignoringFailure_unseen (examine_unseen entered asked task _))
          fun _ _ kept => unseen_pure kept _
      · simp only [asked]
        exact unseen_pure entered _

theorem hookPostUmount_unseen (pristine : Pristine origin) (fit : Fit origin attended none host)
    (removed : Bool) (context : UmountContext) :
    Unseen origin attended none (hookPostUmount removed context) host := by
  have entered := fit_entered fit "umount"
  cases removed with
  | false => exact unseen_gated (unseen_pure entered ())
  | true =>
      obtain ⟨after, answer, ran, kept, idle⟩ := releaseMount_tends pristine.clean
        pristine.separate entered.tended entered.inUse context.fsType context.count
      refine ⟨((host.entered "umount").inWorld after).leaving, (), ?_, rfl,
        fit_leaving (fit_inWorld kept idle entered.lenient)⟩
      rw [hookPostUmount_on, ran, Run.bind_done]

/-- What an unmount call does once the hook before it has spoken. -/
def unmounting (dir : String) (context : Option UmountContext) : Syscall Host Unit := do
  let mounts := (← get).kernel.mounts
  let removed := (Mounts.at? dir mounts).isSome
  setMounts (Mounts.removeLatest (·.point.path == dir) mounts)
  match context with
  | some context => hookPostUmount removed context
  | none => pure ()
  if removed then return () else throw Errno.EINVAL

theorem mimics_unmounting (pristine : Pristine origin) (fit : Fit origin attended none host)
    (dir : String) (context : Option UmountContext) :
    Mimics origin attended none (unmounting dir context) (unmounting dir none) host := by
  have same : (host.shadow origin).kernel.mounts = host.kernel.mounts := rfl
  have removed : Fit origin attended none { host with
      kernel.mounts := Mounts.removeLatest (·.point.path == dir) host.kernel.mounts } :=
    fit_mounts fit (Kernel.furnished_umount fit.tended.watched.furnished _)
  have ending (later : Host) (kept : Fit origin attended none later) : Mimics origin attended none
      (if (Mounts.at? dir host.kernel.mounts).isSome then pure () else throw Errno.EINVAL)
      (if (Mounts.at? dir host.kernel.mounts).isSome then pure () else throw Errno.EINVAL)
      later := by
    split
    · exact mimics_pure kept ()
    · exact mimics_throw kept Errno.EINVAL
  apply mimics_get
  rw [same]
  apply mimics_bind ⟨_, .ok (), rfl, rfl, removed⟩
  rintro later _ ⟨⟩ kept
  cases context with
  | none => exact ending _ kept
  | some context =>
      exact mimics_after (hookPostUmount_unseen pristine kept _ context)
        fun last _ _ _ after => ending last after

theorem umount_unaltered (pristine : Pristine origin) (fit : Fit origin attended none host)
    (caller : Caller) (task : Personality) (dir : String) :
    Unaltered origin attended (umount caller task dir) host := by
  have attached : host.kernel.attached = true := fit_attached pristine fit
  have detached : (host.shadow origin).kernel.attached = false := rfl
  apply mimics_get
  simp only [attached, detached, if_true, Bool.false_eq_true, if_false]
  apply mimics_after (hookPreUmount_unseen fit caller task dir)
  intro later context _ _ kept
  exact mimics_unmounting pristine kept dir context

end Interception.Host
