import Interception.Host.Service
import Interception.Proofs.Host.Calling
import Interception.Proofs.Patch.FileHooks

/-!
Calls through the hooks of file and dentry tables. As long as a hook is in
place the call finds an entry, so it never fails for want of one: an open
answers with what the chain decided or the native function said, and closes
and revalidations never hear of the chain at all.
-/

namespace Interception.Host

open Syscall Patch

variable {Value : Type}

/-! ### Opens -/

/-- What the chain has to say of an open, if it is asked. -/
def openVerdict (caller : Caller) (task : Personality) (inode : Inode) (file : OpenFile) :
    Syscall Host Unit := do
  if (← get).intercepts caller .openFile then
    examineInside caller task (fileEvent .openFile inode file)

theorem openVerdict_then (caller : Caller) (task : Personality) (inode : Inode) (file : OpenFile)
    (rest : Syscall Host Unit) (host : Host) :
    on (do
      if (← get).intercepts caller .openFile then
        examineInside caller task (fileEvent .openFile inode file)
      rest) host =
      (on (openVerdict caller task inode file) host).bind (andThen fun _ => on rest) := by
  rw [on_get_bind, openVerdict, on_get_bind]
  by_cases examined : host.intercepts caller .openFile = true
  · simp only [examined, if_true, on_bind]
  · simp only [examined]
    rfl

/-- What happens to an open once the chain has spoken. -/
def openEnding (entry : Entry) (verdict : Except Errno Unit) (host : Host) :
    Run Host (Except Errno Unit) :=
  match verdict with
  | .error errno => .done (host.givingUse entry.id).leaving (.error errno)
  | .ok () =>
      if entry.saved.openFile = Addr.null then .done (host.givingUse entry.id).leaving (.ok ())
      else
        .done ({ host with
          kernel := (host.kernel.nativeOpen entry.saved.openFile).2 }.givingUse entry.id).leaving
          (host.kernel.nativeOpen entry.saved.openFile).1

theorem hookOpen_on {caller : Caller} {task : Personality} {inode : Inode} {file : OpenFile}
    {host : Host} {entry : Entry} (found : host.table.byFileTable? inode.fOp = some entry) :
    on (hookOpen caller task inode file) host =
      (on (openVerdict caller task inode file)
        ((host.entered Hook.openFile.slotName).takingUse entry.id)).bind (openEnding entry) := by
  have found' : (host.entered Hook.openFile.slotName).table.byFileTable? inode.fOp = some entry :=
    found
  rw [hookOpen, gated_on, on_get_bind]
  simp only [found', holding_on, Run.bind_assoc]
  rw [openVerdict_then, Run.bind_assoc]
  congr 1
  funext verdict later
  cases verdict with
  | error errno => rfl
  | ok _ =>
      by_cases missing : entry.saved.openFile = Addr.null
      · simp only [andThen, openEnding, missing, if_true, on_pure, Run.bind_done]
      · simp only [andThen, openEnding, missing, if_false, native_on, Run.bind_done]

theorem nativeOpen_answers (target : Addr) (kernel : Kernel) :
    (kernel.nativeOpen target).1 ≠ .error Errno.ESRCH := by
  unfold Kernel.nativeOpen
  split <;> simp [Errno.EINVAL, Errno.ESRCH]

/-- An open fails for want of a process only when the chain says so. -/
theorem openEnding_answers (entry : Entry) (verdict : Except Errno Unit) (host : Host) :
    Run.Meets (fun _ => True)
      (fun _ answer => answer = .error Errno.ESRCH → verdict = .error Errno.ESRCH)
      (openEnding entry verdict host) := by
  cases verdict with
  | error errno => exact ⟨trivial, id⟩
  | ok _ =>
      unfold openEnding
      by_cases missing : entry.saved.openFile = Addr.null
      · rw [if_pos missing]
        refine ⟨trivial, ?_⟩
        intro impossible
        cases impossible
      · rw [if_neg missing]
        refine ⟨trivial, ?_⟩
        intro failed
        exact absurd failed (nativeOpen_answers _ _)

/-! ### Closes and revalidations -/

abbrev Found (errno : Errno) : Prop := errno ≠ Errno.ESRCH

/-- Whatever the state, the call does not fail for want of a process. -/
def AlwaysFound (call : Syscall Host Value) : Prop := Keeps (fun _ => True) Found call

theorem alwaysFound_examined (caller : Caller) (task : Personality) (event : Event) :
    AlwaysFound (ignoringFailure (examineInside caller task event)) := by
  apply keeps_ignoringFailure
  intro host _
  exact Run.meets_imp (Run.meets_true _) fun _ _ _ _ _ _ => trivial

theorem alwaysFound_native {step : Kernel → Except Errno Value × Kernel}
    (fine : ∀ kernel, (step kernel).1 ≠ .error Errno.ESRCH) : AlwaysFound (native step) := by
  apply keeps_native (fun _ _ => trivial)
  intro kernel errno same
  rintro rfl
  exact fine kernel same

theorem nativeRelease_answers (target : Addr) (kernel : Kernel) :
    (kernel.nativeRelease target).1 ≠ .error Errno.ESRCH := by
  unfold Kernel.nativeRelease
  split <;> simp [Errno.EINVAL, Errno.ESRCH]

theorem nativeRevalidate_answers (target : Addr) (kernel : Kernel) :
    (kernel.nativeRevalidate target).1 ≠ .error Errno.ESRCH := by
  unfold Kernel.nativeRevalidate
  split <;> simp [Errno.EINVAL, Errno.ESRCH]

/-- A hook call fails as what is inside it. -/
theorem gated_answers {label : String} {body : Syscall Host Value} {host : Host}
    (inside : Run.Meets (fun _ => True) (fun _ answer => ∀ errno, answer = .error errno → Found errno)
      (on body (host.entered label))) :
    Run.Meets (fun _ => True) (fun _ answer => answer ≠ .error Errno.ESRCH)
      (on (gated label body) host) := by
  rw [gated_on]
  apply Run.meets_imp (meets_ending inside fun _ _ => trivial)
  intro _ answer _ fine same
  exact fine Errno.ESRCH same rfl

theorem hookRelease_answers (caller : Caller) (task : Personality) (inode : Inode)
    (file : OpenFile) {host : Host} {entry : Entry}
    (found : host.table.byFileTable? inode.fOp = some entry) :
    Run.Meets (fun _ => True) (fun _ answer => answer ≠ .error Errno.ESRCH)
      (on (hookRelease caller task inode file) host) := by
  have found' : (host.entered Hook.release.slotName).table.byFileTable? inode.fOp = some entry :=
    found
  apply gated_answers
  rw [on_get_bind]
  simp only [found']
  refine keeps_holding (fun _ _ _ => trivial) (fun _ _ _ => trivial) ?_ _ trivial
  have last : AlwaysFound (if entry.saved.release = Addr.null then return ()
      else native (·.nativeRelease entry.saved.release)) :=
    keeps_ite (keeps_pure ()) (alwaysFound_native (nativeRelease_answers _))
  exact keeps_bind keeps_get fun current =>
    keeps_ite (keeps_bind (alwaysFound_examined caller task _) fun _ => last) last

theorem hookRevalidate_answers (dentry : Dentry) {host : Host} {found : Table.DentryMatch}
    (same : Table.byDentryTable? dentry.dOp (dentryType dentry) host.table.entries = some found) :
    Run.Meets (fun _ => True) (fun _ answer => answer ≠ .error Errno.ESRCH)
      (on (hookRevalidate dentry) host) := by
  have same' : Table.byDentryTable? dentry.dOp (dentryType dentry)
      (host.entered Hook.revalidate.slotName).table.entries = some found := same
  apply gated_answers
  rw [on_get_bind]
  simp only [same']
  refine keeps_holding (fun _ _ _ => trivial) (fun _ _ _ => trivial) ?_ _ trivial
  apply keeps_ite (keeps_pure true)
  apply keeps_bind (alwaysFound_native (nativeRevalidate_answers _))
  intro valid
  cases dentry.inode with
  | none => exact keeps_pure valid
  | some inode =>
      exact keeps_bind (keeps_lift fun _ _ => Run.meets_true _) fun _ => keeps_pure valid

/-! ### Runs -/

/-- Every hooked call on files and names finds its entry: only a verdict of
the chain can make an open answer that there is no such process. -/
structure CallLaw (host : Host) : Prop where
  opens : ∀ caller task inode file,
    host.kernel.load (inode.fOp.slot .openFile) = Hook.openFile.addr →
      ∃ entry, host.table.byFileTable? inode.fOp = some entry ∧
        on (hookOpen caller task inode file) host =
          (on (openVerdict caller task inode file)
            ((host.entered Hook.openFile.slotName).takingUse entry.id)).bind (openEnding entry) ∧
        ∀ verdict later, Run.Meets (fun _ => True)
          (fun _ answer => answer = .error Errno.ESRCH → verdict = .error Errno.ESRCH)
          (openEnding entry verdict later)
  releases : ∀ caller task inode file,
    host.kernel.load (inode.fOp.slot .release) = Hook.release.addr →
      Run.Meets (fun _ => True) (fun _ answer => answer ≠ .error Errno.ESRCH)
        (on (hookRelease caller task inode file) host)
  revalidations : ∀ dentry,
    host.kernel.load (dentry.dOp.slot .revalidate) = Hook.revalidate.addr →
      Run.Meets (fun _ => True) (fun _ answer => answer ≠ .error Errno.ESRCH)
        (on (hookRevalidate dentry) host)

theorem callLaw_kept {initial : Slot → Addr} (clean : Clean initial) {host : Host}
    (kept : Kept initial host.kernel.memory.content host.table.listing) : CallLaw host := by
  have files (table : FileTable) : FileLaw initial ⟨host.kernel.memory, host.table⟩ table :=
    fileLaw_kept clean kept table
  have dentries (table : DentryTable) : DentryLaw initial ⟨host.kernel.memory, host.table⟩ table :=
    dentryLaw_kept clean kept table
  constructor
  case opens =>
    intro caller task inode file hooked
    obtain ⟨entry, found, _, _⟩ := (files inode.fOp).found .openFile (.inl rfl) hooked
    exact ⟨entry, found, hookOpen_on found, openEnding_answers entry⟩
  case releases =>
    intro caller task inode file hooked
    obtain ⟨entry, found, _, _⟩ := (files inode.fOp).found .release (.inr rfl) hooked
    exact hookRelease_answers caller task inode file found
  case revalidations =>
    intro dentry hooked
    obtain ⟨found, same, _⟩ := (dentries dentry.dOp).found hooked (dentryType dentry)
    exact hookRevalidate_answers dentry same

/-- Whatever the run, the hooks of file and dentry tables follow the entries,
and no hooked call is left without one. -/
theorem file_hooks_follow_entries (memory : Memory)
    (clean : ∀ slot : Slot, memory.content slot ≠ slot.hook.addr) (steps : List Patch.Step) :
    (∀ table, FileLaw memory.content (replay steps (World.start memory)) table) ∧
      (∀ table, DentryLaw memory.content (replay steps (World.start memory)) table) ∧
      ∀ host : Host,
        host.kernel.memory.content = (replay steps (World.start memory)).memory.content →
        host.table.listing = (replay steps (World.start memory)).table.listing → CallLaw host := by
  have sound := sound_replay clean steps _ (sound_start memory)
  refine ⟨fileLaw_kept clean sound.kept, dentryLaw_kept clean sound.kept, ?_⟩
  intro host content listing
  apply callLaw_kept clean
  rw [content, listing]
  exact sound.kept

/-! One type with one regular file, and a chain that denies with the very
number for a missing process. -/

def plainWorld : World :=
  replay [.processMount ⟨"ext4", plainRoot, none, some plainFile, false, 1⟩] (World.start uniform)

theorem file_hooks_follow_entries_plain :
    (∀ slot : Slot, uniform.content slot ≠ slot.hook.addr) ∧
      plainWorld.memory.content (plainFile.fOp.slot .openFile) = Hook.openFile.addr ∧
      FileLaw uniform.content plainWorld plainFile.fOp := by
  refine ⟨uniform_clean, by decide +kernel, ?_⟩
  exact (file_hooks_follow_entries uniform uniform_clean _).1 plainFile.fOp

def refusingHost : Host :=
  let host := bare { Kernel.empty with memory := plainWorld.memory }
  let refusal : Scripted := ⟨"refuse", .deny, some Errno.ESRCH, false, 0, true, 0, []⟩
  { host with table := plainWorld.table, hook.enabled := true, hook.ops := fun _ => true }.addScripted
    refusal

/-- A hooked open does answer that there is no such process when a filter
denies it with that number. -/
theorem denied_open_answers_missing :
    refusingHost.kernel.memory.content = plainWorld.memory.content ∧
      refusingHost.table.listing = plainWorld.table.listing ∧
      refusingHost.kernel.load (plainFile.fOp.slot .openFile) = Hook.openFile.addr ∧
      ∃ later, on (hookOpen ⟨"main", none, false⟩ ⟨1, 1, 0, 0, 0, 0, "sh"⟩ plainFile
        ⟨some "/y/g", 0, plainFile⟩) refusingHost = .done later (.error Errno.ESRCH) :=
  ⟨rfl, rfl, by decide +kernel, _, rfl⟩

end Interception.Host
