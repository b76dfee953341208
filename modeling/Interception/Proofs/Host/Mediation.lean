import Interception.Proofs.Host.FileCalls
import Interception.Proofs.Host.Scenes

/-!
Which opens the chain gets to see. An open of a tracked type is examined,
once and before the native function runs, exactly if by then an entry hooks
the file table of the type's driver: one that did so before, or the type's
own, which takes up the table on the walk to its first file. Only an entry
that strayed to the files of another type while its mounts were walked
leaves opens unexamined.
-/

namespace Interception.Host

open Syscall Patch

/-- An entry hooks the file table, or the type's own entry still waits for its
first file. -/
def Covered (host : Host) (fsType : String) (files : FileTable) : Prop :=
  ∃ entry ∈ host.table.entries, entry.saved.fOps = some files ∨
    (entry.fsType = fsType ∧ entry.saved.fOps = none)

/-- What an examined open comes to once the chain has reported: a refusal is
the answer and no native function runs; else the file is opened once. -/
structure Settles (file : OpenFile) (report : Report) (later : Host)
    (run : Run Host (Except Errno OpenFile)) (final : Host) (answer : Except Errno OpenFile) :
    Prop where
  ends : run = .done final answer
  counted : final.verdicts = later.verdicts.bump [report.action.name, Operation.openFile.name]
  refused : ∀ errno, Chain.decide later.policy report = .error errno →
    answer = .error errno ∧ final.kernel = later.kernel
  passed : Chain.decide later.policy report = .ok () →
    answer = .ok file ∧
      final.kernel = { later.kernel with calls.openFile := later.kernel.calls.openFile + 1 }

/-- The chain examines the open of a file once, and nothing else happens to the
filters or the number of opens before. While it is under way the chain itself
leaves kernel and patch table alone. -/
structure Mediated (caller : Caller) (task : Personality) (file : OpenFile)
    (call : Syscall Host OpenFile) (host held : Host)
    (ending : Report → Host → Run Host (Except Errno OpenFile)) : Prop where
  examined : on call host = (evaluate { caller with internal := true } task
    (fileEvent .openFile file.inode file) held).bind ending
  aside : held.aside = host.aside
  unopened : held.kernel.calls.openFile = host.kernel.calls.openFile
  settles : ∀ report later, later.kernel.natives = held.kernel.natives →
    ∃ final answer, Settles file report later (ending report later) final answer
  quiet : Run.Meets (fun now => now.kernel = held.kernel ∧ now.table = held.table)
    (fun _ _ => True)
    (evaluate { caller with internal := true } task (fileEvent .openFile file.inode file) held)

/-- The open succeeds, and no filter has heard of it. -/
def Unexamined (file : OpenFile) (call : Syscall Host OpenFile) (host : Host) : Prop :=
  ∃ later, on call host = .done later (.ok file) ∧ later.aside = host.aside ∧
    later.kernel.calls.openFile = host.kernel.calls.openFile + 1

/-- What an open of a tracked type comes to: its walk fails and so does the
open, or the walk comes to a file and the open is examined exactly if the
file's table is covered. -/
structure OpenLaw (driver : Driver) (caller : Caller) (task : Personality) (path : String)
    (flags : UInt32) (point : MountPoint) (rest : String) (host : Host) : Prop where
  walks : ∃ walked answer, on (walkTo point path rest flags) host = .done walked answer ∧
    walked.aside = host.aside ∧ walked.kernel.calls.openFile = host.kernel.calls.openFile
  failed : ∀ walked errno, on (walkTo point path rest flags) host = .done walked (.error errno) →
    on (openFile caller task path flags) host = .done walked (.error errno)
  found : ∀ walked inode, on (walkTo point path rest flags) host = .done walked (.ok inode) →
    inode.regular = true ∧ inode.fsType = point.fsType ∧
      (Covered host point.fsType driver.fileOps → ∃ held ending,
        Mediated caller task ⟨some path, flags, inode⟩ (openFile caller task path flags) host held
          ending) ∧
      (¬ Covered host point.fsType driver.fileOps →
        Unexamined ⟨some path, flags, inode⟩ (openFile caller task path flags) host)

variable {origin : Kernel} {strays : Prop} {host walked later : Host}

/-- The end of an open, once the walk has come to a file. -/
def openFound (caller : Caller) (task : Personality) (file : OpenFile) :
    Syscall Host OpenFile := do
  dispatch (file.inode.fOp.slot .openFile) (hookOpen caller task file.inode file)
    fun target kernel => kernel.nativeOpen target
  return file

theorem openFile_on {path rest : String} {point : MountPoint}
    (resolved : Mounts.resolve path host.kernel.mounts = .ok (point, rest)) (caller : Caller)
    (task : Personality) (flags : UInt32) :
    on (openFile caller task path flags) host =
      (on (walkTo point path rest flags) host).bind
        (andThen fun inode => on (openFound caller task ⟨some path, flags, inode⟩)) := by
  rw [openFile, on_bind, resolve_on, Run.bind_done, resolved]
  simp only [andThen]
  rw [on_bind]
  rfl

/-! ### Covered tables after the walk -/

theorem covered_listed {fsType : String} {files : FileTable} :
    Covered host fsType files ↔ ∃ listed ∈ host.table.listing, listed.saved.fOps = some files ∨
      (listed.fsType = fsType ∧ listed.saved.fOps = none) := by
  simp [Covered, Table.listing, Entry.listed]

/-- After a walk to a file, an entry hooks the file's table exactly if it was
covered before. -/
theorem covered_walked {driver : Driver} {fsType : String} (watched : Watched origin strays host)
    (trod : Trod origin strays driver fsType host walked) (seen : Seen fsType walked) :
    (∃ entry ∈ walked.table.entries, entry.saved.fOps = some driver.fileOps) ↔
      Covered host fsType driver.fileOps := by
  have entries : (∃ entry ∈ walked.table.entries, entry.saved.fOps = some driver.fileOps) ↔
      ∃ listed ∈ walked.table.listing, listed.saved.fOps = some driver.fileOps := by
    simp [Table.listing, Entry.listed]
  rw [entries, covered_listed]
  constructor
  · rintro ⟨listed, member, files⟩
    rcases trod.stems listed member with kept | ⟨_, _, old, inside, type, unfiled⟩
    · exact ⟨listed, kept, .inl files⟩
    · exact ⟨old, inside, .inr ⟨type, unfiled⟩⟩
  · rintro ⟨listed, member, files | ⟨type, unfiled⟩⟩
    · exact ⟨listed, trod.filed listed member (by simp [files]), files⟩
    · -- The type's own entry is still listed, and it has taken up the table.
      obtain ⟨other, inside, same⟩ := trod.tracked listed member
      have type' := same.trans type
      rcases trod.stems other inside with kept | ⟨_, files, _⟩
      · have own := numbered_type watched.sound.numbered kept member same
        exact absurd (own ▸ unfiled) (seen other inside type')
      · exact ⟨other, inside, files⟩

/-! ### Opens of files that have been found -/

/-- What the chain's report makes of an open that goes through an entry. -/
def openSettled (caller : Caller) (task : Personality) (file : OpenFile) (entry : Entry)
    (report : Report) (later : Host) : Run Host (Except Errno OpenFile) :=
  (openEnding entry (Chain.decide later.policy report)
    (countVerdict { caller with internal := true } task (fileEvent .openFile file.inode file) report
      later)).bind (andThen fun _ last => .done last (.ok file))

theorem nativeOpen_callable {kernel : Kernel} {target : Addr}
    (callable : kernel.callable target .openFile = true) :
    kernel.nativeOpen target =
      (.ok (), { kernel with calls.openFile := kernel.calls.openFile + 1 }) := by
  rw [Kernel.nativeOpen, if_pos callable]

theorem openSettled_settles (caller : Caller) (task : Personality) (file : OpenFile) {entry : Entry}
    (report : Report) (present : entry.saved.openFile ≠ Addr.null)
    (callable : later.kernel.callable entry.saved.openFile .openFile = true) :
    ∃ final answer, Settles file report later (openSettled caller task file entry report later)
      final answer := by
  obtain ⟨kernel, _, verdicts⟩ := countVerdict_kernel { caller with internal := true } task
    (fileEvent .openFile file.inode file) report later
  unfold openSettled
  cases decided : Chain.decide later.policy report with
  | error errno =>
      refine ⟨_, .error errno, rfl, verdicts, ?_, ?_⟩
      · intro other same
        obtain rfl := Except.error.inj (decided.symm.trans same)
        exact ⟨rfl, kernel⟩
      · intro impossible
        rw [decided] at impossible
        cases impossible
  | ok value =>
      -- The verdict has been counted by now; the kernel is still the one reported on.
      have opened := nativeOpen_callable callable
      rw [← kernel] at opened
      simp only [openEnding, if_neg present, opened, Run.bind_done, andThen]
      refine ⟨_, .ok file, rfl, verdicts, ?_, ?_⟩
      · intro errno impossible
        rw [decided] at impossible
        cases impossible
      · intro _
        refine ⟨rfl, ?_⟩
        rw [← kernel]
        rfl

/-- An open whose file table an entry hooks goes through the chain. -/
theorem openFound_hooked (clean : Clean origin.memory.content)
    (watched : Watched origin strays walked) (attached : origin.attached = true) (caller : Caller)
    (task : Personality) (file : OpenFile)
    (present : origin.memory.content (file.inode.fOp.slot .openFile) ≠ Addr.null)
    (callable : origin.callable (origin.memory.content (file.inode.fOp.slot .openFile)) .openFile =
      true)
    (asked : walked.intercepts caller .openFile = true)
    (hooked : ∃ entry ∈ walked.table.entries, entry.saved.fOps = some file.inode.fOp) :
    ∃ held ending, Mediated caller task file (openFound caller task file) walked held ending := by
  have law := fileLaw_kept clean watched.sound.kept file.inode.fOp
  have there := (law.hooked .openFile (.inl rfl)).mpr hooked
  obtain ⟨entry, found, _, genuine⟩ := law.found .openFile (.inl rfl) there
  have genuine' : entry.saved.openFile = origin.memory.content (file.inode.fOp.slot .openFile) :=
    genuine
  have dispatched : on (dispatch (file.inode.fOp.slot .openFile)
      (hookOpen caller task file.inode file) fun target kernel => kernel.nativeOpen target) walked =
        on (hookOpen caller task file.inode file) walked := by
    have there' : walked.kernel.load (file.inode.fOp.slot .openFile) = Hook.openFile.addr := there
    rw [dispatch, on_get_bind]
    simp only [fileTable_slot_hook, there', if_true, watched.attached, attached]
  have verdict : on (openVerdict caller task file.inode file)
      ((walked.entered Hook.openFile.slotName).takingUse entry.id) =
        on (examineInside caller task (fileEvent .openFile file.inode file))
          ((walked.entered Hook.openFile.slotName).takingUse entry.id) := by
    have asked' : ((walked.entered Hook.openFile.slotName).takingUse entry.id).intercepts caller
        .openFile = true := asked
    rw [openVerdict, on_get_bind, asked', if_pos rfl]
  -- The chain runs inside the hook, after one more call and one more use are counted.
  refine ⟨(walked.entered Hook.openFile.slotName).takingUse entry.id,
    openSettled caller task file entry, ?_, rfl, rfl, ?_, ?_⟩
  · rw [openFound, on_bind, dispatched, hookOpen_on found, verdict, examineInside, examine_on]
    simp only [Run.bind_assoc, Run.bind_done]
    rfl
  · intro report later natives
    have natives' : later.kernel.natives = origin.natives := natives.trans watched.natives
    apply openSettled_settles caller task file report (genuine' ▸ present)
    rw [genuine', Kernel.callable, natives']
    exact callable
  · refine evaluate_keeps ?_ _ _ _ _ ⟨rfl, rfl⟩
    rintro before after kernel table ⟨first, second⟩
    exact ⟨kernel.trans first, table.trans second⟩

/-- An open whose file table no entry hooks goes straight to the native
function. -/
theorem openFound_unhooked (clean : Clean origin.memory.content)
    (watched : Watched origin strays walked) (caller : Caller) (task : Personality)
    (file : OpenFile)
    (callable : origin.callable (origin.memory.content (file.inode.fOp.slot .openFile)) .openFile =
      true)
    (unhooked : ¬ ∃ entry ∈ walked.table.entries, entry.saved.fOps = some file.inode.fOp) :
    Unexamined file (openFound caller task file) walked := by
  have law := fileLaw_kept clean watched.sound.kept file.inode.fOp
  have free : walked.kernel.load (file.inode.fOp.slot .openFile) ≠ Hook.openFile.addr :=
    fun there => unhooked ((law.hooked .openFile (.inl rfl)).mp there)
  -- Without its hook the slot holds what it held before any entry came.
  have genuine : walked.kernel.load (file.inode.fOp.slot .openFile) =
      origin.memory.content (file.inode.fOp.slot .openFile) := law.unhooked .openFile (.inl rfl) free
  have callable' : walked.kernel.callable (walked.kernel.load (file.inode.fOp.slot .openFile))
      .openFile = true := by
    rw [genuine, Kernel.callable, watched.natives]
    exact callable
  have dispatched : on (dispatch (file.inode.fOp.slot .openFile)
      (hookOpen caller task file.inode file) fun target kernel => kernel.nativeOpen target) walked =
        .done { walked with kernel.calls.openFile := walked.kernel.calls.openFile + 1 } (.ok ()) := by
    rw [dispatch, on_get_bind]
    exact (congrArg (on · walked) (if_neg free)).trans
      ((native_on _ walked).trans (by rw [nativeOpen_callable callable']))
  refine ⟨{ walked with
    kernel.calls.openFile := walked.kernel.calls.openFile + 1 }, ?_, rfl, rfl⟩
  rw [openFound, on_bind, dispatched]
  rfl

/-! ### Opens of paths -/

theorem openLaw_watched (clean : Clean origin.memory.content) (ready : origin.Ready)
    (attached : origin.attached = true) (watched : Watched origin strays host) (caller : Caller)
    (task : Personality) {path rest : String} (flags : UInt32) {point : MountPoint}
    (resolved : Mounts.resolve path host.kernel.mounts = .ok (point, rest)) (below : rest ≠ "")
    (asked : host.intercepts caller .openFile = true) {driver : Driver}
    (base : Base origin driver host point) :
    OpenLaw driver caller task path flags point rest host := by
  obtain ⟨walked, answer, ran, trod, discovered⟩ :=
    walkTo_discovers clean watched base path below flags
  have opened := openFile_on resolved caller task flags
  rw [ran, Run.bind_done] at opened
  -- A run that ends has one end only, so the walk of the law is this one.
  have same {other : Host} {said : Except Errno Inode}
      (also : on (walkTo point path rest flags) host = .done other said) :
      other = walked ∧ said = answer := by
    rw [ran] at also
    injection also with first second
    exact ⟨first.symm, second.symm⟩
  refine ⟨⟨walked, answer, ran, trod.aside, trod.opens⟩, ?_, ?_⟩
  · intro other errno also
    obtain ⟨rfl, rfl⟩ := same also
    exact opened
  · intro other inode also
    obtain ⟨rfl, rfl⟩ := same also
    obtain ⟨⟨regular, type, files⟩, seen⟩ := discovered inode inode rfl rfl
    have member : driver ∈ origin.drivers := List.mem_of_find?_eq_some base.known
    have present : origin.memory.content (inode.fOp.slot .openFile) ≠ Addr.null :=
      files ▸ ready.opens driver member
    have callable : origin.callable (origin.memory.content (inode.fOp.slot .openFile)) .openFile =
        true := files ▸ Kernel.ready_callable ready member
    have kept := trod.watched watched
    have hooked := covered_walked watched trod seen
    rw [← files] at hooked ⊢
    refine ⟨regular, type, ?_, ?_⟩
    · intro covered
      have hook : other.aside.hook = host.aside.hook := congrArg Host.hook trod.aside
      have asked' : other.intercepts caller .openFile = true := by
        rw [intercepts, show other.hook = host.hook from hook]
        exact asked
      obtain ⟨held, ending, mediated⟩ := openFound_hooked clean kept attached caller task
        ⟨some path, flags, inode⟩ present callable asked' (hooked.mpr covered)
      exact ⟨held, ending, opened.trans mediated.examined, mediated.aside.trans trod.aside,
        mediated.unopened.trans trod.opens, mediated.settles, mediated.quiet⟩
    · intro uncovered
      obtain ⟨later, ran', aside, count⟩ := openFound_unhooked clean kept caller task
        ⟨some path, flags, inode⟩ callable fun found => uncovered (hooked.mp found)
      exact ⟨later, opened.trans ran', aside.trans trod.aside, count.trans (congrArg _ trod.opens)⟩

/-- Where no entry has strayed, every tracked type is covered. -/
theorem covered_tidy (watched : Watched origin strays host) (tidy : ¬ strays) {fsType : String}
    {driver : Driver} (known : origin.driver? fsType = some driver)
    (tracked : host.table.contains fsType = true) : Covered host fsType driver.fileOps := by
  obtain ⟨entry, found⟩ := Option.isSome_iff_exists.mp tracked
  obtain ⟨member, type⟩ := entry_listed found
  obtain ⟨other, named, _, files⟩ := watched.typed entry.listed member
  rw [show entry.listed.fsType = fsType from type, known, Option.some.injEq] at named
  refine covered_listed.mpr ⟨entry.listed, member, ?_⟩
  cases filed : entry.listed.saved.fOps with
  | none => exact .inr ⟨type, rfl⟩
  | some table => exact .inl (congrArg some (named ▸ (files table filed).resolve_right tidy))

/-- In every scene over an attached kernel, opens that are to be examined are
examined exactly where the file table is covered; and it always is, if the
mounts offered files of their own types when the kernel was attached. -/
theorem opens_examined_iff_covered {first : Host} (assembled : first.kernel.Assembled)
    (roomy : first.kernel.Roomy) (empty : first.table = Table.empty) {scene : Scene}
    (reaches : Reaches (attach first) scene) (caller : Caller) (task : Personality)
    {path rest : String} (flags : UInt32) {point : MountPoint}
    (resolved : Mounts.resolve path scene.host.kernel.mounts = .ok (point, rest))
    (below : rest ≠ "") (asked : scene.host.intercepts caller .openFile = true) :
    ∃ driver, first.kernel.driver? point.fsType = some driver ∧
      OpenLaw driver caller task path flags point rest scene.host ∧
      (Tidy first.kernel → scene.host.table.contains point.fsType = true →
        Covered scene.host point.fsType driver.fileOps) := by
  have ready := Kernel.assembled_ready assembled roomy
  have clean : Clean first.kernel.memory.content := Kernel.addressed_genuine ready.addressed roomy
  have clean' : Clean ({ first.kernel with attached := true } : Kernel).memory.content := clean
  have start := watched_attach clean (Kernel.assembled_furnished assembled)
    ready.addressed.writable empty
  have watched := (reaches_guarded clean' start reaches).watched
  obtain ⟨driver, base⟩ := base_resolved watched resolved
  have ready' : Kernel.Ready { first.kernel with attached := true } :=
    ⟨⟨ready.addressed.next, ready.addressed.held, ready.addressed.writable⟩, ready.opens⟩
  refine ⟨driver, base.known, ?_, ?_⟩
  · exact openLaw_watched clean' ready' rfl watched caller task flags resolved below asked base
  · exact fun tidy tracked => covered_tidy watched (not_not_intro tidy) base.known tracked

/-! Two types on one directory: the second mount hides the first one, so the
first type is hooked through a file of the second. -/

def crossedDrivers : Kernel :=
  ((Kernel.empty.register "ext4" false false).2.register "xfs" false false).2

def crossedKernel : Kernel :=
  ((((crossedDrivers.withMount "/dev/a" "/x" "ext4").withMount "/dev/b" "/x" "xfs").withFile
    "/x" "f").withMount "/dev/c" "/y" "ext4").withFile "/y" "g"

theorem crossedKernel_assembled : crossedKernel.Assembled := by
  have drivers : crossedDrivers.Assembled :=
    .register false false (by decide +kernel) (.register false false rfl .empty)
  have first := Kernel.assembled_withMount drivers "/dev/a" "/x" "ext4"
  have second := Kernel.assembled_withMount first "/dev/b" "/x" "xfs"
  have third := Kernel.assembled_withMount (Kernel.assembled_withFile second "/x" "f")
    "/dev/c" "/y" "ext4"
  exact Kernel.assembled_withFile third "/y" "g"

def crossedHost : Host :=
  { bare crossedKernel with hook.ops := fun _ => true, components := Component.all }

def crossedCaller : Caller := ⟨"main", none, false⟩

def watchingHost : Host := { attach crossedHost with hook.enabled := true }

/-- The hook is switched on when the mounts have been walked. -/
theorem crossed_switched : setSetting crossedCaller (attach crossedHost) "VFSHookInterceptor"
    "status" "enable" = .ok watchingHost := rfl

def crossedPoint : MountPoint :=
  let root : Inode :=
    ⟨5, 2051, false, "ext4", ⟨3, "ext4_dir_inode_operations"⟩, ⟨2, "ext4_dir_operations"⟩⟩
  ⟨"/dev/c", "/y", "ext4", 0, root, none, 1⟩

def crossedFile : Inode :=
  ⟨6, 2051, true, "ext4", ⟨3, "ext4_dir_inode_operations"⟩, ⟨1, "ext4_file_operations"⟩⟩

/-- The type is tracked and opens are to be examined, and yet one is not. -/
theorem crossed_open_unexamined :
    watchingHost.table.contains "ext4" = true ∧
      watchingHost.intercepts crossedCaller .openFile = true ∧
      Unexamined ⟨some "/y/g", 0, crossedFile⟩
        (openFile crossedCaller ⟨1, 1, 0, 0, 0, 0, "sh"⟩ "/y/g" 0) watchingHost := by
  have asked : watchingHost.intercepts crossedCaller .openFile = true := by decide +kernel
  have resolved : Mounts.resolve "/y/g" watchingHost.kernel.mounts = .ok (crossedPoint, "g") := by
    decide +kernel
  have switched : Reaches (attach crossedHost) ⟨watchingHost, []⟩ :=
    setSetting_configures crossed_switched .start
  obtain ⟨driver, known, law, _⟩ := opens_examined_iff_covered crossedKernel_assembled
    (by decide +kernel) rfl switched crossedCaller ⟨1, 1, 0, 0, 0, 0, "sh"⟩ 0 resolved
    (by decide) asked
  have files : driver.fileOps = ⟨1, "ext4_file_operations"⟩ := by
    have named : (crossedKernel.driver? "ext4").map (·.fileOps) =
        some ⟨1, "ext4_file_operations"⟩ := by decide +kernel
    rw [show crossedKernel.driver? "ext4" = some driver from known] at named
    exact Option.some.inj named
  have walked : ∃ walked, on (walkTo crossedPoint "/y/g" "g" 0) watchingHost =
      .done walked (.ok crossedFile) := ⟨_, rfl⟩
  obtain ⟨later, ran⟩ := walked
  refine ⟨by decide +kernel, asked, (law.found later crossedFile ran).2.2.2 ?_⟩
  rw [files]
  unfold Covered
  decide +kernel

end Interception.Host
