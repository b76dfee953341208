import Interception.Proofs.Host.Gauging
import Interception.Proofs.Patch.Representing

/-!
Services over a kernel whose slots nobody but the patch table writes. Whatever
duties a service is called for, however they overlap, and whatever is configured
or put on the kernel's mounts meanwhile, drivers and native functions stay, and
every slot and every entry goes back to what the slot held at first.
-/

namespace Interception.Host

open Vetting Patch

variable {Value : Type} {origin : Kernel} {first host later : Host}

/-- What stays true of a host from the kernel it started with. -/
structure Intact (origin : Kernel) (host : Host) : Prop where
  drivers : host.kernel.drivers = origin.drivers
  natives : host.kernel.natives = origin.natives
  attached : host.kernel.attached = origin.attached
  writable : host.kernel.memory.isSealed = false
  sound : Sound origin.memory.content host.world

theorem intact_stays (intact : Intact origin host) (stays : Kernel.Stays host.kernel later.kernel)
    (listing : later.table.listing = host.table.listing)
    (nextId : later.table.nextId = host.table.nextId) : Intact origin later := by
  constructor
  case drivers => exact stays.drivers.trans intact.drivers
  case natives => exact stays.natives.trans intact.natives
  case attached => exact stays.attached.trans intact.attached
  case writable => exact stays.memory ▸ intact.writable
  case sound =>
    constructor
    case kept =>
      simp only [world, listing, stays.memory]
      exact intact.sound.kept
    case numbered =>
      simp only [world, listing, nextId]
      exact intact.sound.numbered

theorem intact_apart (intact : Intact origin host) (apart : Apart host later) : Intact origin later :=
  intact_stays intact (apart.kernel ▸ .refl host.kernel) (by rw [apart.table]) (by rw [apart.table])

theorem intact_taking (intact : Intact origin host) (id : Nat) : Intact origin (host.takingUse id) :=
  intact_stays intact (.refl host.kernel) (listing_acquire host.table id) rfl

theorem intact_giving (intact : Intact origin host) (id : Nat) : Intact origin (host.givingUse id) :=
  intact_stays intact (.refl host.kernel) (listing_release host.table id) rfl

theorem intact_step (clean : Clean origin.memory.content) (intact : Intact origin host)
    (step : Patch.Step) : Intact origin (host.inWorld (step.apply host.world)) := by
  have turn := apply_turns clean intact.sound intact.writable step
  exact ⟨intact.drivers, intact.natives, intact.attached, (turn_isSealed turn).trans intact.writable,
    sound_turn intact.sound turn⟩

/-! ### Calls -/

theorem plain_intact {call : Call Host Value} (plain : Plain call) :
    Call.Keeps (Intact origin) (fun _ => True) call :=
  Call.keeps_of_strides apart_refl (fun _ _ apart intact => intact_apart intact apart)
    (plain_strides plain)

theorem lending_intact (entry : Option Nat) {call : Call Host Value}
    (inside : Call.Keeps (Intact origin) (fun _ => True) call) :
    Call.Keeps (Intact origin) (fun _ => True) (lending entry call) := by
  cases entry with
  | none => exact inside
  | some id =>
      refine Call.keeps_then (Call.keeps_modify fun _ intact => intact_taking intact id) fun _ => ?_
      refine Call.keeps_then inside fun value => ?_
      exact Call.keeps_then (Call.keeps_modify fun _ intact => intact_giving intact id)
        fun _ => Call.keeps_pure trivial

theorem woven_intact (clean : Clean origin.memory.content) {call : Call Host Value}
    (woven : Woven call) : Call.Keeps (Intact origin) (fun _ => True) call := by
  induction woven with
  | plain plain => exact plain_intact plain
  | bind first rest firstKeeps restKeeps => exact Call.keeps_then firstKeeps restKeeps
  | kernel step stays =>
      exact Call.keeps_modifyGet fun host intact => intact_stays intact (stays host.kernel) rfl rfl
  | change change step leaves =>
      refine Call.keeps_modifyGet fun host intact => ?_
      have kept := intact_step clean intact step
      rw [← leaves] at kept
      exact kept
  | hold entry listed inside insideKeeps =>
      exact Call.keeps_then Call.keeps_get fun host => lending_intact (entry host) (insideKeeps host)

theorem duty_intact (clean : Clean origin.memory.content) (duty : Duty) :
    Call.Keeps (Intact origin) (fun _ => True) duty.call := by
  by_cases whole : ∀ entry, duty ≠ .take entry ∧ duty ≠ .give entry
  · exact woven_intact clean (duty_woven duty whole)
  · cases duty with
    | take entry => exact Call.keeps_modify fun _ intact => intact_taking intact entry
    | give entry => exact Call.keeps_modify fun _ intact => intact_giving intact entry
    | _ => exact absurd (fun _ => ⟨nofun, nofun⟩) whole

/-! ### Scenes -/

/-- The scenes of a service over an attached kernel. Duties are taken up at any
time and go on in any order; meanwhile mounts and files of the kernel may change
and everything but kernel and patch table may be configured anew. -/
inductive Serves (first : Host) : Scene → Prop
  | start : Serves first ⟨attach first, []⟩
  | send {host : Host} {sleepers : List (Bool → Host → Run Host Unit)} (duty : Duty)
      (serves : Serves first ⟨host, sleepers⟩) :
      Serves first (Scene.after sleepers (duty.call host))
  | wake {host : Host} {before after : List (Bool → Host → Run Host Unit)}
      {resume : Bool → Host → Run Host Unit} (expired : Bool)
      (serves : Serves first ⟨host, before ++ resume :: after⟩) :
      Serves first (Scene.after (before ++ after) (resume expired host))
  | furnish {host : Host} {sleepers : List (Bool → Host → Run Host Unit)} {kernel : Kernel}
      (stays : Kernel.Stays host.kernel kernel) (serves : Serves first ⟨host, sleepers⟩) :
      Serves first ⟨{ host with kernel }, sleepers⟩
  | configure {host later : Host} {sleepers : List (Bool → Host → Run Host Unit)}
      (apart : Apart host later) (serves : Serves first ⟨host, sleepers⟩) :
      Serves first ⟨later, sleepers⟩

/-- Whatever sleeps leaves an intact host intact when it goes on. -/
structure Sheltered (origin : Kernel) (scene : Scene) : Prop where
  intact : Intact origin scene.host
  sleepers : ∀ resume ∈ scene.sleepers, ∀ expired later, Intact origin later →
    Run.Meets (Intact origin) (fun _ _ => True) (resume expired later)

theorem sheltered_after {sleepers : List (Bool → Host → Run Host Unit)} {run : Run Host Unit}
    (others : ∀ resume ∈ sleepers, ∀ expired later, Intact origin later →
      Run.Meets (Intact origin) (fun _ _ => True) (resume expired later))
    (met : Run.Meets (Intact origin) (fun _ _ => True) run) :
    Sheltered origin (Scene.after sleepers run) := by
  cases run with
  | done host value => exact ⟨met.1, others⟩
  | asleep host sleep resume =>
      exact ⟨met.1, List.forall_mem_append.mpr ⟨others, List.forall_mem_singleton.mpr met.2⟩⟩

theorem intact_attach (clean : Clean first.kernel.memory.content)
    (writable : first.kernel.memory.isSealed = false) (empty : first.table = Table.empty) :
    Intact { first.kernel with attached := true } (attach first) := by
  have start : Intact first.kernel first := by
    refine ⟨rfl, rfl, rfl, writable, ?_⟩
    rw [world, empty]
    exact sound_start first.kernel.memory
  have walked := woven_intact clean (woven_walkMounts (first.kernel.mounts.map (·.point))) first start
  have met : Intact first.kernel ((walkMounts (first.kernel.mounts.map (·.point))).start first).state := by
    rw [Call.start]
    cases ran : walkMounts (first.kernel.mounts.map (·.point)) first with
    | done host value => exact (ran ▸ walked).1
    | asleep host sleep resume => exact (ran ▸ walked).1
  exact ⟨met.drivers, met.natives, rfl, met.writable, met.sound⟩

theorem serves_intact (clean : Clean first.kernel.memory.content)
    (writable : first.kernel.memory.isSealed = false) (empty : first.table = Table.empty)
    {scene : Scene} (serves : Serves first scene) :
    Sheltered { first.kernel with attached := true } scene := by
  have clean' : Clean ({ first.kernel with attached := true } : Kernel).memory.content := clean
  induction serves with
  | start => exact ⟨intact_attach clean writable empty, by simp⟩
  | send duty serves sheltered =>
      exact sheltered_after sheltered.sleepers (duty_intact clean' duty _ sheltered.intact)
  | wake expired serves sheltered =>
      obtain ⟨earlier, rest⟩ := List.forall_mem_append.mp sheltered.sleepers
      obtain ⟨own, later⟩ := List.forall_mem_cons.mp rest
      exact sheltered_after (List.forall_mem_append.mpr ⟨earlier, later⟩)
        (own expired _ sheltered.intact)
  | furnish stays serves sheltered =>
      exact ⟨intact_stays sheltered.intact stays rfl rfl, sheltered.sleepers⟩
  | configure apart serves sheltered =>
      exact ⟨intact_apart sheltered.intact apart, sheltered.sleepers⟩

end Interception.Host
