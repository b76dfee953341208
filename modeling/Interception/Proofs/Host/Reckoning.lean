import Interception.Proofs.Host.Ending
import Interception.Proofs.Host.Ledger

/-!
The uses of a type against the ledger. An entry stands for the counted mounts
of its type, less what unmounts of uncounted ones have taken away, and it is
forgotten when nothing is left. A mount that was processed is counted exactly
if its type is in the table then.
-/

namespace Interception.Host

open Syscall Patch

variable {origin : Kernel} {strays : Prop} {host later : Host} {ledger : Ledger}
  {point : MountPoint}

/-- The uses of every type are those the ledger reckons. -/
structure Reckoned (table : Table) (ledger : Ledger) : Prop where
  uses : ∀ fsType, (table.useCount? fsType).getD 0 + ledger.lost fsType =
    standing fsType ledger.roll
  zero : ∀ fsType, table.useCount? fsType = some 0 ↔ ledger.zeroed fsType = true
  weights : ∀ enrolled ∈ ledger.roll, 0 < enrolled.weight
  spared : ∀ fsType, fsType ∉ ledger.strays → fsType ∉ ledger.wrapped → ledger.lost fsType = 0
  fitting : ∀ fsType, fsType ∉ ledger.wrapped → ledger.zeroed fsType = false

theorem contains_iff (table : Table) (fsType : String) :
    table.contains fsType = true ↔
      0 < (table.useCount? fsType).getD 0 ∨ table.useCount? fsType = some 0 := by
  rw [Table.contains, Table.useCount?]
  cases table.entry? fsType with
  | none => simp
  | some entry => simpa using (Nat.eq_zero_or_pos entry.uses.toNat).symm

theorem reckoned_empty : Reckoned Table.empty Ledger.empty := by
  constructor
  case uses => exact fun _ => rfl
  case zero => exact fun _ => by simp [Table.useCount?, Table.entry?, Table.empty, Ledger.empty]
  case weights => exact fun _ member => by cases member
  case spared => exact fun _ _ _ => rfl
  case fitting => exact fun _ _ => rfl

theorem weight_pos (point : MountPoint) : 0 < point.uses :=
  Nat.lt_of_lt_of_le Nat.zero_lt_one (Nat.le_max_right _ _)

theorem weights_entered (weights : ∀ enrolled ∈ ledger.roll, 0 < enrolled.weight)
    (point : MountPoint) (counted : Bool) :
    ∀ enrolled ∈ Enrolled.of point counted :: ledger.roll, 0 < enrolled.weight := by
  intro enrolled member
  rcases List.mem_cons.mp member with rfl | old
  · exact weight_pos point
  · exact weights enrolled old

/-- A mount that is not counted changes nothing. -/
theorem reckoned_passed (reckoned : Reckoned host.table ledger) (point : MountPoint)
    (same : ∀ fsType, later.table.useCount? fsType = host.table.useCount? fsType) :
    Reckoned later.table (ledger.enter point false) := by
  constructor
  case uses =>
    intro fsType
    have before := reckoned.uses fsType
    simpa [same, Ledger.enter, standing_cons, Enrolled.share, Enrolled.of] using before
  case zero => exact fun fsType => same fsType ▸ reckoned.zero fsType
  case weights => exact weights_entered reckoned.weights point false
  case spared => exact reckoned.spared
  case fitting => exact reckoned.fitting

/-- A counted mount comes on top of the uses that its type has. -/
theorem enter_counted (reckoned : Reckoned host.table ledger) (point : MountPoint) :
    ledger.enter point true =
      Ledger.carry point.fsType ((host.table.useCount? point.fsType).getD 0 + point.uses)
        { ledger with roll := Enrolled.of point true :: ledger.roll } := by
  have before := reckoned.uses point.fsType
  have due : Ledger.due point.fsType { ledger with roll := Enrolled.of point true :: ledger.roll } =
      (host.table.useCount? point.fsType).getD 0 + point.uses := by
    simp only [Ledger.due, standing_cons, Enrolled.share, Enrolled.of, true_and, if_true]
    omega
  rw [← due]
  rfl

theorem reckoned_raised (reckoned : Reckoned host.table ledger) (point : MountPoint)
    (raised : Raised point.fsType point.uses host.world later.world) :
    Reckoned later.table (ledger.enter point true) := by
  have some_uses : 0 < (host.table.useCount? point.fsType).getD 0 + point.uses :=
    Nat.add_pos_right _ (weight_pos point)
  rw [enter_counted reckoned]
  constructor
  case uses =>
    intro fsType
    have now := raised_amount raised fsType
    have before := reckoned.uses fsType
    have whole := Nat.mod_add_div' ((host.table.useCount? point.fsType).getD 0 + point.uses)
      UInt32.size
    simp only [world, grown] at now
    simp only [Ledger.carry, standing_cons, Enrolled.share, Enrolled.of, true_and, now,
      eq_comm (a := point.fsType)]
    by_cases same : fsType = point.fsType
    · subst same
      simp only [if_true]
      omega
    · simp only [same, if_false]
      omega
  case zero =>
    intro fsType
    have now := raised fsType
    have before := reckoned.zero fsType
    simp only [world, grown] at now
    rw [now]
    by_cases same : fsType = point.fsType <;> simp [Ledger.carry, same, before]
  case weights => exact weights_entered reckoned.weights point true
  case spared =>
    intro fsType kept fits
    obtain ⟨fitted, same, _⟩ := Ledger.carry_fits some_uses fits
    exact same.trans (reckoned.spared fsType kept fitted)
  case fitting =>
    intro fsType fits
    obtain ⟨fitted, _, started⟩ := Ledger.carry_fits some_uses fits
    rw [← Bool.not_eq_true]
    exact fun zero => Bool.false_ne_true ((reckoned.fitting fsType fitted).symm.trans (started zero))

/-- Whatever was not counted is not lost. -/
theorem without_spared {gone : Enrolled} {left : List Enrolled} {fsType : String}
    (spared : fsType ∉ ledger.strays → ledger.lost fsType = 0)
    (kept : fsType ∉ (ledger.without gone left).strays) :
    (ledger.without gone left).lost fsType = 0 := by
  cases counted : gone.counted with
  | true =>
      have before : fsType ∉ ledger.strays := by simpa [Ledger.without, counted] using kept
      simp [Ledger.without, counted, spared before]
  | false =>
      have before : ¬ fsType = gone.fsType ∧ fsType ∉ ledger.strays := by
        simpa [Ledger.without, counted] using kept
      simp [Ledger.without, before.1, spared before.2]

/-- An unmount takes the weight of what was unmounted from its type. -/
theorem reckoned_lowered (reckoned : Reckoned host.table ledger) {dir : String} {gone : Enrolled}
    (found : ledger.roll.find? (·.dir == dir) = some gone)
    (lowered : Lowered gone.fsType gone.weight host.world later.world) :
    Reckoned later.table (ledger.strike dir) := by
  simp only [Ledger.strike, found]
  constructor
  case uses =>
    intro fsType
    have now := lowered_amount lowered fsType
    have before := reckoned.uses fsType
    rw [standing_erased found] at before
    simp only [world] at now
    -- What an uncounted mount takes is lost, up to what the counted ones stand for.
    by_cases same : fsType = gone.fsType
    · subst same
      cases counted : gone.counted <;>
        simp [Ledger.without, Enrolled.share, counted] at before now ⊢ <;> omega
    · have apart : ¬ gone.fsType = fsType := Ne.symm same
      simp [Ledger.without, Enrolled.share, same, apart] at before now ⊢
      omega
  case zero =>
    intro fsType
    have now := lowered_zero lowered (reckoned.weights gone (List.mem_of_find?_eq_some found)) fsType
    have before := reckoned.zero fsType
    simp only [world] at now
    rw [now, before]
    simp [Ledger.without]
  case weights =>
    exact fun enrolled member => reckoned.weights enrolled (List.mem_of_mem_eraseP member)
  case spared =>
    intro fsType kept fits
    exact without_spared (fun before => reckoned.spared fsType before fits) kept
  case fitting =>
    intro fsType fits
    simp [Ledger.without, reckoned.fitting fsType fits]

/-! ### Counting mounts -/

/-- Whether mounts of a type are counted: the type is not skipped and its
patch has not failed. -/
def tracks (host : Host) (fsType : String) : Bool :=
  !host.hook.skip.contains fsType && host.table.contains fsType

theorem raised_tracked (point : MountPoint)
    (raised : Raised point.fsType point.uses host.world later.world) :
    later.table.contains point.fsType = true := by
  have now := raised point.fsType
  simp only [world, if_true] at now
  rw [contains_iff, now, Option.getD_some, Option.some.injEq]
  exact (Nat.eq_zero_or_pos _).symm

/-- A request counts the mount once its type has an entry; a type whose patch
fails has none, as before. -/
theorem change_reckoned (clean : Clean origin.memory.content)
    (watched : Watched origin strays host) (reckoned : Reckoned host.table ledger)
    (unskipped : host.hook.skip.contains point.fsType = false) {request : Request}
    (type : request.fsType = point.fsType) (uses : request.uses = point.uses)
    (processed : later = host.inWorld (Change.on (Patch.processMount request) host.world).2) :
    Reckoned later.table (ledger.enter point (later.tracks point.fsType)) := by
  have hook : later.hook = host.hook := by
    rw [processed]
    rfl
  have there : later.world = (Change.on (Patch.processMount request) host.world).2 := by
    rw [processed]
    rfl
  have counts (raised : Raised request.fsType request.uses host.world
      (Change.on (Patch.processMount request) host.world).2) :
      Reckoned later.table (ledger.enter point (later.tracks point.fsType)) := by
    rw [type, uses, ← there] at raised
    have tracked : later.tracks point.fsType = true := by
      rw [tracks, hook, unskipped, raised_tracked point raised]
      rfl
    rw [tracked]
    exact reckoned_raised reckoned point raised
  cases found : host.table.entry? request.fsType with
  | some entry => exact counts (processMount_raises clean watched.sound watched.writable found)
  | none =>
      rcases processMount_first watched.sound watched.writable found with raised | same
      · exact counts raised
      · rw [← there] at same
        have table : later.table = host.table := same
        have missing : host.table.contains point.fsType = false := by
          rw [Table.contains, ← type, found]
          rfl
        have untracked : later.tracks point.fsType = false := by
          rw [tracks, table, missing, Bool.and_false]
        rw [untracked]
        exact reckoned_passed reckoned point fun _ => by rw [table]

/-- Processing a mount counts it exactly if its type is tracked then. -/
theorem processMount_reckoned (clean : Clean origin.memory.content)
    (watched : Watched origin strays host) (reckoned : Reckoned host.table ledger)
    {fromMount : Bool} {answer : Except PatchError (Option MountOutcome)}
    (ran : processMount point fromMount host = .done later answer) :
    later.hook = host.hook ∧
      Reckoned later.table (ledger.enter point (later.tracks point.fsType)) := by
  rw [processMount, Call.get_bind] at ran
  by_cases skipped : host.hook.skip.contains point.fsType = true
  · rw [if_pos skipped] at ran
    cases ran
    have untracked : host.tracks point.fsType = false := by simp [tracks, skipped]
    rw [untracked]
    exact ⟨rfl, reckoned_passed reckoned point fun _ => rfl⟩
  · rw [if_neg skipped, Call.bind_done (change_on _ host)] at ran
    have processed : later = host.inWorld
        (Change.on (Patch.processMount (host.patchRequest point fromMount)) host.world).2 := by
      revert ran
      cases (Change.on (Patch.processMount (host.patchRequest point fromMount)) host.world).1 <;>
        (intro ran; cases ran; rfl)
    refine ⟨by rw [processed]; rfl, ?_⟩
    exact change_reckoned clean watched reckoned (by simpa using skipped) rfl rfl processed

end Interception.Host
