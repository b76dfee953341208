import Interception.Proofs.Host.Scenes
import Interception.Proofs.Patch.Counting
import Mathlib.Algebra.GroupWithZero.Nat

/-!
A ledger of mounts. It enters every mount that is made, with its weight and
whether its type was counted for it, and strikes it off when it is unmounted.
An unmount takes from its type the weight of what was unmounted, counted or
not; what is taken for mounts that never were counted is lost to those that
were. Lost as well is what does not fit the 32 bits in which uses are counted.
The ledger follows the mounts alone and never looks at the uses.
-/

namespace Interception.Host

open Patch

/-- A mount on the roll. -/
structure Enrolled where
  dir : String
  fsType : String
  weight : Nat
  counted : Bool

namespace Enrolled

def of (point : MountPoint) (counted : Bool) : Enrolled :=
  ⟨point.path, point.fsType, point.uses, counted⟩

/-- What a mount and its place on the roll have in common. -/
def place (enrolled : Enrolled) : String × String × Nat :=
  (enrolled.dir, enrolled.fsType, enrolled.weight)

/-- What a type owes to a mount. -/
def share (fsType : String) (enrolled : Enrolled) : Nat :=
  if enrolled.counted = true ∧ enrolled.fsType = fsType then enrolled.weight else 0

end Enrolled

def places (mounts : List Mount) : List (String × String × Nat) :=
  mounts.map fun mount => (Enrolled.of mount.point true).place

/-- The weight of the counted mounts of a type. -/
def standing (fsType : String) (roll : List Enrolled) : Nat :=
  (roll.map (·.share fsType)).sum

/-- The roll stands with the latest mount first. -/
structure Ledger where
  roll : List Enrolled
  lost : String → Nat
  /-- Types of mounts that were unmounted without ever having been counted. -/
  strays : List String
  /-- Types for which a mount was counted that did not fit any more. -/
  wrapped : List String
  /-- Whether the uses of a type started over at zero with the latest mount that
  was counted for it. -/
  zeroed : String → Bool

namespace Ledger

def empty : Ledger := ⟨[], fun _ => 0, [], [], fun _ => false⟩

/-- What the counted mounts of a type stand for, less what is lost. -/
def due (fsType : String) (ledger : Ledger) : Nat :=
  standing fsType ledger.roll - ledger.lost fsType

/-- Uses are counted in 32 bits: what is due to a type beyond them is lost. -/
def carry (fsType : String) (due : Nat) (ledger : Ledger) : Ledger :=
  { ledger with
    lost := fun type =>
      ledger.lost type + if type = fsType then due / UInt32.size * UInt32.size else 0
    wrapped := if due < UInt32.size then ledger.wrapped else fsType :: ledger.wrapped
    zeroed := fun type =>
      if type = fsType then due % UInt32.size == 0 else ledger.zeroed type }

def enter (point : MountPoint) (counted : Bool) (ledger : Ledger) : Ledger :=
  let entered := { ledger with roll := Enrolled.of point counted :: ledger.roll }
  if counted then entered.carry point.fsType (entered.due point.fsType) else entered

/-- The ledger once a mount is gone and these are left. No more can be lost
than what the counted mounts among them stand for. -/
def without (gone : Enrolled) (left : List Enrolled) (ledger : Ledger) : Ledger :=
  { ledger with
    roll := left
    lost := fun fsType =>
      if fsType = gone.fsType then
        min (ledger.lost fsType + if gone.counted then 0 else gone.weight) (standing fsType left)
      else ledger.lost fsType
    strays := if gone.counted then ledger.strays else gone.fsType :: ledger.strays
    zeroed := fun fsType => fsType != gone.fsType && ledger.zeroed fsType }

/-- Strikes off the latest mount on a directory. -/
def strike (dir : String) (ledger : Ledger) : Ledger :=
  match ledger.roll.find? (·.dir == dir) with
  | none => ledger
  | some gone => ledger.without gone (ledger.roll.eraseP (·.dir == dir))

@[simp]
theorem enter_roll (point : MountPoint) (counted : Bool) (ledger : Ledger) :
    (ledger.enter point counted).roll = Enrolled.of point counted :: ledger.roll := by
  cases counted <;> rfl

/-- Nothing is lost to a type as long as what is due to it fits. -/
theorem carry_fits {fsType type : String} {due : Nat} {ledger : Ledger} (some_due : 0 < due)
    (fits : type ∉ (ledger.carry fsType due).wrapped) :
    type ∉ ledger.wrapped ∧ (ledger.carry fsType due).lost type = ledger.lost type ∧
      ((ledger.carry fsType due).zeroed type = true → ledger.zeroed type = true) := by
  by_cases below : due < UInt32.size
  · have rest : ¬ due % UInt32.size = 0 := by
      rw [Nat.mod_eq_of_lt below]
      exact Nat.ne_of_gt some_due
    refine ⟨by simpa only [carry, below, if_true] using fits, ?_, ?_⟩
    · simp only [carry, Nat.div_eq_of_lt below, Nat.zero_mul, ite_self, Nat.add_zero]
    · by_cases same : type = fsType <;> simp [carry, same, rest]
  · have other : ¬ type = fsType ∧ type ∉ ledger.wrapped := by simpa [carry, below] using fits
    simp [carry, other.1, other.2]

end Ledger

theorem standing_cons (fsType : String) (enrolled : Enrolled) (roll : List Enrolled) :
    standing fsType (enrolled :: roll) = enrolled.share fsType + standing fsType roll := by
  simp [standing]

theorem standing_erased {roll : List Enrolled} {test : Enrolled → Bool} {gone : Enrolled}
    (found : roll.find? test = some gone) (fsType : String) :
    standing fsType roll = gone.share fsType + standing fsType (roll.eraseP test) := by
  induction roll with
  | nil => cases found
  | cons enrolled rest ih =>
      by_cases here : test enrolled = true
      · obtain rfl : enrolled = gone := by simpa [here] using found
        rw [List.eraseP_cons_of_pos here, standing_cons]
      · rw [List.find?_cons_of_neg here] at found
        rw [List.eraseP_cons_of_neg here, standing_cons, standing_cons, ih found]
        omega

/-- Weights are never zero, so what stands for a type are its counted mounts. -/
theorem standing_pos {roll : List Enrolled} (weights : ∀ enrolled ∈ roll, 0 < enrolled.weight)
    (fsType : String) :
    0 < standing fsType roll ↔
      ∃ enrolled ∈ roll, enrolled.counted = true ∧ enrolled.fsType = fsType := by
  induction roll with
  | nil => simp [standing]
  | cons enrolled rest ih =>
      have weight := weights enrolled (by simp)
      have others := ih fun other member => weights other (List.mem_cons_of_mem enrolled member)
      rw [standing_cons]
      by_cases shares : enrolled.counted = true ∧ enrolled.fsType = fsType
      · rw [Enrolled.share, if_pos shares]
        exact ⟨fun _ => ⟨enrolled, by simp, shares⟩, fun _ => by omega⟩
      · rw [Enrolled.share, if_neg shares, Nat.zero_add, others]
        simp [shares]

/-! ### The roll and the mounts -/

/-- The roll has the mounts of the list on it, the latest first. -/
def Follows (roll : List Enrolled) (mounts : List Mount) : Prop :=
  roll.map (·.place) = (places mounts).reverse

theorem follows_found {roll : List Enrolled} {mounts : List Mount} (follows : Follows roll mounts)
    (dir : String) :
    (roll.find? (·.dir == dir)).map (·.place) =
      (Mounts.at? dir mounts).map fun mount => (Enrolled.of mount.point true).place := by
  have found := congrArg (List.find? fun place => place.1 == dir) follows
  rw [List.find?_map, places, ← List.map_reverse, List.find?_map] at found
  exact found

theorem follows_struck {roll : List Enrolled} {mounts : List Mount} (follows : Follows roll mounts)
    (dir : String) :
    Follows (roll.eraseP (·.dir == dir)) (Mounts.removeLatest (·.point.path == dir) mounts) := by
  have erased := congrArg (List.eraseP fun place => place.1 == dir) follows
  rw [List.eraseP_map, places, ← List.map_reverse, List.eraseP_map] at erased
  rw [Follows, Mounts.removeLatest, Mounts.removeFirst_eraseP, places, ← List.map_reverse,
    List.reverse_reverse]
  exact erased

theorem follows_changed {mounts : List Mount} {change : Mount → Mount}
    (kept : ∀ mount, (Enrolled.of (change mount).point true).place =
      (Enrolled.of mount.point true).place) (test : Mount → Bool) :
    places (Mounts.changeLatest test change mounts) = places mounts := by
  have first (some : List Mount) : places (Mounts.changeFirst test change some) = places some := by
    induction some with
    | nil => rfl
    | cons mount rest ih =>
        by_cases here : test mount = true
        · rw [Mounts.changeFirst, if_pos here]
          simp [places, kept]
        · rw [Mounts.changeFirst, if_neg here]
          simpa [places] using ih
  have latest := first mounts.reverse
  simp only [places] at latest ⊢
  rw [Mounts.changeLatest, List.map_reverse, latest, List.map_reverse, List.reverse_reverse]

theorem follows_length {roll : List Enrolled} {mounts : List Mount}
    (follows : Follows roll mounts) : roll.length = mounts.length := by
  simpa [places] using congrArg List.length follows

theorem follows_entered {ledger : Ledger} {mounts : List Mount}
    (follows : Follows ledger.roll mounts) (mount : Mount) (counted : Bool) :
    Follows (ledger.enter mount.point counted).roll (mounts ++ [mount]) := by
  rw [Follows, Ledger.enter_roll, places, List.map_append, List.reverse_append, List.map_cons,
    follows]
  rfl

end Interception.Host
