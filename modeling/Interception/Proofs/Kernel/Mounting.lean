import Interception.Kernel.Natives

/-!
Searching and changing the mount list. Whatever is found is a mount of the
list, and of several mounts on a resolved directory it is the latest. Changes
touch one mount and leave the others as they are.
-/

namespace Interception

namespace Mounts

theorem latest_some {test : Mount → Bool} {mounts : List Mount} {mount : Mount}
    (found : latest test mounts = some mount) : mount ∈ mounts ∧ test mount = true :=
  ⟨List.mem_reverse.mp (List.mem_of_find?_eq_some found), List.find?_some found⟩

theorem latest_append (test : Mount → Bool) (mounts : List Mount) {mount : Mount}
    (holds : test mount = true) : latest test (mounts ++ [mount]) = some mount := by
  simp [latest, holds]

theorem mem_changeFirst {test : Mount → Bool} {change : Mount → Mount} {mounts : List Mount}
    {mount : Mount} (member : mount ∈ changeFirst test change mounts) :
    mount ∈ mounts ∨ ∃ old, mounts.find? test = some old ∧ mount = change old := by
  induction mounts with
  | nil => simp [changeFirst] at member
  | cons first rest rest_changed =>
      by_cases here : test first = true
      · rw [changeFirst, if_pos here] at member
        rcases List.mem_cons.mp member with rfl | later
        · exact .inr ⟨first, List.find?_cons_of_pos here, rfl⟩
        · exact .inl (by simp [later])
      · rw [changeFirst, if_neg here] at member
        rcases List.mem_cons.mp member with rfl | later
        · exact .inl (by simp)
        · rcases rest_changed later with kept | ⟨old, found, changed⟩
          · exact .inl (by simp [kept])
          · exact .inr ⟨old, (List.find?_cons_of_neg here).trans found, changed⟩

theorem mem_changeLatest {test : Mount → Bool} {change : Mount → Mount} {mounts : List Mount}
    {mount : Mount} (member : mount ∈ changeLatest test change mounts) :
    mount ∈ mounts ∨ ∃ old, latest test mounts = some old ∧ mount = change old := by
  rcases mem_changeFirst (List.mem_reverse.mp member) with kept | changed
  · exact .inl (List.mem_reverse.mp kept)
  · exact .inr changed

theorem changeFirst_covers {test : Mount → Bool} {change : Mount → Mount} {mounts : List Mount}
    {old : Mount} (member : old ∈ mounts) :
    ∃ mount ∈ changeFirst test change mounts, mount = old ∨ mount = change old := by
  induction mounts with
  | nil => simp at member
  | cons first rest rest_covers =>
      by_cases here : test first = true
      · rw [changeFirst, if_pos here]
        rcases List.mem_cons.mp member with rfl | later
        · exact ⟨change old, by simp, .inr rfl⟩
        · exact ⟨old, by simp [later], .inl rfl⟩
      · rw [changeFirst, if_neg here]
        rcases List.mem_cons.mp member with rfl | later
        · exact ⟨old, by simp, .inl rfl⟩
        · obtain ⟨mount, inside, same⟩ := rest_covers later
          exact ⟨mount, List.mem_cons_of_mem first inside, same⟩

theorem changeLatest_covers {test : Mount → Bool} {change : Mount → Mount} {mounts : List Mount}
    {old : Mount} (member : old ∈ mounts) :
    ∃ mount ∈ changeLatest test change mounts, mount = old ∨ mount = change old := by
  obtain ⟨mount, inside, same⟩ := changeFirst_covers (List.mem_reverse.mpr member)
  exact ⟨mount, List.mem_reverse.mpr inside, same⟩

theorem mem_removeFirst {test : Mount → Bool} {mounts : List Mount} {mount : Mount}
    (member : mount ∈ removeFirst test mounts) : mount ∈ mounts := by
  induction mounts with
  | nil => exact member
  | cons first rest rest_removed =>
      by_cases here : test first = true
      · rw [removeFirst, if_pos here] at member
        exact List.mem_cons_of_mem first member
      · rw [removeFirst, if_neg here] at member
        rcases List.mem_cons.mp member with rfl | later
        · simp
        · exact List.mem_cons_of_mem first (rest_removed later)

theorem removeFirst_eraseP (test : Mount → Bool) (mounts : List Mount) :
    removeFirst test mounts = mounts.eraseP test := by
  induction mounts with
  | nil => rfl
  | cons mount rest ih =>
      by_cases here : test mount = true
      · rw [removeFirst, if_pos here, List.eraseP_cons_of_pos here]
      · rw [removeFirst, if_neg here, List.eraseP_cons_of_neg here, ih]

theorem mem_removeLatest {test : Mount → Bool} {mounts : List Mount} {mount : Mount}
    (member : mount ∈ removeLatest test mounts) : mount ∈ mounts :=
  List.mem_reverse.mp (mem_removeFirst (List.mem_reverse.mp member))

theorem at?_none {path : String} {mounts : List Mount} (missing : at? path mounts = none) :
    ∀ mount ∈ mounts, mount.point.path ≠ path := by
  intro mount member same
  exact List.find?_eq_none.mp missing mount (List.mem_reverse.mpr member) (beq_iff_eq.mpr same)

theorem removeLatest_missing {path : String} {mounts : List Mount}
    (missing : at? path mounts = none) :
    removeLatest (·.point.path == path) mounts = mounts := by
  rw [removeLatest, removeFirst_eraseP, List.eraseP_of_forall_not (List.find?_eq_none.mp missing),
    List.reverse_reverse]

/-- What is removed is the mount of the path that no other came after. -/
theorem removeLatest_splits {path : String} {mounts : List Mount}
    (found : (at? path mounts).isSome = true) :
    ∃ before mount after, mounts = before ++ mount :: after ∧ mount.point.path = path ∧
      (∀ other ∈ after, other.point.path ≠ path) ∧
      removeLatest (·.point.path == path) mounts = before ++ after := by
  obtain ⟨mount, there⟩ := Option.isSome_iff_exists.mp found
  obtain ⟨gone, after, before, behind, same, split, left⟩ := List.exists_of_eraseP
    (List.mem_of_find?_eq_some there) (List.find?_some there)
  refine ⟨before.reverse, gone, after.reverse, ?_, beq_iff_eq.mp same, ?_, ?_⟩
  · simpa using congrArg List.reverse split
  · intro other member
    simpa using behind other (List.mem_reverse.mp member)
  · rw [removeLatest, removeFirst_eraseP, left, List.reverse_append]

/-! ### The mount of a path -/

theorem longest_none {mounts : List Mount} (empty : longest mounts = none) : mounts = [] := by
  cases mounts with
  | nil => rfl
  | cons first rest =>
      cases found : longest rest with
      | none => simp [longest, found] at empty
      | some best => by_cases longer : best.point.path.utf8ByteSize < first.point.path.utf8ByteSize <;>
          simp [longest, found, longer] at empty

theorem longest_bound {mounts : List Mount} {best : Mount} (found : longest mounts = some best) :
    ∀ mount ∈ mounts, mount.point.path.utf8ByteSize ≤ best.point.path.utf8ByteSize := by
  induction mounts generalizing best with
  | nil => simp
  | cons first rest rest_bound =>
      cases further : longest rest with
      | none =>
          obtain rfl := longest_none further
          obtain rfl : first = best := by simpa [longest] using found
          simp
      | some other =>
          have bound := rest_bound further
          by_cases longer : other.point.path.utf8ByteSize < first.point.path.utf8ByteSize
          · obtain rfl : first = best := by simpa [longest, further, longer] using found
            intro mount member
            rcases List.mem_cons.mp member with rfl | later
            · exact Nat.le_refl _
            · exact Nat.le_trans (bound mount later) (Nat.le_of_lt longer)
          · obtain rfl : other = best := by simpa [longest, further, longer] using found
            intro mount member
            rcases List.mem_cons.mp member with rfl | later
            · exact Nat.le_of_not_lt longer
            · exact bound mount later

/-- The longest mount is the latest on its directory. -/
theorem longest_latest {mounts : List Mount} {best : Mount} (found : longest mounts = some best) :
    at? best.point.path mounts = some best := by
  induction mounts generalizing best with
  | nil => simp [longest] at found
  | cons first rest rest_latest =>
      have split (path : String) : at? path (first :: rest) =
          (at? path rest).or (if first.point.path == path then some first else none) := by
        simp only [at?, latest, List.reverse_cons, List.find?_append, List.find?_cons, List.find?_nil]
        congr 1
        cases first.point.path == path <;> rfl
      rw [split]
      cases further : longest rest with
      | none =>
          obtain rfl := longest_none further
          obtain rfl : first = best := by simpa [longest] using found
          simp [at?, latest]
      | some other =>
          by_cases longer : other.point.path.utf8ByteSize < first.point.path.utf8ByteSize
          · obtain rfl : first = best := by simpa [longest, further, longer] using found
            -- Everything further on is shorter, so nothing there is on the directory.
            have elsewhere : at? first.point.path rest = none := by
              refine List.find?_eq_none.mpr ?_
              intro mount member same
              have bound := longest_bound further mount (List.mem_reverse.mp member)
              rw [beq_iff_eq.mp same] at bound
              omega
            simp [elsewhere]
          · obtain rfl : other = best := by simpa [longest, further, longer] using found
            simp [rest_latest further]

theorem resolve_ok {path rest : String} {mounts : List Mount} {point : MountPoint}
    (resolved : resolve path mounts = .ok (point, rest)) :
    ∃ mount ∈ mounts, mount.point = point ∧ at? point.path mounts = some mount := by
  unfold resolve at resolved
  cases found : longest (mounts.filter (·.holds path)) with
  | none => simp [found] at resolved
  | some mount =>
      have here : mount.point = point := by
        simp only [found] at resolved
        split at resolved
        · cases resolved
        · exact (Prod.mk.inj (Except.ok.inj resolved)).1
      have latest := longest_latest found
      obtain ⟨inside, same⟩ := latest_some latest
      obtain ⟨member, holds⟩ := List.mem_filter.mp inside
      refine ⟨mount, member, here, ?_⟩
      rw [← here, ← latest, at?, Mounts.latest, at?, Mounts.latest, ← List.filter_reverse, List.find?_filter]
      congr 1
      funext other
      -- A mount on the same directory holds the same paths.
      by_cases alike : other.point.path = mount.point.path
      · have holdsToo : other.holds path = true := by
          rw [Mount.holds, alike]
          exact holds
        simp [alike, holdsToo]
      · simp [alike]

end Mounts

/-! ### Files of a mount -/

namespace Mount

theorem file?_some {mount : Mount} {name : String} {inode : Inode}
    (found : mount.file? name = some inode) : ∃ file ∈ mount.files, file.2 = inode := by
  have inside := List.lookup_eq_some_iff.mp found
  obtain ⟨before, after, files, _⟩ := inside
  exact ⟨(name, inode), by simp [files], rfl⟩

theorem leastRegular_some {files : List (String × Inode)} {file : String × Inode}
    (found : leastRegular files = some file) : file ∈ files := by
  induction files generalizing file with
  | nil => simp [leastRegular] at found
  | cons first rest rest_some =>
      unfold leastRegular at found
      split at found
      · split at found
        · obtain rfl := Option.some.inj found
          simp
        · cases found
      · rename_i best further
        split at found
        · obtain rfl := Option.some.inj found
          simp
        · obtain rfl := Option.some.inj found
          exact List.mem_cons_of_mem first (rest_some further)

theorem regular?_some {mount : Mount} {inode : Inode} (found : mount.regular? = some inode) :
    ∃ file ∈ mount.files, file.2 = inode := by
  obtain ⟨file, least, same⟩ := Option.map_eq_some_iff.mp found
  exact ⟨file, leastRegular_some least, same⟩

theorem mem_placeFile {mount : Mount} {name : String} {inode : Inode} {file : String × Inode}
    (member : file ∈ (mount.placeFile name inode).files) : file.2 = inode ∨ file ∈ mount.files := by
  rcases List.mem_cons.mp member with rfl | kept
  · exact .inl rfl
  · exact .inr (List.mem_filter.mp kept).1

end Mount

end Interception
