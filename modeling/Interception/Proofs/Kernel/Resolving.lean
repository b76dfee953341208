import Interception.Proofs.Kernel.Mounting
import Interception.Proofs.Vetting.Precedence

/-!
Which mount a path belongs to. That is the mount of the deepest directory above
the path, and of several there the latest. Mounts are found without the slashes
that end the texts of their mount points, but weighed and cut off the path with
them. So a path is resolved to the deepest mount if its text begins with the
mount point's whole text and no other mount has more slashes to throw in, as is
always so for mount points without slashes to spare.
-/

namespace Interception.Mounts

open Text (Above Absolute bare components)
open Vetting.PathPolicy (splits_compare tidied size_tidied components_tidied)

variable {path : String} {mounts : List Mount} {mount : Mount}

def size (mount : Mount) : Nat := mount.point.path.utf8ByteSize

def depth (mount : Mount) : Nat := (components mount.point.path).length

/-- Of the mounts of a kind, the last with the greatest weight. -/
structure Prevails (kind : Mount → Prop) (weight : Mount → Nat) (mounts : List Mount)
    (mount : Mount) : Prop where
  own : kind mount
  place : ∃ earlier later, mounts = earlier ++ mount :: later ∧
    (∀ other ∈ earlier, kind other → weight other ≤ weight mount) ∧
    ∀ other ∈ later, kind other → weight other < weight mount

/-- The mount of the deepest directory above the path, the latest there. -/
abbrev Innermost (path : String) : List Mount → Mount → Prop :=
  Prevails (fun mount => Above mount.point.path path) depth

/-- The mount with the longest text among those that are found, the latest of
equally long ones. -/
abbrev Longest (path : String) : List Mount → Mount → Prop :=
  Prevails (fun mount => mount.holds path = true) size

/-- The path is the directory of the mount, but lacks slashes that end the text
of the mount point. -/
def Unnamed (path : String) (mount : Mount) : Prop :=
  path.toList = bare mount.point.path ∧ path ≠ mount.point.path

/-- What is left of the path below a directory, without slashes in front. -/
def Below (lead path rest : String) : Prop :=
  ∃ slashes, path.toList = bare lead ++ slashes ++ rest.toList ∧ (∀ c ∈ slashes, c = '/') ∧
    rest.toList.head? ≠ some '/'

/-! ### The prevailing mount -/

namespace Prevails

variable {kind : Mount → Prop} {weight : Mount → Nat}

theorem mem (prevails : Prevails kind weight mounts mount) : mount ∈ mounts := by
  obtain ⟨-, earlier, later, rfl, -, -⟩ := prevails
  simp

theorem cons_old {head : Mount} (prevails : Prevails kind weight mounts mount)
    (lighter : kind head → weight head ≤ weight mount) :
    Prevails kind weight (head :: mounts) mount := by
  obtain ⟨own, earlier, later, rfl, before, behind⟩ := prevails
  exact ⟨own, head :: earlier, later, rfl, List.forall_mem_cons.mpr ⟨lighter, before⟩, behind⟩

theorem cons_new {head : Mount} (own : kind head)
    (heavier : ∀ other ∈ mounts, kind other → weight other < weight head) :
    Prevails kind weight (head :: mounts) head :=
  ⟨own, [], mounts, rfl, by simp, heavier⟩

theorem greatest {other : Mount} (prevails : Prevails kind weight mounts mount)
    (member : other ∈ mounts) (own : kind other) : weight other ≤ weight mount := by
  obtain ⟨-, earlier, later, rfl, before, behind⟩ := prevails
  rcases List.mem_append.mp member with ahead | here
  · exact before other ahead own
  · rcases List.mem_cons.mp here with rfl | after
    · exact Nat.le_refl _
    · exact Nat.le_of_lt (behind other after own)

/-- Two mounts that prevail, each in its way, are one if each is of the other's
kind and weighs as much in the other's way. -/
theorem same {kind' : Mount → Prop} {weight' : Mount → Nat} {other : Mount}
    (first : Prevails kind weight mounts mount) (second : Prevails kind' weight' mounts other)
    (own : kind other) (own' : kind' mount) (level : weight mount ≤ weight other)
    (level' : weight' other ≤ weight' mount) : mount = other := by
  obtain ⟨-, earlier, later, split, -, behind⟩ := first
  obtain ⟨-, ahead, after, split', -, beyond⟩ := second
  rcases splits_compare (split.symm.trans split') with equal | ⟨inside, -⟩ | ⟨-, inside⟩
  · exact equal
  · exact absurd level (Nat.not_le.mpr (behind other inside own))
  · exact absurd level' (Nat.not_le.mpr (beyond mount inside own'))

theorem unique {other : Mount} (first : Prevails kind weight mounts mount)
    (second : Prevails kind weight mounts other) : mount = other :=
  first.same second second.own first.own (second.greatest first.mem first.own)
    (first.greatest second.mem second.own)

end Prevails

theorem exists_prevails {kind : Mount → Prop} (weight : Mount → Nat)
    (some : ∃ mount ∈ mounts, kind mount) : ∃ mount, Prevails kind weight mounts mount := by
  classical
  induction mounts with
  | nil => simp at some
  | cons head rest ih =>
      by_cases further : ∃ mount ∈ rest, kind mount
      · obtain ⟨mount, prevails⟩ := ih further
        by_cases heavier : kind head ∧ weight mount < weight head
        · refine ⟨head, .cons_new heavier.1 fun other member own => ?_⟩
          exact Nat.lt_of_le_of_lt (prevails.greatest member own) heavier.2
        · refine ⟨mount, prevails.cons_old fun own => ?_⟩
          exact Nat.not_lt.mp fun less => heavier ⟨own, less⟩
      · have none : ∀ mount ∈ rest, ¬ kind mount := by simpa using further
        obtain ⟨mount, member, own⟩ := some
        rcases List.mem_cons.mp member with rfl | later
        · exact ⟨mount, .cons_new own fun other inside own => absurd own (none other inside)⟩
        · exact absurd own (none mount later)

theorem prevails_of_longest (found : longest (mounts.filter (·.holds path)) = some mount) :
    Longest path mounts mount := by
  induction mounts with
  | nil => simp [longest] at found
  | cons head rest ih =>
      by_cases holds : head.holds path = true
      · rw [List.filter_cons_of_pos (by exact holds), longest] at found
        cases best : longest (rest.filter (·.holds path)) with
        | none =>
            have none := List.filter_eq_nil_iff.mp (longest_none best)
            obtain rfl : head = mount := by simpa [best] using found
            exact .cons_new holds fun other inside own => absurd own (none other inside)
        | some other =>
            simp only [best] at found
            split at found <;> obtain rfl := Option.some.inj found
            · rename_i longer
              refine .cons_new holds fun mount inside own => ?_
              have bound := longest_bound best mount (List.mem_filter.mpr ⟨inside, own⟩)
              exact Nat.lt_of_le_of_lt bound longer
            · rename_i shorter
              exact (ih best).cons_old fun _ => Nat.not_lt.mp shorter
      · rw [List.filter_cons_of_neg (by exact holds)] at found
        exact (ih found).cons_old fun own => absurd own holds

theorem longest_iff_prevails :
    longest (mounts.filter (·.holds path)) = some mount ↔ Longest path mounts mount := by
  refine ⟨prevails_of_longest, fun prevails => ?_⟩
  cases found : longest (mounts.filter (·.holds path)) with
  | none =>
      have none := List.filter_eq_nil_iff.mp (longest_none found)
      exact absurd prevails.own (none mount prevails.mem)
  | some other => rw [(prevails_of_longest found).unique prevails]

/-! ### Finding mounts -/

theorem holds_iff : mount.holds path = true ↔
    path = mount.point.path ∨ ∃ rest, path.toList = bare mount.point.path ++ '/' :: rest := by
  rw [Mount.holds, Bool.or_eq_true, beq_iff_eq, Option.isSome_iff_exists]
  simp only [Text.afterLead_eq_some_iff, List.append_assoc, List.singleton_append, bare]

theorem above_of_holds (holds : mount.holds path = true) : Above mount.point.path path := by
  rw [Text.above_iff]
  rcases holds_iff.mp holds with rfl | below
  · obtain ⟨slashes, whole, all⟩ := Text.bare_append_slashes mount.point.path
    cases slashes with
    | nil => exact .inl (by simpa using whole)
    | cons c slashes =>
        obtain rfl := all c (List.mem_cons_self ..)
        exact .inr ⟨slashes, whole⟩
  · exact .inr below

/-- A mount above the path is found unless the path lacks the slashes that end
the mount point's text. -/
theorem holds_iff_above :
    mount.holds path = true ↔ Above mount.point.path path ∧ ¬ Unnamed path mount := by
  constructor
  · intro holds
    refine ⟨above_of_holds holds, ?_⟩
    rintro ⟨bareName, differ⟩
    rcases holds_iff.mp holds with same | ⟨rest, below⟩
    · exact differ same
    · simp [bareName] at below
  · rintro ⟨above, named⟩
    rcases Text.above_iff.mp above with bareName | below
    · exact holds_iff.mpr (.inl (not_not.mp fun differ => named ⟨bareName, differ⟩))
    · exact holds_iff.mpr (.inr below)

/-! ### Cutting the mount point off -/

theorem dropBytes_eq_some_iff {count : Nat} {text rest : List Char} :
    dropBytes count text = some rest ↔ ∃ lead, text = lead ++ rest ∧ String.utf8Len lead = count := by
  induction text generalizing count with
  | nil =>
      cases count with
      | zero => simp [dropBytes, eq_comm]
      | succ count => simp [dropBytes]
  | cons c text ih =>
      have wide := Char.utf8Size_pos c
      cases count with
      | zero =>
          simp only [dropBytes, Option.some.injEq]
          constructor
          · rintro rfl
            exact ⟨[], rfl, rfl⟩
          · rintro ⟨lead, split, none⟩
            cases lead with
            | nil => exact split
            | cons d lead =>
                have positive := Char.utf8Size_pos d
                rw [String.utf8Len_cons] at none
                omega
      | succ count =>
          rw [dropBytes]
          split
          · rename_i fits
            rw [ih]
            constructor
            · rintro ⟨lead, rfl, left⟩
              exact ⟨c :: lead, rfl, by rw [String.utf8Len_cons]; omega⟩
            · rintro ⟨lead, split, whole⟩
              cases lead with
              | nil => cases whole
              | cons d lead =>
                  obtain ⟨rfl, rfl⟩ := List.cons.inj split
                  rw [String.utf8Len_cons] at whole
                  exact ⟨lead, rfl, by omega⟩
          · rename_i wider
            simp only [reduceCtorEq, false_iff]
            rintro ⟨lead, split, whole⟩
            cases lead with
            | nil => cases whole
            | cons d lead =>
                obtain ⟨rfl, rfl⟩ := List.cons.inj split
                rw [String.utf8Len_cons] at whole
                omega

theorem utf8Len_slashes {slashes : List Char} (all : ∀ c ∈ slashes, c = '/') :
    String.utf8Len slashes = slashes.length := by
  induction slashes with
  | nil => rfl
  | cons c rest ih =>
      obtain ⟨rfl, others⟩ := List.forall_mem_cons.mp all
      rw [String.utf8Len_cons, ih others, List.length_cons]
      rfl

theorem utf8Len_toList (text : String) : String.utf8Len text.toList = text.utf8ByteSize := by
  rw [← String.utf8ByteSize_ofList, String.ofList_toList]

/-- What is left behind the mount point's length is what lies below the directory
exactly if the path begins with the mount point's text. -/
theorem below_cut_iff {lead : String} {rest : List Char}
    (cut : dropBytes lead.utf8ByteSize path.toList = some rest) :
    Below lead path (String.ofList (rest.dropWhile (· == '/'))) ↔ lead.toList <+: path.toList := by
  obtain ⟨front, split, level⟩ := dropBytes_eq_some_iff.mp cut
  obtain ⟨spare, whole, spareAll⟩ := Text.bare_append_slashes lead
  have parts := List.takeWhile_append_dropWhile (p := (· == '/')) (l := rest)
  have between : ∀ c ∈ rest.takeWhile (· == '/'), c = '/' := by
    intro c inside
    simpa using List.mem_takeWhile_imp inside
  constructor
  · rintro ⟨slashes, apart, all, -⟩
    rw [String.toList_ofList, split] at apart
    nth_rewrite 1 [← parts] at apart
    rw [← List.append_assoc, List.append_cancel_right_eq] at apart
    -- Both the piece cut off and the mount point are the bare name and slashes behind
    -- it, and they are equally long.
    rw [← utf8Len_toList, whole, String.utf8Len_append, utf8Len_slashes spareAll] at level
    have piece : ∃ more, front = bare lead ++ more ∧ ∀ c ∈ more, c = '/' := by
      rcases List.append_eq_append_iff.mp apart with ⟨more, same, beyond⟩ | ⟨more, same, beyond⟩
      · rw [same, String.utf8Len_append] at level
        have inside : ∀ c ∈ more, c = '/' := fun c here =>
          between c (beyond ▸ List.mem_append_left _ here)
        rw [utf8Len_slashes inside] at level
        obtain rfl : more = [] := List.eq_nil_of_length_eq_zero (by omega)
        exact ⟨[], by simpa using same.symm, by simp⟩
      · exact ⟨more, same, fun c here => all c (beyond ▸ List.mem_append_left _ here)⟩
    obtain ⟨more, rfl, moreAll⟩ := piece
    rw [String.utf8Len_append, utf8Len_slashes moreAll] at level
    have same : more = spare := by
      rw [List.eq_replicate_iff.mpr ⟨rfl, moreAll⟩, List.eq_replicate_iff.mpr ⟨rfl, spareAll⟩]
      congr 1
      omega
    exact ⟨rest, by rw [whole, split, same]⟩
  · rintro ⟨tail, begins⟩
    have same : tail = rest := by
      have cutAgain : dropBytes lead.utf8ByteSize path.toList = some tail :=
        dropBytes_eq_some_iff.mpr ⟨lead.toList, begins.symm, utf8Len_toList lead⟩
      exact Option.some.inj (cutAgain.symm.trans cut)
    subst same
    refine ⟨spare ++ tail.takeWhile (· == '/'), ?_, ?_, ?_⟩
    · rw [String.toList_ofList, ← begins, whole, List.append_assoc, List.append_assoc,
        List.append_assoc, parts]
    · exact List.forall_mem_append.mpr ⟨spareAll, between⟩
    · rw [String.toList_ofList]
      intro slash
      have opens := List.head?_dropWhile_not (· == '/') tail
      simp [slash] at opens

/-! ### Resolving -/

theorem resolve_noMount_iff : resolve path mounts = .error .noMount ↔
    ∀ mount ∈ mounts, Above mount.point.path path → Unnamed path mount := by
  have unheld : resolve path mounts = .error .noMount ↔
      mounts.filter (·.holds path) = [] := by
    unfold resolve
    cases found : longest (mounts.filter (·.holds path)) with
    | none => simp [longest_none found]
    | some mount =>
        have inside := (longest_iff_prevails.mp found).mem
        have holds := (longest_iff_prevails.mp found).own
        simp only
        split <;> simp only [Except.error.injEq, reduceCtorEq, false_iff, List.filter_eq_nil_iff,
          not_forall, not_not]
        all_goals exact ⟨mount, inside, holds⟩
  rw [unheld, List.filter_eq_nil_iff]
  refine forall₂_congr fun mount _ => ?_
  rw [holds_iff_above, not_and, not_not]

theorem resolve_badCut_iff : resolve path mounts = .error .badCut ↔
    ∃ mount, Longest path mounts mount ∧
      ∀ lead rest, path.toList = lead ++ rest → String.utf8Len lead ≠ size mount := by
  unfold resolve
  cases found : longest (mounts.filter (·.holds path)) with
  | none =>
      have none := List.filter_eq_nil_iff.mp (longest_none found)
      simp only [Except.error.injEq, reduceCtorEq, false_iff, not_exists, not_and]
      exact fun mount prevails => absurd prevails.own (none mount prevails.mem)
  | some mount =>
      have prevails := longest_iff_prevails.mp found
      simp only
      cases cut : dropBytes mount.point.path.utf8ByteSize path.toList with
      | none =>
          simp only [true_iff]
          refine ⟨mount, prevails, fun lead rest split level => ?_⟩
          have fits := dropBytes_eq_some_iff.mpr ⟨lead, split, level⟩
          cases cut.symm.trans fits
      | some rest =>
          obtain ⟨lead, split, level⟩ := dropBytes_eq_some_iff.mp cut
          simp only [reduceCtorEq, false_iff, not_exists, not_and, not_forall, not_not]
          intro other longest
          rw [← prevails.unique longest]
          exact ⟨lead, rest, split, level⟩

theorem resolve_eq_ok_iff {point : MountPoint} {rest : String} :
    resolve path mounts = .ok (point, rest) ↔
      ∃ mount tail, Longest path mounts mount ∧ mount.point = point ∧
        dropBytes mount.point.path.utf8ByteSize path.toList = some tail ∧
        String.ofList (tail.dropWhile (· == '/')) = rest := by
  unfold resolve
  cases found : longest (mounts.filter (·.holds path)) with
  | none =>
      have none := List.filter_eq_nil_iff.mp (longest_none found)
      simp only [reduceCtorEq, false_iff, not_exists, not_and]
      exact fun mount _ prevails => absurd prevails.own (none mount prevails.mem)
  | some mount =>
      have prevails := longest_iff_prevails.mp found
      simp only
      constructor
      · intro resolved
        cases cut : dropBytes mount.point.path.utf8ByteSize path.toList with
        | none => simp [cut] at resolved
        | some tail =>
            simp only [cut, Except.ok.injEq, Prod.mk.injEq] at resolved
            exact ⟨mount, tail, prevails, resolved.1, cut, resolved.2⟩
      · rintro ⟨other, tail, longest, rfl, cut, rfl⟩
        obtain rfl := prevails.unique longest
        simp only [cut]

theorem innermost_resolved (innermost : Innermost path mounts mount) :
    (∃ rest, resolve path mounts = .ok (mount.point, rest) ∧ Below mount.point.path path rest) ↔
      Longest path mounts mount ∧ mount.point.path.toList <+: path.toList := by
  constructor
  · rintro ⟨rest, resolved, below⟩
    obtain ⟨other, tail, longest, point, cut, rfl⟩ := resolve_eq_ok_iff.mp resolved
    have same : other = mount := by
      refine longest.same innermost ?_ ?_ ?_ ?_
      · rw [Mount.holds, ← point]
        exact longest.own
      · rw [point]
        exact innermost.own
      · rw [size, size, point]
      · rw [depth, depth, point]
    subst same
    exact ⟨longest, (below_cut_iff cut).mp below⟩
  · rintro ⟨longest, tail, begins⟩
    have cut : dropBytes mount.point.path.utf8ByteSize path.toList = some tail :=
      dropBytes_eq_some_iff.mpr ⟨_, begins.symm, utf8Len_toList _⟩
    exact ⟨_, resolve_eq_ok_iff.mpr ⟨mount, tail, longest, rfl, cut, rfl⟩,
      (below_cut_iff cut).mpr ⟨tail, begins⟩⟩

/-! ### Mount points without slashes to spare -/

theorem tidy_begins (absolute : Absolute path) (tidy : tidied mount.point.path = mount.point.path)
    (above : Above mount.point.path path) : mount.point.path.toList <+: path.toList := by
  rw [← tidy, tidied]
  split
  · obtain ⟨rest, whole⟩ := List.head?_eq_some_iff.mp absolute
    exact ⟨rest, whole.symm⟩
  · rw [String.toList_ofList]
    rcases Text.above_iff.mp above with same | ⟨rest, below⟩
    · exact ⟨[], by rw [same, List.append_nil]⟩
    · exact ⟨_, below.symm⟩

theorem tidy_holds (absolute : Absolute path) (tidy : tidied mount.point.path = mount.point.path)
    (above : Above mount.point.path path) : mount.holds path = true := by
  refine holds_iff_above.mpr ⟨above, ?_⟩
  rintro ⟨bareName, differ⟩
  obtain ⟨tail, begins⟩ := tidy_begins absolute tidy above
  obtain ⟨spare, whole, -⟩ := Text.bare_append_slashes mount.point.path
  rw [whole, bareName, List.append_assoc, List.append_right_eq_self, List.append_eq_nil_iff] at begins
  refine differ (String.toList_inj.mp ?_)
  rw [whole, bareName, begins.1, List.append_nil]

/-- Of two mounts above one path, the deeper one has the longer tidied text. -/
theorem size_of_depth {other : Mount} (above : Above mount.point.path path)
    (above' : Above other.point.path path) (tidy : tidied mount.point.path = mount.point.path)
    (tidy' : tidied other.point.path = other.point.path) :
    (depth mount ≤ depth other → size mount ≤ size other) ∧
      (depth mount < depth other → size mount < size other) := by
  have ordered (shallower : depth mount ≤ depth other) :
      mount.point.path = other.point.path ∨ size mount < size other := by
    have leads := size_tidied (List.prefix_of_prefix_length_le above above' shallower)
    rwa [tidy, tidy'] at leads
  constructor
  · intro shallower
    rcases ordered shallower with same | less
    · rw [size, size, same]
    · exact Nat.le_of_lt less
  · intro shallower
    rcases ordered (Nat.le_of_lt shallower) with same | less
    · rw [depth, depth, same] at shallower
      exact absurd shallower (Nat.lt_irrefl _)
    · exact less

theorem tidy_longest (absolute : Absolute path)
    (tidy : ∀ other ∈ mounts, Above other.point.path path →
      tidied other.point.path = other.point.path)
    (innermost : Innermost path mounts mount) : Longest path mounts mount := by
  have member := innermost.mem
  obtain ⟨above, earlier, later, split, before, behind⟩ := innermost
  have own := tidy mount member above
  refine ⟨tidy_holds absolute own above, earlier, later, split, ?_, ?_⟩
  · intro other inside holds
    have above' := above_of_holds holds
    have spelled := tidy other (split ▸ List.mem_append_left _ inside) above'
    exact (size_of_depth above' above spelled own).1 (before other inside above')
  · intro other inside holds
    have above' := above_of_holds holds
    have spelled := tidy other
      (split ▸ List.mem_append_right _ (List.mem_cons_of_mem _ inside)) above'
    exact (size_of_depth above' above spelled own).2 (behind other inside above')

/-- For every list of mounts and every path: no mount is found exactly if the path
lacks the last slashes of every mount point that is above it. A path cannot be
cut exactly if it has no front as long as the longest mount point found. If any
mount is above the path, there is an innermost one, that of the deepest
directory and the latest there. The path is resolved to it and to what lies
below it exactly if it also has the longest text of those found, and the path
begins with that text; which is always so for an absolute path if the mount
points above it have no slashes to spare. -/
theorem innermost_resolved_iff (path : String) (mounts : List Mount) :
    (resolve path mounts = .error .noMount ↔
      ∀ mount ∈ mounts, Above mount.point.path path → Unnamed path mount) ∧
    (resolve path mounts = .error .badCut ↔
      ∃ mount, Longest path mounts mount ∧
        ∀ lead rest, path.toList = lead ++ rest → String.utf8Len lead ≠ size mount) ∧
    ((∃ mount ∈ mounts, Above mount.point.path path) → ∃ mount, Innermost path mounts mount) ∧
    ∀ mount, Innermost path mounts mount →
      ((∃ rest, resolve path mounts = .ok (mount.point, rest) ∧
          Below mount.point.path path rest) ↔
        Longest path mounts mount ∧ mount.point.path.toList <+: path.toList) ∧
      (Absolute path →
        (∀ other ∈ mounts, Above other.point.path path →
          tidied other.point.path = other.point.path) →
        ∃ rest, resolve path mounts = .ok (mount.point, rest) ∧
          Below mount.point.path path rest) := by
  refine ⟨resolve_noMount_iff, resolve_badCut_iff, exists_prevails depth, ?_⟩
  intro mount innermost
  refine ⟨innermost_resolved innermost, fun absolute tidy => ?_⟩
  have own := tidy mount innermost.mem innermost.own
  exact (innermost_resolved innermost).mpr
    ⟨tidy_longest absolute tidy innermost, tidy_begins absolute own innermost.own⟩

/-- A mount of an empty directory, on a device of its own. -/
def mountOn (dir : String) : Mount :=
  ⟨⟨"/dev/a", dir, "ext4", 0, ⟨2, 0x801, false, "ext4", ⟨3, "inodes"⟩, ⟨2, "files"⟩⟩, none, 1⟩, []⟩

/-- A mount on `/a//` is not found for `/a`, takes `/a/f` for its own directory, and
does not end at a character of `/a/é`. One on `/a///` takes what lies below `/a/b`
from the mount there. -/
theorem spare_slashes_misresolve :
    (Above "/a//" "/a" ∧ resolve "/a" [mountOn "/a//"] = .error .noMount) ∧
      (Below "/a//" "/a/f" "f" ∧
        resolve "/a/f" [mountOn "/a//"] = .ok ((mountOn "/a//").point, "")) ∧
      resolve "/a/é" [mountOn "/a//"] = .error .badCut ∧
      (Innermost "/a/b/c" [mountOn "/a/b", mountOn "/a///"] (mountOn "/a/b") ∧
        ¬ ∃ rest, resolve "/a/b/c" [mountOn "/a/b", mountOn "/a///"] =
          .ok ((mountOn "/a/b").point, rest) ∧ Below "/a/b" "/a/b/c" rest) := by
  have unnamed : Above "/a//" "/a" ∧ Unnamed "/a" (mountOn "/a//") :=
    ⟨by decide +kernel, by decide +kernel, by decide +kernel⟩
  have below : Below "/a//" "/a/f" "f" := ⟨['/'], by decide +kernel, by simp, by decide +kernel⟩
  have inside : Longest "/a/é" [mountOn "/a//"] (mountOn "/a//") :=
    ⟨by decide +kernel, [], [], rfl, by simp, by simp⟩
  have innermost : Innermost "/a/b/c" [mountOn "/a/b", mountOn "/a///"] (mountOn "/a/b") :=
    ⟨by decide +kernel, [], [mountOn "/a///"], rfl, by simp, by decide +kernel⟩
  have longest : Longest "/a/b/c" [mountOn "/a/b", mountOn "/a///"] (mountOn "/a///") :=
    ⟨by decide +kernel, [mountOn "/a/b"], [], rfl, by decide +kernel, by simp⟩
  refine ⟨⟨unnamed.1, ?_⟩, ⟨below, by decide +kernel⟩, ?_, innermost, ?_⟩
  · exact (innermost_resolved_iff _ _).1.mpr fun mount member _ =>
      List.mem_singleton.mp member ▸ unnamed.2
  · refine (innermost_resolved_iff _ _).2.1.mpr ⟨_, inside, fun lead rest split level => ?_⟩
    have cut := dropBytes_eq_some_iff.mpr ⟨lead, split, level⟩
    have uncut : dropBytes (size (mountOn "/a//")) "/a/é".toList = none := by decide +kernel
    cases uncut.symm.trans cut
  · intro resolved
    have both := (((innermost_resolved_iff _ _).2.2.2 _ innermost).1.mp resolved).1
    exact absurd (both.unique longest) (by decide +kernel)

end Interception.Mounts
