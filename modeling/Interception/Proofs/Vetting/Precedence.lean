import Interception.Proofs.Text.Components
import Interception.Vetting.PathPolicy
import Mathlib.Data.String.Basic

/-!
Which rule of a path policy decides. Rules apply to whole directories, but are
weighed by the length of their text. Slashes behind a directory's name add to
the length and name no other directory, so a rule may outweigh one that says
more, or one for the same directory that was given later.
-/

namespace Interception.Vetting.PathPolicy

open Text (Above Absolute bare components)

/-- The rules in the order they are given, those that allow first. -/
def given (allowed denied : List String) : List PathRule :=
  allowed.map (⟨·, .allow⟩) ++ denied.map (⟨·, .deny⟩)

/-- The rules for the path's directories. -/
def applying (allowed denied : List String) (path : String) : List PathRule :=
  (given allowed denied).filter fun rule => Above rule.lead path

def size (rule : PathRule) : Nat := rule.lead.utf8ByteSize

def depth (rule : PathRule) : Nat := (components rule.lead).length

/-- Of the rules with the greatest weight the last. -/
def Foremost (weight : PathRule → Nat) (rules : List PathRule) (rule : PathRule) : Prop :=
  ∃ earlier later, rules = earlier ++ rule :: later ∧
    (∀ other ∈ earlier, weight other ≤ weight rule) ∧ ∀ other ∈ later, weight other < weight rule

/-- A rule that decides otherwise has a longer text than all that decide as this
one does, or as long a text and comes later. -/
def Overruled (rules : List PathRule) (rule : PathRule) : Prop :=
  ∃ earlier other later, rules = earlier ++ other :: later ∧ other.decision ≠ rule.decision ∧
    (∀ ally ∈ earlier, ally.decision = rule.decision → size ally ≤ size other) ∧
    ∀ ally ∈ later, ally.decision = rule.decision → size ally < size other

theorem covers_iff_above {lead path : String} (absolute : Absolute path) :
    covers lead path = true ↔ Above lead path := by
  obtain ⟨rest, whole⟩ := List.head?_eq_some_iff.mp absolute
  rw [covers, Text.above_iff_afterLead, Text.bare]
  split
  · rename_i root
    simp [root, Text.afterLead_nil, whole]
  · split <;> simp_all

/-! ### The foremost rule -/

section Foremost

variable {weight : PathRule → Nat} {rules : List PathRule}

/-- Two places in one list: the same, or each ahead of or behind the other. -/
theorem splits_compare {Item : Type} {before behind ahead after : List Item} {one other : Item}
    (same : before ++ one :: behind = ahead ++ other :: after) :
    one = other ∨ (other ∈ behind ∧ one ∈ ahead) ∨ (other ∈ before ∧ one ∈ after) := by
  rcases List.append_eq_append_iff.mp same with ⟨between, rfl, rest⟩ | ⟨between, rfl, rest⟩
  · cases between with
    | nil => exact .inl (by simpa using (List.cons.inj rest).1)
    | cons first between =>
        obtain ⟨rfl, rfl⟩ := List.cons.inj rest
        exact .inr (.inl ⟨by simp, by simp⟩)
  · cases between with
    | nil => exact .inl (by simpa using (List.cons.inj rest).1.symm)
    | cons first between =>
        obtain ⟨rfl, rfl⟩ := List.cons.inj rest
        exact .inr (.inr ⟨by simp, by simp⟩)

namespace Foremost

theorem mem {rule : PathRule} (foremost : Foremost weight rules rule) : rule ∈ rules := by
  obtain ⟨earlier, later, rfl, -, -⟩ := foremost
  simp

theorem greatest {rule other : PathRule} (foremost : Foremost weight rules rule)
    (member : other ∈ rules) : weight other ≤ weight rule := by
  obtain ⟨earlier, later, rfl, before, behind⟩ := foremost
  rcases List.mem_append.mp member with ahead | here
  · exact before other ahead
  · rcases List.mem_cons.mp here with rfl | after
    · exact Nat.le_refl _
    · exact Nat.le_of_lt (behind other after)

theorem unique {rule other : PathRule} (first : Foremost weight rules rule)
    (second : Foremost weight rules other) : rule = other := by
  have below := first.greatest second.mem
  have above := second.greatest first.mem
  obtain ⟨earlier, later, split, -, behind⟩ := first
  obtain ⟨ahead, after, same, -, beyond⟩ := second
  rcases splits_compare (split.symm.trans same) with equal | ⟨inside, -⟩ | ⟨-, inside⟩
  · exact equal
  · exact absurd above (Nat.not_le.mpr (behind other inside))
  · exact absurd below (Nat.not_le.mpr (beyond rule inside))

/-- A rule in front that outweighs the foremost one takes its place. -/
theorem cons_new {head rule : PathRule} (foremost : Foremost weight rules rule)
    (heavier : weight rule < weight head) : Foremost weight (head :: rules) head :=
  ⟨[], rules, rfl, by simp, fun _ member =>
    Nat.lt_of_le_of_lt (foremost.greatest member) heavier⟩

theorem cons_old {head rule : PathRule} (foremost : Foremost weight rules rule)
    (lighter : weight head ≤ weight rule) : Foremost weight (head :: rules) rule := by
  obtain ⟨earlier, later, rfl, before, behind⟩ := foremost
  exact ⟨head :: earlier, later, rfl, List.forall_mem_cons.mpr ⟨lighter, before⟩, behind⟩

theorem filter {rule : PathRule} (foremost : Foremost weight rules rule)
    {keep : PathRule → Bool} (kept : keep rule = true) :
    Foremost weight (rules.filter keep) rule := by
  obtain ⟨earlier, later, rfl, before, behind⟩ := foremost
  exact ⟨earlier.filter keep, later.filter keep, by simp [kept],
    fun other member => before other (List.mem_filter.mp member).1,
    fun other member => behind other (List.mem_filter.mp member).1⟩

/-- Another weight that orders the rules alike picks the same rule, and so it
does from the rules spelled anew. -/
theorem map {other : PathRule → Nat} {respell : PathRule → PathRule} {rule : PathRule}
    (foremost : Foremost weight rules rule)
    (keeps : ∀ left ∈ rules, ∀ right ∈ rules, weight left ≤ weight right →
      other (respell left) ≤ other (respell right))
    (rises : ∀ left ∈ rules, ∀ right ∈ rules, weight left < weight right →
      other (respell left) < other (respell right)) :
    Foremost other (rules.map respell) (respell rule) := by
  have member := foremost.mem
  obtain ⟨earlier, later, split, before, behind⟩ := foremost
  refine ⟨earlier.map respell, later.map respell, by simp [split], ?_, ?_⟩
  · intro _ ahead
    obtain ⟨left, inside, rfl⟩ := List.mem_map.mp ahead
    exact keeps left (by simp [split, inside]) rule member (before left inside)
  · intro _ after
    obtain ⟨left, inside, rfl⟩ := List.mem_map.mp after
    exact rises left (by simp [split, inside]) rule member (behind left inside)

end Foremost

theorem exists_foremost (weight : PathRule → Nat) {rules : List PathRule} (some : rules ≠ []) :
    ∃ rule, Foremost weight rules rule := by
  induction rules with
  | nil => exact absurd rfl some
  | cons head rest ih =>
      by_cases last : rest = []
      · exact ⟨head, [], [], by simp [last], by simp, by simp⟩
      · obtain ⟨rule, foremost⟩ := ih last
        by_cases heavier : weight rule < weight head
        · exact ⟨head, foremost.cons_new heavier⟩
        · exact ⟨rule, foremost.cons_old (Nat.not_lt.mp heavier)⟩

end Foremost

/-! ### The longest text -/

theorem longest_eq_none_iff {rules : List PathRule} : longest rules = none ↔ rules = [] := by
  cases rules with
  | nil => simp [longest]
  | cons rule rest =>
      simp only [longest, reduceCtorEq, iff_false]
      split
      · simp
      · split <;> simp

theorem longest_foremost {rules : List PathRule} {rule : PathRule}
    (found : longest rules = some rule) : Foremost size rules rule := by
  induction rules generalizing rule with
  | nil => simp [longest] at found
  | cons head rest ih =>
      rw [longest] at found
      cases best : longest rest with
      | none =>
          obtain rfl := longest_eq_none_iff.mp best
          obtain rfl : head = rule := by simpa [longest] using found
          exact ⟨[], [], rfl, by simp, by simp⟩
      | some best' =>
          have foremost := ih best
          simp only [best] at found
          split at found <;> obtain rfl := Option.some.inj found
          · exact foremost.cons_new (by assumption)
          · exact foremost.cons_old (Nat.not_lt.mp (by assumption))

theorem longest_eq_some_iff {rules : List PathRule} {rule : PathRule} :
    longest rules = some rule ↔ Foremost size rules rule := by
  refine ⟨longest_foremost, fun foremost => ?_⟩
  cases found : longest rules with
  | none =>
      obtain rfl := longest_eq_none_iff.mp found
      exact absurd foremost.mem List.not_mem_nil
  | some other => rw [(longest_foremost found).unique foremost]

theorem longest_concat (rules : List PathRule) (rule : PathRule) :
    longest (rules ++ [rule]) =
      match longest rules with
      | none => some rule
      | some best => if size best ≤ size rule then some rule else some best := by
  cases found : longest rules with
  | none =>
      obtain rfl := longest_eq_none_iff.mp found
      rfl
  | some best =>
      have foremost := longest_foremost found
      simp only
      split <;> rw [longest_eq_some_iff]
      · exact ⟨rules, [], rfl, fun other member => by
          have := foremost.greatest member
          omega, by simp⟩
      · obtain ⟨earlier, later, rfl, before, behind⟩ := foremost
        refine ⟨earlier, later ++ [rule], by simp, before, ?_⟩
        intro other member
        rcases List.mem_append.mp member with inside | last
        · exact behind other inside
        · rw [List.mem_singleton.mp last]
          omega

/-- It makes no difference whether an earlier rule for the same text is kept. -/
theorem longest_replace (rules : List PathRule) (rule : PathRule) :
    longest (rules.filter (·.lead != rule.lead) ++ [rule]) = longest (rules ++ [rule]) := by
  rw [longest_concat, longest_concat]
  cases found : longest rules with
  | none =>
      obtain rfl := longest_eq_none_iff.mp found
      rfl
  | some best =>
      have foremost := longest_foremost found
      by_cases same : best.lead = rule.lead
      · have level : size best = size rule := congrArg String.utf8ByteSize same
        cases other : longest (rules.filter (·.lead != rule.lead)) with
        | none => simp [level]
        | some kept =>
            have member := (List.mem_filter.mp (longest_foremost other).mem).1
            have below := foremost.greatest member
            rw [level] at below
            simp [level, below]
      · rw [longest_eq_some_iff.mpr (foremost.filter (by simpa using same))]

/-! ### Giving rules -/

theorem ofLists_eq_foldl (allowed denied : List String) (otherwise : Decision) (denyCode : Int32) :
    ofLists allowed denied otherwise denyCode =
      (given allowed denied).foldl (fun policy rule => policy.push rule.lead rule.decision)
        ⟨[], otherwise, denyCode⟩ := by
  simp [ofLists, given, List.foldl_append, List.foldl_map]

theorem foldl_push_otherwise (rules : List PathRule) (policy : PathPolicy) :
    (rules.foldl (fun policy rule => policy.push rule.lead rule.decision) policy).otherwise =
      policy.otherwise := by
  induction rules generalizing policy with
  | nil => rfl
  | cons rule rest ih => exact ih _

/-- The longest text among the rules that a policy keeps is the longest among
all that it was given. -/
theorem longest_foldl_push (applies : String → Bool) (policy : PathPolicy)
    (empty : policy.rules = []) (rules : List PathRule) :
    longest ((rules.foldl (fun policy rule => policy.push rule.lead rule.decision)
        policy).rules.filter (applies ·.lead)) =
      longest (rules.filter (applies ·.lead)) := by
  induction rules using List.reverseRecOn with
  | nil => simp [empty]
  | append_singleton rules rule ih =>
      rw [List.foldl_append, List.foldl_cons, List.foldl_nil, push]
      generalize (rules.foldl _ policy).rules = kept at ih ⊢
      rw [List.filter_append, List.filter_append, List.filter_comm]
      by_cases applied : applies rule.lead = true
      · rw [List.filter_singleton, applied, cond_true, longest_replace, longest_concat,
          longest_concat, ih]
      · -- No rule for this text is among those that apply.
        have unmatched : ∀ other ∈ kept.filter (applies ·.lead),
            (other.lead != rule.lead) = true := by
          intro other member
          have applies' := (List.mem_filter.mp member).2
          simp only [bne_iff_ne, ne_eq]
          rintro same
          exact applied (same ▸ applies')
        rw [List.filter_singleton, (Bool.not_eq_true _).mp applied, cond_false,
          List.append_nil, List.append_nil, List.filter_eq_self.mpr unmatched, ih]

theorem decide_eq_longest (allowed denied : List String) (otherwise : Decision) (denyCode : Int32)
    {path : String} (absolute : Absolute path) :
    (ofLists allowed denied otherwise denyCode).decide (some path) =
      ((longest (applying allowed denied path)).map (·.decision)).getD otherwise := by
  have same : (given allowed denied).filter (covers ·.lead path) =
      applying allowed denied path :=
    List.filter_congr fun rule _ => by
      rw [Bool.eq_iff_iff, covers_iff_above absolute, decide_eq_true_eq]
  rw [decide, ofLists_eq_foldl, longest_foldl_push (covers · path) _ rfl, same,
    foldl_push_otherwise]
  cases longest (applying allowed denied path) <;> rfl

theorem overruled_iff {rules : List PathRule} {longest rule : PathRule}
    (foremost : Foremost size rules longest) :
    Overruled rules rule ↔ longest.decision ≠ rule.decision := by
  constructor
  · rintro ⟨earlier, other, later, split, against, before, behind⟩ agrees
    have member : other ∈ rules := split ▸ List.mem_append_right _ (List.mem_cons_self ..)
    have above := foremost.greatest member
    obtain ⟨ahead, after, same, -, beyond⟩ := foremost
    rcases splits_compare (same.symm.trans split) with rfl | ⟨inside, early⟩ | ⟨-, late⟩
    · exact against agrees
    · exact absurd (before longest early agrees) (Nat.not_le.mpr (beyond other inside))
    · exact absurd above (Nat.not_le.mpr (behind longest late agrees))
  · intro against
    obtain ⟨earlier, later, split, before, behind⟩ := foremost
    exact ⟨earlier, longest, later, split, against, fun ally member _ => before ally member,
      fun ally member _ => behind ally member⟩

/-! ### Texts without slashes to spare -/

/-- The shortest text for the same directory. -/
def tidied (lead : String) : String :=
  if bare lead = [] then "/" else String.ofList (bare lead)

def tidiedRule (rule : PathRule) : PathRule := { rule with lead := tidied rule.lead }

theorem bare_tidied (lead : String) : bare (tidied lead) = bare lead := by
  unfold tidied
  split
  · rename_i root
    rw [root]
    decide +kernel
  · exact (congrArg _ String.toList_ofList).trans (Text.bare_idempotent lead)

theorem components_tidied (lead : String) : components (tidied lead) = components lead := by
  rw [components, bare_tidied, components]

theorem applying_tidied (allowed denied : List String) (path : String) :
    applying (allowed.map tidied) (denied.map tidied) path =
      (applying allowed denied path).map tidiedRule := by
  have respelled : given (allowed.map tidied) (denied.map tidied) =
      (given allowed denied).map tidiedRule := by
    simp [given, tidiedRule, Function.comp_def]
  rw [applying, respelled, List.filter_map, applying]
  refine congrArg _ (List.filter_congr fun rule _ => ?_)
  rw [Function.comp_apply, decide_eq_decide, Above, Above, tidiedRule, components_tidied]

/-- Of two tidied texts the one for the directory below is the longer one. -/
theorem size_tidied {upper lower : String} (above : components upper <+: components lower) :
    tidied upper = tidied lower ∨
      (tidied upper).utf8ByteSize < (tidied lower).utf8ByteSize := by
  rcases Text.pieces_prefix_iff.mp above with same | ⟨rest, below⟩
  · exact .inl (by rw [tidied, tidied, same])
  · right
    have filled : bare lower ≠ [] := by simp [below]
    rw [tidied, tidied, if_neg filled, String.utf8ByteSize_ofList, below, String.utf8Len_append,
      String.utf8Len_cons]
    have slash : Char.utf8Size '/' = 1 := rfl
    split
    · rename_i root
      -- Behind the slash stands a name, as no bare text ends with a slash.
      have named : rest ≠ [] := by
        rintro rfl
        exact Text.bare_last_ne filled (by simp [below, root])
      obtain ⟨first, rest, rfl⟩ := List.exists_cons_of_ne_nil named
      have wide := Char.utf8Size_pos first
      rw [String.utf8Len_cons, show ("/" : String).utf8ByteSize = 1 from rfl]
      omega
    · rw [String.utf8ByteSize_ofList]
      omega

theorem depth_of_tidied {one other : PathRule} (same : tidied one.lead = tidied other.lead) :
    depth one = depth other := by
  rw [depth, depth, ← components_tidied, same, components_tidied]

/-- The directories of rules for one path lie one below the other. -/
theorem prefix_of_shallower {path : String} {upper lower : PathRule}
    (first : Above upper.lead path) (second : Above lower.lead path)
    (shallower : depth upper ≤ depth lower) : components upper.lead <+: components lower.lead :=
  List.prefix_of_prefix_length_le first second shallower

theorem foremost_tidied {rules : List PathRule} {path : String}
    (apply : ∀ rule ∈ rules, Above rule.lead path) {rule : PathRule}
    (foremost : Foremost depth rules rule) :
    Foremost size (rules.map tidiedRule) (tidiedRule rule) := by
  refine foremost.map ?_ ?_
  · intro upper inUpper lower inLower shallower
    have above := prefix_of_shallower (apply upper inUpper) (apply lower inLower) shallower
    rcases size_tidied above with same | longer
    · exact Nat.le_of_eq (congrArg String.utf8ByteSize same)
    · exact Nat.le_of_lt longer
  · intro upper inUpper lower inLower shallower
    have above := prefix_of_shallower (apply upper inUpper) (apply lower inLower)
      (Nat.le_of_lt shallower)
    rcases size_tidied above with same | longer
    · exact absurd (depth_of_tidied same) (Nat.ne_of_lt shallower)
    · exact longer

theorem size_tidied_le {lead : String} (absolute : Absolute lead) :
    (tidied lead).utf8ByteSize ≤ lead.utf8ByteSize := by
  obtain ⟨slashes, whole, -⟩ := Text.bare_append_slashes lead
  have spelled : lead = String.ofList (bare lead ++ slashes) := by
    rw [← whole, String.ofList_toList]
  unfold tidied
  split
  · obtain ⟨rest, rooted⟩ := List.head?_eq_some_iff.mp absolute
    have slashed : lead = String.ofList ('/' :: rest) := by rw [← rooted, String.ofList_toList]
    rw [slashed, String.utf8ByteSize_ofList ('/' :: rest), String.utf8Len_cons]
    exact Nat.le_add_left ..
  · conv_rhs => rw [spelled]
    rw [String.utf8ByteSize_ofList, String.utf8ByteSize_ofList, String.utf8Len_append]
    omega

/-- Only a rule with slashes to spare overrules that of the deepest directory. -/
theorem overruling_untidied {rules : List PathRule} {path : String}
    (apply : ∀ rule ∈ rules, Above rule.lead path) {deepest : PathRule}
    (absolute : Absolute deepest.lead) (foremost : Foremost depth rules deepest)
    (overruled : Overruled rules deepest) :
    ∃ other ∈ rules, other.decision ≠ deepest.decision ∧ tidied other.lead ≠ other.lead := by
  obtain ⟨earlier, other, later, split, against, before, behind⟩ := overruled
  have member : other ∈ rules := split ▸ List.mem_append_right _ (List.mem_cons_self ..)
  refine ⟨other, member, against, fun tidy => ?_⟩
  have short := size_tidied_le absolute
  have shallower := foremost.greatest member
  have above := prefix_of_shallower (apply other member) (apply deepest foremost.mem) shallower
  obtain ⟨ahead, after, same, -, beyond⟩ := foremost
  have longer : size other ≤ size deepest ∧
      (tidied other.lead ≠ tidied deepest.lead → size other < size deepest) := by
    rcases size_tidied above with equal | less
    · exact ⟨by rw [size, size, ← tidy, equal]; exact short, fun differ => absurd equal differ⟩
    · rw [tidy] at less
      exact ⟨by unfold size; omega, fun _ => by unfold size; omega⟩
  rcases splits_compare (same.symm.trans split) with equal | ⟨inside, early⟩ | ⟨-, late⟩
  · exact against (equal ▸ rfl)
  · -- Behind the deepest rule stand only rules for directories further up.
    have deeper := beyond other inside
    have shorter := longer.2 fun equal => Nat.ne_of_lt deeper (depth_of_tidied equal)
    exact absurd (before deepest early rfl) (Nat.not_le.mpr shorter)
  · exact absurd (behind deepest late rfl) (Nat.not_lt.mpr longer.1)

/-- For all rules and every absolute path: the rules for the path's directories
apply, and without one the default decides. The longest text decides, of equally
long ones the last given. It decides as the deepest directory does, and for one
directory the rule given last, exactly if no rule overrules that one, and none
does if those against it have no slashes to spare. Once all texts are tidied,
the deepest directory always decides. -/
theorem deepest_decides_iff (allowed denied : List String) (otherwise : Decision)
    (denyCode : Int32) {path : String} (absolute : Absolute path) :
    (∀ lead, covers lead path = true ↔ Above lead path) ∧
      (applying allowed denied path = [] →
        (ofLists allowed denied otherwise denyCode).decide (some path) = otherwise) ∧
      (applying allowed denied path ≠ [] → ∃ longest deepest,
        Foremost size (applying allowed denied path) longest ∧
        Foremost depth (applying allowed denied path) deepest ∧
        (ofLists allowed denied otherwise denyCode).decide (some path) = longest.decision ∧
        ((ofLists allowed denied otherwise denyCode).decide (some path) = deepest.decision ↔
          ¬ Overruled (applying allowed denied path) deepest) ∧
        (Absolute deepest.lead →
          (∀ rule ∈ applying allowed denied path, rule.decision ≠ deepest.decision →
            tidied rule.lead = rule.lead) →
          ¬ Overruled (applying allowed denied path) deepest) ∧
        (ofLists (allowed.map tidied) (denied.map tidied) otherwise denyCode).decide (some path) =
          deepest.decision) := by
  refine ⟨fun lead => covers_iff_above absolute, ?_, ?_⟩
  · intro none
    rw [decide_eq_longest _ _ _ _ absolute, none]
    rfl
  · intro some
    obtain ⟨longest, first⟩ := exists_foremost size some
    obtain ⟨deepest, second⟩ := exists_foremost depth some
    have apply : ∀ rule ∈ applying allowed denied path, Above rule.lead path := fun rule member =>
      of_decide_eq_true (List.mem_filter.mp member).2
    have decided : (ofLists allowed denied otherwise denyCode).decide (.some path) =
        longest.decision := by
      simp [decide_eq_longest _ _ _ _ absolute, longest_eq_some_iff.mpr first]
    refine ⟨longest, deepest, first, second, decided, ?_, ?_, ?_⟩
    · rw [overruled_iff first, decided, ne_eq, not_not]
    · intro rooted tidy overruled
      obtain ⟨other, member, against, spare⟩ := overruling_untidied apply rooted second overruled
      exact spare (tidy other member against)
    · rw [decide_eq_longest _ _ _ _ absolute, applying_tidied,
        longest_eq_some_iff.mpr (foremost_tidied apply second)]
      rfl

/-- What lies below `/home` is first allowed and then denied. The slash at the end
of the first text makes it the longer one, so it decides, against the rule given
last for the same directory, which decides once that slash is gone. -/
theorem slash_overrules :
    Absolute "/home/x" ∧
      Foremost depth (applying ["/home/"] ["/home"] "/home/x") ⟨"/home", .deny⟩ ∧
      Overruled (applying ["/home/"] ["/home"] "/home/x") ⟨"/home", .deny⟩ ∧
      (ofLists ["/home/"] ["/home"] .allow 13).decide (some "/home/x") = .allow ∧
      (ofLists ["/home"] ["/home"] .allow 13).decide (some "/home/x") = .deny := by
  have absolute : Absolute "/home/x" := by decide +kernel
  have rules : applying ["/home/"] ["/home"] "/home/x" =
      [⟨"/home/", .allow⟩, ⟨"/home", .deny⟩] := by
    decide +kernel
  have last : Foremost depth (applying ["/home/"] ["/home"] "/home/x") ⟨"/home", .deny⟩ :=
    ⟨[⟨"/home/", .allow⟩], [], rules, by decide +kernel, by simp⟩
  have allows : (ofLists ["/home/"] ["/home"] .allow 13).decide (some "/home/x") = .allow := by
    decide +kernel
  obtain ⟨-, deepest, -, foremost, -, agrees, -, tidy⟩ :=
    (deepest_decides_iff ["/home/"] ["/home"] .allow 13 absolute).2.2 (by simp [rules])
  obtain rfl := foremost.unique last
  have against : ¬ (ofLists ["/home/"] ["/home"] .allow 13).decide (some "/home/x") = .deny := by
    simp [allows]
  have short : [tidied "/home/"] = ["/home"] ∧ [tidied "/home"] = ["/home"] := by decide +kernel
  rw [List.map_singleton, List.map_singleton, short.1, short.2] at tidy
  exact ⟨absolute, last, not_not.mp (mt agrees.mpr against), allows, tidy⟩

end Interception.Vetting.PathPolicy
