import Interception.Config.Basic
import Interception.Proofs.Text.Trimming

/-!
Routing rules as texts. A rule that was read is fit to be read again from its
own text. A list of rules is cut at commas and line ends, and nothing protects
these inside a rule. So the rules of a table survive being written out and read
back exactly if no name or path among them holds one, as is the case for all
that came from a list, but not for those that were configured one by one.
-/

namespace Interception.Vetting

open Text (Absolute Tight Plain)

/-- The name or the path of a target. -/
def RuleTarget.word : RuleTarget → String
  | .filesystem name => name
  | .path lead => lead

/-- What stands before the name or the path in a rule's text. -/
def RuleTarget.kind : RuleTarget → String
  | .filesystem _ => "fs:"
  | .path _ => "path:"

/-- A list of rules is cut here. -/
def atCut (c : Char) : Bool := c == ',' || c == '\n'

namespace RoutingRule

/-- What holds of a rule that was read. -/
structure Fit (rule : RoutingRule) : Prop where
  group : rule.group < groupCount
  filled : rule.target.word ≠ ""
  tight : Tight rule.target.word.toList
  rooted : ∀ lead, rule.target = .path lead → Absolute lead

/-- No comma and no line end in the name or the path. -/
def Unbroken (rule : RoutingRule) : Prop := ∀ c ∈ rule.target.word.toList, atCut c = false

/-! ### Reading a rule -/

theorem trim_toList (text : String) : (Text.trim text).toList = Text.trimChars text.toList :=
  String.toList_ofList

theorem trim_eq {text : String} (tight : Tight text.toList) : Text.trim text = text := by
  rw [Text.trim, tight.trimChars_eq, String.ofList_toList]

theorem splitGroup_sound {rule target group : String}
    (split : splitGroup rule = some (target, group)) :
    rule.toList = target.toList ++ '=' :: group.toList := by
  have whole := List.takeWhile_append_dropWhile (p := (· != '=')) (l := rule.toList.reverse)
  have stop := List.head?_dropWhile_not (· != '=') rule.toList.reverse
  simp only [splitGroup] at split
  cases behind : rule.toList.reverse.dropWhile (· != '=') with
  | nil => simp [behind] at split
  | cons c before =>
      rw [behind] at whole stop split
      obtain rfl : c = '=' := by simpa using stop
      obtain ⟨rfl, rfl⟩ := Prod.mk.inj (Option.some.inj split)
      simpa using (congrArg List.reverse whole).symm

theorem splitGroup_append (target : String) {group : String} (whole : '=' ∉ group.toList) :
    splitGroup (target ++ "=" ++ group) = some (target, group) := by
  have chars : (target ++ "=" ++ group).toList.reverse =
      group.toList.reverse ++ '=' :: target.toList.reverse := by simp
  have digits : ∀ c ∈ group.toList.reverse, (c != '=') = true := by
    intro c inside
    rw [bne_iff_ne]
    rintro rfl
    exact whole (List.mem_reverse.mp inside)
  simp only [splitGroup, chars, List.dropWhile_append_of_pos digits,
    List.takeWhile_append_of_pos digits]
  simp

theorem after_eq_some_iff {lead text rest : String} :
    Text.after lead text = some rest ↔ text.toList = lead.toList ++ rest.toList := by
  rw [Text.after, Option.map_eq_some_iff]
  constructor
  · rintro ⟨chars, found, rfl⟩
    rw [Text.afterLead_eq_some_iff.mp found, String.toList_ofList]
  · intro whole
    exact ⟨rest.toList, Text.afterLead_eq_some_iff.mpr whole, String.ofList_toList⟩

theorem trim_mem {lead text rest : String} (found : Text.after lead text = some rest) :
    ∀ c ∈ (Text.trim rest).toList, c ∈ text.toList := by
  intro c inside
  rw [trim_toList] at inside
  rw [after_eq_some_iff.mp found]
  exact List.mem_append_right _ ((Text.trimChars_sublist _).subset inside)

theorem parseTarget_fit {rule text : String} {target : RuleTarget}
    (read : parseTarget rule text = .ok target) :
    target.word ≠ "" ∧ Tight target.word.toList ∧ (∀ lead, target = .path lead → Absolute lead) ∧
      ∀ c ∈ target.word.toList, c ∈ text.toList := by
  have tight (name : String) : Tight (Text.trim name).toList := by
    rw [trim_toList]
    exact Text.trimChars_tight _
  unfold parseTarget at read
  split at read
  · rename_i name found
    split at read
    · cases read
    · rename_i filled
      obtain rfl := Except.ok.inj read
      exact ⟨filled, tight name, (by rintro _ ⟨⟩), trim_mem found⟩
  · split at read
    · rename_i path found
      split at read
      · rename_i rooted
        obtain rfl := Except.ok.inj read
        have filled : Text.trim path ≠ "" := by
          intro empty
          simp [empty] at rooted
        exact ⟨filled, tight path, (by rintro _ ⟨⟩; exact rooted), trim_mem found⟩
      · cases read
    · cases read

theorem parse_fit {text : String} {rule : RoutingRule} (read : parse text = .ok rule) :
    rule.Fit ∧ ∀ c ∈ rule.target.word.toList, c ∈ text.toList := by
  simp only [parse] at read
  split at read
  · cases read
  · rename_i target groupText split
    split at read
    · cases read
    · rename_i group number
      split at read
      · rename_i below
        cases named : parseTarget (Text.trim text) target with
        | error cause => simp [named, Except.map] at read
        | ok target' =>
            rw [named] at read
            obtain rfl := Except.ok.inj read
            obtain ⟨filled, tight, rooted, chars⟩ := parseTarget_fit named
            refine ⟨⟨below, filled, tight, rooted⟩, fun c inside => ?_⟩
            have member : c ∈ (Text.trim text).toList := by
              rw [splitGroup_sound split]
              exact List.mem_append_left _ (chars c inside)
            rw [trim_toList] at member
            exact (Text.trimChars_sublist _).subset member
      · cases read

/-! ### Writing a rule -/

theorem group_digits {group : Nat} (below : group < groupCount) :
    (toString group).toList ≠ [] ∧ (∀ c ∈ (toString group).toList,
        c ≠ '=' ∧ Text.isBlank c = false ∧ atCut c = false) ∧
      Text.readNat Text.limit8 (toString group) = .ok group := by
  have all : ∀ number < groupCount, (toString number).toList ≠ [] ∧
      ((toString number).toList.all fun c => c != '=' && !Text.isBlank c && !atCut c) = true ∧
      Text.readNat Text.limit8 (toString number) = .ok number := by decide +kernel
  obtain ⟨filled, digits, read⟩ := all group below
  refine ⟨filled, fun c inside => ?_, read⟩
  simpa [and_assoc] using List.all_eq_true.mp digits c inside

theorem group_tight {group : Nat} (below : group < groupCount) : Tight (toString group).toList :=
  Text.tight_of_blankless fun c inside => ((group_digits below).2.1 c inside).2.1

theorem kind_chars (target : RuleTarget) :
    target.kind.toList ≠ [] ∧
      ∀ c ∈ target.kind.toList, Text.isBlank c = false ∧ atCut c = false := by
  have all : ∀ kind ∈ ["fs:", "path:"], kind.toList ≠ [] ∧
      (kind.toList.all fun c => !Text.isBlank c && !atCut c) = true := by decide +kernel
  have listed : target.kind ∈ ["fs:", "path:"] := by cases target <;> simp [RuleTarget.kind]
  obtain ⟨filled, chars⟩ := all target.kind listed
  refine ⟨filled, fun c inside => ?_⟩
  simpa using List.all_eq_true.mp chars c inside

theorem render_eq (rule : RoutingRule) :
    rule.render = rule.target.kind ++ rule.target.word ++ "=" ++ toString rule.group := by
  unfold render RuleTarget.kind RuleTarget.word
  cases rule.target <;> rfl

theorem parseTarget_word {rule : RoutingRule} (fit : rule.Fit) (text : String) :
    parseTarget text (rule.target.kind ++ rule.target.word) = .ok rule.target := by
  obtain ⟨-, filled, tight, rooted⟩ := fit
  cases target : rule.target with
  | filesystem name =>
      rw [target] at filled tight
      have found : Text.after "fs:" ("fs:" ++ name) = some name :=
        after_eq_some_iff.mpr String.toList_append
      have same : Text.trim name = name := trim_eq tight
      simp only [parseTarget, RuleTarget.kind, RuleTarget.word, found, same]
      exact if_neg filled
  | path lead =>
      rw [target] at tight
      have absent : Text.after "fs:" ("path:" ++ lead) = none := by
        simp [Text.after, Text.afterLead]
      have found : Text.after "path:" ("path:" ++ lead) = some lead :=
        after_eq_some_iff.mpr String.toList_append
      have same : Text.trim lead = lead := trim_eq tight
      simp only [parseTarget, RuleTarget.kind, RuleTarget.word, absent, found, same]
      exact if_pos (rooted lead target)

theorem render_tight {rule : RoutingRule} (fit : rule.Fit) : Tight rule.render.toList := by
  obtain ⟨opened, kind⟩ := kind_chars rule.target
  have chars : rule.render.toList = rule.target.kind.toList ++
      (rule.target.word.toList ++ ['=']) ++ (toString rule.group).toList := by
    simp [render_eq]
  rw [chars]
  exact (Text.tight_of_blankless fun c inside => (kind c inside).1).append
    (group_tight fit.group) opened (group_digits fit.group).1

theorem parse_render {rule : RoutingRule} (fit : rule.Fit) : parse rule.render = .ok rule := by
  obtain ⟨-, digits, read⟩ := group_digits fit.group
  have split : splitGroup rule.render =
      some (rule.target.kind ++ rule.target.word, toString rule.group) := by
    rw [render_eq]
    exact splitGroup_append _ fun sign => (digits '=' sign).1 rfl
  simp only [parse, trim_eq (render_tight fit), split, trim_eq (group_tight fit.group), read,
    if_pos fit.group, parseTarget_word fit]
  rfl

theorem render_filled (rule : RoutingRule) : rule.render.toList ≠ [] := by
  simp [render_eq]

theorem render_plain {rule : RoutingRule} (fit : rule.Fit) (unbroken : rule.Unbroken) :
    Plain atCut rule.render := by
  refine ⟨render_filled rule, render_tight fit, ?_⟩
  simp only [render_eq, String.toList_append, List.forall_mem_append]
  exact ⟨⟨⟨fun c inside => ((kind_chars rule.target).2 c inside).2, unbroken⟩, by simp [atCut]⟩,
    fun c inside => ((group_digits fit.group).2.1 c inside).2.2⟩

end RoutingRule

theorem mapped_eq_ok {Error Value Result : Type} {answer : Except Error Value}
    {change : Value → Result} {result : Result} (mapped : answer.map change = .ok result) :
    ∃ value, answer = .ok value ∧ change value = result := by
  cases answer with
  | error cause => cases mapped
  | ok value => exact ⟨value, rfl, Except.ok.inj mapped⟩

theorem mapM_parse_mem {texts : List String} {rules : List RoutingRule}
    (read : texts.mapM RoutingRule.parse = .ok rules) {rule : RoutingRule} (member : rule ∈ rules) :
    ∃ text ∈ texts, RoutingRule.parse text = .ok rule := by
  induction texts generalizing rules with
  | nil =>
      obtain rfl := Except.ok.inj read
      exact absurd member List.not_mem_nil
  | cons text rest ih =>
      rw [List.mapM_cons] at read
      cases first : RoutingRule.parse text with
      | error cause => simp [first, bind, Except.bind] at read
      | ok head =>
          cases others : rest.mapM RoutingRule.parse with
          | error cause => simp [first, others, bind, Except.bind] at read
          | ok more =>
              simp only [first, others, bind, Except.bind, pure, Except.pure] at read
              obtain rfl := Except.ok.inj read
              rcases List.mem_cons.mp member with rfl | later
              · exact ⟨text, List.mem_cons_self .., first⟩
              · obtain ⟨other, inside, parsed⟩ := ih others later
                exact ⟨other, List.mem_cons_of_mem _ inside, parsed⟩

theorem mapM_parse_render {rules : List RoutingRule} (fit : ∀ rule ∈ rules, rule.Fit) :
    (rules.map RoutingRule.render).mapM RoutingRule.parse = .ok rules := by
  induction rules with
  | nil => rfl
  | cons rule rest ih =>
      obtain ⟨here, others⟩ := List.forall_mem_cons.mp fit
      rw [List.map_cons, List.mapM_cons, RoutingRule.parse_render here, ih others]
      rfl

namespace RoutingTable

variable {table : RoutingTable}

/-! ### Lists of rules -/

theorem parseRules_fit {list : String} {rules : List RoutingRule}
    (read : parseRules list = .ok rules) : ∀ rule ∈ rules, rule.Fit ∧ rule.Unbroken := by
  intro rule member
  rw [parseRules] at read
  split at read
  · obtain rfl := Except.ok.inj read
    exact absurd member List.not_mem_nil
  · obtain ⟨item, listed, parsed⟩ := mapM_parse_mem read member
    obtain ⟨fit, chars⟩ := RoutingRule.parse_fit parsed
    exact ⟨fit, fun c inside => Text.items_clean listed c (chars c inside)⟩

theorem render_opens (rule : RoutingRule) (rest : List RoutingRule) :
    ∃ more, ("\n".intercalate ((rule :: rest).map RoutingRule.render)).toList =
      rule.target.kind.toList ++ more := by
  cases rest <;> simp [RoutingRule.render_eq, String.intercalate_cons_cons]

theorem render_tight {rules : List RoutingRule} (fit : ∀ rule ∈ rules, rule.Fit) :
    Tight ("\n".intercalate (rules.map RoutingRule.render)).toList := by
  induction rules with
  | nil => exact ⟨by simp, by simp⟩
  | cons rule rest ih =>
      obtain ⟨here, others⟩ := List.forall_mem_cons.mp fit
      cases rest with
      | nil => simpa using RoutingRule.render_tight here
      | cons next rest =>
          have closed := (RoutingRule.kind_chars next.target).1
          obtain ⟨more, opens⟩ := render_opens next rest
          have filled : ("\n".intercalate ((next :: rest).map RoutingRule.render)).toList ≠ [] := by
            rw [opens]
            exact List.append_ne_nil_of_left_ne_nil closed _
          rw [List.map_cons, String.intercalate_cons_of_ne_nil (by simp), String.toList_append,
            String.toList_append]
          exact (RoutingRule.render_tight here).append (ih others)
            (RoutingRule.render_filled rule) filled

/-- A table with rules is not taken for one of the texts that stand for none. -/
theorem render_empty (empty : table.render = "" ∨ table.render = "none") : table.rules = [] := by
  cases split : table.rules with
  | nil => rfl
  | cons rule rest =>
      obtain ⟨more, opens⟩ := render_opens rule rest
      rw [← split] at opens
      change table.render.toList = _ at opens
      cases target : rule.target <;> rcases empty with empty | empty <;>
        simp [empty, target, RuleTarget.kind] at opens

theorem parseRules_render (fit : ∀ rule ∈ table.rules, rule.Fit)
    (unbroken : ∀ rule ∈ table.rules, rule.Unbroken) :
    parseRules table.render = .ok table.rules := by
  have same : Text.trim table.render = table.render := RoutingRule.trim_eq (render_tight fit)
  rw [parseRules, same]
  split
  · rename_i empty
    rw [render_empty empty]
  · have plain : ∀ text ∈ table.rules.map RoutingRule.render, Plain atCut text := by
      intro text member
      obtain ⟨rule, inside, rfl⟩ := List.mem_map.mp member
      exact RoutingRule.render_plain (fit rule inside) (unbroken rule inside)
    have read := Text.items_intercalate rfl plain
    exact (congrArg _ read).trans (mapM_parse_render fit)

theorem setRules_render_iff (fit : ∀ rule ∈ table.rules, rule.Fit) :
    table.setRules table.render = .ok table ↔ ∀ rule ∈ table.rules, rule.Unbroken := by
  constructor
  · intro kept rule member
    obtain ⟨rules, read, same⟩ := mapped_eq_ok kept
    rw [← same] at member
    exact (parseRules_fit read rule member).2
  · intro unbroken
    rw [setRules, parseRules_render fit unbroken]
    rfl

end RoutingTable

namespace Controller

/-! ### What a controller holds -/

/-- The controller after a key was written, whether that was accepted or not. -/
def written (control : Controller) (write : String × String) : Controller :=
  match control.set write.1 write.2 with
  | .ok later => later
  | .error _ => control

def AllFit (control : Controller) : Prop := ∀ rule ∈ control.rules.routing.rules, rule.Fit

theorem updateRules_routing {rules later : Rules} {key value : String}
    (updated : updateRules rules value key = some (.ok later)) :
    later.routing.rules = rules.routing.rules ∨
      RoutingTable.parseRules value = .ok later.routing.rules := by
  unfold updateRules at updated
  split at updated
  case h_6 =>
    obtain ⟨routing, accepted, rfl⟩ := mapped_eq_ok (Option.some.inj updated)
    unfold parseRouting at accepted
    split at accepted
    · rename_i table replaced
      obtain rfl := Except.ok.inj accepted
      obtain ⟨listed, read, rfl⟩ := mapped_eq_ok replaced
      exact .inr read
    · cases accepted
  case h_10 => cases updated
  all_goals
    obtain ⟨_, -, rfl⟩ := mapped_eq_ok (Option.some.inj updated)
    exact .inl rfl

theorem set_allFit {control later : Controller} {key value : String} (fit : control.AllFit)
    (set : control.set key value = .ok later) : later.AllFit := by
  unfold Controller.set at set
  split at set
  · cases set
  · split at set
    · split at set
      · obtain rfl := Except.ok.inj set
        exact fit
      · cases set
    · split at set
      · rename_i rules updated
        obtain rfl := Except.ok.inj set
        rcases updateRules_routing updated with same | read
        · exact fun rule member => fit rule (same ▸ member)
        · exact fun rule member => (RoutingTable.parseRules_fit read rule member).1
      · cases set
      · cases set

theorem written_allFit {control : Controller} (fit : control.AllFit) (write : String × String) :
    (control.written write).AllFit := by
  rw [written]
  split
  · exact set_allFit fit (by assumption)
  · exact fit

theorem foldl_written_allFit {control : Controller} (fit : control.AllFit)
    (writes : List (String × String)) : (writes.foldl written control).AllFit := by
  induction writes generalizing control with
  | nil => exact fit
  | cons write rest ih => exact ih (written_allFit fit write)

theorem configured_allFit {config : VettingConfig} {control : Controller}
    (made : Config.controller config = .ok control) : control.AllFit := by
  simp only [Config.controller, bind, Except.bind] at made
  split at made
  · cases made
  · split at made
    · cases made
    · rename_i rules read
      split at made
      · cases made
      · obtain rfl := Except.ok.inj made
        intro rule member
        unfold Config.rulesOf at read
        split at read
        · obtain rfl := Except.ok.inj read
          obtain ⟨text, -, parsed⟩ := mapM_parse_mem (by assumption) member
          exact (RoutingRule.parse_fit parsed).1
        · cases read

/-- For every controller made from a configuration and all keys written since,
accepted or not: its routing rules survive being written out and read back
exactly if none has a comma or a line end in its name or path. Rules taken from
a list always do. A list that is refused changes nothing. -/
theorem rules_survive_iff {config : VettingConfig} {control : Controller}
    (made : Config.controller config = .ok control) (writes : List (String × String)) :
    (((writes.foldl written control).rules.routing.setRules
          (writes.foldl written control).rules.routing.render =
        .ok (writes.foldl written control).rules.routing) ↔
      ∀ rule ∈ (writes.foldl written control).rules.routing.rules, rule.Unbroken) ∧
    (∀ list later, (writes.foldl written control).rules.routing.setRules list = .ok later →
      later.setRules later.render = .ok later) ∧
    ∀ list cause, (writes.foldl written control).rules.routing.setRules list = .error cause →
      (writes.foldl written control).written ("routing", list) = writes.foldl written control := by
  have fit := foldl_written_allFit (configured_allFit made) writes
  generalize writes.foldl written control = held at fit ⊢
  refine ⟨RoutingTable.setRules_render_iff fit, ?_, ?_⟩
  · intro list later replaced
    obtain ⟨rules, read, rfl⟩ := mapped_eq_ok replaced
    have listed := RoutingTable.parseRules_fit read
    exact (RoutingTable.setRules_render_iff fun rule member => (listed rule member).1).mpr
      fun rule member => (listed rule member).2
  · intro list cause refused
    simp [written, Controller.set, updateRules, parseRouting, refused, Except.map]

/-- One rule for a directory with a comma in its name. -/
def commaConfig : VettingConfig := { Config.standardVetting with routing := ["path:/srv/a,b=1"] }

/-- What the table of that rule is written out as is read as two rules, of which
the first has no group. -/
theorem comma_lost :
    ∃ control, Config.controller commaConfig = .ok control ∧
      control.rules.routing.rules = [⟨.path "/srv/a,b", 1⟩] ∧
      control.rules.routing.setRules control.rules.routing.render ≠ .ok control.rules.routing ∧
      control.rules.routing.setRules control.rules.routing.render =
        .error (.noGroup "path:/srv/a") := by
  have made : (Config.controller commaConfig).map (·.rules.routing) =
      .ok ⟨[⟨.path "/srv/a,b", 1⟩], 0, false⟩ := rfl
  obtain ⟨control, made, routing⟩ := mapped_eq_ok made
  have survives := (rules_survive_iff made []).1
  rw [List.foldl_nil, routing] at survives
  refine ⟨control, made, congrArg _ routing, ?_, ?_⟩
  · rw [routing]
    intro kept
    have unbroken := survives.mp kept _ (List.mem_singleton_self _) ',' (by decide +kernel)
    exact absurd unbroken (by decide)
  · rw [routing]
    rfl

end Controller

end Interception.Vetting
