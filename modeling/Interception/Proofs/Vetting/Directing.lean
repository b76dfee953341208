import Interception.Proofs.Text.Components
import Interception.Vetting.Routing

/-!
Where events are sent. A rule covers a filesystem type, or a directory with all
that is below it, component by component. The first rule that covers an event
decides.
-/

namespace Interception.Vetting

open Text (Above Absolute)

theorem pathUnder_iff {lead path : String} (absolute : Absolute path) :
    pathUnder lead path = true ↔ Above lead path := by
  by_cases root : lead = "/"
  · subst root
    obtain ⟨rest, whole⟩ := List.head?_eq_some_iff.mp absolute
    have above : Above "/" path := Text.above_iff.mpr (.inr ⟨rest, whole⟩)
    simpa [pathUnder, whole] using above
  · rw [pathUnder, if_neg root, Text.above_iff_afterLead, Text.bare]
    split <;> simp_all

namespace RuleTarget

/-- What a target names: the type of an event's filesystem, or its path or a
directory above it. An event without a path is below no directory. -/
def Names (target : RuleTarget) (event : Event) : Prop :=
  match target with
  | .filesystem name => event.fsType = name
  | .path lead => ∃ path ∈ event.subject, Above lead path

instance (target : RuleTarget) (event : Event) : Decidable (target.Names event) :=
  match target with
  | .filesystem name => inferInstanceAs (Decidable (event.fsType = name))
  | .path lead => inferInstanceAs (Decidable (∃ path ∈ event.subject, Above lead path))

end RuleTarget

theorem covers_iff {rule : RoutingRule} {event : Event}
    (absolute : ∀ path, event.subject = some path → Absolute path) :
    rule.covers event = true ↔ rule.target.Names event := by
  unfold RoutingRule.covers RuleTarget.Names
  cases rule.target with
  | filesystem name => simp
  | path lead =>
      cases subject : event.subject with
      | none => simp
      | some path => simp [pathUnder_iff (absolute path subject)]

/-- The rule names the event, and none before it does. -/
def FirstNaming (event : Event) (rules : List RoutingRule) (rule : RoutingRule) : Prop :=
  ∃ earlier later, rules = earlier ++ rule :: later ∧ rule.target.Names event ∧
    ∀ other ∈ earlier, ¬ other.target.Names event

/-- For every table, and every event whose path, if it has one, is absolute: the
group of the first rule that names the event, by its type or by a directory
above its path, and without such a rule what the table says of events that no
rule names. A rule by path covers no event without one. -/
theorem route_follows_first (table : RoutingTable) (event : Event)
    (absolute : ∀ path, event.subject = some path → Absolute path) :
    (∀ rule, FirstNaming event table.rules rule → table.route event = .group rule.group) ∧
      ((∀ rule ∈ table.rules, ¬ rule.target.Names event) →
        table.route event =
          if table.unroutedAllow then .unrouted else .group table.defaultGroup) ∧
      (event.subject = none →
        ∀ (rule : RoutingRule) lead, rule.target = .path lead → rule.covers event = false) := by
  refine ⟨?_, ?_, ?_⟩
  · rintro rule ⟨earlier, later, split, names, before⟩
    have found : table.rules.find? (·.covers event) = some rule := by
      refine List.find?_eq_some_iff_append.mpr
        ⟨(covers_iff absolute).mpr names, earlier, later, split, ?_⟩
      intro other ahead
      simpa using mt (covers_iff absolute).mp (before other ahead)
    rw [RoutingTable.route, found]
  · intro unnamed
    have missed : table.rules.find? (·.covers event) = none :=
      List.find?_eq_none.mpr fun rule member => mt (covers_iff absolute).mp (unnamed rule member)
    rw [RoutingTable.route, missed]
  · intro pathless rule lead target
    simp [RoutingRule.covers, target, pathless]

def homeTable : RoutingTable :=
  ⟨[⟨.path "/home/alice", 1⟩, ⟨.filesystem "ext4", 2⟩, ⟨.path "/home//", 3⟩], 0, true⟩

def notesOpened : Event :=
  .file ⟨.openFile, some "/home/bob/notes", 0, false, 0, 0, "xfs"⟩

/-- The slashes behind `/home` do not keep its rule from the files below it. -/
theorem homeTable_routes_notes :
    (∀ path, notesOpened.subject = some path → Absolute path) ∧
      homeTable.route notesOpened = .group 3 := by
  have absolute : ∀ path, notesOpened.subject = some path → Absolute path := by decide +kernel
  have first : FirstNaming notesOpened homeTable.rules ⟨.path "/home//", 3⟩ :=
    ⟨homeTable.rules.take 2, [], rfl, by decide +kernel, by decide +kernel⟩
  exact ⟨absolute, (route_follows_first homeTable notesOpened absolute).1 _ first⟩

end Interception.Vetting
