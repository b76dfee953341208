import Interception.Proofs.Settings.Protecting
import Interception.Proofs.Text.Trimming

/-!
What a written set tells of the set. Entries are written one below the other,
each as its name, behind a mark if it is protected. Nothing keeps a line end or
a mark out of a name that is added with a sign or by a seed, so a name may take
several lines, and a free name that begins with the mark looks like a protected
one. Read line by line the text gives back the sets that have no such name, and
no others.
-/

namespace Interception.NameSet

/-- The lines of a text. An empty text has none. -/
def linesOf (text : String) : List String :=
  if text = "" then [] else (Text.pieces (· == '\n') text.toList).map String.ofList

/-- A line as an entry. The mark in front of it is that of a protected name. -/
def readEntry (line : String) : String × Bool :=
  match Text.after "!" line with
  | some name => (name, true)
  | none => (line, false)

def read (text : String) : NameSet := ⟨(linesOf text).map readEntry⟩

/-- An entry that is told from its line. -/
structure Clear (name : String) (guard : Bool) : Prop where
  whole : '\n' ∉ name.toList
  unmarked : guard = false → name.toList.head? ≠ some '!'

def Legible (set : NameSet) : Prop := ∀ entry ∈ set.entries, Clear entry.1 entry.2

/-- Entries that look alike: they are the same, or one is protected and the other
has the mark in its name. -/
inductive Resembles : String × Bool → String × Bool → Prop
  | same {entry : String × Bool} : Resembles entry entry
  | guarded {name : String} : Resembles (name, true) ("!" ++ name, false)
  | marked {name : String} : Resembles ("!" ++ name, false) (name, true)

/-- What a seed adds. -/
def seedEntry (seed : String) : String × Bool :=
  match Text.before "!" (Text.trim seed) with
  | some name => (name, true)
  | none => (Text.trim seed, false)

/-! ### Lines -/

theorem renderEntry_eq_iff {one other : String × Bool} :
    renderEntry one = renderEntry other ↔ Resembles one other := by
  obtain ⟨name, guard⟩ := one
  obtain ⟨word, kept⟩ := other
  constructor
  · intro alike
    cases guard <;> cases kept <;> simp only [renderEntry, Bool.false_eq_true, if_true, if_false,
      String.empty_append, String.append_right_inj] at alike <;> subst alike
    · exact .same
    · exact .marked
    · exact .guarded
    · exact .same
  · rintro ⟨⟩ <;> simp [renderEntry]

theorem renderEntry_filled {entry : String × Bool} (filled : entry.1 ≠ "") :
    renderEntry entry ≠ "" := by
  unfold renderEntry
  split <;> simp [filled]

theorem mem_renderEntry {entry : String × Bool} :
    '\n' ∈ (renderEntry entry).toList ↔ '\n' ∈ entry.1.toList := by
  unfold renderEntry
  split <;> simp

theorem mem_linesOf {text line : String} (member : line ∈ linesOf text) : '\n' ∉ line.toList := by
  unfold linesOf at member
  split at member
  · cases member
  · obtain ⟨chars, piece, rfl⟩ := List.mem_map.mp member
    rw [String.toList_ofList]
    intro inside
    simpa using Text.mem_pieces piece '\n' inside

theorem linesOf_intercalate {lines : List String} (filled : "" ∉ lines)
    (whole : ∀ line ∈ lines, '\n' ∉ line.toList) : linesOf ("\n".intercalate lines) = lines := by
  rcases lines with _ | ⟨line, rest⟩
  · rfl
  · have first : line ≠ "" := fun empty => filled (empty ▸ List.mem_cons_self ..)
    have some : "\n".intercalate (line :: rest) ≠ "" := by
      cases rest <;> simp [String.intercalate_singleton, String.intercalate_cons_cons, first]
    have split : (("\n".intercalate (line :: rest)).toList).splitOn '\n' =
        (line :: rest).map String.toList := by
      rw [String.toList_intercalate]
      exact List.splitOn_intercalate '\n' (by simpa using whole) (by simp)
    rw [linesOf, if_neg some, Text.pieces_eq_splitOn, split, List.map_map]
    exact List.map_id'' (fun _ => String.ofList_toList) _

theorem render_lines_iff {set : NameSet} (sound : Sound set) :
    linesOf set.render = set.entries.map renderEntry ↔ ∀ name ∈ set.names, '\n' ∉ name.toList := by
  rw [names, List.forall_mem_map]
  constructor
  · intro lines entry member inside
    have line : renderEntry entry ∈ linesOf set.render := lines ▸ List.mem_map_of_mem member
    exact mem_linesOf line (mem_renderEntry.mpr inside)
  · intro whole
    refine linesOf_intercalate ?_ ?_
    · rw [List.mem_map]
      rintro ⟨entry, member, empty⟩
      refine renderEntry_filled ?_ empty
      rintro nameless
      exact sound.filled (List.mem_map.mpr ⟨entry, member, nameless⟩)
    · rw [List.forall_mem_map]
      exact fun entry member => mt mem_renderEntry.mp (whole entry member)

/-! ### Reading a set back -/

theorem readEntry_clear {line : String} (whole : '\n' ∉ line.toList) :
    Clear (readEntry line).1 (readEntry line).2 := by
  unfold readEntry
  cases found : Text.after "!" line with
  | none =>
      refine ⟨whole, fun _ marked => ?_⟩
      obtain ⟨rest, chars⟩ := List.head?_eq_some_iff.mp marked
      simp [Text.after, chars, Text.afterLead] at found
  | some name =>
      obtain ⟨rest, after, rfl⟩ := Option.map_eq_some_iff.mp found
      rw [Text.afterLead_eq_some_iff.mp after] at whole
      refine ⟨?_, fun free => Bool.noConfusion free⟩
      rw [String.toList_ofList]
      exact fun inside => whole (List.mem_append_right _ inside)

theorem readEntry_renderEntry {entry : String × Bool} (clear : Clear entry.1 entry.2) :
    readEntry (renderEntry entry) = entry := by
  obtain ⟨name, guard⟩ := entry
  cases guard with
  | true => simp [renderEntry, readEntry, Text.after, Text.afterLead]
  | false =>
      have plain : Text.after "!" name = none := by
        rw [Text.after, Option.map_eq_none_iff, Option.eq_none_iff_forall_ne_some]
        intro rest after
        have unmarked := clear.unmarked rfl
        rw [Text.afterLead_eq_some_iff.mp after] at unmarked
        exact unmarked rfl
      simp [renderEntry, readEntry, plain]

theorem read_render_iff {set : NameSet} (sound : Sound set) :
    read set.render = set ↔ Legible set := by
  constructor
  · intro same entry member
    rw [← same] at member
    obtain ⟨line, inside, rfl⟩ := List.mem_map.mp member
    exact readEntry_clear (mem_linesOf inside)
  · intro legible
    have whole : ∀ name ∈ set.names, '\n' ∉ name.toList := by
      rw [names, List.forall_mem_map]
      exact fun entry member => (legible entry member).whole
    rw [read, (render_lines_iff sound).mpr whole, List.map_map]
    refine congrArg mk ((List.map_congr_left fun entry member => ?_).trans (List.map_id _))
    exact readEntry_renderEntry (legible entry member)

theorem render_eq_iff {one other : NameSet} (first : Sound one) (second : Sound other)
    (whole : ∀ name ∈ one.names, '\n' ∉ name.toList)
    (whole' : ∀ name ∈ other.names, '\n' ∉ name.toList) :
    one.render = other.render ↔ List.Forall₂ Resembles one.entries other.entries := by
  have lines : one.render = other.render ↔
      one.entries.map renderEntry = other.entries.map renderEntry := by
    constructor
    · intro same
      rw [← (render_lines_iff first).mpr whole, same, (render_lines_iff second).mpr whole']
    · intro same
      rw [render, same, render]
  rw [lines, ← List.forall₂_eq_eq_eq, List.forall₂_map_left_iff, List.forall₂_map_right_iff]
  simp only [renderEntry_eq_iff]

/-! ### Names that come in -/

theorem insertSeed_seedEntry (set : NameSet) (seed : String) :
    set.insertSeed seed = set.insert (seedEntry seed).1 (seedEntry seed).2 := by
  unfold insertSeed seedEntry
  cases Text.before "!" (Text.trim seed) <;> rfl

theorem Amends.legible {edit : Edit} {before after : NameSet} (amends : Amends edit before after)
    (clear : ∀ name guard, edit = .add name guard → Clear name guard) (legible : Legible before) :
    Legible after := by
  cases amends with
  | nameless => exact legible
  | added => exact List.forall_mem_append.mpr ⟨legible, by simpa using clear _ _ rfl⟩
  | @renewed ahead behind name was guard =>
      obtain ⟨first, rest⟩ := List.forall_mem_append.mp legible
      have fresh := clear name guard rfl
      have own : Clear name (was || guard) :=
        ⟨fresh.whole, fun free => fresh.unmarked (Bool.or_eq_false_iff.mp free).2⟩
      exact List.forall_mem_append.mpr ⟨first, List.forall_mem_cons.mpr
        ⟨own, (List.forall_mem_cons.mp rest).2⟩⟩
  | missing => exact legible
  | @dropped ahead behind name =>
      obtain ⟨first, rest⟩ := List.forall_mem_append.mp legible
      exact List.forall_mem_append.mpr ⟨first, (List.forall_mem_cons.mp rest).2⟩
  | cleared => exact fun entry member => legible entry (List.mem_filter.mp member).1

/-- Every name that the items ask for is told from its line. -/
def ClearItems (items : List String) : Prop :=
  ∀ item ∈ items, ∀ name guard, Asks item (.add name guard) → Clear name guard

theorem Follows.legible {before after : NameSet} {items : List String}
    (follows : Follows before items after) (clear : ClearItems items) (legible : Legible before) :
    Legible after := by
  induction follows with
  | done => exact legible
  | item asks amends _ ih =>
      obtain ⟨own, others⟩ := List.forall_mem_cons.mp clear
      refine ih others (amends.legible ?_ legible)
      rintro name guard rfl
      exact own name guard asks

theorem insertSeed_legible {set : NameSet} {seed : String} (sound : Sound set)
    (clear : Clear (seedEntry seed).1 (seedEntry seed).2) (legible : Legible set) :
    Legible (set.insertSeed seed) := by
  rw [insertSeed_seedEntry]
  have amends : Amends (.add (seedEntry seed).1 (seedEntry seed).2) set
      (set.insert (seedEntry seed).1 (seedEntry seed).2) := apply_amends sound rfl
  refine amends.legible ?_ legible
  intro name guard same
  obtain ⟨rfl, rfl⟩ := Edit.add.inj same
  exact clear

theorem ofSeed_legible {seeds : List String}
    (clear : ∀ seed ∈ seeds, Clear (seedEntry seed).1 (seedEntry seed).2) :
    Legible (ofSeed seeds) := by
  have seeded (set : NameSet) (sound : Sound set) (legible : Legible set) :
      Legible (seeds.foldl insertSeed set) := by
    induction seeds generalizing set with
    | nil => exact legible
    | cons seed rest ih =>
        obtain ⟨own, others⟩ := List.forall_mem_cons.mp clear
        rw [List.foldl_cons]
        exact ih others _ (insertSeed_sound sound seed) (insertSeed_legible sound own legible)
  exact seeded empty ⟨List.nodup_nil, List.not_mem_nil⟩ (fun _ => (nomatch ·))

theorem foldl_updated_legible {set : NameSet} {updates : List String}
    (clear : ∀ update ∈ updates, ClearItems (itemsOf update)) (sound : Sound set)
    (legible : Legible set) : Legible (updates.foldl updated set) := by
  induction updates generalizing set with
  | nil => exact legible
  | cons update rest ih =>
      obtain ⟨own, others⟩ := List.forall_mem_cons.mp clear
      refine ih others (updated_sound sound update) ?_
      rcases updated_cases sound update with follows | same
      · exact follows.legible own legible
      · rw [same]
        exact legible

theorem after_sound (seeds updates : List String) : Sound (after seeds updates) :=
  foldl_updated_sound (ofSeed_sound seeds) updates

/-- For every seed and all updates: the set's text has one line for each entry,
in their order, the name behind a mark if it is protected, exactly if no name has
a line end in it. Read line by line the text gives back the set exactly if
besides no free name begins with the mark. Sets without line ends in their names
are written alike exactly if their entries are alike one by one, where a
protected name is like the free name made of the mark and it; of legible sets the
text tells them apart. And a set is legible if each name that was asked for was
such that its line tells it. -/
theorem legible_iff_told (seeds updates : List String) :
    (linesOf (after seeds updates).render =
        (after seeds updates).entries.map
          (fun entry => if entry.2 then "!" ++ entry.1 else entry.1) ↔
      ∀ name ∈ (after seeds updates).names, '\n' ∉ name.toList) ∧
    (read (after seeds updates).render = after seeds updates ↔ Legible (after seeds updates)) ∧
    (∀ others later,
      (∀ name ∈ (after seeds updates).names, '\n' ∉ name.toList) →
      (∀ name ∈ (after others later).names, '\n' ∉ name.toList) →
      ((after seeds updates).render = (after others later).render ↔
        List.Forall₂ Resembles (after seeds updates).entries (after others later).entries)) ∧
    (∀ others later, Legible (after seeds updates) → Legible (after others later) →
      ((after seeds updates).render = (after others later).render ↔
        after seeds updates = after others later)) ∧
    ((∀ seed ∈ seeds, Clear (seedEntry seed).1 (seedEntry seed).2) →
      (∀ update ∈ updates, ClearItems (itemsOf update)) → Legible (after seeds updates)) := by
  have sound := after_sound seeds updates
  have written : renderEntry = fun entry => if entry.2 then "!" ++ entry.1 else entry.1 := by
    funext entry
    unfold renderEntry
    split <;> simp
  refine ⟨?_, read_render_iff sound, ?_, ?_, ?_⟩
  · rw [← written]
    exact render_lines_iff sound
  · intro others later
    exact render_eq_iff sound (after_sound others later)
  · intro others later legible legible'
    constructor
    · intro same
      rw [← (read_render_iff sound).mpr legible, same,
        (read_render_iff (after_sound others later)).mpr legible']
    · exact congrArg render
  · intro seeded asked
    exact foldl_updated_legible asked (ofSeed_sound seeds) (ofSeed_legible seeded)

/-- One name on two lines is written like two names, and a free name that begins
with the mark like a protected one. -/
theorem broken_name_untold :
    (after [] ["+a\nb"]).entries = [("a\nb", false)] ∧
      linesOf (after [] ["+a\nb"]).render ≠ ["a\nb"] ∧
      (after [] ["+a\nb"]).render = (after ["a", "b"] []).render ∧
      after ["a", "b"] [] = read (after [] ["+a\nb"]).render ∧
      (after ["a!"] []).entries = [("a", true)] ∧ (after ["!a"] []).entries = [("!a", false)] ∧
      (after ["a!"] []).render = (after ["!a"] []).render := by
  have entries : (after [] ["+a\nb"]).entries = [("a\nb", false)] := by decide +kernel
  have guarded : (after ["a!"] []).entries = [("a", true)] := by decide +kernel
  have marked : (after ["!a"] []).entries = [("!a", false)] := by decide +kernel
  have told := (legible_iff_told [] ["+a\nb"]).1
  rw [names, entries] at told
  refine ⟨entries, fun lines => ?_, by decide +kernel, by decide +kernel, guarded, marked, ?_⟩
  · exact absurd (told.mp lines) (by decide +kernel)
  · refine ((legible_iff_told ["a!"] []).2.2.1 ["!a"] [] ?_ ?_).mpr ?_
    · rw [names, guarded]
      decide +kernel
    · rw [names, marked]
      decide +kernel
    · rw [guarded, marked]
      exact .cons (@Resembles.guarded "a") .nil

end Interception.NameSet
