import Interception.NameSet
import Mathlib.Data.List.Nodup
import Mathlib.Data.List.Sublists

/-!
What updates do to a set of names. An item of an update asks for one edit, an
edit touches one entry or drops those that are free, and an update is either its
edits from left to right or nothing. So a name that was once protected stays.
-/

namespace Interception.NameSet

/-- What an item of an update asks for. -/
inductive Edit
  | add (name : String) (guard : Bool)
  | drop (name : String)
  | clear
  deriving DecidableEq, Repr

/-- The forms of an item. A bare one is the name itself, and has no blanks. -/
inductive Asks (item : String) : Edit → Prop
  | clear (word : item = "none") : Asks item .clear
  | guarded {name : String} (form : item = "+!" ++ name) : Asks item (.add (Text.trim name) true)
  | added {name : String} (form : item = "+" ++ name) (free : name.toList.head? ≠ some '!') :
      Asks item (.add (Text.trim name) false)
  | dropped {name : String} (form : item = "-" ++ name) : Asks item (.drop (Text.trim name))
  | bare (ordinary : item ≠ "none") (noPlus : item.toList.head? ≠ some '+')
      (noMinus : item.toList.head? ≠ some '-') (whole : ∀ c ∈ item.toList, ¬ Text.isBlank c) :
      Asks item (.add item false)

/-- What an edit makes of a set. The entries around the one it names stay as
they are and where they are. -/
inductive Amends : Edit → NameSet → NameSet → Prop
  | nameless {set : NameSet} {guard : Bool} : Amends (.add "" guard) set set
  | added {entries : List (String × Bool)} {name : String} {guard : Bool} (filled : name ≠ "")
      (absent : name ∉ entries.map (·.1)) :
      Amends (.add name guard) ⟨entries⟩ ⟨entries ++ [(name, guard)]⟩
  | renewed {ahead behind : List (String × Bool)} {name : String} {was guard : Bool} :
      Amends (.add name guard) ⟨ahead ++ (name, was) :: behind⟩
        ⟨ahead ++ (name, was || guard) :: behind⟩
  | missing {entries : List (String × Bool)} {name : String} (absent : name ∉ entries.map (·.1)) :
      Amends (.drop name) ⟨entries⟩ ⟨entries⟩
  | dropped {ahead behind : List (String × Bool)} {name : String} :
      Amends (.drop name) ⟨ahead ++ (name, false) :: behind⟩ ⟨ahead ++ behind⟩
  | cleared {entries : List (String × Bool)} :
      Amends .clear ⟨entries⟩ ⟨entries.filter (·.2)⟩

/-- Why an item cannot be carried out on a set. -/
inductive Bars (set : NameSet) (item : String) : Refusal → Prop
  | malformed (formless : ∀ edit, ¬ Asks item edit) : Bars set item (.malformedItem item)
  | guarded {name : String} (asks : Asks item (.drop name)) (kept : (name, true) ∈ set.entries) :
      Bars set item (.protectedName name)

/-- The items one after the other, each on what the one before it left. -/
inductive Follows : NameSet → List String → NameSet → Prop
  | done {set : NameSet} : Follows set [] set
  | item {before middle after : NameSet} {item : String} {rest : List String} {edit : Edit}
      (asks : Asks item edit) (amends : Amends edit before middle)
      (further : Follows middle rest after) : Follows before (item :: rest) after

/-- The items up to some item go through, and that one does not. -/
def Stops (set : NameSet) (items : List String) (reason : Refusal) : Prop :=
  ∃ done item rest middle, items = done ++ item :: rest ∧ Follows set done middle ∧
    Bars middle item reason

/-- Names stand once and are not empty. -/
structure Sound (set : NameSet) : Prop where
  distinct : set.names.Nodup
  filled : "" ∉ set.names

/-- The protected names in their order. -/
def guarded (set : NameSet) : List String := (set.entries.filter (·.2)).map (·.1)

/-- The set after an update, whether it was accepted or refused. -/
def updated (set : NameSet) (update : String) : NameSet :=
  match set.apply update with
  | .ok later => later
  | .error _ => set

def after (seeds updates : List String) : NameSet := updates.foldl updated (ofSeed seeds)

/-! ### Edits -/

namespace Amends

variable {edit : Edit} {before after : NameSet}

theorem sound (amends : Amends edit before after) (sound : Sound before) : Sound after := by
  obtain ⟨distinct, filled⟩ := sound
  cases amends with
  | nameless => exact ⟨distinct, filled⟩
  | @added entries name guard full absent =>
      constructor
      · rw [names, List.map_append]
        exact distinct.append (List.nodup_singleton _) (List.disjoint_singleton.mpr absent)
      · rw [names, List.map_append, List.mem_append]
        exact not_or.mpr ⟨filled, by simpa using full.symm⟩
  | renewed => exact ⟨by simpa [names] using distinct, by simpa [names] using filled⟩
  | missing => exact ⟨distinct, filled⟩
  | @dropped ahead behind name =>
      have fewer : ((ahead ++ behind).map (·.1)).Sublist
          ((ahead ++ (name, false) :: behind).map (·.1)) :=
        ((List.sublist_cons_self ..).append_left ahead).map _
      exact ⟨distinct.sublist fewer, fun inside => filled (fewer.subset inside)⟩
  | @cleared entries =>
      have fewer : ((entries.filter (·.2)).map (·.1)).Sublist (entries.map (·.1)) :=
        List.filter_sublist.map _
      exact ⟨distinct.sublist fewer, fun inside => filled (fewer.subset inside)⟩

theorem guarded_sublist (amends : Amends edit before after) :
    before.guarded.Sublist after.guarded := by
  cases amends with
  | nameless => exact .refl _
  | @added entries name guard full absent =>
      simp only [guarded, List.filter_append, List.map_append]
      exact List.sublist_append_left ..
  | @renewed ahead behind name was guard =>
      cases was <;> cases guard <;> simp [guarded]
  | missing => exact .refl _
  | dropped => simp [guarded]
  | cleared => simp [guarded]

end Amends

/-! ### Carrying out an edit -/

section Entries

variable {name : String} {was : Bool} {ahead behind entries : List (String × Bool)}

theorem split_entries (name : String) (entries : List (String × Bool)) :
    name ∉ entries.map (·.1) ∨ ∃ ahead was behind, entries = ahead ++ (name, was) :: behind := by
  by_cases present : name ∈ entries.map (·.1)
  · obtain ⟨⟨found, was⟩, member, rfl⟩ := List.mem_map.mp present
    obtain ⟨ahead, behind, split⟩ := List.append_of_mem member
    exact .inr ⟨ahead, was, behind, split⟩
  · exact .inl present

theorem absent_around (distinct : ((ahead ++ (name, was) :: behind).map (·.1)).Nodup) :
    name ∉ (ahead ++ behind).map (·.1) := by
  rw [List.map_append, List.map_cons, List.nodup_middle, ← List.map_append] at distinct
  exact (List.nodup_cons.mp distinct).1

theorem protectFirst_append (absent : name ∉ ahead.map (·.1)) :
    protectFirst name (ahead ++ (name, was) :: behind) = ahead ++ (name, true) :: behind := by
  induction ahead with
  | nil => simp [protectFirst]
  | cons entry ahead ih =>
      obtain ⟨other, rest⟩ := List.ne_and_not_mem_of_not_mem_cons absent
      rw [List.cons_append, protectFirst, if_neg other.symm, ih rest, List.cons_append]

theorem insert_present (filled : name ≠ "") (guard : Bool) (absent : name ∉ ahead.map (·.1)) :
    insert ⟨ahead ++ (name, was) :: behind⟩ name guard =
      ⟨ahead ++ (name, was || guard) :: behind⟩ := by
  have present : contains ⟨ahead ++ (name, was) :: behind⟩ name = true := by simp [contains]
  rw [insert, if_neg filled, if_pos present, protectFirst_append absent]
  cases guard <;> simp

theorem insert_absent (filled : name ≠ "") (guard : Bool) (absent : name ∉ entries.map (·.1)) :
    insert ⟨entries⟩ name guard = ⟨entries ++ [(name, guard)]⟩ := by
  have missing : ¬ contains ⟨entries⟩ name = true := by
    intro present
    obtain ⟨entry, member, same⟩ := List.any_eq_true.mp present
    exact absent (List.mem_map.mpr ⟨entry, member, by simpa using same⟩)
  rw [insert, if_neg filled, if_neg missing]

theorem remove_absent (absent : name ∉ entries.map (·.1)) : remove ⟨entries⟩ name = ⟨entries⟩ := by
  refine congrArg mk (List.filter_eq_self.mpr fun entry member => bne_iff_ne.mpr ?_)
  rintro rfl
  exact absent (List.mem_map_of_mem member)

theorem remove_present (absent : name ∉ (ahead ++ behind).map (·.1)) :
    remove ⟨ahead ++ (name, was) :: behind⟩ name = ⟨ahead ++ behind⟩ := by
  have others := remove_absent absent
  simpa [remove, List.filter_cons] using others

theorem isProtected_iff {set : NameSet} :
    set.isProtected name = true ↔ (name, true) ∈ set.entries := by
  simp [isProtected]

end Entries

/-- What is done to a set for an edit. -/
def Edit.apply (set : NameSet) : Edit → Except Refusal NameSet
  | .add name guard => .ok (set.insert name guard)
  | .drop name =>
      if set.isProtected name then .error (.protectedName name) else .ok (set.remove name)
  | .clear => .ok set.dropUnprotected

theorem apply_amends {set later : NameSet} {edit : Edit} (sound : Sound set)
    (done : edit.apply set = .ok later) : Amends edit set later := by
  obtain ⟨entries⟩ := set
  cases edit with
  | clear =>
      obtain rfl := Except.ok.inj done
      exact .cleared
  | add name guard =>
      obtain rfl := Except.ok.inj done
      by_cases filled : name = ""
      · rw [insert, if_pos filled, filled]
        exact .nameless
      · rcases split_entries name entries with absent | ⟨ahead, was, behind, rfl⟩
        · rw [insert_absent filled guard absent]
          exact .added filled absent
        · have alone := absent_around sound.distinct
          rw [insert_present filled guard fun inside => alone (by simp_all)]
          exact .renewed
  | drop name =>
      rw [Edit.apply] at done
      split at done
      · cases done
      · rename_i free
        obtain rfl := Except.ok.inj done
        rcases split_entries name entries with absent | ⟨ahead, was, behind, rfl⟩
        · rw [remove_absent absent]
          exact .missing absent
        · rw [remove_present (absent_around sound.distinct)]
          cases was with
          | true => exact absurd (isProtected_iff.mpr (by simp)) free
          | false => exact .dropped

theorem Amends.apply {set later : NameSet} {edit : Edit} (amends : Amends edit set later)
    (sound : Sound set) : edit.apply set = .ok later := by
  cases amends with
  | nameless => simp [Edit.apply, insert]
  | added filled absent => rw [Edit.apply, insert_absent filled _ absent]
  | @renewed ahead behind name was guard =>
      have alone := absent_around sound.distinct
      have filled : name ≠ "" := fun empty => sound.filled (by simp [names, empty])
      rw [Edit.apply, insert_present filled guard fun inside => alone (by simp_all)]
  | @missing entries name absent =>
      have free : ¬ isProtected ⟨entries⟩ name = true := fun kept =>
        absent (List.mem_map.mpr ⟨_, isProtected_iff.mp kept, rfl⟩)
      rw [Edit.apply, if_neg free, remove_absent absent]
  | @dropped ahead behind name =>
      have alone := absent_around sound.distinct
      have free : ¬ isProtected ⟨ahead ++ (name, false) :: behind⟩ name = true := by
        intro kept
        have member : (name, true) ∈ ahead ++ behind := by
          simpa using isProtected_iff.mp kept
        exact alone (List.mem_map.mpr ⟨_, member, rfl⟩)
      rw [Edit.apply, if_neg free, remove_present alone]
  | cleared => rfl

/-! ### Items -/

theorem Asks.applyItem {item : String} {edit : Edit} (asks : Asks item edit) (set : NameSet) :
    set.applyItem item = edit.apply set := by
  unfold NameSet.applyItem
  cases asks with
  | clear word => rw [if_pos word]; rfl
  | @guarded name form =>
      have chars : item.toList = '+' :: '!' :: name.toList := by simp [form]
      rw [if_neg (by rintro rfl; simp at chars)]
      simp only [chars, String.ofList_toList]
      rfl
  | @added name form free =>
      have chars : item.toList = '+' :: name.toList := by simp [form]
      rw [if_neg (by rintro rfl; simp at chars), chars]
      split
      · rename_i marked
        exact absurd (by simp_all) free
      · rename_i same
        obtain rfl := (List.cons.inj same).2
        rw [String.ofList_toList]
        rfl
      all_goals simp_all
  | @dropped name form =>
      have chars : item.toList = '-' :: name.toList := by simp [form]
      rw [if_neg (by rintro rfl; simp at chars)]
      simp only [chars, String.ofList_toList]
      rfl
  | bare ordinary noPlus noMinus whole =>
      rw [if_neg ordinary]
      split
      · simp_all
      · simp_all
      · simp_all
      · have blankless : ¬ item.toList.any Text.isBlank = true := by simpa using whole
        rw [if_neg blankless]
        rfl

theorem applyItem_formless {item : String} (formless : ∀ edit, ¬ Asks item edit) (set : NameSet) :
    set.applyItem item = .error (.malformedItem item) := by
  unfold applyItem
  split
  · rename_i word
    exact absurd (.clear word) (formless _)
  · rename_i ordinary
    split
    · rename_i name same
      have form : item = "+!" ++ String.ofList name := String.toList_inj.mp (by simp [same])
      exact absurd (.guarded form) (formless _)
    · rename_i name unmarked same
      have form : item = "+" ++ String.ofList name := String.toList_inj.mp (by simp [same])
      have free : (String.ofList name).toList.head? ≠ some '!' := by
        rw [String.toList_ofList, ne_eq, List.head?_eq_some_iff]
        exact fun ⟨rest, marked⟩ => unmarked rest marked
      exact absurd (.added form free) (formless _)
    · rename_i name same
      have form : item = "-" ++ String.ofList name := String.toList_inj.mp (by simp [same])
      exact absurd (.dropped form) (formless _)
    · rename_i _ noPlus noMinus
      rw [if_pos]
      by_contra blankless
      refine formless _ (.bare ordinary ?_ ?_ (by simpa using blankless))
      · rw [ne_eq, List.head?_eq_some_iff]
        exact fun ⟨rest, signed⟩ => noPlus rest signed
      · rw [ne_eq, List.head?_eq_some_iff]
        exact fun ⟨rest, signed⟩ => noMinus rest signed

theorem applyItem_ok_iff {set later : NameSet} (sound : Sound set) {item : String} :
    set.applyItem item = .ok later ↔ ∃ edit, Asks item edit ∧ Amends edit set later := by
  constructor
  · intro done
    by_cases asked : ∃ edit, Asks item edit
    · obtain ⟨edit, asks⟩ := asked
      exact ⟨edit, asks, apply_amends sound (asks.applyItem set ▸ done)⟩
    · rw [applyItem_formless (not_exists.mp asked)] at done
      cases done
  · rintro ⟨edit, asks, amends⟩
    rw [asks.applyItem, amends.apply sound]

theorem applyItem_error_iff {set : NameSet} {item : String} {reason : Refusal} :
    set.applyItem item = .error reason ↔ Bars set item reason := by
  constructor
  · intro refused
    by_cases asked : ∃ edit, Asks item edit
    · obtain ⟨edit, asks⟩ := asked
      rw [asks.applyItem] at refused
      cases edit with
      | add name guard => cases refused
      | clear => cases refused
      | drop name =>
          rw [Edit.apply] at refused
          split at refused
          · rename_i kept
            obtain rfl := Except.error.inj refused
            exact .guarded asks (isProtected_iff.mp kept)
          · cases refused
    · have formless := not_exists.mp asked
      rw [applyItem_formless formless] at refused
      obtain rfl := Except.error.inj refused
      exact .malformed formless
  · intro bars
    cases bars with
    | malformed formless => exact applyItem_formless formless set
    | guarded asks kept => rw [asks.applyItem, Edit.apply, if_pos (isProtected_iff.mpr kept)]

/-! ### Updates -/

theorem Follows.sound {before after : NameSet} {items : List String}
    (follows : Follows before items after) (sound : Sound before) : Sound after := by
  induction follows with
  | done => exact sound
  | item _ amends _ ih => exact ih (amends.sound sound)

theorem Follows.guarded_sublist {before after : NameSet} {items : List String}
    (follows : Follows before items after) : before.guarded.Sublist after.guarded := by
  induction follows with
  | done => exact .refl _
  | item _ amends _ ih => exact amends.guarded_sublist.trans ih

theorem foldlM_ok_iff {set later : NameSet} (sound : Sound set) {items : List String} :
    items.foldlM applyItem set = .ok later ↔ Follows set items later := by
  induction items generalizing set with
  | nil =>
      constructor
      · intro done
        obtain rfl := Except.ok.inj done
        exact .done
      · rintro ⟨⟩
        rfl
  | cons item rest ih =>
      rw [List.foldlM_cons]
      constructor
      · intro done
        cases step : set.applyItem item with
        | error reason => simp [step, bind, Except.bind] at done
        | ok middle =>
            obtain ⟨edit, asks, amends⟩ := (applyItem_ok_iff sound).mp step
            simp only [step, bind, Except.bind] at done
            exact .item asks amends ((ih (amends.sound sound)).mp done)
      · intro follows
        cases follows with
        | item asks amends further =>
            rw [(applyItem_ok_iff sound).mpr ⟨_, asks, amends⟩]
            exact (ih (amends.sound sound)).mpr further

theorem foldlM_error_iff {set : NameSet} (sound : Sound set) {items : List String}
    {reason : Refusal} :
    items.foldlM applyItem set = .error reason ↔ Stops set items reason := by
  induction items generalizing set with
  | nil =>
      constructor
      · rintro ⟨⟩
      · rintro ⟨done, item, rest, middle, split, -, -⟩
        simp at split
  | cons item rest ih =>
      rw [List.foldlM_cons]
      constructor
      · intro refused
        cases step : set.applyItem item with
        | error cause =>
            simp only [step, bind, Except.bind] at refused
            obtain rfl := Except.error.inj refused
            exact ⟨[], item, rest, set, rfl, .done, applyItem_error_iff.mp step⟩
        | ok middle =>
            obtain ⟨edit, asks, amends⟩ := (applyItem_ok_iff sound).mp step
            simp only [step, bind, Except.bind] at refused
            obtain ⟨done, barred, others, last, split, follows, bars⟩ :=
              (ih (amends.sound sound)).mp refused
            exact ⟨item :: done, barred, others, last, by rw [split]; rfl,
              .item asks amends follows, bars⟩
      · rintro ⟨done, barred, others, last, split, follows, bars⟩
        cases follows with
        | done =>
            obtain ⟨rfl, rfl⟩ := List.cons.inj split
            rw [applyItem_error_iff.mpr bars]
            rfl
        | item asks amends follows =>
            obtain ⟨rfl, tail⟩ := List.cons.inj split
            rw [(applyItem_ok_iff sound).mpr ⟨_, asks, amends⟩]
            exact (ih (amends.sound sound)).mpr ⟨_, barred, others, last, tail, follows, bars⟩

/-- The items of an update: what stands between its commas, without blanks
around it. -/
abbrev itemsOf (update : String) : List String := Text.items (· == ',') update

theorem updated_cases {set : NameSet} (sound : Sound set) (update : String) :
    Follows set (itemsOf update) (set.updated update) ∨ set.updated update = set := by
  rw [updated]
  cases applied : set.apply update with
  | ok later => exact .inl ((foldlM_ok_iff sound).mp applied)
  | error reason => exact .inr rfl

theorem updated_sound {set : NameSet} (sound : Sound set) (update : String) :
    Sound (set.updated update) := by
  rcases updated_cases sound update with follows | same
  · exact follows.sound sound
  · rw [same]
    exact sound

theorem updated_guarded {set : NameSet} (sound : Sound set) (update : String) :
    set.guarded.Sublist (set.updated update).guarded := by
  rcases updated_cases sound update with follows | same
  · exact follows.guarded_sublist
  · rw [same]

theorem insert_sound {set : NameSet} (sound : Sound set) (name : String) (guard : Bool) :
    Sound (set.insert name guard) := by
  have amends : Amends (.add name guard) set (set.insert name guard) := apply_amends sound rfl
  exact amends.sound sound

theorem insertSeed_sound {set : NameSet} (sound : Sound set) (seed : String) :
    Sound (set.insertSeed seed) := by
  rw [insertSeed]
  split <;> exact insert_sound sound _ _

theorem ofSeed_sound (seeds : List String) : Sound (ofSeed seeds) := by
  have seeded (set : NameSet) (sound : Sound set) : Sound (seeds.foldl insertSeed set) := by
    induction seeds generalizing set with
    | nil => exact sound
    | cons seed rest ih =>
        rw [List.foldl_cons]
        exact ih _ (insertSeed_sound sound seed)
  exact seeded empty ⟨List.nodup_nil, List.not_mem_nil⟩

theorem foldl_updated_sound {set : NameSet} (sound : Sound set) (updates : List String) :
    Sound (updates.foldl updated set) := by
  induction updates generalizing set with
  | nil => exact sound
  | cons update rest ih => exact ih (updated_sound sound update)

theorem foldl_updated_guarded {set : NameSet} (sound : Sound set) (updates : List String) :
    set.guarded.Sublist (updates.foldl updated set).guarded := by
  induction updates generalizing set with
  | nil => exact .refl _
  | cons update rest ih =>
      exact (updated_guarded sound update).trans (ih (updated_sound sound update))

/-- For every seed and all updates, accepted or refused: names stand once and are
not empty, and whatever happens later, the names protected by then stay protected
and keep their order. A further update is refused exactly if one of its items,
after those before it, has no form or drops a protected name, and then nothing
changes. Otherwise its items are carried out from left to right, each of them an
edit of one entry, or of the entries that are free. -/
theorem protection_lasts (seeds updates : List String) :
    (after seeds updates).names.Nodup ∧ "" ∉ (after seeds updates).names ∧
      (∀ more, (after seeds updates).guarded.Sublist (after seeds (updates ++ more)).guarded) ∧
      ∀ update,
        (∀ reason, (after seeds updates).apply update = .error reason ↔
          Stops (after seeds updates) (itemsOf update) reason) ∧
        (∀ reason, Stops (after seeds updates) (itemsOf update) reason →
          after seeds (updates ++ [update]) = after seeds updates) ∧
        ∀ later, (after seeds updates).apply update = .ok later ↔
          Follows (after seeds updates) (itemsOf update) later ∧
            after seeds (updates ++ [update]) = later := by
  have sound : Sound (after seeds updates) := foldl_updated_sound (ofSeed_sound seeds) updates
  have further (more : List String) :
      after seeds (updates ++ more) = more.foldl updated (after seeds updates) :=
    List.foldl_append
  refine ⟨sound.distinct, sound.filled, fun more => ?_, fun update => ⟨fun reason => ?_, ?_, ?_⟩⟩
  · rw [further]
    exact foldl_updated_guarded sound more
  · exact foldlM_error_iff sound
  · intro reason stops
    have refused : (after seeds updates).apply update = .error reason :=
      (foldlM_error_iff sound).mpr stops
    rw [further, List.foldl_cons, List.foldl_nil, updated, refused]
  · intro later
    rw [further, List.foldl_cons, List.foldl_nil, updated, ← foldlM_ok_iff sound]
    constructor
    · intro applied
      exact ⟨applied, by rw [applied]⟩
    · exact And.left

end Interception.NameSet
