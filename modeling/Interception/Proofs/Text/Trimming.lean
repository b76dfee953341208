import Interception.Proofs.Text.Components

/-!
Trimmed texts and lists of items. A text is tight that has no blank at either
end. Tight texts without a cut in them, strung together at cuts, are read back
as the items they were.
-/

namespace Interception.Text

structure Tight (text : List Char) : Prop where
  head : ∀ c ∈ text.head?, isBlank c = false
  last : ∀ c ∈ text.getLast?, isBlank c = false

theorem trimChars_sublist (text : List Char) : (trimChars text).Sublist text :=
  (List.rdropWhile_prefix ..).sublist.trans (List.dropWhile_sublist _)

theorem trimChars_tight (text : List Char) : Tight (trimChars text) := by
  constructor
  · intro c first
    obtain ⟨rest, front⟩ := List.head?_eq_some_iff.mp first
    obtain ⟨behind, whole⟩ : trimChars text <+: text.dropWhile isBlank := List.rdropWhile_prefix ..
    have opens := List.head?_dropWhile_not isBlank text
    rwa [← whole, front] at opens
  · intro c final
    obtain ⟨filled, rfl⟩ := List.mem_getLast?_eq_getLast final
    exact (Bool.not_eq_true _).mp (List.rdropWhile_last_not isBlank _ filled)

theorem tight_of_blankless {text : List Char} (blankless : ∀ c ∈ text, isBlank c = false) :
    Tight text :=
  ⟨fun c first => blankless c (List.mem_of_mem_head? first),
    fun c final => blankless c (List.mem_of_mem_getLast? final)⟩

theorem Tight.trimChars_eq {text : List Char} (tight : Tight text) : trimChars text = text := by
  have front : text.dropWhile isBlank = text := by
    cases text with
    | nil => rfl
    | cons c rest => rw [List.dropWhile_cons, tight.head c rfl, if_neg Bool.false_ne_true]
  rw [trimChars, front]
  refine List.rdropWhile_eq_self_iff.mpr fun filled => (Bool.not_eq_true _).mpr ?_
  exact tight.last _ (List.getLast_mem_getLast? filled)

theorem Tight.append {left between right : List Char} (first : Tight left) (second : Tight right)
    (opened : left ≠ []) (closed : right ≠ []) : Tight (left ++ between ++ right) := by
  constructor
  · rw [List.append_assoc, List.head?_append_of_ne_nil _ opened]
    exact first.head
  · rw [List.getLast?_append_of_ne_nil _ closed]
    exact second.last

theorem mem_pieces {cut : Char → Bool} {text piece : List Char}
    (member : piece ∈ pieces cut text) : ∀ c ∈ piece, cut c = false := by
  induction text generalizing piece with
  | nil => simp_all [pieces]
  | cons c rest ih =>
      rw [pieces] at member
      split at member
      · rcases List.mem_cons.mp member with rfl | later
        · simp
        · exact ih later
      · rename_i whole
        split at member
        · simp_all
        · rename_i first more split
          rcases List.mem_cons.mp member with rfl | later
          · exact List.forall_mem_cons.mpr
              ⟨(Bool.not_eq_true _).mp whole, ih (split ▸ List.mem_cons_self ..)⟩
          · exact ih (split ▸ List.mem_cons_of_mem _ later)

theorem items_clean {cut : Char → Bool} {text item : String} (member : item ∈ items cut text) :
    ∀ c ∈ item.toList, cut c = false := by
  obtain ⟨chars, inside, rfl⟩ := List.mem_map.mp member
  obtain ⟨piece, found, rfl⟩ := List.mem_map.mp (List.mem_filter.mp inside).1
  intro c here
  rw [String.toList_ofList] at here
  exact mem_pieces found c ((trimChars_sublist piece).subset here)

/-- What stands for itself in a list of items. -/
structure Plain (cut : Char → Bool) (text : String) : Prop where
  filled : text.toList ≠ []
  tight : Tight text.toList
  clean : ∀ c ∈ text.toList, cut c = false

theorem items_intercalate {cut : Char → Bool} (line : cut '\n' = true) {texts : List String}
    (plain : ∀ text ∈ texts, Plain cut text) : items cut ("\n".intercalate texts) = texts := by
  induction texts with
  | nil => rfl
  | cons text rest ih =>
      obtain ⟨⟨filled, tight, clean⟩, others⟩ := List.forall_mem_cons.mp plain
      rcases rest with _ | ⟨next, rest⟩
      · rw [String.intercalate_singleton, items, pieces_eq_splitOnP,
          List.splitOnP_eq_singleton clean]
        simp [tight.trimChars_eq, filled]
      · have chars : ("\n".intercalate (text :: next :: rest)).toList =
            text.toList ++ '\n' :: ("\n".intercalate (next :: rest)).toList := by
          simp [String.intercalate_cons_cons]
        have later := ih others
        rw [items, pieces_eq_splitOnP] at later
        rw [items, chars, pieces_eq_splitOnP, List.splitOnP_append_cons_of_forall_mem clean _ line]
        simpa [tight.trimChars_eq, filled] using later

end Interception.Text
