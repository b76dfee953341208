import Interception.Text.Blank
import Mathlib.Data.List.DropRight

/-!
Paths as lists of components. A path is cut at its slashes, those at its end
left out, so that a directory has one list of components however many slashes
end its name. An absolute path begins with an empty component, and the root is
that component alone.
-/

namespace Interception.Text

/-- A path without the slashes at its end. -/
def bare (path : String) : List Char :=
  dropEndWhile (· == '/') path.toList

def components (path : String) : List (List Char) :=
  pieces (· == '/') (bare path)

/-- The first path is the second one or a directory above it. -/
def Above (lead path : String) : Prop := components lead <+: components path

instance (lead path : String) : Decidable (Above lead path) :=
  inferInstanceAs (Decidable (components lead <+: components path))

def Absolute (path : String) : Prop := path.toList.head? = some '/'

instance (path : String) : Decidable (Absolute path) :=
  inferInstanceAs (Decidable (path.toList.head? = some '/'))

/-! ### Leads -/

theorem afterLead_eq_some_iff {lead text rest : List Char} :
    afterLead lead text = some rest ↔ text = lead ++ rest := by
  induction lead generalizing text with
  | nil => simp [afterLead, eq_comm]
  | cons l lead ih =>
      cases text with
      | nil => simp [afterLead]
      | cons c text =>
          by_cases same : l = c
          · simp [afterLead, same, ih]
          · simp [afterLead, same, Ne.symm same]

theorem afterLead_nil (text : List Char) : afterLead [] text = some text := rfl

/-! ### Cutting at slashes -/

theorem pieces_eq_splitOnP (cut : Char → Bool) (text : List Char) :
    pieces cut text = text.splitOnP cut := by
  induction text with
  | nil => rfl
  | cons c rest ih =>
      rw [List.splitOnP_cons_eq_if_modifyHead, pieces, ih]
      cases split : rest.splitOnP cut with
      | nil => exact absurd split (List.splitOnP_ne_nil _ _)
      | cons piece more => rfl

theorem pieces_eq_splitOn (sep : Char) (text : List Char) :
    pieces (· == sep) text = text.splitOn sep := by
  rw [pieces_eq_splitOnP, List.splitOn_eq_splitOnP]

theorem intercalate_append {between : List Char} {left right : List (List Char)}
    (before : left ≠ []) (behind : right ≠ []) :
    between.intercalate (left ++ right) =
      between.intercalate left ++ between ++ between.intercalate right := by
  induction left with
  | nil => exact absurd rfl before
  | cons piece left ih =>
      cases left with
      | nil => simp [List.intercalate_cons_of_ne_nil behind]
      | cons next left => simpa [List.intercalate_cons_of_ne_nil] using ih (by simp)

/-- Pieces come first among others exactly if their text does, up to the other's
end or up to a slash. -/
theorem pieces_prefix_iff {lead text : List Char} :
    pieces (· == '/') lead <+: pieces (· == '/') text ↔
      text = lead ∨ ∃ rest, text = lead ++ '/' :: rest := by
  simp only [pieces_eq_splitOn]
  constructor
  · rintro ⟨more, split⟩
    have whole : ['/'].intercalate (text.splitOn '/') = text := List.intercalate_splitOn '/'
    have leading : ['/'].intercalate (lead.splitOn '/') = lead := List.intercalate_splitOn '/'
    rw [← split] at whole
    by_cases last : more = []
    · left
      rw [← whole, last, List.append_nil, leading]
    · right
      refine ⟨['/'].intercalate more, ?_⟩
      rw [← whole, intercalate_append (List.splitOn_ne_nil _ _) last, leading]
      simp
  · rintro (rfl | ⟨rest, rfl⟩)
    · exact List.prefix_rfl
    · exact ⟨_, (List.splitOn_append_cons_self ..).symm⟩

/-! ### Slashes at the end -/

/-- What a path is made of: its bare text, and slashes behind it. -/
theorem bare_append_slashes (path : String) :
    ∃ slashes, path.toList = bare path ++ slashes ∧ ∀ c ∈ slashes, c = '/' := by
  refine ⟨path.toList.rtakeWhile (· == '/'), ?_, ?_⟩
  · exact List.rdropWhile_append_rtakeWhile.symm
  · intro c inside
    simpa using List.mem_rtakeWhile_imp inside

theorem dropEndWhile_append (drop : Char → Bool) (left right : List Char) :
    dropEndWhile drop (left ++ right) =
      if right.all drop then dropEndWhile drop left else left ++ dropEndWhile drop right := by
  simp only [dropEndWhile, List.reverse_append, List.dropWhile_append, List.isEmpty_iff,
    List.dropWhile_eq_nil_iff, List.mem_reverse, List.all_eq_true]
  split <;> simp

theorem bare_idempotent (path : String) :
    dropEndWhile (· == '/') (bare path) = bare path :=
  List.rdropWhile_idempotent ..

theorem bare_last_ne {path : String} (filled : bare path ≠ []) :
    (bare path).getLast filled ≠ '/' := by
  have last := List.rdropWhile_last_not (· == '/') path.toList filled
  exact fun slash => last (beq_iff_eq.mpr slash)

theorem above_iff {lead path : String} :
    Above lead path ↔
      path.toList = bare lead ∨ ∃ rest, path.toList = bare lead ++ '/' :: rest := by
  rw [Above, components, components, pieces_prefix_iff]
  constructor
  · obtain ⟨slashes, whole, all⟩ := bare_append_slashes path
    rw [whole]
    rintro (same | ⟨rest, below⟩)
    · cases slashes with
      | nil => exact .inl (by simpa using same)
      | cons c slashes =>
          obtain rfl := all c (List.mem_cons_self ..)
          exact .inr ⟨slashes, by rw [same]⟩
    · exact .inr ⟨rest ++ slashes, by simp [below]⟩
  · rintro (same | ⟨rest, below⟩)
    · exact .inl (by rw [bare, same, bare_idempotent])
    · rw [bare, below, dropEndWhile_append]
      split
      · exact .inl (bare_idempotent lead)
      · rename_i kept
        have inner := dropEndWhile_append (· == '/') ['/'] rest
        rw [if_neg (by simpa using kept)] at inner
        exact .inr ⟨_, congrArg _ inner⟩

theorem above_iff_afterLead {lead path : String} :
    Above lead path ↔ ∃ rest, afterLead (bare lead) path.toList = some rest ∧
      (rest = [] ∨ rest.head? = some '/') := by
  simp only [above_iff, afterLead_eq_some_iff]
  constructor
  · rintro (same | ⟨rest, below⟩)
    · exact ⟨[], by simpa using same, .inl rfl⟩
    · exact ⟨'/' :: rest, below, .inr rfl⟩
  · rintro ⟨rest, whole, rfl | slash⟩
    · exact .inl (by simpa using whole)
    · obtain ⟨rest, rfl⟩ := List.head?_eq_some_iff.mp slash
      exact .inr ⟨rest, whole⟩

end Interception.Text
