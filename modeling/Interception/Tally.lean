/-!
Counters by label values, and the text in which instruments are exposed. A
family lists its children ordered by their label values; a counter family
without children is left out, a plain gauge or counter always shows.
-/

namespace Interception

abbrev Tally := List (List String × Nat)

namespace Tally

def bump (labels : List String) : Tally → Tally
  | [] => [(labels, 1)]
  | entry :: rest =>
      if entry.1 = labels then (labels, entry.2 + 1) :: rest else entry :: bump labels rest

def count (labels : List String) (tally : Tally) : Nat :=
  (tally.lookup labels).getD 0

def total (tally : Tally) : Nat :=
  tally.foldl (fun sum entry => sum + entry.2) 0

end Tally

/-- One family of instruments: its name after the common stem, its help
text, and either one value or counts by labels. -/
structure Family where
  name : String
  help : String
  kind : String
  labels : List String
  children : Tally

namespace Family

def counter (name help : String) (value : Nat) : Family :=
  ⟨name, help, "counter", [], [([], value)]⟩

def gauge (name help : String) (value : Nat) : Family :=
  ⟨name, help, "gauge", [], [([], value)]⟩

def counters (name help : String) (labels : List String) (children : Tally) : Family :=
  ⟨name, help, "counter", labels, children⟩

def renderLabels (names values : List String) : String :=
  if names.isEmpty then ""
  else
    "\x7b" ++ ",".intercalate (names.zipWith (fun name value => name ++ "=\"" ++ value ++ "\"") values) ++
      "\x7d"

def insertChild (child : List String × Nat) : Tally → Tally
  | [] => [child]
  | other :: rest =>
      if child.1 < other.1 then child :: other :: rest else other :: insertChild child rest

def ordered (children : Tally) : Tally :=
  children.foldr insertChild []

def lines (family : Family) : List String :=
  if family.children.isEmpty then []
  else
    ("# HELP " ++ family.name ++ " " ++ family.help) ::
    ("# TYPE " ++ family.name ++ " " ++ family.kind) ::
    (ordered family.children).map fun child =>
      family.name ++ renderLabels family.labels child.1 ++ " " ++ toString child.2

end Family

end Interception
