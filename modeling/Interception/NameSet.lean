import Interception.Settings

/-!
Ordered sets of names, some of them protected from removal. An update is a
comma separated list: `+name`, `+!name` for a protected entry, `-name`,
`none` for every unprotected entry at once, or a bare name. An update with
one bad item changes nothing.
-/

namespace Interception

structure NameSet where
  entries : List (String × Bool)
  deriving DecidableEq, Repr

namespace NameSet

def empty : NameSet := ⟨[]⟩

def contains (set : NameSet) (name : String) : Bool :=
  set.entries.any (·.1 == name)

def isProtected (set : NameSet) (name : String) : Bool :=
  set.entries.any fun entry => entry.1 == name && entry.2

def names (set : NameSet) : List String :=
  set.entries.map (·.1)

def protectFirst (name : String) : List (String × Bool) → List (String × Bool)
  | [] => []
  | entry :: rest =>
      if entry.1 = name then (entry.1, true) :: rest else entry :: protectFirst name rest

/-- A name already present keeps its place and gains at most protection. -/
def insert (set : NameSet) (name : String) (guard : Bool) : NameSet :=
  if name = "" then set
  else if set.contains name then
    if guard then ⟨protectFirst name set.entries⟩ else set
  else ⟨set.entries ++ [(name, guard)]⟩

def remove (set : NameSet) (name : String) : NameSet :=
  ⟨set.entries.filter (·.1 != name)⟩

def dropUnprotected (set : NameSet) : NameSet :=
  ⟨set.entries.filter (·.2)⟩

def insertSeed (set : NameSet) (seed : String) : NameSet :=
  match Text.before "!" (Text.trim seed) with
  | some name => set.insert name true
  | none => set.insert (Text.trim seed) false

/-- A trailing exclamation mark protects a seed's name. -/
def ofSeed (seeds : List String) : NameSet :=
  seeds.foldl insertSeed empty

def applyItem (set : NameSet) (item : String) : Except Refusal NameSet :=
  if item = "none" then .ok set.dropUnprotected
  else
    match item.toList with
    | '+' :: '!' :: name => .ok (set.insert (Text.trim (String.ofList name)) true)
    | '+' :: name => .ok (set.insert (Text.trim (String.ofList name)) false)
    | '-' :: name =>
        let name := Text.trim (String.ofList name)
        if set.isProtected name then .error (.protectedName name) else .ok (set.remove name)
    | chars =>
        if chars.any Text.isBlank then .error (.malformedItem item)
        else .ok (set.insert item false)

def apply (set : NameSet) (update : String) : Except Refusal NameSet :=
  (Text.items (· == ',') update).foldlM applyItem set

def renderEntry (entry : String × Bool) : String :=
  (if entry.2 then "!" else "") ++ entry.1

def render (set : NameSet) : String :=
  "\n".intercalate (set.entries.map renderEntry)

end NameSet

end Interception
