import Interception.Document.TomlText

/-!
Documents written as TOML: sections, names and values. A text is read line by
line into sections, and the sections are put together at the end. A name or a
section may be defined once, and only names with dots add to a table that
other names with dots began.
-/

namespace Interception.Toml

/-- A value of a section, or the table that names with dots make up. -/
inductive Entry
  | value (document : Document)
  | dotted (fields : List (String × Entry))

mutual

def Entry.document : Entry → Document
  | .value document => document
  | .dotted fields => .table (entryFields fields)

def entryFields : List (String × Entry) → List (String × Document)
  | [] => []
  | (name, entry) :: rest => (name, entry.document) :: entryFields rest

end

def replaceEntry (name : String) (entry : Entry) :
    List (String × Entry) → List (String × Entry)
  | [] => [(name, entry)]
  | field :: rest =>
      if field.1 = name then (name, entry) :: rest else field :: replaceEntry name entry rest

/-- Puts a value at the end of a path of names that has none yet. -/
def define (value : Document) : List String → List (String × Entry) →
    Option (List (String × Entry))
  | [], _ => none
  | [name], fields =>
      match fields.lookup name with
      | none => some (replaceEntry name (.value value) fields)
      | some _ => none
  | name :: rest, fields =>
      let deeper (inner : List (String × Entry)) : Option (List (String × Entry)) :=
        (define value rest inner).map fun inner => replaceEntry name (.dotted inner) fields
      match fields.lookup name with
      | none => deeper []
      | some (.dotted inner) => deeper inner
      | some (.value _) => none

/-! ### Values -/

mutual

def readValue : Nat → Chars → Option (Document × Chars)
  | 0, _ => none
  | fuel + 1, text =>
      match text with
      | '"' :: rest => (readQuoted '"' rest).map fun found => (.text found.value, found.rest)
      | '\'' :: rest => (readQuoted '\'' rest).map fun found => (.text found.value, found.rest)
      | '[' :: rest => (readItems fuel rest).map fun (items, rest) => (.list items, rest)
      | '\x7b' :: rest =>
          match skipInset rest with
          | '\x7d' :: rest => some (.table [], rest)
          | rest => (readFields fuel [] rest).map fun (fields, rest) =>
              (.table (entryFields fields), rest)
      | '+' :: rest => (readWord rest).bind fun (word, rest) => readNumber word rest
      | _ => do
          let (word, rest) ← readWord text
          match word with
          | ['t', 'r', 'u', 'e'] => return (.flag true, rest)
          | ['f', 'a', 'l', 's', 'e'] => return (.flag false, rest)
          | _ => readNumber word rest

/-- The items of a list, which may end with a comma, and its bracket. -/
def readItems : Nat → Chars → Option (List Document × Chars)
  | 0, _ => none
  | fuel + 1, text => do
      match ← skipToItem text with
      | ']' :: rest => return ([], rest)
      | text =>
          let (item, rest) ← readValue fuel text
          match ← skipToItem rest with
          | ',' :: rest =>
              let (items, rest) ← readItems fuel rest
              return (item :: items, rest)
          | ']' :: rest => return ([item], rest)
          | _ => none

/-- The fields of a table on one line, and its closing brace. -/
def readFields : Nat → List (String × Entry) → Chars → Option (List (String × Entry) × Chars)
  | 0, _, _ => none
  | fuel + 1, fields, text => do
      let (path, rest) ← readPath (text.length + 1) text
      match rest with
      | '=' :: rest =>
          let (value, rest) ← readValue fuel (skipInset rest)
          let fields ← define value path fields
          match skipInset rest with
          | '\x7d' :: rest => return (fields, rest)
          | ',' :: rest => readFields fuel fields rest
          | _ => none
      | _ => none

end

/-! ### Sections -/

/-- A section with the names that lead to it. One that may be repeated is an
item of a list. -/
structure Section where
  path : List String
  repeated : Bool
  fields : List (String × Entry)

def Section.inside (part : Section) : Section := { part with path := part.path.tail }

/-- Begins a list item. -/
def Section.begins (part : Section) : Bool := part.path.isEmpty && part.repeated

/-- The sections of an item by itself. -/
def alone : List Section → List Section
  | [] => []
  | first :: rest => { first with repeated := false } :: rest

/-- The sections from each one that begins an item to the next. -/
def itemsOf : List Section → List (List Section)
  | [] => []
  | part :: rest =>
      match itemsOf rest, rest with
      | group :: groups, next :: _ =>
          if next.begins then [part] :: group :: groups else (part :: group) :: groups
      | groups, _ => [part] :: groups

mutual

/-- The fields of the sections at one level: those of the section itself, and
the tables and lists below it. -/
def assemble : Nat → List Section → Option (List (String × Document))
  | 0, _ => none
  | fuel + 1, parts => do
      let own ←
        match parts.filter (·.path.isEmpty) with
        | [] => some []
        | [part] => if part.repeated then none else some (entryFields part.fields)
        | _ => none
      let below := parts.filter (!·.path.isEmpty)
      (below.filterMap (·.path.head?)).eraseDups.foldlM (fun fields name => do
        if (Document.field? name fields).isSome then none
        else
          let group := (below.filter (·.path.head? == some name)).map Section.inside
          return Document.setField name (← assembleBelow fuel group) fields) own

/-- The table or list of the sections below a name. -/
def assembleBelow : Nat → List Section → Option Document
  | 0, _ => none
  | fuel + 1, parts =>
      if (parts.head?.map (·.begins)).getD false then
        ((itemsOf parts).mapM fun group => (assemble fuel (alone group)).map Document.table).map
          Document.list
      else (assemble fuel parts).map Document.table

end

/-- The sections in order, the latest first. -/
def readEntry (parts : List Section) (text : Chars) : Option (List Section × Chars) := do
  let (path, rest) ← readPath (text.length + 1) text
  match rest with
  | '=' :: rest =>
      let (value, rest) ← readValue (rest.length + 1) (skipInset rest)
      let rest ← endLine (skipInset rest)
      match parts with
      | part :: earlier =>
          return ({ part with fields := ← define value path part.fields } :: earlier, rest)
      | [] => none
  | _ => none

def readHeader (parts : List Section) (repeated : Bool) (text : Chars) :
    Option (List Section × Chars) := do
  let (path, rest) ← readPath (text.length + 1) text
  let rest ←
    match repeated, rest with
    | false, ']' :: rest => some rest
    | true, ']' :: ']' :: rest => some rest
    | _, _ => none
  return (⟨path, repeated, []⟩ :: parts, ← endLine (skipInset rest))

def readLines : Nat → List Section → Chars → Option (List Section)
  | 0, _, _ => none
  | fuel + 1, parts, text => do
      match ← skipToItem text with
      | [] => return parts
      | '[' :: '[' :: rest =>
          let (parts, rest) ← readHeader parts true rest
          readLines fuel parts rest
      | '[' :: rest =>
          let (parts, rest) ← readHeader parts false rest
          readLines fuel parts rest
      | text =>
          let (parts, rest) ← readEntry parts text
          readLines fuel parts rest

/-- The mark that a text may begin with. -/
def dropMark : Chars → Chars
  | '\ufeff' :: text => text
  | text => text

/-- The document that a whole text spells. -/
def read? (text : String) : Option Document := do
  let chars := foldLineEnds (dropMark text.toList)
  let parts ← readLines (chars.length + 1) [⟨[], false, []⟩] chars
  let depth := (parts.map (·.path.length)).foldl max 0
  return .table (← assemble (2 * depth + 1) parts.reverse)

end Interception.Toml
