import UtxoCodec.Toml.Reader

/-!
# Tables of configuration files

The sections of a file make up one table. Sections below a common heading belong together wherever
they stand in the file. A heading may not be repeated, except that each heading in double brackets
begins another item, to which the sections up to the next such heading belong.
-/

namespace UtxoCodec.Toml

namespace Section

/-- Appends a section to those of its group. -/
def addToGroup (key : String) (s : Section) :
    List (String × List Section) → List (String × List Section)
  | [] => [(key, [s])]
  | group :: rest =>
    if group.1 = key then (key, group.2 ++ [s]) :: rest else group :: addToGroup key s rest

/-- Sections with the first part of their heading taken off, grouped by it. -/
def groups (sections : List Section) : List (String × List Section) :=
  sections.foldl
    (fun found s => match s.path with
      | [] => found
      | key :: path => addToGroup key { s with path } found)
    []

/-- Splits sections into items, each of which begins with a heading in double brackets. -/
def splitItems (sections : List Section) : List (List Section) :=
  let split := sections.foldr
    (fun s (below, items) =>
      if s.path.isEmpty && s.isItem then ([], (s :: below) :: items) else (s :: below, items))
    (([], []) : List Section × List (List Section))
  split.2

/-- The fields of a table in sections whose headings have at most `depth` parts. -/
def toFields? : (depth : Nat) → List Section → Option (List Field)
  | depth, sections => do
    let own ← match sections.filter (·.path.isEmpty) with
      | [] => some []
      | [s] => if s.isItem then none else some s.fields
      | _ => none
    let inner ← (groups sections).mapM fun (key, group) => match depth with
      | 0 => none
      | depth + 1 =>
        if group.head?.any fun s => s.path.isEmpty && s.isItem then do
          let items ← (splitItems group).mapM fun item =>
            (toFields? depth (asTable item)).map (Value.table false)
          return (key, Value.array items)
        else (toFields? depth group).map fun fields => (key, Value.table false fields)
    return own ++ inner
where
  /-- The sections of an item as those of a table. -/
  asTable : List Section → List Section
    | [] => []
    | s :: rest => { s with isItem := false } :: rest

end Section

/-- The fields of a file. -/
def ofText? (text : String) : Option (List Field) := do
  let sections ← Section.ofText? text
  Section.toFields? (sections.foldl (fun depth s => max depth s.path.length) 0) sections

end UtxoCodec.Toml
