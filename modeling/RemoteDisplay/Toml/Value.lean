/-!
# Values and tables

The data of a TOML document. Tables keep their entries in the order of the document, and remember
how they came about, because that decides what may still be added to them: a table with a header of
its own and an inline table are complete, the tables that a header or a dotted key passes through
are not.
-/

namespace RemoteDisplay.Toml

/-- How a table came about. -/
inductive Origin where
  /-- Written in braces. -/
  | inline
  /-- It has a header of its own, or is an element of an array of tables. -/
  | header
  /-- A header passes through it. -/
  | path
  /-- A dotted key passes through it. -/
  | dotted
  deriving DecidableEq, Repr

/-- A value of a document. -/
inductive Value where
  | string (s : String)
  | integer (n : Int)
  | float (text : String)
  | boolean (b : Bool)
  | dateTime (text : String)
  | array (items : List Value)
  | table (origin : Origin) (entries : List (String × Value))
  /-- An array of tables, one for each header. -/
  | tables (items : List (List (String × Value)))

/-- The entries of a table, in order. -/
abbrev Entries := List (String × Value)

namespace Entries

/-- Puts a value in place of the one that a key has. -/
def replace (es : Entries) (key : String) (v : Value) : Entries :=
  es.map fun e => if e.1 = key then (key, v) else e

/-- Removes a key. -/
def erase (es : Entries) (key : String) : Entries := es.filter (·.1 ≠ key)

/-- Adds a key that is not there yet. -/
def insert? (es : Entries) (key : String) (v : Value) : Option Entries :=
  if (es.lookup key).isSome then none else some (es ++ [(key, v)])

/-- Changes the table at the end of a path, starting in a table of the given origin. Missing tables
on the way are made; an array of tables stands for its last table. A dotted key may not pass through
a table with a header, and nothing may pass through a value. -/
def updateAt {β : Type} (dotted : Bool) (f : Origin → Entries → Option (Entries × β)) :
    (path : List String) → Origin → Entries → Option (Entries × β)
  | [], origin, es => f origin es
  | key :: path, _, es =>
    match es.lookup key with
    | none => do
      let origin := if dotted then Origin.dotted else .path
      let (sub, b) ← updateAt dotted f path origin []
      return (es ++ [(key, .table origin sub)], b)
    | some (.table origin sub) =>
      if origin = .inline ∨ (dotted ∧ origin = .header) then none
      else do
        let (sub, b) ← updateAt dotted f path origin sub
        return (es.replace key (.table origin sub), b)
    | some (.tables items) => do
      let last ← items.getLast?
      let (sub, b) ← updateAt dotted f path .header last
      return (es.replace key (.tables (items.dropLast ++ [sub])), b)
    | some _ => none

/-- Adds the value of a key, which may be dotted. The last table on the way must have been made by
the key's own dots. -/
def putKey (es : Entries) (path : List String) (key : String) (v : Value) : Option Entries :=
  (updateAt true
    (fun origin es =>
      if (origin = .dotted : Bool) == path.isEmpty then none
      else (es.insert? key v).map fun es => (es, ()))
    path .header es).map (·.1)

end Entries

/-- A line of a document that says something. -/
inductive Statement where
  /-- A key, with the path of tables before its last part. -/
  | entry (path : List String) (key : String) (v : Value)
  /-- The header of a table. -/
  | header (path : List String) (key : String)
  /-- The header of one more table of an array. -/
  | arrayHeader (path : List String) (key : String)

/-- A document as far as it has been read: the tables that are complete, and the current one with
the place where it belongs. -/
structure Draft where
  root : Entries := []
  current : Entries := []
  /-- The path and the key of the current table, and whether it goes into an array; the document's
  own table has none. -/
  place : Option (List String × String × Bool) := none

namespace Draft

/-- The current table goes to its place. -/
def close (d : Draft) : Option Entries :=
  match d.place with
  | none => some d.current
  | some (path, key, inArray) =>
    (Entries.updateAt false
      (fun _ es =>
        match es.lookup key with
        | some (.tables items) =>
          if inArray then some (es.replace key (.tables (items ++ [d.current])), ()) else none
        | some _ => none
        | none =>
          if inArray then none else some (es ++ [(key, .table .header d.current)], ()))
      path .header d.root).map (·.1)

/-- A table begins. Tables that are known only from paths through it stay in it; otherwise it must
be new. -/
def openTable (d : Draft) (path : List String) (key : String) : Option Draft := do
  let root ← d.close
  let (root, current) ← Entries.updateAt false
    (fun _ es =>
      match es.lookup key with
      | none => some (es, [])
      | some (.table .path sub) => some (es.erase key, sub)
      | some _ => none)
    path .header root
  return { root, current, place := some (path, key, false) }

/-- One more table of an array begins. -/
def openArrayTable (d : Draft) (path : List String) (key : String) : Option Draft := do
  let root ← d.close
  let (root, _) ← Entries.updateAt false
    (fun _ es =>
      match es.lookup key with
      | none => some (es ++ [(key, .tables [])], ())
      | some (.tables _) => some (es, ())
      | some _ => none)
    path .header root
  return { root, current := [], place := some (path, key, true) }

/-- Reads one more statement. -/
def add (d : Draft) : Statement → Option Draft
  | .entry path key v => do
    let current ← d.current.putKey path key v
    return { d with current }
  | .header path key => d.openTable path key
  | .arrayHeader path key => d.openArrayTable path key

end Draft

/-- The table that a document's statements describe, unless they contradict each other. -/
def tableOf (statements : List Statement) : Option Entries := do
  let d ← statements.foldlM Draft.add {}
  d.close

/-- The table that the entries of an inline table describe. -/
def inlineTable (entries : List (List String × String × Value)) : Option Value := do
  let es ← entries.foldlM (fun (es : Entries) (path, key, v) => es.putKey path key v) []
  return .table .inline es

end RemoteDisplay.Toml
