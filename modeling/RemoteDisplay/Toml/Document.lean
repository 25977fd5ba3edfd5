import RemoteDisplay.Toml.Number

/-!
# Documents

A document is read as a list of statements, one for each line that says something, and the
statements then describe its table. Arrays and inline tables may be nested, up to a limit, and so
may the parts of a dotted key.
-/

namespace RemoteDisplay.Toml

/-- Values may be nested, and keys may have parts, only below this number. -/
def nestingLimit : Nat := 80

/-- A single part of a key. -/
def keyPart (cs : List Char) : Option (String × List Char) :=
  match cs with
  | '"' :: _ | '\'' :: _ => (lineText cs).map fun (s, rest) => (String.ofList s, rest)
  | _ =>
    let name := cs.takeWhile isBareKey
    if name.isEmpty then none else some (String.ofList name, cs.dropWhile isBareKey)

/-- Up to `n` parts of a key with points between them and spaces around them. -/
def keyParts : (n : Nat) → Reader (List String)
  | 0, _ => none
  | n + 1, cs => do
    let (part, rest) ← keyPart (skipSpaces cs)
    match skipSpaces rest with
    | '.' :: rest => do
      let (parts, rest) ← keyParts n rest
      return (part :: parts, rest)
    | rest => return ([part], rest)

/-- A key: the path before its last part, and that part. -/
def key (cs : List Char) : Option ((List String × String) × List Char) := do
  let (parts, rest) ← keyParts (nestingLimit - 1) cs
  let last ← parts.getLast?
  return ((parts.dropLast, last), rest)

/-- The rest of an array after its bracket or a comma; `n` bounds the number of its items. -/
def arrayItems (item : Reader Value) : (n : Nat) → Reader (List Value)
  | 0, _ => none
  | n + 1, cs =>
    match skipTrivia false cs with
    | ']' :: rest => some ([], rest)
    | cs => do
      let (v, rest) ← item cs
      match skipTrivia false rest with
      | ']' :: rest => return ([v], rest)
      | ',' :: rest => do
        let (vs, rest) ← arrayItems item n rest
        return (v :: vs, rest)
      | _ => none

/-- A key and its value with an equals sign between them, and the spaces after it. -/
def assignment (item : Reader Value) (cs : List Char) :
    Option ((List String × String × Value) × List Char) := do
  let ((path, name), rest) ← key cs
  let rest ← char? '=' rest
  let (v, rest) ← item (skipSpaces rest)
  return ((path, name, v), rest)

/-- The rest of an inline table after a comma; `n` bounds the number of its entries. -/
def inlineEntries (item : Reader Value) : (n : Nat) → Reader (List (List String × String × Value))
  | 0, _ => none
  | n + 1, cs => do
    let (e, rest) ← assignment item cs
    match skipSpaces rest with
    | '}' :: rest => return ([e], rest)
    | ',' :: rest => do
      let (es, rest) ← inlineEntries item n rest
      return (e :: es, rest)
    | _ => none

/-- The rest of an inline table after its brace. -/
def inlineBody (item : Reader Value) (cs : List Char) : Option (Value × List Char) :=
  match skipSpaces cs with
  | '}' :: rest => some (.table .inline [], rest)
  | cs => do
    let (es, rest) ← inlineEntries item cs.length cs
    let v ← inlineTable es
    return (v, rest)

/-- A value whose items, if it has some, are read by `item`. -/
def valueWith (item : Option (Reader Value)) : Reader Value
  | 't' :: 'r' :: 'u' :: 'e' :: rest => some (.boolean true, rest)
  | 'f' :: 'a' :: 'l' :: 's' :: 'e' :: rest => some (.boolean false, rest)
  | '[' :: cs => do
    let (vs, rest) ← arrayItems (← item) (cs.length + 1) cs
    return (.array vs, rest)
  | '{' :: cs => do inlineBody (← item) cs
  | cs =>
    match cs with
    | '"' :: _ | '\'' :: _ => (text cs).map fun (s, rest) => (.string (String.ofList s), rest)
    | _ => (dateTime cs).or ((float cs).or (integer cs))

/-- A value in which arrays and inline tables are nested at most `depth` deep. -/
def value : (depth : Nat) → Reader Value
  | 0 => valueWith none
  | depth + 1 => valueWith (some (value depth))

/-- A line of a document, from its first character that is no space. -/
def line : Reader (Option Statement)
  | '#' :: cs => (lineEnd? ('#' :: cs)).map fun rest => (none, rest)
  | '[' :: '[' :: cs => do
    let ((path, name), rest) ← key cs
    let rest ← char? ']' rest
    let rest ← char? ']' rest
    let rest ← lineEnd? rest
    return (some (.arrayHeader path name), rest)
  | '[' :: cs => do
    let ((path, name), rest) ← key cs
    let rest ← char? ']' rest
    let rest ← lineEnd? rest
    return (some (.header path name), rest)
  | cs =>
    match newline? cs with
    | some rest => some (none, rest)
    | none => do
      let ((path, name, v), rest) ← assignment (value (nestingLimit - 1)) cs
      let rest ← lineEnd? rest
      return (some (.entry path name v), rest)

/-- The statements of up to `n` lines. -/
def statements : (n : Nat) → List Char → Option (List Statement)
  | 0, _ => none
  | n + 1, cs =>
    match skipSpaces cs with
    | [] => some []
    | cs => do
      let (s, rest) ← line cs
      let ss ← statements n rest
      return s.toList ++ ss

/-- The text without a byte order mark in front. -/
def skipByteOrderMark : List Char → List Char
  | '\ufeff' :: cs => cs
  | cs => cs

/-- The table of a document, if the text is one. -/
def parse (s : String) : Option Entries := do
  let cs := skipByteOrderMark s.toList
  let ss ← statements (cs.length + 1) cs
  tableOf ss

end RemoteDisplay.Toml
