import RemoteDisplay.Text.Digits
import RemoteDisplay.Toml.Characters

/-!
# Texts of a document

A text is written in one of four forms: between single or triple quotation marks, with or without
escapes. The readers here start behind the opening mark and end behind the closing one.
-/

namespace RemoteDisplay.Toml

/-- A reader takes something from the front of a text and returns the rest. -/
abbrev Reader (α : Type) := List Char → Option (α × List Char)

/-- Puts a character, if there is one, in front of what a reader took. -/
def before? (c : Option Char) (t : Option (List Char × List Char)) : Option (List Char × List Char) :=
  match c, t with
  | some c, some (cs, rest) => some (c :: cs, rest)
  | _, _ => none

/-- The character for a one-letter escape. -/
def escape? (c : Char) : Option Char :=
  match c with
  | 'b' => some '\x08'
  | 't' => some '\t'
  | 'n' => some '\n'
  | 'f' => some '\x0c'
  | 'r' => some '\r'
  | '"' => some '"'
  | '\\' => some '\\'
  | _ => none

/-- The character whose number is written in hexadecimal digits, if there is such a character. -/
def scalar? (digits : List Char) : Option Char :=
  match hexNumber? digits with
  | some n => if n.isValidChar then some (Char.ofNat n) else none
  | none => none

/-- A text with escapes on one line. -/
def basicText : Reader (List Char)
  | [] => none
  | c :: cs =>
    if c = '"' then some ([], cs)
    else if c = '\\' then
      match cs with
      | 'u' :: a :: b :: c :: d :: cs => before? (scalar? [a, b, c, d]) (basicText cs)
      | 'U' :: a :: b :: c :: d :: e :: f :: g :: h :: cs =>
        before? (scalar? [a, b, c, d, e, f, g, h]) (basicText cs)
      | e :: cs => before? (escape? e) (basicText cs)
      | [] => none
    else if isBasic c then before? (some c) (basicText cs)
    else none

/-- A text without escapes on one line. -/
def literalText : Reader (List Char)
  | [] => none
  | c :: cs =>
    if c = '\'' then some ([], cs)
    else if isLiteral c then before? (some c) (literalText cs)
    else none

/-- What a line end means inside a text with escapes. -/
inductive Joint where
  /-- It belongs to the text. -/
  | none
  /-- A backslash came before: the line end must follow, and is left out. -/
  | due
  /-- A left-out line end came before: all spaces and line ends are left out. -/
  | open
  deriving DecidableEq, Repr

/-- The end of a text between triple marks, three of which have been read: up to two more marks
belong to the text. -/
def closeText (mark : Char) (cs : List Char) : List Char × List Char :=
  match cs with
  | a :: b :: rest =>
    if a = mark then if b = mark then ([mark, mark], rest) else ([mark], b :: rest)
    else ([], cs)
  | [a] => if a = mark then ([mark], []) else ([], cs)
  | [] => ([], [])

/-- A text with escapes over several lines. A backslash at the end of a line joins it to the next
text. -/
def basicLines : Joint → Reader (List Char)
  | _, [] => none
  | j, c :: cs =>
    if c = '\n' then
      if j = .none then before? (some '\n') (basicLines .none cs) else basicLines .open cs
    else if c = '\r' then
      match cs with
      | '\n' :: cs =>
        if j = .none then before? (some '\n') (basicLines .none cs) else basicLines .open cs
      | _ => none
    else if isSpace c then
      if j = .none then before? (some c) (basicLines .none cs) else basicLines j cs
    else if j = .due then none
    else if c = '"' then
      match cs with
      | '"' :: '"' :: cs => some (closeText '"' cs)
      | cs => before? (some '"') (basicLines .none cs)
    else if c = '\\' then
      match cs with
      | 'u' :: a :: b :: c :: d :: cs => before? (scalar? [a, b, c, d]) (basicLines .none cs)
      | 'U' :: a :: b :: c :: d :: e :: f :: g :: h :: cs =>
        before? (scalar? [a, b, c, d, e, f, g, h]) (basicLines .none cs)
      | e :: rest =>
        if isSpace e || e = '\n' || e = '\r' then basicLines .due (e :: rest)
        else before? (escape? e) (basicLines .none rest)
      | [] => none
    else if isBasic c then before? (some c) (basicLines .none cs)
    else none

/-- A text without escapes over several lines. -/
def literalLines : Reader (List Char)
  | [] => none
  | c :: cs =>
    if c = '\n' then before? (some '\n') (literalLines cs)
    else if c = '\r' then
      match cs with
      | '\n' :: cs => before? (some '\n') (literalLines cs)
      | _ => none
    else if c = '\'' then
      match cs with
      | '\'' :: '\'' :: cs => some (closeText '\'' cs)
      | cs => before? (some '\'') (literalLines cs)
    else if isLiteral c then before? (some c) (literalLines cs)
    else none

/-- A line end right after the opening marks does not belong to the text. -/
def skipFirstNewline (cs : List Char) : List Char := (newline? cs).getD cs

/-- A text on one line, from its opening mark on. -/
def lineText : Reader (List Char)
  | '"' :: cs => basicText cs
  | '\'' :: cs => literalText cs
  | _ => none

/-- A text in any of the four forms, from its opening mark on. -/
def text : Reader (List Char)
  | '"' :: '"' :: '"' :: cs => basicLines .none (skipFirstNewline cs)
  | '\'' :: '\'' :: '\'' :: cs => literalLines (skipFirstNewline cs)
  | cs => lineText cs

end RemoteDisplay.Toml
