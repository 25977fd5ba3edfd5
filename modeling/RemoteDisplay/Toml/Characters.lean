/-!
# Characters of a document

Which characters may stand where, line ends, and what is skipped between values.
-/

namespace RemoteDisplay.Toml

/-- A space or a tab. -/
def isSpace (c : Char) : Bool := c = ' ' || c = '\t'

/-- A character that may stand in a comment: a tab, or anything but a control character. -/
def isPlain (c : Char) : Bool :=
  c = '\t' || (0x20 ≤ c.toNat && c.toNat ≤ 0x7e) || 0x80 ≤ c.toNat

/-- A character that stands for itself in a text with escapes. -/
def isBasic (c : Char) : Bool := isPlain c && c ≠ '"' && c ≠ '\\'

/-- A character that stands for itself in a text without escapes. -/
def isLiteral (c : Char) : Bool := isPlain c && c ≠ '\''

/-- A character of a key without quotes: an ASCII letter or digit, an underscore or a hyphen. -/
def isBareKey (c : Char) : Bool := c.isAlphanum || c = '_' || c = '-'

/-- The text after spaces and tabs. -/
def skipSpaces (cs : List Char) : List Char := cs.dropWhile isSpace

/-- The text after a line end, if there is one. -/
def newline? : List Char → Option (List Char)
  | '\n' :: cs => some cs
  | '\r' :: '\n' :: cs => some cs
  | _ => none

/-- The text after a comment, if there is one. -/
def skipComment : List Char → List Char
  | '#' :: cs => cs.dropWhile isPlain
  | cs => cs

/-- The text after the rest of a line that says nothing more: spaces, a comment and the line end or
the end of the document. -/
def lineEnd? (cs : List Char) : Option (List Char) :=
  match skipComment (skipSpaces cs) with
  | [] => some []
  | cs => newline? cs

/-- The text after spaces, line ends and comments. -/
def skipTrivia : (inComment : Bool) → List Char → List Char
  | _, [] => []
  | _, '\n' :: cs => skipTrivia false cs
  | _, '\r' :: '\n' :: cs => skipTrivia false cs
  | true, c :: cs => if isPlain c then skipTrivia true cs else c :: cs
  | false, c :: cs =>
    if isSpace c then skipTrivia false cs
    else if c = '#' then skipTrivia true cs
    else c :: cs

end RemoteDisplay.Toml
