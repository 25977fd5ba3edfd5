/-!
# Writing texts

A text is written in the first of five forms that can hold it: plainly between double or single
quotation marks, plainly between triple ones of either kind, and with escapes. A plain form holds
what stands for itself in it; tabs are escaped between double marks, and a mark that would end the
text is escaped.
-/

namespace RemoteDisplay.Toml

/-- A control character that has to be escaped: any but tab and line feed. -/
def needsEscape (c : Char) : Bool :=
  (c.toNat < 0x20 && c ≠ '\t' && c ≠ '\n') || c = '\x7f'

/-- The text has three of a mark in a row. -/
def hasTriple (mark : Char) : List Char → Bool
  | a :: b :: c :: cs => (a = mark && b = mark && c = mark) || hasTriple mark (b :: c :: cs)
  | _ => false

/-- The length of the longest run of a mark, given the length of a run that goes on. -/
def longestRun (mark : Char) : (run : Nat) → List Char → Nat
  | run, [] => run
  | run, c :: cs => if c = mark then longestRun mark (run + 1) cs else max run (longestRun mark 0 cs)

/-- The marks of either kind that stand in a row can be counted in a byte. -/
def runsFit (s : List Char) : Bool := longestRun '"' 0 s < 256 && longestRun '\'' 0 s < 256

/-- The form in which a text is written. -/
inductive Form where
  /-- Between double marks on one line, nothing but tabs escaped. -/
  | basic
  /-- Between single marks on one line. -/
  | literal
  /-- Between triple double marks, nothing but tabs escaped. -/
  | basicLines
  /-- Between triple single marks. -/
  | literalLines
  /-- Between double marks with all escapes, triple ones if there is a line feed. -/
  | escaped
  deriving DecidableEq, Repr

/-- The first form that can hold the text. -/
def formOf (s : List Char) : Form :=
  let escapes := s.any needsEscape
  if !(s.contains '"' || s.contains '\\' || s.contains '\n' || escapes) then .basic
  else if !(s.contains '\'' || s.contains '\n' || escapes) then .literal
  else if !(s.contains '\\' || escapes || hasTriple '"' s) then .basicLines
  else if !(escapes || hasTriple '\'' s) then .literalLines
  else .escaped

/-- An upper-case hexadecimal digit. -/
def upperDigit (n : Nat) : Char := if n < 10 then Char.ofNat (48 + n) else Char.ofNat (55 + n)

/-- The escape for a control character that has no letter of its own. -/
def unicodeEscape (c : Char) : List Char :=
  let n := c.toNat
  ['\\', 'u', upperDigit (n / 4096 % 16), upperDigit (n / 256 % 16), upperDigit (n / 16 % 16),
    upperDigit (n % 16)]

/-- A character other than a mark or a line feed, as it is written between double marks. -/
def escapedChar (c : Char) : List Char :=
  if c = '\x08' then ['\\', 'b']
  else if c = '\t' then ['\\', 't']
  else if c = '\x0c' then ['\\', 'f']
  else if c = '\r' then ['\\', 'r']
  else if c = '\\' then ['\\', '\\']
  else if c.toNat < 0x20 || c = '\x7f' then unicodeEscape c
  else [c]

/-- A text between double marks on one line. -/
def escapedLine : List Char → List Char
  | [] => []
  | c :: cs =>
    (if c = '"' then ['\\', '"'] else if c = '\n' then ['\\', 'n'] else escapedChar c) ++
      escapedLine cs

/-- A text between triple double marks, after `marks` marks in a row: every third is escaped. -/
def escapedLines : (marks : Nat) → List Char → List Char
  | _, [] => []
  | marks, c :: cs =>
    if c = '"' then
      if marks = 2 then '\\' :: '"' :: escapedLines 0 cs else '"' :: escapedLines (marks + 1) cs
    else if c = '\n' then '\n' :: escapedLines 0 cs
    else escapedChar c ++ escapedLines 0 cs

/-- A line feed right after the opening marks, if the text has line feeds itself. -/
def opening (s : List Char) : List Char := if s.contains '\n' then ['\n'] else []

/-- A text as it is written in a document. -/
def writeText (s : List Char) : List Char :=
  match formOf s with
  | .basic => ['"'] ++ escapedLine s ++ ['"']
  | .literal => ['\''] ++ s ++ ['\'']
  | .basicLines => ['"', '"', '"'] ++ opening s ++ escapedLines 0 s ++ ['"', '"', '"']
  | .literalLines => ['\'', '\'', '\''] ++ opening s ++ s ++ ['\'', '\'', '\'']
  | .escaped =>
    if s.contains '\n' then ['"', '"', '"', '\n'] ++ escapedLines 0 s ++ ['"', '"', '"']
    else ['"'] ++ escapedLine s ++ ['"']

end RemoteDisplay.Toml
