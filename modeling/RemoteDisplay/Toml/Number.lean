import RemoteDisplay.Toml.Text
import RemoteDisplay.Toml.Value

/-!
# Numbers and dates of a document

Integers in four bases, floats, and dates and times. Underscores may separate digits. An integer
must fit in 64 bits, a float may not be too large, and a date must exist in the calendar.
-/

namespace RemoteDisplay.Toml

/-- Digits, before each of which an underscore may stand, and the text after them. -/
def digits (isDigit : Char → Bool) : List Char → List Char × List Char
  | '_' :: c :: cs =>
    if isDigit c then
      let (ds, rest) := digits isDigit cs
      (c :: ds, rest)
    else ([], '_' :: c :: cs)
  | c :: cs =>
    if isDigit c then
      let (ds, rest) := digits isDigit cs
      (c :: ds, rest)
    else ([], c :: cs)
  | [] => ([], [])

/-- The digits of a number. The first is one, and underscores stand between two digits only. -/
def number (isDigit : Char → Bool) : Reader (List Char)
  | [] => none
  | c :: cs =>
    if !isDigit c then none
    else
      match digits isDigit cs with
      | (_, '_' :: _) => none
      | (ds, rest) => some (c :: ds, rest)

/-- The number that decimal digits write. -/
def decimal (ds : List Char) : Nat := ds.foldl (fun n c => 10 * n + (c.toNat - '0'.toNat)) 0

def isOctal (c : Char) : Bool := '0' ≤ c && c ≤ '7'

def isBinary (c : Char) : Bool := c = '0' || c = '1'

/-- A sign, if there is one: whether it is negative. -/
def sign : List Char → Bool × List Char
  | '+' :: cs => (false, cs)
  | '-' :: cs => (true, cs)
  | cs => (false, cs)

/-- The integer part of a decimal number: a single zero, or digits that start with another one. -/
def whole : Reader (List Char)
  | '0' :: '_' :: _ => none
  | '0' :: cs => some (['0'], cs)
  | cs => number Char.isDigit cs

/-- The fraction of a float, from its point on. -/
def fraction : Reader (List Char)
  | '.' :: cs => number Char.isDigit cs
  | _ => none

/-- The exponent of a float, from its letter on. -/
def exponent (cs : List Char) : Option (Int × List Char) :=
  match cs with
  | c :: cs =>
    if c = 'e' ∨ c = 'E' then do
      let (negative, cs) := sign cs
      let (ds, cs) ← number Char.isDigit cs
      return (if negative then -(decimal ds : Int) else decimal ds, cs)
    else none
  | [] => none

/-- The decimal number `m · 10 ^ e` rounds to infinity in double precision: it is at least half a
unit beyond the largest double. -/
def tooLarge (m : Nat) (e : Int) : Bool :=
  let limit := (Nat.pow 2 54 - 1) * Nat.pow 2 970
  if m = 0 then false
  else if 0 ≤ e then e > 400 || m * Nat.pow 10 e.toNat ≥ limit
  else
    let places := (-e).toNat
    places < (Nat.toDigits 10 m).length && m ≥ limit * Nat.pow 10 places

/-- What was read, as text. -/
def taken (before after : List Char) : String :=
  String.ofList (before.take (before.length - after.length))

/-- A float: an integer part and a fraction, an exponent or both; or infinity, or not a number. A
positive one that is too large is refused. -/
def float (cs : List Char) : Option (Value × List Char) :=
  let (negative, body) := sign cs
  match body with
  | 'i' :: 'n' :: 'f' :: rest => some (.float (taken cs rest), rest)
  | 'n' :: 'a' :: 'n' :: rest => some (.float (taken cs rest), rest)
  | _ => do
    let (ws, rest) ← whole body
    let (fs, e, rest) ←
      match fraction rest with
      | some (fs, rest) =>
        match exponent rest with
        | some (e, rest) => some (fs, e, rest)
        | none => some (fs, 0, rest)
      | none => (exponent rest).map fun (e, rest) => ([], e, rest)
    if !negative && tooLarge (decimal (ws ++ fs)) (e - fs.length) then none
    else some (.float (taken cs rest), rest)

/-- An integer of 64 bits with a sign. -/
def ranged (n : Int) (rest : List Char) : Option (Value × List Char) :=
  if -9223372036854775808 ≤ n ∧ n ≤ 9223372036854775807 then some (.integer n, rest) else none

/-- The number that digits of a base up to sixteen write. -/
def numberInBase (base : Nat) (ds : List Char) : Nat :=
  ds.foldl (fun n c => base * n + (hexDigit? c).getD 0) 0

/-- An integer, in base sixteen, eight or two after a prefix. -/
def integer (cs : List Char) : Option (Value × List Char) :=
  match cs with
  | '0' :: 'x' :: cs => do
    let (ds, rest) ← number (fun c => (hexDigit? c).isSome) cs
    ranged (numberInBase 16 ds) rest
  | '0' :: 'o' :: cs => do
    let (ds, rest) ← number isOctal cs
    ranged (numberInBase 8 ds) rest
  | '0' :: 'b' :: cs => do
    let (ds, rest) ← number isBinary cs
    ranged (numberInBase 2 ds) rest
  | cs => do
    let (negative, body) := sign cs
    let (ds, rest) ← whole body
    ranged (if negative then -(decimal ds : Int) else decimal ds) rest

/-- Exactly `n` decimal digits, as a number. -/
def fixedDigits (n : Nat) (cs : List Char) : Option (Nat × List Char) :=
  let ds := cs.take n
  if ds.length = n ∧ ds.all Char.isDigit then some (decimal ds, cs.drop n) else none

/-- One given character. -/
def char? (c : Char) : List Char → Option (List Char)
  | d :: cs => if c = d then some cs else none
  | [] => none

/-- The number of days in a month. -/
def daysInMonth (year month : Nat) : Nat :=
  let leap := year % 4 = 0 ∧ (year % 100 ≠ 0 ∨ year % 400 = 0)
  if month = 2 then (if leap then 29 else 28)
  else if month = 4 ∨ month = 6 ∨ month = 9 ∨ month = 11 then 30
  else 31

/-- The text after a date, if there is one. -/
def date? (cs : List Char) : Option (List Char) := do
  let (year, cs) ← fixedDigits 4 cs
  let cs ← char? '-' cs
  let (month, cs) ← fixedDigits 2 cs
  let cs ← char? '-' cs
  let (day, cs) ← fixedDigits 2 cs
  if 1 ≤ month ∧ month ≤ 12 ∧ 1 ≤ day ∧ day ≤ daysInMonth year month then some cs else none

/-- The text after hours and minutes, if there are some. -/
def hourMinute? (cs : List Char) : Option (List Char) := do
  let (hour, cs) ← fixedDigits 2 cs
  let cs ← char? ':' cs
  let (minute, cs) ← fixedDigits 2 cs
  if hour ≤ 23 ∧ minute ≤ 59 then some cs else none

/-- The text after a time of day, if there is one. A leap second is allowed. -/
def time? (cs : List Char) : Option (List Char) := do
  let cs ← hourMinute? cs
  let cs ← char? ':' cs
  let (second, cs) ← fixedDigits 2 cs
  if second > 60 then none
  else
    match cs with
    | '.' :: c :: rest => if c.isDigit then some (rest.dropWhile Char.isDigit) else some cs
    | _ => some cs

/-- The text after an offset from universal time, if there is one. -/
def offset? : List Char → Option (List Char)
  | 'Z' :: cs => some cs
  | 'z' :: cs => some cs
  | '+' :: cs => hourMinute? cs
  | '-' :: cs => hourMinute? cs
  | _ => none

/-- The text after a time of day that follows a date, if there is one. -/
def timeOfDate? : List Char → Option (List Char)
  | c :: cs => do
    if c = 'T' ∨ c = 't' ∨ c = ' ' then
      let cs ← time? cs
      return (offset? cs).getD cs
    else none
  | [] => none

/-- A date, a date with a time, or a time. -/
def dateTime (cs : List Char) : Option (Value × List Char) := do
  let rest ←
    match date? cs with
    | some rest => some ((timeOfDate? rest).getD rest)
    | none => time? cs
  return (.dateTime (taken cs rest), rest)

end RemoteDisplay.Toml
