import RemoteDisplay.Fault
import RemoteDisplay.Text.Hidden

/-!
# Quoted text

A text between quotation marks, as diagnostics show it: quotation marks, backslashes and the common
controls have an escape of their own, and what has no shape is written by its number.
-/

namespace RemoteDisplay

/-- A character inside quotation marks. -/
def Text.quoteChar (c : Char) : String :=
  if c = '"' then "\\\""
  else if c = '\\' then "\\\\"
  else if c = '\n' then "\\n"
  else if c = '\r' then "\\r"
  else if c = '\t' then "\\t"
  else if c = '\x00' then "\\0"
  else if isHidden c then "\\u\x7b" ++ hexDigits c.toNat ++ "\x7d"
  else String.singleton c

/-- A text between quotation marks. -/
def Text.quote (s : String) : String := "\"" ++ String.join (s.toList.map quoteChar) ++ "\""

/-- The fault with its fields named, for diagnostics. -/
def Fault.debug : Fault → String
  | allocationFailed what => s!"AllocationFailed \x7b what: {Text.quote what} \x7d"
  | capacityExceeded resource limit =>
    s!"CapacityExceeded \x7b resource: {Text.quote resource}, limit: {limit} \x7d"
  | invalidConfiguration reason => s!"ConfigInvalid({Text.quote reason})"
  | protocolViolation reason => s!"ProtocolInvariantViolation({Text.quote reason})"
  | unknownRelease id => s!"UnknownRelease({id})"
  | invalidGeometry reason => s!"InvalidGeometry({Text.quote reason})"

end RemoteDisplay
