/-
# Reports as JSON

Strings are escaped as far as the format asks for: quotation marks,
backslashes and control characters, five of which have a letter of their
own.  Lists and objects put each item on a line; an empty list is written
in one piece.
-/
import HeaderCheck.Report

namespace HeaderCheck.Report

/-- A digit of a hexadecimal number. -/
def hexDigit (n : Nat) : Char :=
  Nat.digitChar (n % 16)

/-- A character inside of quotation marks. -/
def escapeChar (c : Char) : Text :=
  if c = '"' then ['\\', '"']
  else if c = '\\' then ['\\', '\\']
  else if c = '\n' then ['\\', 'n']
  else if c = '\r' then ['\\', 'r']
  else if c = '\t' then ['\\', 't']
  else if c = '\x08' then ['\\', 'b']
  else if c = '\x0c' then ['\\', 'f']
  else if c.toNat < 32 then
    ['\\', 'u', '0', '0', hexDigit (c.toNat / 16), hexDigit c.toNat]
  else [c]

/-- A text between quotation marks. -/
def jsonText (t : Text) : String :=
  "\"" ++ String.ofList (t.flatMap escapeChar) ++ "\""

/-- A truth value. -/
def jsonFlag (b : Bool) : String :=
  if b then "true" else "false"

/-- A line break and an indentation. -/
def jsonLine (indent : Nat) : String :=
  "\n" ++ String.ofList (List.replicate (2 * indent) ' ')

/-- An object, its closing brace at the given indentation. -/
def jsonObject (indent : Nat) (fields : List (String × String)) : String :=
  let lines := fields.map fun (key, value) =>
    jsonLine (indent + 1) ++ jsonText key.toList ++ ": " ++ value
  "\x7b" ++ String.intercalate "," lines ++ jsonLine indent ++ "\x7d"

/-- A list, its closing bracket at the given indentation. -/
def jsonList (indent : Nat) (items : List String) : String :=
  if items.isEmpty then "[]"
  else
    "[" ++ String.intercalate "," (items.map (jsonLine (indent + 1) ++ ·)) ++
      jsonLine indent ++ "]"

/-- A violation as JSON. -/
def jsonViolation (v : Violation) : String :=
  jsonObject 2
    [("path", jsonText v.path),
     ("line", toString v.position.line),
     ("column", toString v.position.column),
     ("rule", jsonText ruleName.toList),
     ("message", jsonText v.finding.message.toList),
     ("fixable", jsonFlag v.fixable)]

/-- The report as JSON. -/
def toJson (r : Report) : String :=
  jsonObject 0
    [("files_checked", toString r.checked),
     ("violations", jsonList 1 (r.violations.map jsonViolation))]

end HeaderCheck.Report
