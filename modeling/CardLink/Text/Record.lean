/-!
# One-line records

Log lines show a value as its name followed by named fields in braces. A record that keeps some of
its fields to itself ends in two dots.
-/

namespace CardLink.Record

/-- Fields as they stand between the braces. -/
def fields (fs : List (String × String)) : String :=
  ", ".intercalate (fs.map fun f => f.1 ++ ": " ++ f.2)

/-- A record shown in full. -/
def whole (name : String) (fs : List (String × String)) : String :=
  name ++ " \x7b " ++ fields fs ++ " \x7d"

/-- A record with more fields than are shown. -/
def partly (name : String) (fs : List (String × String)) : String :=
  name ++ " \x7b " ++ fields fs ++ ", .. \x7d"

/-- A name applied to one value. -/
def applied (name value : String) : String := name ++ "(" ++ value ++ ")"

/-- A value that may be absent. -/
def optional : Option String → String
  | none => "None"
  | some s => applied "Some" s

/-- A flag as a word. -/
def flag (b : Bool) : String := if b then "true" else "false"

/-- A text in double quotes. -/
def quoted (s : String) : String := "\"" ++ s ++ "\""

end CardLink.Record
