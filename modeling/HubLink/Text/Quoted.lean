import HubLink.Text.Hex
import HubLink.Text.Hidden

namespace HubLink.Text

/-- A character of a debug text. -/
def quoteChar (c : Char) : List Char :=
  if c = '"' then ['\\', '"']
  else if c = '\\' then ['\\', '\\']
  else if c = '\n' then ['\\', 'n']
  else if c = '\r' then ['\\', 'r']
  else if c = '\t' then ['\\', 't']
  else if c.toNat = 0 then ['\\', '0']
  else if isHidden c then ['\\', 'u', '\x7b'] ++ hexNat c.toNat ++ ['\x7d']
  else [c]

/-- The debug text of a string, between double quotes. -/
def quote (s : String) : String :=
  String.ofList ('"' :: s.toList.flatMap quoteChar ++ ['"'])

/-- The debug text of an optional value, given that of the value. -/
def showOption (shown : Option String) : String :=
  match shown with
  | some text => "Some(" ++ text ++ ")"
  | none => "None"

/-- The text of a boolean. -/
def showBool (b : Bool) : String :=
  if b then "true" else "false"

/-- The debug text of a duration of whole seconds; zero is shown in nanoseconds. -/
def showSeconds (n : Nat) : String :=
  if n = 0 then "0ns" else toString n ++ "s"

/-- The debug text of a record with the given fields. -/
def showRecord (name : String) (fields : List (String × String)) : String :=
  name ++ " \x7b " ++ ", ".intercalate (fields.map fun (field, shown) => field ++ ": " ++ shown) ++
    " \x7d"

/-- The debug text of a record that does not show all of its fields. -/
def showPartOf (name : String) (fields : List (String × String)) : String :=
  name ++ " \x7b " ++ String.join (fields.map fun (field, shown) => field ++ ": " ++ shown ++ ", ") ++
    ".. \x7d"

end HubLink.Text
