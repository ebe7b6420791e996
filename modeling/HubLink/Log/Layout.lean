import HubLink.Log.Settings
import HubLink.Text.Hex

namespace HubLink.Log

open Text

/-- The JSON text of a character. -/
def objectChar (c : Char) : List Char :=
  if c = '"' || c = '\\' then ['\\', c]
  else if c.toNat < 0x20 then
    ['\\', 'u', '0', '0'] ++ hexByte (UInt8.ofNat c.toNat)
  else [c]

/-- The JSON text of a string. -/
def objectText (s : String) : String :=
  String.ofList ('"' :: s.toList.flatMap objectChar ++ ['"'])

/-- The JSON object with members that are written already. -/
def object (members : List (String × String)) : String :=
  "\x7b" ++ ",".intercalate (members.map fun (name, value) => objectText name ++ ":" ++ value) ++
    "\x7d"

/-- A line as a JSON object. -/
def Line.object (line : Line) : String :=
  Log.object
    [("level", objectText line.level.name),
     ("fields", Log.object
       ((("message", line.message) :: line.fields).map fun (name, value) => (name, objectText value))),
     ("target", objectText line.origin.target)]

/-- A line in a given format. -/
def Format.write (format : Format) (line : Line) : String :=
  match format with
  | .json => line.object
  | .pretty | .compact => line.text

end HubLink.Log
