import HubLink.Number.Binary64

namespace HubLink.Toml

/-- A TOML value. A table keeps the order of its keys; a date or time is kept without its content. -/
inductive Value where
  | string (text : String)
  | integer (n : Int)
  | float (x : Number.Binary64)
  | boolean (b : Bool)
  | moment
  | array (items : List Value)
  | table (entries : List (String × Value))

/-- Whether a number is in the range of TOML integers, signed 64 bits. -/
def isInteger (n : Int) : Bool :=
  -0x8000000000000000 ≤ n && n < 0x8000000000000000

end HubLink.Toml
