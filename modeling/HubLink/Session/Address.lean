import HubLink.Text.Decimal
import HubLink.Text.Fold
import HubLink.Text.Hex
import HubLink.Text.Segments

namespace HubLink.Session

open Text

/-- The octal digit that a character stands for. -/
def octalValue? (c : Char) : Option Nat :=
  (digitValue? c).filter (· < 8)

/-- A number of an IPv4 address: decimal, octal after `0`, or hexadecimal after `0x`. -/
def addressNumber? (part : List Char) : Option Nat :=
  match part with
  | '0' :: c :: digits =>
    if c = 'x' ∨ c = 'X' then numeral? 16 hexValue? digits else numeral? 8 octalValue? (c :: digits)
  | digits => decimal? digits

/-- An IPv4 address: one to four numbers between dots, the last of which fills all remaining bytes. -/
def isFourAddress (host : List Char) : Bool :=
  match ((segments '.' host).map addressNumber?).reverse with
  | some last :: others =>
    others.length < 4 && others.all (·.any (· < 256)) && last < Nat.pow 256 (4 - others.length)
  | _ => false

/-- A decimal number up to 255 without leading zeros. -/
def isByteNumber (digits : List Char) : Bool :=
  match decimal? digits with
  | some n => n < 256 && decimal n = digits
  | none => false

/-- Four such numbers between dots. -/
def isDotted (text : List Char) : Bool :=
  let parts := segments '.' text
  parts.length = 4 && parts.all isByteNumber

/-- A group of an IPv6 address: one to four hexadecimal digits. -/
def isGroup (text : List Char) : Bool :=
  !text.isEmpty && text.length ≤ 4 && text.all fun c => (hexValue? c).isSome

/-- The number of groups between colons. If `allowsDotted`, the last two can be written as a dotted
IPv4 address. -/
def groupCount? (allowsDotted : Bool) (text : List Char) : Option Nat :=
  let parts := segments ':' text
  if text.isEmpty then some 0
  else if parts.all isGroup then some parts.length
  else if allowsDotted && parts.dropLast.all isGroup && parts.getLast?.any isDotted then
    some (parts.length + 1)
  else none

/-- The text before and after the first `::`. -/
def cutAtGap? : List Char → Option (List Char × List Char)
  | [] => none
  | ':' :: ':' :: rest => some ([], rest)
  | c :: rest => (cutAtGap? rest).map fun (front, back) => (c :: front, back)

/-- An IPv6 address without a zone: eight groups, of which `::` replaces at least one. -/
def isGroups (text : List Char) : Bool :=
  match cutAtGap? text with
  | none => groupCount? true text = some 8
  | some (front, back) =>
    match groupCount? false front, groupCount? true back with
    | some m, some n => m + n < 8
    | _, _ => false

/-- An IPv6 address, optionally with a numeric zone after a percent sign. -/
def isSixAddress (text : List Char) : Bool :=
  match cut? '%' text with
  | some (groups, zone) => isGroups groups && (decimal? zone).any (· < UInt32.size)
  | none => isGroups text

/-- An IPv6 address in brackets. -/
def isBracketed (host : List Char) : Bool :=
  match host with
  | '[' :: rest => rest.getLast? = some ']' && isSixAddress rest.dropLast
  | _ => false

/-- Whether a host is `localhost` or an IP address, so that no name is looked up. -/
def isLocalOrAddress (host : String) : Bool :=
  let text := host.toList
  sameLetters "localhost" host || isFourAddress text || isSixAddress text || isBracketed text

end HubLink.Session
