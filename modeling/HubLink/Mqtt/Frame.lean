import HubLink.Mqtt.Packet

namespace HubLink.Mqtt

/-- The maximum remaining length of a packet. -/
def maxLength : Nat := 256 * 1024

/-- The result of reading one packet from a stream of bytes. -/
inductive Frame where
  /-- More bytes are needed. -/
  | incomplete
  | broken
  | packet (packet : Incoming) (rest : Bytes)
  deriving DecidableEq

namespace Frame

/-- The result of reading a remaining length. -/
inductive Length where
  | incomplete
  | broken
  | length (value : Nat) (rest : Bytes)

/-- Reads a remaining length of at most `bytesLeft` bytes, 7 bits each; `place` is the weight of the
next one. -/
def readLength (place : Nat) : (bytesLeft : Nat) → Bytes → Length
  | 0, _ => .broken
  | _ + 1, [] => .incomplete
  | n + 1, b :: rest =>
    let low := (b.toNat % 128) * place
    if b.toNat < 128 then .length low rest
    else
      match readLength (place * 128) n rest with
      | .length value rest => .length (low + value) rest
      | other => other

/-- Reads a 16-bit number. -/
def readTwo? : Bytes → Option (Nat × Bytes)
  | high :: low :: rest => some (256 * high.toNat + low.toNat, rest)
  | _ => none

/-- Reads a string behind its length. -/
def readString? (body : Bytes) : Option (String × Bytes) := do
  let (n, rest) ← readTwo? body
  if rest.length < n then none
  let text ← Text.ofUtf8? (rest.take n)
  return (text, rest.drop n)

/-- Reads a publish packet. The quality of service is in bits 1 and 2 of the flags. -/
def readPublish? (flags : Nat) (body : Bytes) : Option Incoming := do
  let quality ← Quality.ofNumber? (flags / 2 % 4)
  let (_, rest) ← readString? body
  match quality with
  | .atMostOnce => return .publish .atMostOnce 0
  | _ =>
    let (id, _) ← readTwo? rest
    if id = 0 then none
    return .publish quality id

/-- Whether all return codes of a subscription are valid. -/
def isSubscriptionCodes (codes : Bytes) : Bool :=
  !codes.isEmpty && codes.all fun c => c = 0 || c = 1 || c = 2 || c = 0x80

/-- Reads the body of a packet of a given type; `none` if it is malformed or not sent by a broker in
an open session. -/
def readBody? (type flags : Nat) (body : Bytes) : Option Incoming :=
  match type with
  | 3 => if body.isEmpty then none else readPublish? flags body
  | 4 => (readTwo? body).map fun (id, _) => .pubAck id
  | 5 => (readTwo? body).map fun (id, _) => .pubRec id
  | 6 => (readTwo? body).map fun (id, _) => .pubRel id
  | 7 => (readTwo? body).map fun (id, _) => .pubComp id
  | 9 =>
    match readTwo? body with
    | some (_, codes) => if isSubscriptionCodes codes then some .idle else none
    | none => none
  | 11 => if body.length = 2 then some .idle else none
  | 13 => some .idle
  | _ => none

/-- Reads the first packet of a stream. -/
def read : Bytes → Frame
  | [] | [_] => .incomplete
  | head :: stream =>
    match readLength 1 4 stream with
    | .incomplete => .incomplete
    | .broken => .broken
    | .length n rest =>
      if maxLength < n then .broken
      else if rest.length < n then .incomplete
      else
        match readBody? (head.toNat / 16) (head.toNat % 16) (rest.take n) with
        | some taken => .packet taken (rest.drop n)
        | none => .broken

theorem read_nil : read [] = .incomplete :=
  rfl

/-- Reading the bytes of an acknowledgement gives its packet id and the rest. -/
theorem read_pubAckBytes {id : Nat} (h : id < 0x10000) (rest : Bytes) :
    read (pubAckBytes id ++ rest) = .packet (.pubAck id) rest := by
  have hid : 256 * (id / 256 % 256) + id % 256 = id := by omega
  have hlength : ¬rest.length + 1 + 1 < 2 := by omega
  simp [pubAckBytes, read, readLength, maxLength, readBody?, readTwo?, hid, hlength]

end Frame
end HubLink.Mqtt
