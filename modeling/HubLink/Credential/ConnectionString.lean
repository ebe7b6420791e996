import HubLink.Credential.Error
import HubLink.Text.Blank
import HubLink.Text.Quoted
import HubLink.Text.Segments

namespace HubLink.Credential

open Text

/-- The fields of a device connection string. -/
structure ConnectionString where
  hostName : String
  deviceId : String
  sharedAccessKey : String
  sharedAccessKeyName : Option String
  gatewayHostName : Option String
  deriving DecidableEq

/-- The names of the fields. -/
inductive Field where
  | hostName
  | deviceId
  | sharedAccessKey
  | sharedAccessKeyName
  | gatewayHostName
  deriving DecidableEq

/-- The key under which a field is written. -/
def Field.key : Field → String
  | .hostName => "HostName"
  | .deviceId => "DeviceId"
  | .sharedAccessKey => "SharedAccessKey"
  | .sharedAccessKeyName => "SharedAccessKeyName"
  | .gatewayHostName => "GatewayHostName"

/-- All fields, in the order in which they are written. -/
def Field.all : List Field :=
  [.hostName, .deviceId, .sharedAccessKey, .sharedAccessKeyName, .gatewayHostName]

/-- The field with a key. Keys are case sensitive. -/
def Field.ofKey? (key : String) : Option Field :=
  Field.all.find? (·.key = key)

theorem Field.ofKey?_key (f : Field) : Field.ofKey? f.key = some f := by
  cases f <;> decide

/-- The fields read so far with their values, in the order of the segments. -/
abbrev Fields := List (Field × String)

/-- The value of a field. -/
def Fields.value? (fields : Fields) (f : Field) : Option String :=
  (fields.find? (·.1 = f)).map (·.2)

/-- Reads one segment `Key=Value` and appends its field. A blank segment is skipped; white space
around the key and the value is removed. -/
def Fields.readSegment (fields : Fields) (raw : List Char) : Except Error Fields :=
  if trim raw = [] then .ok fields
  else
    match cut? '=' raw with
    | none => .error (.ofFault (.notKeyValue (String.ofList raw)))
    | some (before, behind) =>
      let key := String.ofList (trim before)
      if key = "ModuleId" then .error (.ofFault .moduleIdentity)
      else
        match Field.ofKey? key with
        | none => .error (.ofFault (.unknownField key))
        | some f =>
          if (fields.value? f).isSome then .error (.duplicateField key)
          else .ok (fields ++ [(f, String.ofList (trim behind))])

/-- The value of a required field; an error if it is missing or empty. -/
def Fields.required (fields : Fields) (f : Field) : Except Error String :=
  match fields.value? f with
  | some value => if value = "" then .error (.missingField f.key) else .ok value
  | none => .error (.missingField f.key)

/-- Reads the segments of a text from left to right. -/
def Fields.parse (text : List Char) : Except Error Fields :=
  (segments ';' (trim text)).foldlM Fields.readSegment []

namespace ConnectionString

/-- The connection string with the given fields; an error for the first missing one that is
required. -/
def ofFields (fields : Fields) : Except Error ConnectionString := do
  let hostName ← fields.required .hostName
  let deviceId ← fields.required .deviceId
  let sharedAccessKey ← fields.required .sharedAccessKey
  return { hostName, deviceId, sharedAccessKey,
           sharedAccessKeyName := fields.value? .sharedAccessKeyName,
           gatewayHostName := fields.value? .gatewayHostName }

/-- Parses a connection string. A faulty segment is reported before any missing field. -/
def parse (text : String) : Except Error ConnectionString := do
  ofFields (← Fields.parse text.toList)

/-- The fields of a connection string with their values. -/
def fields (c : ConnectionString) : Fields :=
  [(.hostName, c.hostName), (.deviceId, c.deviceId), (.sharedAccessKey, c.sharedAccessKey)] ++
    (c.sharedAccessKeyName.map (Field.sharedAccessKeyName, ·)).toList ++
    (c.gatewayHostName.map (Field.gatewayHostName, ·)).toList

/-- The segment of a field. -/
def segment (field : Field × String) : List Char :=
  field.1.key.toList ++ '=' :: field.2.toList

/-- Writes a connection string without white space. -/
def render (c : ConnectionString) : String :=
  String.ofList (join ';' (c.fields.map segment))

/-- The host to connect to: the gateway if there is one, or else the hub. -/
def connectHost (c : ConnectionString) : String :=
  c.gatewayHostName.getD c.hostName

/-- The debug text of a connection string, with its key redacted. -/
def shown (c : ConnectionString) : String :=
  showRecord "ConnectionString"
    [("hostname", quote c.hostName),
     ("device_id", quote c.deviceId),
     ("shared_access_key", quote "***"),
     ("shared_access_key_name", showOption (c.sharedAccessKeyName.map quote)),
     ("gateway_hostname", showOption (c.gatewayHostName.map quote))]

end ConnectionString
end HubLink.Credential
