namespace HubLink.Credential

/-- The faults of one segment. -/
inductive SegmentFault where
  /-- The segment has no equals sign. -/
  | notKeyValue (raw : String)
  /-- The segment has the key `ModuleId`. -/
  | moduleIdentity
  /-- The segment has a key that no field has. -/
  | unknownField (key : String)
  deriving DecidableEq

/-- The text of a fault. -/
def SegmentFault.detail : SegmentFault → String
  | .notKeyValue raw => "segment \x27" ++ raw ++ "\x27 is not Key=Value"
  | .moduleIdentity => "module identities (ModuleId) are not supported"
  | .unknownField key => "unknown field \x27" ++ key ++ "\x27"

/-- The errors of connection strings and keys. -/
inductive Error where
  /-- A required field is missing or empty. -/
  | missingField (name : String)
  /-- A field is given twice. -/
  | duplicateField (name : String)
  /-- A segment is faulty. -/
  | malformed (detail : String)
  /-- The key is not valid base64. -/
  | badKey
  deriving DecidableEq

/-- The error for a faulty segment. -/
def Error.ofFault (fault : SegmentFault) : Error :=
  .malformed fault.detail

/-- The text of an error. -/
def Error.message : Error → String
  | .missingField name => "Connection string is missing required field: " ++ name
  | .duplicateField name => "Connection string field appears more than once: " ++ name
  | .malformed detail => "Invalid connection string: " ++ detail
  | .badKey => "Shared access key is not valid base64"

end HubLink.Credential
