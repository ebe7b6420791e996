import HubLink.Credential.Token
import HubLink.Proofs.Text.Decimal
import HubLink.Proofs.Text.Form
import HubLink.Proofs.Text.Padding

namespace HubLink.Credential.Token

open Text

/-- The fields of a token with their names. -/
def fields (t : Token) : List (String × String) :=
  [("sr", t.resource), ("sig", t.signature), ("se", expiryText t.expiry)] ++
    (t.keyName.map fun name => ("skn", name)).toList

/-- The text of a field. -/
def writeField (field : String × String) : List Char :=
  field.1.toList ++ '=' :: (Form.encode field.2).toList

/-- Reads one field: its name up to the first `=`, and its form-decoded value. -/
def readField? (part : List Char) : Option (String × String) := do
  let (name, form) ← cut? '=' part
  let value ← Form.decode? form
  return (String.ofList name, value)

/-- Reads the fields of a token text: those between `&` behind the scheme. -/
def readFields? (text : String) : Option (List (String × String)) := do
  let row ← after? scheme.toList text.toList
  (segments '&' row).mapM readField?

variable {t t' : Token} {field : String × String}

/-- The text of an expiry needs no form encoding. -/
theorem encode_expiryText (expiry : Int64) :
    Form.encode (expiryText expiry) = expiryText expiry := by
  refine Form.encode_of_plain fun c hc => ?_
  obtain rfl | hdigit := mem_decimalInt hc
  · decide
  · obtain ⟨hlow, hhigh⟩ := isDigit_iff.1 hdigit
    have hbyte : (UInt8.ofNat c.toNat).toNat = c.toNat := UInt8.toNat_ofNat_of_lt (show c.toNat < 256 by omega)
    refine ⟨by omega, ?_⟩
    simp [Form.isPlain, hbyte, hlow, hhigh]

theorem expiryText_inj {expiry expiry' : Int64} (h : expiryText expiry = expiryText expiry') :
    expiry = expiry' :=
  Int64.toInt_inj.1 (decimalInt_inj.1 (String.ofList_injective h))

/-- The text of a token is the scheme followed by its fields joined by `&`. -/
theorem toList_text (t : Token) :
    t.text.toList = scheme.toList ++ join '&' (t.fields.map writeField) := by
  obtain ⟨resource, signature, expiry, keyName⟩ := t
  cases keyName with
  | none => simp [text, fields, writeField, encode_expiryText, join, String.toList_append]
  | some name => simp [text, fields, writeField, encode_expiryText, join, String.toList_append]

/-- The names of fields contain neither `&` nor `=`. -/
theorem not_mem_name (h : field ∈ t.fields) : '&' ∉ field.1.toList ∧ '=' ∉ field.1.toList := by
  have hnames : ∀ name ∈ ["sr", "sig", "se", "skn"], '&' ∉ name.toList ∧ '=' ∉ name.toList := by
    decide
  refine hnames field.1 ?_
  obtain ⟨resource, signature, expiry, keyName⟩ := t
  cases keyName with
  | none =>
    obtain rfl | rfl | rfl := by simpa [fields] using h
    all_goals simp
  | some name =>
    obtain rfl | rfl | rfl | rfl := by simpa [fields] using h
    all_goals simp

theorem ampersand_not_mem_writeField (h : field ∈ t.fields) : '&' ∉ writeField field := by
  have hname := (not_mem_name h).1
  have hform : '&' ∉ (Form.encode field.2).toList := Form.not_mem_encode (by decide) field.2
  simp [writeField, hname, hform]

theorem readField?_writeField (h : '=' ∉ field.1.toList) :
    readField? (writeField field) = some field := by
  unfold readField? writeField
  rw [cut?_append h]
  simp [Form.decode?_encode]

theorem mapM_readField? {row : List (String × String)} (h : ∀ field ∈ row, '=' ∉ field.1.toList) :
    (row.map writeField).mapM readField? = some row := by
  induction row with
  | nil => rfl
  | cons field row ih =>
    obtain ⟨hfield, hrow⟩ := List.forall_mem_cons.1 h
    rw [List.map_cons, List.mapM_cons, readField?_writeField hfield, ih hrow]
    rfl

/-- Reading the text of a token gives its fields. -/
theorem readFields?_text (t : Token) : readFields? t.text = some t.fields := by
  have hrow : after? scheme.toList t.text.toList = some (join '&' (t.fields.map writeField)) :=
    after?_eq_some_iff.2 t.toList_text
  have hparts : segments '&' (join '&' (t.fields.map writeField)) = t.fields.map writeField := by
    apply segments_join
    · simp [fields]
    · intro part hpart
      obtain ⟨field, hfield, rfl⟩ := List.mem_map.1 hpart
      exact ampersand_not_mem_writeField hfield
  rw [readFields?, hrow]
  show (segments '&' (join '&' (t.fields.map writeField))).mapM readField? = some t.fields
  rw [hparts]
  exact mapM_readField? fun field hfield => (not_mem_name hfield).2

/-- Tokens with the same fields are equal. -/
theorem fields_injective (h : t.fields = t'.fields) : t = t' := by
  obtain ⟨resource, signature, expiry, keyName⟩ := t
  obtain ⟨resource', signature', expiry', keyName'⟩ := t'
  obtain ⟨rfl, rfl, hexpiry, hname⟩ : resource = resource' ∧ signature = signature' ∧
      expiryText expiry = expiryText expiry' ∧
      (keyName.map fun name => ("skn", name)).toList =
        (keyName'.map fun name => ("skn", name)).toList := by
    simpa [fields] using h
  obtain rfl := expiryText_inj hexpiry
  obtain rfl : keyName = keyName' := by
    cases keyName <;> cases keyName' <;> simp_all
  rfl

theorem text_inj : t.text = t'.text ↔ t = t' := by
  constructor
  · intro h
    have hfields := t.readFields?_text
    rw [h, readFields?_text] at hfields
    exact (fields_injective (Option.some.inj hfields)).symm
  · rintro rfl
    rfl

/-- Signed texts are equal exactly if resource and expiry are. -/
theorem signedText_inj {resource resource' : String} {expiry expiry' : Int64} :
    signedText resource expiry = signedText resource' expiry' ↔
      resource = resource' ∧ expiry = expiry' := by
  have hcut (resource : String) (expiry : Int64) : cut? '\n' (signedText resource expiry).toList =
      some ((Form.encode resource).toList, (expiryText expiry).toList) := by
    rw [signedText, String.toList_append, String.toList_append, List.append_assoc]
    exact cut?_append (Form.not_mem_encode (by decide) resource) _
  constructor
  · intro h
    have hlines := hcut resource expiry
    rw [h, hcut] at hlines
    obtain ⟨hresource, hexpiry⟩ := Prod.ext_iff.1 (Option.some.inj hlines)
    exact ⟨(Form.encode_injective (String.toList_injective hresource)).symm,
      (expiryText_inj (String.toList_injective hexpiry)).symm⟩
  · rintro ⟨rfl, rfl⟩
    rfl

/-- Signing succeeds exactly with a key that can be decoded, and gives the token with the base64 HMAC
of the signed text. -/
theorem sign_eq_ok_iff {resource key : String} {keyName : Option String} {expiry : Int64} :
    sign resource key keyName expiry = .ok t ↔ ∃ bytes, keyBytes? key = some bytes ∧
      t = { resource, expiry, keyName,
            signature := String.ofList (Digest.Base64.encode
              (Digest.Hmac.sign bytes (utf8 (signedText resource expiry)))) } := by
  unfold sign
  cases keyBytes? key with
  | none => simp
  | some bytes => simp [eq_comm]

theorem fields_of_sign {resource key : String} {keyName : Option String} {expiry : Int64}
    (h : sign resource key keyName expiry = .ok t) :
    t.fields = [("sr", resource), ("sig", t.signature), ("se", expiryText expiry)] ++
      (keyName.map fun name => ("skn", name)).toList := by
  obtain ⟨bytes, -, rfl⟩ := sign_eq_ok_iff.1 h
  rfl

/-- For every signed token, reading its text gives exactly the resource, the signature and the expiry,
and the key name if there is one. Two tokens with the same text are equal, and two signed texts are
equal only for the same resource and expiry. -/
theorem text_unambiguous :
    (∀ resource key keyName expiry t, sign resource key keyName expiry = .ok t →
      readFields? t.text =
        some ([("sr", resource), ("sig", t.signature), ("se", expiryText expiry)] ++
          (keyName.map fun name => ("skn", name)).toList)) ∧
    (∀ t t' : Token, t.text = t'.text ↔ t = t') ∧
    ∀ resource resource' expiry expiry',
      signedText resource expiry = signedText resource' expiry' ↔
        resource = resource' ∧ expiry = expiry' := by
  refine ⟨fun resource key keyName expiry t h => ?_, fun _ _ => text_inj,
    fun _ _ _ _ => signedText_inj⟩
  rw [readFields?_text, fields_of_sign h]

/-- Separators in the resource and in the key name do not produce a field. -/
theorem text_unambiguous_separators :
    ∃ t, sign "h/devices/d&sig=x" "a2V5" (some "n&se=0") (-1) = .ok t ∧
      readFields? t.text = some [("sr", "h/devices/d&sig=x"), ("sig", t.signature), ("se", "-1"),
        ("skn", "n&se=0")] :=
  ⟨_, rfl, text_unambiguous.1 "h/devices/d&sig=x" "a2V5" (some "n&se=0") (-1) _ rfl⟩

end HubLink.Credential.Token
