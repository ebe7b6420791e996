import HubLink.Credential.Redaction
import HubLink.Proofs.Credential.TokenFields

namespace HubLink.Credential

open Text

namespace Redaction

variable {c : Char} {s t rest : List Char}

/-- The text starts with `sig=` and at least one character of a signature. -/
def StartsSignature (s : List Char) : Prop :=
  ∃ c rest, s = "sig=".toList ++ c :: rest ∧ isSignature c = true

theorem start?_of_startsSignature (h : StartsSignature s) :
    signature.start? s = some "sig=***".toList := by
  obtain ⟨c, rest, rfl, hc⟩ := h
  exact if_pos hc

theorem start?_of_not_startsSignature (h : ¬ StartsSignature s) : signature.start? s = none := by
  unfold signature
  dsimp only
  split
  case h_1 c rest => exact if_neg fun hc => h ⟨c, rest, rfl, hc⟩
  case h_2 => rfl

/-- A signature does not extend over `&` or white space. -/
theorem startsSignature_append_iff (h : ∀ c ∈ t.head?, isSignature c = false) :
    StartsSignature (s ++ t) ↔ StartsSignature s := by
  constructor
  · rintro ⟨c, rest, hs, hc⟩
    have hmark : ∀ d ∈ "sig=".toList ++ [c], isSignature d = true := by
      intro d hd
      obtain hd | hd := List.mem_append.1 hd
      · exact List.all_eq_true.1 (show "sig=".toList.all isSignature = true by decide) d hd
      · rwa [List.mem_singleton.1 hd]
    rw [List.append_cons] at hs
    obtain ⟨more, hshort, ht⟩ | ⟨more, hlong, -⟩ := List.append_eq_append_iff.1 hs
    · cases more with
      | nil => exact ⟨c, [], by simpa using hshort.symm, hc⟩
      | cons d more =>
        have hmem : d ∈ "sig=".toList ++ [c] := by
          rw [hshort]
          exact List.mem_append_right s List.mem_cons_self
        have hd := h d (by simp [ht])
        rw [hmark d hmem] at hd
        cases hd
    · exact ⟨c, more, by simp [hlong], hc⟩
  · rintro ⟨c, rest, rfl, hc⟩
    exact ⟨c, rest ++ t, by simp, hc⟩

theorem not_startsSignature_of_head (hc : isSignature c = false) : ¬ StartsSignature (c :: rest) := by
  have hnil : StartsSignature ([] ++ c :: rest) ↔ StartsSignature [] :=
    startsSignature_append_iff (by simp [hc])
  rintro hstarts
  obtain ⟨d, more, hd, -⟩ := hnil.1 hstarts
  cases hd

/-- At `&` or white space the scan keeps the character and starts again outside of a secret. -/
theorem scan_separator (hc : isSignature c = false) (inside : Bool) (rest : List Char) :
    scan signature inside (c :: rest) = c :: scan signature false rest := by
  have hsecret : signature.isSecret c = false := hc
  rw [scan, start?_of_not_startsSignature (not_startsSignature_of_head hc), hsecret, Bool.and_false]
  rfl

/-- The text in front of `&` or white space is scanned independently. -/
theorem scan_append_separator (hc : isSignature c = false) (inside : Bool) (s rest : List Char) :
    scan signature inside (s ++ c :: rest) =
      scan signature inside s ++ c :: scan signature false rest := by
  induction s generalizing inside with
  | nil => exact scan_separator hc inside rest
  | cons d s ih =>
    have hstarts : StartsSignature (d :: s ++ c :: rest) ↔ StartsSignature (d :: s) :=
      startsSignature_append_iff (by simp [hc])
    rw [List.cons_append] at hstarts
    rw [List.cons_append, scan, scan]
    split
    case isTrue => exact ih true
    case isFalse =>
      by_cases hsignature : StartsSignature (d :: s)
      · rw [start?_of_startsSignature (hstarts.2 hsignature), start?_of_startsSignature hsignature]
        simp only [ih, List.append_assoc]
      · rw [start?_of_not_startsSignature (mt hstarts.1 hsignature),
          start?_of_not_startsSignature hsignature]
        simp only [ih, List.cons_append]

theorem scan_cons (h : ¬ StartsSignature (c :: s)) :
    scan signature false (c :: s) = c :: scan signature false s := by
  rw [scan, Bool.false_and, if_neg Bool.false_ne_true, start?_of_not_startsSignature h]

/-- Inside a secret, characters of a signature are dropped. -/
theorem scan_true_of_signature (h : ∀ c ∈ s, isSignature c = true) : scan signature true s = [] := by
  induction s with
  | nil => rfl
  | cons c s ih =>
    obtain ⟨hc, hs⟩ := List.forall_mem_cons.1 h
    have hsecret : signature.isSecret c = true := hc
    rw [scan, hsecret, Bool.and_self, if_pos rfl, ih hs]

/-- A signature is replaced as a whole. -/
theorem scan_signature (h : ∀ c ∈ s, isSignature c = true) (hne : s ≠ []) :
    scan signature false ("sig=".toList ++ s) = "sig=***".toList := by
  obtain ⟨c, rest, rfl⟩ := List.exists_cons_of_ne_nil hne
  have hstarts : StartsSignature ("sig=".toList ++ c :: rest) := ⟨c, rest, rfl, h c List.mem_cons_self⟩
  have hmark : ∀ d ∈ "ig=".toList ++ c :: rest, isSignature d = true := by
    refine List.forall_mem_append.2 ⟨?_, h⟩
    exact List.all_eq_true.1 (by decide)
  show scan signature false ('s' :: ("ig=".toList ++ c :: rest)) = _
  rw [scan, Bool.false_and, if_neg Bool.false_ne_true]
  rw [show 's' :: ("ig=".toList ++ c :: rest) = "sig=".toList ++ c :: rest from rfl,
    start?_of_startsSignature hstarts]
  simp only [scan_true_of_signature hmark, List.append_nil]

/-- A text without `=` is kept. -/
theorem scan_of_equals_not_mem (h : '=' ∉ s) : scan signature false s = s := by
  induction s with
  | nil => rfl
  | cons c s ih =>
    obtain ⟨-, hs⟩ : '=' ≠ c ∧ '=' ∉ s := by simpa using h
    have hstarts : ¬ StartsSignature (c :: s) := by
      rintro ⟨d, rest, hd, -⟩
      rw [hd] at h
      simp at h
    rw [scan_cons hstarts, ih hs]

/-- A field whose name does not end with `sig` is kept, if its value has no `=`. -/
theorem scan_field {name value : List Char} (hname : '=' ∉ name) (hvalue : '=' ∉ value)
    (hother : ¬ "sig".toList <:+ name) :
    scan signature false (name ++ '=' :: value) = name ++ '=' :: value := by
  induction name with
  | nil =>
    have hstarts : ¬ StartsSignature ('=' :: value) := by
      rintro ⟨d, rest, hd, -⟩
      cases hd
    rw [List.nil_append, scan_cons hstarts, scan_of_equals_not_mem hvalue]
  | cons c name ih =>
    have hrest : '=' ∉ name := fun hmem => hname (List.mem_cons_of_mem c hmem)
    have hstarts : ¬ StartsSignature (c :: (name ++ '=' :: value)) := by
      rintro ⟨d, rest, hd, -⟩
      -- Both texts are cut at their first equals sign, so the name is that of a signature.
      have hcut : cut? '=' (c :: name ++ '=' :: value) = some ("sig".toList, d :: rest) := by
        rw [List.cons_append, hd]
        rfl
      rw [cut?_append hname] at hcut
      obtain ⟨hsig, -⟩ := Prod.ext_iff.1 (Option.some.inj hcut)
      exact hother ⟨[], hsig.symm⟩
    rw [List.cons_append, scan_cons hstarts, ih hrest fun hsuffix =>
      hother (hsuffix.trans (List.suffix_cons c name))]

end Redaction

open Redaction

namespace Token

/-- The text of a token with another text in place of the signature. -/
def textWith (t : Token) (written : String) : String :=
  scheme ++ "sr=" ++ Form.encode t.resource ++ "&sig=" ++ written ++
    "&se=" ++ expiryText t.expiry ++
    match t.keyName with
    | some name => "&skn=" ++ Form.encode name
    | none => ""

/-- The text of a token before the `&` in front of the signature. -/
def lead (t : Token) : List Char :=
  scheme.toList ++ writeField ("sr", t.resource)

/-- The text of a token behind the `&` after the signature. -/
def tail (t : Token) : List Char :=
  writeField ("se", expiryText t.expiry) ++
    match t.keyName with
    | some name => '&' :: writeField ("skn", name)
    | none => []

variable {t t' : Token}

theorem text_eq_textWith (t : Token) : t.text = t.textWith (Form.encode t.signature) :=
  rfl

theorem toList_textWith (t : Token) (written : String) :
    (t.textWith written).toList =
      t.lead ++ '&' :: ("sig=".toList ++ written.toList ++ '&' :: t.tail) := by
  obtain ⟨resource, signature, expiry, keyName⟩ := t
  cases keyName with
  | none => simp [textWith, lead, tail, writeField, encode_expiryText]
  | some name => simp [textWith, lead, tail, writeField, encode_expiryText]

theorem isSignature_of_mem_encode {c : Char} {s : String} (h : c ∈ (Form.encode s).toList) :
    isSignature c = true := by
  have hform := Form.isFormChar_of_mem_encode h
  have hampersand : c ≠ '&' := by
    rintro rfl
    cases hform
  simp [isSignature, hampersand, Form.isBlank_of_isFormChar hform]

/-- In any text that contains a token, its signature is replaced, and the text before and behind it is
scanned independently. -/
theorem scan_text (hne : t.signature ≠ "") (front back : List Char) :
    scan Redaction.signature false (front ++ t.text.toList ++ back) =
      scan Redaction.signature false (front ++ t.lead) ++
        '&' :: ("sig=***".toList ++ '&' :: scan Redaction.signature false (t.tail ++ back)) := by
  have hform : (Form.encode t.signature).toList ≠ [] := fun hnil =>
    Form.encode_ne_empty hne (String.toList_eq_nil_iff.1 hnil)
  have hsignature := scan_signature (fun c hc => isSignature_of_mem_encode hc) hform
  have hampersand : isSignature '&' = false := by decide
  have hsplit : front ++ t.text.toList ++ back = (front ++ t.lead) ++ '&' ::
      (("sig=".toList ++ (Form.encode t.signature).toList) ++ '&' :: (t.tail ++ back)) := by
    rw [text_eq_textWith, toList_textWith]
    simp
  rw [hsplit, scan_append_separator hampersand, scan_append_separator hampersand, hsignature]

theorem scan_lead (t : Token) : scan Redaction.signature false t.lead = t.lead := by
  have hvalue : '=' ∉ (Form.encode t.resource).toList := Form.not_mem_encode (by decide) _
  have hlead : t.lead =
      (scheme.toList ++ "sr".toList) ++ '=' :: (Form.encode t.resource).toList := by
    simp [lead, writeField]
  rw [hlead]
  exact scan_field (by decide) hvalue (by decide)

theorem scan_tail (t : Token) : scan Redaction.signature false t.tail = t.tail := by
  have hfield (name value : String) (hname : '=' ∉ name.toList)
      (hother : ¬ "sig".toList <:+ name.toList) :
      scan Redaction.signature false (writeField (name, value)) = writeField (name, value) :=
    scan_field hname (Form.not_mem_encode (by decide) value) hother
  have hexpiry := hfield "se" (expiryText t.expiry) (by decide) (by decide)
  unfold tail
  cases t.keyName with
  | none =>
    simp only [List.append_nil]
    exact hexpiry
  | some name =>
    simp only
    rw [scan_append_separator (c := '&') (by decide), hexpiry, hfield "skn" name (by decide) (by decide)]

/-- The debug text of a token is its text with `***` in place of the signature. -/
theorem shown_eq_textWith (hne : t.signature ≠ "") : t.shown = t.textWith "***" := by
  have hscan := scan_text hne [] []
  simp only [List.nil_append, List.append_nil, scan_lead, scan_tail] at hscan
  apply String.toList_injective
  rw [shown, redactSignature, hide, String.toList_ofList, hscan, toList_textWith]
  simp

/-- Two tokens that differ only in their signatures have the same redaction in any text. -/
theorem redactSignature_eq (hresource : t.resource = t'.resource) (hexpiry : t.expiry = t'.expiry)
    (hname : t.keyName = t'.keyName) (hne : t.signature ≠ "") (hne' : t'.signature ≠ "")
    (front back : String) :
    redactSignature (front ++ t.text ++ back) = redactSignature (front ++ t'.text ++ back) := by
  have hlead : t.lead = t'.lead := by rw [lead, lead, hresource]
  have htail : t.tail = t'.tail := by rw [tail, tail, hexpiry, hname]
  rw [redactSignature, redactSignature, hide, hide, String.toList_append, String.toList_append,
    String.toList_append, String.toList_append, scan_text hne, scan_text hne', hlead, htail]

/-- Signs a token with `mac` in place of HMAC-SHA-256. -/
def signWith (mac : Bytes → Bytes → Bytes) (resource key : String) (keyName : Option String)
    (expiry : Int64) : Except Error Token :=
  match keyBytes? key with
  | none => .error .badKey
  | some bytes =>
    let code := mac bytes (utf8 (signedText resource expiry))
    .ok { resource, signature := String.ofList (Digest.Base64.encode code), expiry, keyName }

theorem sign_eq_signWith : sign = signWith Digest.Hmac.sign :=
  rfl

variable {mac : Bytes → Bytes → Bytes} {resource key key' : String} {keyName : Option String}
  {expiry : Int64}

/-- With a code of 32 bytes, the signature is not empty. -/
theorem signWith_spec (hmac : ∀ key message, (mac key message).length = 32)
    (h : signWith mac resource key keyName expiry = .ok t) :
    t.resource = resource ∧ t.expiry = expiry ∧ t.keyName = keyName ∧ t.signature ≠ "" := by
  unfold signWith at h
  cases hkey : keyBytes? key with
  | none => simp [hkey] at h
  | some bytes =>
    obtain rfl : _ = t := by simpa [hkey] using h
    refine ⟨rfl, rfl, rfl, ?_⟩
    have hlength := hmac bytes (utf8 (signedText resource expiry))
    obtain ⟨a, b, c, rest, hcode⟩ : ∃ a b c rest,
        mac bytes (utf8 (signedText resource expiry)) = a :: b :: c :: rest := by
      match hcode : mac bytes (utf8 (signedText resource expiry)) with
      | [] | [_] | [_, _] => simp [hcode] at hlength
      | a :: b :: c :: rest => exact ⟨a, b, c, rest, rfl⟩
    rw [hcode]
    intro hempty
    cases String.ofList_injective hempty

/-- For any code `mac` of 32 bytes in place of HMAC-SHA-256, and any two keys: two texts that differ
only in the tokens signed with these keys have the same redaction, and the debug text of a token is
its text with `***` in place of the signature. -/
theorem signature_hidden (hmac : ∀ key message, (mac key message).length = 32)
    (h : signWith mac resource key keyName expiry = .ok t)
    (h' : signWith mac resource key' keyName expiry = .ok t') :
    sign = signWith Digest.Hmac.sign ∧
    (∀ front back : String,
      redactSignature (front ++ t.text ++ back) = redactSignature (front ++ t'.text ++ back)) ∧
    (t.text = t.textWith (Form.encode t.signature) ∧ t.shown = t.textWith "***") ∧
    (t'.text = t'.textWith (Form.encode t'.signature) ∧ t'.shown = t'.textWith "***") := by
  obtain ⟨hresource, hexpiry, hname, hne⟩ := signWith_spec hmac h
  obtain ⟨hresource', hexpiry', hname', hne'⟩ := signWith_spec hmac h'
  refine ⟨sign_eq_signWith, fun front back => ?_, ⟨t.text_eq_textWith, shown_eq_textWith hne⟩,
    ⟨t'.text_eq_textWith, shown_eq_textWith hne'⟩⟩
  exact redactSignature_eq (hresource.trans hresource'.symm) (hexpiry.trans hexpiry'.symm)
    (hname.trans hname'.symm) hne hne' front back

/-- Marks of signatures in front of a token and behind it do not affect its redaction. -/
theorem signature_hidden_between_marks :
    ∃ t t', sign "h/devices/d" "a2V5" (some "n") 5 = .ok t ∧
      sign "h/devices/d" "a2Vz" (some "n") 5 = .ok t' ∧
      redactSignature ("sig=a&sig=" ++ t.text ++ "sig=b") =
        redactSignature ("sig=a&sig=" ++ t'.text ++ "sig=b") ∧
      t.shown = t.textWith "***" ∧ t'.shown = t'.textWith "***" := by
  obtain ⟨t, ht⟩ : ∃ t, signWith Digest.Hmac.sign "h/devices/d" "a2V5" (some "n") 5 = .ok t :=
    ⟨_, rfl⟩
  obtain ⟨t', ht'⟩ : ∃ t', signWith Digest.Hmac.sign "h/devices/d" "a2Vz" (some "n") 5 = .ok t' :=
    ⟨_, rfl⟩
  obtain ⟨-, halike, ⟨-, hshown⟩, -, hshown'⟩ := signature_hidden Digest.Hmac.length_sign ht ht'
  rw [← sign_eq_signWith] at ht ht'
  exact ⟨t, t', ht, ht', halike "sig=a&sig=" "sig=b", hshown, hshown'⟩

end Token
end HubLink.Credential
