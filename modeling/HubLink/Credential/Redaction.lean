import HubLink.Credential.Token
import HubLink.Text.Fold

namespace HubLink.Credential

open Text

namespace Redaction

/-- A pattern of a mark and the secret that follows it. -/
structure Rule where
  /-- The mark with its replacement text, if the secret starts at the head of the text. -/
  start? : List Char → Option (List Char)
  /-- The characters that belong to the secret. -/
  isSecret : Char → Bool

/-- Replaces all secrets in one pass from the left; `inside` says that a secret has started and its
characters are dropped. The characters of the mark behind its first belong to the secret, so they are
dropped as well. -/
def scan (rule : Rule) : Bool → List Char → List Char
  | _, [] => []
  | inside, c :: rest =>
    if inside && rule.isSecret c then scan rule true rest
    else
      match rule.start? (c :: rest) with
      | some written => written ++ scan rule true rest
      | none => c :: scan rule false rest

/-- The text with its secrets replaced. -/
def hide (rule : Rule) (text : String) : String :=
  String.ofList (scan rule false text.toList)

/-- Whether a character belongs to a signature, which ends at `&` or white space. -/
def isSignature (c : Char) : Bool :=
  c != '&' && !isBlank c

/-- The signature of a token: at least one character after `sig=`. -/
def signature : Rule where
  start? text :=
    match text with
    | 's' :: 'i' :: 'g' :: '=' :: c :: _ => if isSignature c then some "sig=***".toList else none
    | _ => none
  isSecret := isSignature

/-- The mark `SharedAccessKey=` with its letters case folded. -/
def keyMark : List Char :=
  "sharedaccesskey=".toList

/-- A shared access key: the characters after its mark up to a semicolon, in any letter case. -/
def sharedAccessKey : Rule where
  start? text :=
    let head := text.take keyMark.length
    if head.map fold = keyMark then some (head ++ "[REDACTED]".toList) else none
  isSecret := (· != ';')

end Redaction

/-- The text with the signatures of tokens redacted. -/
def redactSignature (text : String) : String :=
  Redaction.hide Redaction.signature text

/-- The text with shared access keys redacted. -/
def redactKey (text : String) : String :=
  Redaction.hide Redaction.sharedAccessKey text

/-- The debug text of a token, with its signature redacted. -/
def Token.shown (t : Token) : String :=
  redactSignature t.text

end HubLink.Credential
