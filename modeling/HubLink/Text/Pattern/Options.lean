import HubLink.Text.Blank
import HubLink.Text.CaseRuns
import HubLink.Text.Pattern.Place
import HubLink.Text.Segments

namespace HubLink.Text.Pattern

/-- The flags of a part of a regular expression. -/
structure Options where
  ignoresCase : Bool := false
  /-- Flag `m`: `^` and `$` match at line ends. -/
  isMultiLine : Bool := false
  /-- Flag `s`: a dot matches a line end. -/
  takesLineEnds : Bool := false
  /-- Flag `U`: repetitions are lazy unless a question mark follows. -/
  isReluctant : Bool := false
  /-- Flag `u`: classes are those of Unicode. -/
  isUnicode : Bool := true
  /-- Flag `R`: a carriage return ends a line. -/
  endsLinesAtReturn : Bool := false
  isSpaced : Bool := false
  deriving DecidableEq

namespace Options

/-- Sets or unsets the flag of a letter. -/
def set? (o : Options) (isOn : Bool) : Char → Option Options
  | 'i' => some { o with ignoresCase := isOn }
  | 'm' => some { o with isMultiLine := isOn }
  | 's' => some { o with takesLineEnds := isOn }
  | 'U' => some { o with isReluctant := isOn }
  | 'u' => some { o with isUnicode := isOn }
  | 'R' => some { o with endsLinesAtReturn := isOn }
  | 'x' => some { o with isSpaced := isOn }
  | _ => none

/-- Sets or unsets flags. -/
def setAll? (o : Options) (isOn : Bool) (letters : List Char) : Option Options :=
  letters.foldlM (fun o c => o.set? isOn c) o

/-- Reads the letters of flags, with those behind a dash to be unset. No letter may occur twice, and a
dash needs a letter behind it. -/
def read? (o : Options) (letters : List Char) : Option Options := do
  let named := letters.filter (· ≠ '-')
  if named.eraseDups.length < named.length then none
  match cut? '-' letters with
  | none => o.setAll? true letters
  | some (_, []) => none
  | some (on, off) => (← o.setAll? true on).setAll? false off

/-- Removes white space and comments at the start of a text. -/
def dropBlanks : (isInComment : Bool) → List Char → List Char
  | _, [] => []
  | true, c :: rest => dropBlanks (c ≠ '\n') rest
  | false, c :: rest =>
    if isBlank c then dropBlanks false rest
    else if c = '#' then dropBlanks true rest
    else c :: rest

/-- Skips white space and comments if flag `x` is set. -/
def skip (o : Options) (s : List Char) : List Char :=
  if o.isSpaced then dropBlanks false s else s

/-- The next character without consuming it. With flag `x`, white space and the sign of a comment are
skipped, but not the comment itself. -/
def peek (o : Options) (s : List Char) : Option Char :=
  if o.isSpaced then
    match s.dropWhile isBlank with
    | '#' :: rest => (rest.dropWhile isBlank).head?
    | rest => rest.head?
  else s.head?

/-- A set with all case variants if flag `i` is set. -/
def inCase (o : Options) (s : CharSet) : CharSet :=
  if !o.ignoresCase then s else if o.isUnicode then s.anyCase else s.anyAsciiCase

/-- The complement of a set; `none` without Unicode, since it could match part of a character. -/
def complement? (o : Options) (s : CharSet) : Option CharSet :=
  if o.isUnicode then some s.complement else none

/-- A set or its complement. -/
def negated? (o : Options) (isNegated : Bool) (s : CharSet) : Option CharSet :=
  if isNegated then o.complement? s else some s

/-- The set of a dot that does not match line ends. -/
def withinLine (o : Options) : CharSet :=
  if o.endsLinesAtReturn then (CharSet.ofRuns [(0x0A, 0x0A), (0x0D, 0x0D)]).complement
  else (CharSet.single '\n').complement

/-- The set of a dot; `none` without Unicode. -/
def point? (o : Options) : Option CharSet :=
  if !o.isUnicode then none else some (if o.takesLineEnds then .all else o.withinLine)

/-- The assertion of `^`. -/
def start (o : Options) : Place :=
  if !o.isMultiLine then .textStart else if o.endsLinesAtReturn then .looseLineStart else .lineStart

/-- The assertion of `$`. -/
def stop (o : Options) : Place :=
  if !o.isMultiLine then .textEnd else if o.endsLinesAtReturn then .looseLineEnd else .lineEnd

end Options
end HubLink.Text.Pattern
