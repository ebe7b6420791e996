import HubLink.Log.Span
import HubLink.Text.Alphanumeric
import HubLink.Text.Blank
import HubLink.Text.Bytes
import HubLink.Text.Decimal
import HubLink.Text.Fold
import HubLink.Text.Pattern.Reader
import HubLink.Text.Pattern.Search
import HubLink.Text.Segments

namespace HubLink.Log

open Text

/-- A condition on a field of a span or a line. -/
structure FieldTest where
  name : String
  /-- The text that the value has to match; `none` for any value. -/
  value : Option String
  /-- The regular expression of the value, if it is one. -/
  pattern : Option Pattern := none
  deriving DecidableEq

/-- A filter directive `target[span{field=value}]=level`. Parts that are left out match everything. -/
structure Directive where
  target : Option String := none
  span : Option String := none
  field : Option FieldTest := none
  /-- The maximum level that passes; `none` for off. -/
  limit : Option Level := some .trace
  deriving DecidableEq

/-- The faults of a directive. -/
inductive Directive.Fault where
  | malformed
  /-- A part starts or ends inside of a character, at which the program panics. -/
  | splitCharacter
  deriving DecidableEq

/-- The names of levels. -/
def limitWords : List (String × Option Level) :=
  [("error", some .error), ("warn", some .warn), ("info", some .info), ("debug", some .debug),
   ("trace", some .trace), ("off", none)]

/-- The levels by number, starting with 0 for off. -/
def limitsByNumber : List (Option Level) :=
  [none, some .error, some .warn, some .info, some .debug, some .trace]

/-- The level of a name or a number. -/
def limit? (text : String) : Option (Option Level) :=
  match boundedDecimal? limitsByNumber.length text.toList with
  | some n => limitsByNumber[n]?
  | none => (limitWords.find? fun word => sameLetters word.1 text).map (·.2)

namespace FieldTest

/-- The text without a leading sign. -/
def unsigned (text : List Char) : List Char :=
  match text with
  | '+' :: rest | '-' :: rest => rest
  | _ => text

/-- Whether a text is empty or an exponent. -/
def isExponent (text : List Char) : Bool :=
  match text with
  | [] => true
  | e :: rest => lower e = 'e' && (decimal? (unsigned rest)).isSome

/-- Whether a text is a number. -/
def isNumber (text : List Char) : Bool :=
  let body := unsigned text
  let whole := body.takeWhile isDigit
  let (part, rest) := match body.dropWhile isDigit with
    | '.' :: rest => (rest.takeWhile isDigit, rest.dropWhile isDigit)
    | rest => ([], rest)
  (["inf", "infinity", "nan"].any (sameLetters · (String.ofList body))) ||
    (!(whole ++ part).isEmpty && isExponent rest)

/-- Whether a value is a number or a boolean, which a displayed value never matches. -/
def isTyped (value : String) : Bool :=
  value = "true" || value = "false" || isNumber value.toList

/-- Reads a condition `name` or `name=value`. A value other than a number or a boolean has to be a
valid regular expression. -/
def read? (text : String) : Option FieldTest :=
  match (segments '=' text.toList).map String.ofList with
  | name :: value :: _ =>
    if isTyped value then some { name, value }
    else (Pattern.read? value.toList).map fun pattern => { name, value, pattern }
  | [name] => some { name, value := none }
  | [] => none

/-- Whether a displayed value satisfies the condition. -/
def accepts (t : FieldTest) (shown : String) : Bool :=
  t.value.isNone || t.pattern.any (·.isFoundAtEnd shown.toList)

end FieldTest

namespace Directive

/-- The state of the reader of a directive; the numbers are the positions at which its parts start. -/
inductive Stage where
  | start
  | targetOrLimit (first : Nat)
  | span (first : Nat)
  | field (first : Nat)
  | behindField
  | behindSpan
  | limit (first : Nat)
  deriving DecidableEq

/-- The text between two byte positions. -/
def between (text : List Char) (first last : Nat) : Except Fault String :=
  match dropBytes? first text with
  | some rest =>
    match takeBytes? (last - first) rest with
    | some part => .ok (String.ofList part)
    | none => .error .splitCharacter
  | none => .error .splitCharacter

/-- The text from a byte position on. -/
def behind (text : List Char) (first : Nat) : Except Fault String :=
  match dropBytes? first text with
  | some rest => .ok (String.ofList rest)
  | none => .error .splitCharacter

/-- Whether a character can start a directive without a bracket. -/
def isFirst (c : Char) : Bool :=
  c = '-' || c = ':' || c = '_' || isAlphanumeric c

/-- Reads the character at `place` of the trimmed text. The parts are cut out of the untrimmed `text`,
so white space in front shifts them. -/
def take (text : List Char) (place : Nat) (c : Char) (d : Directive) :
    Stage → Except Fault (Directive × Stage)
  | .start =>
    if c = '[' then .ok (d, .span (place + 1))
    else if isFirst c then .ok (d, .targetOrLimit place)
    else .error .malformed
  | .targetOrLimit first =>
    if c = '=' then do return ({ d with target := ← between text first place }, .limit (place + 1))
    else if c = '[' then do
      return ({ d with target := ← between text first place }, .span (place + 1))
    else .ok (d, .targetOrLimit first)
  | .span first =>
    if c = ']' then do return ({ d with span := ← between text first place }, .behindSpan)
    else if c = '\x7b' then do
      let name ← between text first place
      return ({ d with span := if name = "" then none else some name }, .field (place + 1))
    else .ok (d, .span first)
  | .field first =>
    if c = '\x7d' then do
      let name ← between text first place
      match FieldTest.read? name with
      | some test =>
        if name = "" then .error .malformed
        else return ({ d with field := some test }, .behindField)
      | none => .error .malformed
    else .ok (d, .field first)
  | .behindField => if c = ']' then .ok (d, .behindSpan) else .error .malformed
  | .behindSpan => if c = '=' then .ok (d, .limit (place + 1)) else .error .malformed
  | .limit first => .ok (d, .limit first)

/-- Reads all characters from a position on. -/
def takeAll (text : List Char) :
    Nat → List Char → Directive × Stage → Except Fault (Directive × Stage)
  | _, [], state => .ok state
  | place, c :: rest, (d, stage) => do
    takeAll text (place + c.utf8Size) rest (← take text place c d stage)

/-- Reads a directive. A single word is a level for everything, or else a target with all levels;
without a level all levels pass. -/
def read (text : List Char) : Except Fault Directive := do
  match ← takeAll text 0 (trim text) ({}, .start) with
  | (d, .targetOrLimit first) =>
    let word ← behind text first
    match limit? word with
    | some limit => return { d with limit }
    | none => return { d with target := word }
  | (d, .limit first) =>
    let word ← behind text first
    if word = "" then return d
    else
      match limit? word with
      | some limit => return { d with limit }
      | none => .error .malformed
  | (d, .behindSpan) => return d
  | _ => .error .malformed

/-- Whether the target of a directive covers a module. -/
def covers (d : Directive) (origin : Origin) : Bool :=
  d.target.all fun target => target.toList.isPrefixOf origin.target.toList

/-- Whether a directive has no condition on spans. -/
def isForLines (d : Directive) : Bool :=
  d.span.isNone && d.field.all (·.value.isNone)

/-- Whether a directive on lines also applies to the spans of a module; their values are not
considered. -/
def coversOrigin (d : Directive) (origin : Origin) : Bool :=
  d.isForLines && d.covers origin

/-- Whether a directive on lines applies to a line. -/
def coversLine (d : Directive) (line : Line) : Bool :=
  d.coversOrigin line.origin && d.field.all fun test => line.hasValue test.name

/-- Whether a directive has a condition on spans. -/
def isForSpans (d : Directive) : Bool :=
  d.span.isSome || d.field.isSome

/-- Whether a directive on spans applies to a span, without considering its values. -/
def coversSpan (d : Directive) (s : Span) : Bool :=
  d.isForSpans && d.covers s.origin && d.span.all (· = s.name) && d.field.all fun test =>
    s.fields.any (·.1 = test.name)

/-- Whether the values of a span satisfy a directive. -/
def accepts (d : Directive) (s : Span) : Bool :=
  d.field.all fun test => (s.fields.lookup test.name).any test.accepts

/-- The rank of the level of a directive, 0 for off. -/
def rank (d : Directive) : Nat :=
  d.limit.elim 0 Level.rank

/-- Whether two directives differ at most in their level. -/
def sameSubject (d e : Directive) : Bool :=
  d.target = e.target && d.span = e.span && d.field = e.field

end Directive
end HubLink.Log
