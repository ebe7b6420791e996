import HubLink.Log.Directive

namespace HubLink.Log

open Text

/-- A list of directives, in the order in which they were written. -/
abbrev Filter := List Directive

namespace Filter

/-- The directive of a text, `some none` if it is malformed, and `none` if reading it panics. -/
def piece? (text : List Char) : Option (Option Directive) :=
  match Directive.read text with
  | .ok d => some (some d)
  | .error .malformed => some none
  | .error .splitCharacter => none

/-- Reads directives separated by commas. Malformed ones are skipped, and without any directive only
errors pass; `none` if reading one panics. -/
def read? (text : String) : Option Filter := do
  let pieces ← ((segments ',' text.toList).filter (!·.isEmpty)).mapM piece?
  match pieces.filterMap id with
  | [] => return [{ limit := some .error }]
  | directives => return directives

/-- The filter for a level, in which the MQTT library is limited to warnings. -/
def upTo (level : Level) : Filter :=
  [{ limit := some level }, { target := some "rumqttc", limit := some .warn }]

/-- The directives that are not replaced by a later one for the same lines. -/
def inForce : Filter → Filter
  | [] => []
  | d :: rest => if rest.any d.sameSubject then inForce rest else d :: inForce rest

/-- Whether `e` is at least as specific as `d`. -/
def yields (d e : Directive) : Bool :=
  let size (d : Directive) : Nat := d.target.elim 0 (·.utf8ByteSize + 1)
  size d < size e || size d = size e &&
    match d.field, e.field with
    | none, _ => true
    | some _, none => false
    | some f, some g => !decide (g.name < f.name)

/-- The more specific of two directives, or the later one. -/
def better (best : Option Directive) (d : Directive) : Option Directive :=
  match best with
  | some b => if yields b d then some d else some b
  | none => some d

/-- The most specific directive that applies. -/
def decisive? (filter : Filter) (isAbout : Directive → Bool) : Option Directive :=
  (filter.filter isAbout).foldl better none

/-- The highest rank that any span can enable. It is the highest of all if a directive has a condition
on values. -/
def spanRank (filter : Filter) : Nat :=
  if filter.any fun d => d.field.any (·.value.isSome) then Level.trace.rank
  else (filter.map Directive.rank).foldl max 0

/-- The rank that the filter enables within a span, 0 if no directive applies to it. -/
def rankWithin (filter : Filter) (s : Span) : Nat :=
  if s.level.rank ≤ filter.spanRank then
    ((filter.inForce.filter fun d => d.coversSpan s && d.accepts s).map Directive.rank).foldl max 0
  else 0

/-- Whether a line passes the filter, given the span in which it is written. A directive on spans is
considered first, then the most specific directive on lines; without any, the line does not pass. -/
def passes (filter : Filter) (line : Line) (within : Option Span) : Bool :=
  within.any (fun s => line.level.rank ≤ filter.rankWithin s) ||
    (filter.decisive? (·.coversLine line)).any (line.level.rank ≤ ·.rank)

/-- Whether a span is enabled, given the span in which it begins: if a directive on spans applies to
it whatever its values are, or if a line without values would pass. -/
def follows (filter : Filter) (s : Span) (within : Option Span) : Bool :=
  s.level.rank ≤ filter.spanRank &&
    (filter.any (·.coversSpan s) || within.any (fun outer => s.level.rank ≤ filter.rankWithin outer) ||
      (filter.decisive? (·.coversOrigin s.origin)).any (s.level.rank ≤ ·.rank))

end Filter
end HubLink.Log
