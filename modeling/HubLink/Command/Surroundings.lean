import HubLink.Config.Basic
import HubLink.Log.Settings
import HubLink.Session.Broker

namespace HubLink.Command

/-- Everything that a run depends on besides its arguments. -/
structure Surroundings where
  env : Config.Environment := []
  /-- The content of the file at a path, or the fault of reading it. -/
  fileAt : String → Except Config.FileFault Bytes
  /-- The broker that accepts connections; without one every connection is refused. -/
  broker : Option Session.Broker := none
  /-- The time, in seconds since 1970. -/
  now : Int64

/-- Whether a file or directory exists at a path. -/
def Surroundings.hasPath (s : Surroundings) (path : String) : Bool :=
  match s.fileAt path with
  | .ok _ | .error .isDirectory => true
  | .error _ => false

/-- One entry of a transcript. -/
inductive Entry where
  | output (text : String)
  /-- A log line, with the span in which it is written. -/
  | line (line : Log.Line) (within : Option Log.Span := none)
  /-- The begin or the end of a span, with the span around it. -/
  | span (event : Log.SpanEvent) (span : Log.Span) (within : Option Log.Span := none)
  deriving DecidableEq

/-- The output and the log of a run, in order. -/
abbrev Transcript := List Entry

namespace Transcript

/-- The printed text. -/
def output (t : Transcript) : String :=
  String.join (t.filterMap fun
    | .output text => some text
    | _ => none)

/-- The log lines. -/
def lines (t : Transcript) : List Log.Line :=
  t.filterMap fun
    | .line line _ => some line
    | _ => none

/-- The entry if the log settings keep it; printed text is always kept. -/
def kept? (settings : Log.Settings) : Entry → Option Entry
  | .output text => some (.output text)
  | .line line within =>
    if settings.filter.passes line within then some (.line line within) else none
  | .span event span within =>
    if settings.tellsSpans && settings.filter.follows span within then
      some (.line (span.line event) within)
    else none

/-- The transcript filtered by log settings. -/
def under (t : Transcript) (settings : Log.Settings) : Transcript :=
  t.filterMap (kept? settings)

end Transcript
end HubLink.Command
