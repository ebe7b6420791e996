import HubLink.Log.Line

namespace HubLink.Log

/-- A span in which lines are written. -/
structure Span where
  level : Level := .info
  origin : Origin
  name : String
  fields : List (String × String)
  deriving DecidableEq

/-- An event of a span. -/
inductive SpanEvent where
  | begun
  | ended
  deriving DecidableEq

/-- The name of an event. -/
def SpanEvent.name : SpanEvent → String
  | .begun => "new"
  | .ended => "close"

/-- The log line for an event of a span. -/
def Span.line (s : Span) (event : SpanEvent) : Line :=
  ⟨s.level, s.origin, event.name, []⟩

/-- The span of a device's transport. -/
def Span.transport (deviceId : String) : Span where
  origin := .task
  name := "device_transport"
  fields := [("device_id", deviceId)]

/-- The span of a device's session. -/
def Span.session (deviceId : String) : Span where
  origin := .session
  name := "mqtt_provider"
  fields := [("device_id", deviceId)]

end HubLink.Log
