import HubLink.Config.Basic
import HubLink.Log.Filter

namespace HubLink.Log

open Text

/-- The format of the log. -/
inductive Format where
  | json
  | pretty
  | compact
  deriving DecidableEq

/-- The name of a format. -/
def Format.name : Format → String
  | .json => "json"
  | .pretty => "pretty"
  | .compact => "compact"

/-- Whether a format uses colours. -/
def Format.isColoured : Format → Bool
  | .json => false
  | .pretty | .compact => true

/-- The format with a name, in any letter case, or the default one. -/
def Format.ofName (name : String) : Format :=
  ([.json, .pretty, .compact].find? fun f => sameLetters f.name name).getD .json

/-- The level with a name, in any letter case, or the default one. -/
def Level.ofName (name : String) : Level :=
  ([.error, .warn, .info, .debug, .trace].find? fun l => sameLetters l.name name).getD .info

/-- The settings of the log. -/
structure Settings where
  format : Format
  filter : Filter
  /-- Whether the begin and the end of spans are logged. -/
  tellsSpans : Bool := false
  deriving DecidableEq

/-- The format that `LOG_FORMAT` sets. -/
def Format.ofEnvironment (env : Config.Environment) : Format :=
  .ofName ((env.value? "LOG_FORMAT").getD "")

/-- The settings from the environment; `none` if reading the filter panics. `RUST_LOG` replaces the
filter that `LOG_LEVEL` gives. -/
def Settings.ofEnvironment? (env : Config.Environment) : Option Settings := do
  let filter ← match env.value? "RUST_LOG" with
    | some directives => Filter.read? directives
    | none => some (Filter.upTo (Level.ofName ((env.value? "LOG_LEVEL").getD "")))
  return {
    format := .ofEnvironment env
    filter
    tellsSpans := (env.value? "LOG_SPANS").any (sameLetters "true") }

/-- The line of a repeated set-up. -/
def alreadySetUp : Line where
  level := .debug
  origin := .logging
  message :=
    "Logging already initialized: a global default trace dispatcher has already been set"

/-- Sets up logging. If settings are in force, they stay, and a line is logged. -/
def setUp (inForce : Option Settings) (wanted : Settings) : Settings × List Line :=
  match inForce with
  | some settings => (settings, [alreadySetUp])
  | none => (wanted, [])

end HubLink.Log
