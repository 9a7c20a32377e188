/-!
# The log of a run

## Main definitions

* `LogEntry` — what a plugin reports.
* `Log` — the entries in order.
-/

namespace Folio

/-- How serious an entry is. -/
inductive LogLevel where
  | info
  | warn
  | error
  deriving DecidableEq, Repr, Inhabited

/-- The name of a level. -/
def LogLevel.label : LogLevel → String
  | .info => "info"
  | .warn => "warn"
  | .error => "error"

/-- What a plugin reports. -/
structure LogEntry where
  /-- How serious it is. -/
  level : LogLevel
  /-- The name of the plugin. -/
  plugin : String
  /-- The report. -/
  message : String
  deriving DecidableEq, Repr, Inhabited

/-- The entries of a run, in order. -/
abbrev Log := List LogEntry

/-- The log with one more entry. -/
def Log.add (log : Log) (level : LogLevel) (plugin message : String) : Log :=
  log ++ [⟨level, plugin, message⟩]

/-- The log without its entries. -/
def Log.clear (_ : Log) : Log := []

/-- An entry reports an error. -/
def Log.hasErrors (log : Log) : Bool := log.any fun entry => entry.level == .error

end Folio
