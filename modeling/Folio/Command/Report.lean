import Folio.Command.Arguments
import Folio.Json.Printer
import Folio.Pipeline

/-!
# Reports

What the command writes about a rendered document: the page, or an object with everything that is
known about it, and a line for each warning.

## Main definitions

* `Heading.json`, `Asset.json`, `LogEntry.json` — the parts of the object.
* `Rendered.report` — the object.
* `Rendered.write` — the document in a format.
* `Log.warnings` — the lines for the warnings and errors of a run.
-/

namespace Folio

mutual

/-- A heading as an object; headings below it are left out if there are none. -/
def Heading.json : Heading → Json
  | ⟨level, title, id, items⟩ =>
    .object ([("level", .int level), ("title", .string title), ("id", .string id)]
      ++ if items.isEmpty then [] else [("items", .array (Heading.jsonItems items))])

/-- Headings as objects. -/
def Heading.jsonItems : List Heading → List Json
  | [] => []
  | h :: hs => h.json :: Heading.jsonItems hs

end

/-- The name of the way in which a document refers to a file. -/
def AssetKind.label : AssetKind → String
  | .image => "image"
  | .link => "link"

/-- A file as an object. -/
def Asset.json (a : Asset) : Json :=
  .object [("kind", .string a.kind.label), ("src", .string a.src)]

/-- An entry of the log as an object. -/
def LogEntry.json (e : LogEntry) : Json :=
  .object [("level", .string e.level.label), ("plugin", .string e.plugin),
    ("message", .string e.message)]

/-- Everything that is known about a rendered document. -/
def Rendered.report (r : Rendered) (log : Log) : Json :=
  .object [("html", .string r.html), ("title", .string r.title),
    ("headings", .array (Heading.jsonItems r.headings)), ("meta", .object r.metadata),
    ("assets", .array (r.assets.map Asset.json)),
    ("diagnostics", .array (log.map LogEntry.json))]

/-- The rendered document in a format. -/
def Rendered.write (r : Rendered) (log : Log) : Format → String
  | .html => r.html
  | .json => (r.report log).pretty

/-- The line for an entry of the log; notes have none. -/
def LogEntry.line? (e : LogEntry) : Option String :=
  let text := e.plugin ++ ": " ++ e.message ++ "\n"
  match e.level with
  | .info => none
  | .warn => some ("Warning: " ++ text)
  | .error => some ("Error: " ++ text)

/-- The lines for the warnings and errors of a run. -/
def Log.warnings (log : Log) : String := String.join (log.filterMap LogEntry.line?)

/-- A document as it is written to a terminal: it ends with exactly one line break. -/
def closeLine (text : String) : String :=
  String.ofList ((text.toList.reverse.dropWhile (· == '\n')).reverse ++ ['\n'])

end Folio
