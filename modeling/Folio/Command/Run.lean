import Folio.Command.Host
import Folio.Command.Report
import Folio.Config.Options
import Folio.Config.Reading

/-!
# Running the command

A run finds its configuration, reads the document, renders it, and writes the result last: a run
that fails has written nothing but its error.

What a run prints is part of its outcome and no step of the host: the two streams are taken to
accept all that is printed.  A standard output that refuses a document, such as a closed pipe, is
not modelled; a file that refuses one is.

## Main definitions

* `Outcome` — what a run leaves on its streams, and its exit code.
* `Failure` — why a run fails.
* `Host.loadConfig` — the configuration of a run.
* `Config.renderDocument` — a document as it is written.
* `Host.render`, `Host.run` — a run.
-/

namespace Folio

/-- What a run leaves behind, besides files. -/
structure Outcome where
  /-- The exit code. -/
  code : Nat := 0
  /-- The standard output. -/
  output : String := ""
  /-- The standard error. -/
  errors : String := ""
  deriving DecidableEq, Repr

/-- Why a run fails. -/
inductive Failure where
  /-- Its configuration cannot be used. -/
  | config (error : ConfigError)
  /-- Its configuration names a plugin that does not exist. -/
  | plugin (error : UnknownPlugin)
  /-- A file cannot be read or written. -/
  | file (error : FileError)
  /-- The document cannot be rendered. -/
  | render (error : RunError)
  deriving DecidableEq, Repr

/-- The text of a failure. -/
def Failure.message : Failure → String
  | .config e => e.message
  | .plugin e => e.message
  | .file e => e.message
  | .render e => e.message

/-- The exit code of a failure.  A sanitizing policy that contradicts itself is a fault of its
own. -/
def Failure.code : Failure → Nat
  | .render (.policy _) => 101
  | _ => 1

/-- The outcome of a run that fails after it has reported something. -/
def Failure.outcome (e : Failure) (reported : String) : Outcome :=
  { code := e.code, errors := reported ++ "Error: " ++ e.message ++ "\n" }

/-! ### Configurations -/

/-- The name of the file that holds the configuration. -/
def configName : String := "mdpipe.toml"

section Steps

variable {m : Type → Type} [Monad m]

/-- The first path at which there is something. -/
def Host.firstPresent (host : Host m) : List String → m (Option String)
  | [] => return none
  | path :: paths => do
    if ← host.isPresent path then return some path else host.firstPresent paths

/-- The path of the configuration: a given one, or that of the closest file of its name in the
working directory and around it. -/
def Host.findConfig (host : Host m) (given : Option String) :
    m (Except ConfigError (Option String)) := do
  match given with
  | some path =>
    if ← host.isPresent path then return .ok (some path) else return .error (.notFound path)
  | none =>
    let directories := enclosing (← host.directory)
    return .ok (← host.firstPresent (directories.map fun d => inDirectory d configName))

/-- The values of variables. -/
def Host.lookupAll (host : Host m) : List String → m (List (String × String))
  | [] => return []
  | name :: names => do
    let rest ← host.lookupAll names
    match ← host.lookup name with
    | some value => return (name, value) :: rest
    | none => return rest

/-- The configuration in a file. -/
def Host.readConfig (host : Host m) (path : String) : m (Except ConfigError Config) := do
  match ← host.read path with
  | .error e => return .error (.unreadable e.message)
  | .ok text =>
    match Config.read text with
    | .error e => return .error e
    | .ok c =>
      let values ← host.lookupAll (entryReferences c.vars)
      return c.settle (fun name => values.lookup name) path

/-- The configuration of a run, before its arguments change it. -/
def Host.loadConfig (host : Host m) (given : Option String) : m (Except ConfigError Config) := do
  match ← host.findConfig given with
  | .error e => return .error e
  | .ok none => return .ok {}
  | .ok (some path) => host.readConfig path

end Steps

/-! ### Documents -/

/-- A document as it is written in a format, with the log of its run. -/
def Config.renderDocument (c : Config) (format : Format) (path : Option String) (source : String) :
    Except Failure (String × Log) :=
  match c.options path with
  | .error e => .error (.plugin e)
  | .ok options =>
    match options.pipeline.render source with
    | (.error e, _) => .error (.render e)
    | (.ok rendered, session) => .ok (rendered.write session.log format, session.log)

/-- The argument that stands for the standard input. -/
def standardInput : String := "-"

section Runs

variable {m : Type → Type} [Monad m]

/-- Writes a document where it belongs.  Printing it does not fail, and writing it to a file may. -/
def Host.deliver (host : Host m) (output : Option String) (content reported : String) :
    m Outcome := do
  match output with
  | none => return { output := closeLine content, errors := reported }
  | some path =>
    match ← host.write path content with
    | .ok () => return { errors := reported ++ "Wrote " ++ path ++ "\n" }
    | .error e => return (Failure.file e).outcome reported

/-- What is reported about a configuration if more is asked for. -/
def RenderArguments.notice (a : RenderArguments) (c : Config) : String :=
  match a.verbose, c.path with
  | true, some path => "Loaded configuration " ++ path ++ "\n"
  | _, _ => ""

/-- Renders one document. -/
def Host.render (host : Host m) (a : RenderArguments) : m Outcome := do
  match ← host.loadConfig a.config with
  | .error e => return (Failure.config e).outcome ""
  | .ok config =>
    let notice := a.notice config
    let fromInput := a.input == standardInput
    match ← (if fromInput then host.readInput else host.read a.input) with
    | .error e => return (Failure.file e).outcome notice
    | .ok source =>
      let path := if fromInput then none else some a.input
      match (config.override a.overrides).renderDocument a.format path source with
      | .error e => return e.outcome notice
      | .ok (content, log) => host.deliver a.output content (notice ++ log.warnings)

/-- The version of the program. -/
def version : String := "mdpipe 0.1.24\n"

/-- The usage of the program. -/
def usage : String :=
  "Usage: mdpipe render [OPTIONS] <INPUT>\n\n" ++
  "Renders a markdown document; '-' reads the standard input.\n\n" ++
  "  -c, --config <PATH>    configuration (default: the closest mdpipe.toml)\n" ++
  "  -f, --format <FORMAT>  html (default) or json\n" ++
  "  -o, --output <PATH>    write to a file\n" ++
  "      --extract-title    take the first heading out as the title\n" ++
  "      --flat-headings    list headings flat\n" ++
  "      --allow-html       pass raw HTML through\n" ++
  "      --linkify          make links of bare addresses\n" ++
  "      --sanitize         clean the page\n" ++
  "      --no-sanitize      do not clean the page\n" ++
  "      --var <KEY=VALUE>  set a variable\n" ++
  "  -v, --verbose          report more\n" ++
  "  -h, --help             show this text\n" ++
  "  -V, --version          show the version\n"

/-- The outcome of arguments that ask for nothing. -/
def UsageError.outcome (e : UsageError) : Outcome :=
  { code := 2, errors := "error: " ++ e.message ++ "\n\n" ++ usage }

/-- Runs the command with its arguments. -/
def Host.run (host : Host m) (arguments : List String) : m Outcome :=
  match Request.ofArguments arguments with
  | .error e => return e.outcome
  | .ok .version => return { output := version }
  | .ok .help => return { output := usage }
  | .ok (.render a) => host.render a

end Runs

end Folio
