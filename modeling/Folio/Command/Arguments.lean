import Folio.Config.Basic
import Folio.Text.Character
import Folio.Text.Search

/-!
# Arguments of the command

What the words behind the name of the program ask for.  An option has a long name behind two
dashes, and may have a short one, a letter behind one dash; letters may share a dash.  A value
stands in the same word, with or without an equals sign, or in the next one.  Behind a word of two
dashes no word is an option.

## Main definitions

* `Switch`, `Setting` — the options without and with a value.
* `RenderArguments` — what the arguments say about one document.
* `Request` — what the arguments ask for.
* `UsageError` — why they ask for nothing.
* `Request.ofArguments` — the request that arguments make.
-/

namespace Folio

/-- The form in which a document is written. -/
inductive Format where
  /-- The page alone. -/
  | html
  /-- The page with everything that is known about it. -/
  | json
  deriving DecidableEq, Repr, Inhabited

/-- An option without a value. -/
inductive Switch where
  | extractTitle
  | flatHeadings
  | allowHtml
  | linkify
  | sanitize
  | noSanitize
  | verbose
  deriving DecidableEq, Repr

/-- An option with a value. -/
inductive Setting where
  | config
  | format
  | output
  | variable
  deriving DecidableEq, Repr

/-- An option. -/
inductive Choice where
  | switch (s : Switch)
  | setting (s : Setting)
  | help
  deriving DecidableEq, Repr

/-- The option of a long name. -/
def Choice.ofLong? : List Char → Option Choice := fun name =>
  match String.ofList name with
  | "extract-title" => some (.switch .extractTitle)
  | "flat-headings" => some (.switch .flatHeadings)
  | "allow-html" => some (.switch .allowHtml)
  | "linkify" => some (.switch .linkify)
  | "sanitize" => some (.switch .sanitize)
  | "no-sanitize" => some (.switch .noSanitize)
  | "verbose" => some (.switch .verbose)
  | "config" => some (.setting .config)
  | "format" => some (.setting .format)
  | "output" => some (.setting .output)
  | "var" => some (.setting .variable)
  | "help" => some .help
  | _ => none

/-- The option of a letter. -/
def Choice.ofShort? : Char → Option Choice
  | 'c' => some (.setting .config)
  | 'f' => some (.setting .format)
  | 'o' => some (.setting .output)
  | 'v' => some (.switch .verbose)
  | 'h' => some .help
  | _ => none

/-- What the arguments say about one document. -/
structure RenderArguments where
  /-- The path of the document; one dash stands for the standard input. -/
  input : String
  /-- The path of the configuration; it is searched for if there is none. -/
  config : Option String := none
  /-- The form in which the document is written. -/
  format : Format := .html
  /-- The path that the document is written to; the standard output if there is none. -/
  output : Option String := none
  /-- What changes in the configuration. -/
  overrides : Overrides := {}
  /-- More is reported. -/
  verbose : Bool := false
  deriving DecidableEq, Repr

/-- What arguments ask for. -/
inductive Request where
  /-- A document is rendered. -/
  | render (arguments : RenderArguments)
  /-- The version is shown. -/
  | version
  /-- The usage is shown. -/
  | help
  deriving DecidableEq, Repr

/-- Why arguments ask for nothing. -/
inductive UsageError where
  /-- There is no command. -/
  | missingCommand
  /-- There is no such command. -/
  | unknownCommand (name : String)
  /-- There is no such option. -/
  | unknownOption (word : String)
  /-- A word has no meaning at its place. -/
  | unexpectedWord (word : String)
  /-- An option stands twice. -/
  | repeated (word : String)
  /-- An option has no value. -/
  | missingValue (word : String)
  /-- An option has a value and takes none. -/
  | unwantedValue (word : String)
  /-- An option does not take the value. -/
  | invalidValue (word value : String)
  /-- There is no document. -/
  | missingInput
  /-- Pages are to be cleaned and not to be cleaned. -/
  | contradiction
  deriving DecidableEq, Repr

/-- The text of an error. -/
def UsageError.message : UsageError → String
  | .missingCommand => "no command is given"
  | .unknownCommand name => "there is no command '" ++ name ++ "'"
  | .unknownOption word => "there is no option '" ++ word ++ "'"
  | .unexpectedWord word => "unexpected argument '" ++ word ++ "'"
  | .repeated word => "the option '" ++ word ++ "' is given twice"
  | .missingValue word => "the option '" ++ word ++ "' needs a value"
  | .unwantedValue word => "the option '" ++ word ++ "' takes no value"
  | .invalidValue word value => "the option '" ++ word ++ "' does not take '" ++ value ++ "'"
  | .missingInput => "no document is given"
  | .contradiction => "'--sanitize' and '--no-sanitize' exclude each other"

/-! ### Values -/

/-- The format of a name. -/
def Format.ofName? : String → Option Format
  | "html" => some .html
  | "json" => some .json
  | _ => none

/-- A variable and its value, on the two sides of the first equals sign.  Blanks around the name
do not count, and the name is not empty. -/
def variableOf? (text : String) : Option (String × String) :=
  match Text.splitFirst? ['='] text.toList with
  | some (name, value) =>
    match Text.trim name with
    | [] => none
    | name => some (String.ofList name, String.ofList value)
  | none => none

/-! ### Reading -/

/-- The arguments about one document read so far. -/
structure Draft where
  input : Option String := none
  config : Option String := none
  format : Option Format := none
  output : Option String := none
  switches : List Switch := []
  vars : List (String × String) := []
  deriving DecidableEq, Repr

namespace Draft

/-- Turns a switch on, once. -/
def turnOn (d : Draft) (word : String) (s : Switch) : Except UsageError Draft :=
  if d.switches.contains s then .error (.repeated word)
  else .ok { d with switches := d.switches ++ [s] }

/-- A path, which is not empty and stands once. -/
def onePath (before : Option String) (word value : String) : Except UsageError (Option String) :=
  if before.isSome then .error (.repeated word)
  else if value.isEmpty then .error (.invalidValue word value)
  else .ok (some value)

/-- Gives an option its value. -/
def give (d : Draft) (word : String) (s : Setting) (value : String) : Except UsageError Draft :=
  match s with
  | .config => return { d with config := ← onePath d.config word value }
  | .output => return { d with output := ← onePath d.output word value }
  | .format =>
    if d.format.isSome then .error (.repeated word)
    else match Format.ofName? value with
      | some format => .ok { d with format := some format }
      | none => .error (.invalidValue word value)
  | .variable =>
    match variableOf? value with
    | some p => .ok { d with vars := d.vars ++ [p] }
    | none => .error (.invalidValue word value)

/-- A word that is no option: the path of the document. -/
def take (d : Draft) (word : String) : Except UsageError Draft :=
  if d.input.isSome then .error (.unexpectedWord word)
  else return { d with input := ← onePath d.input word word }

/-- Words that are no options. -/
def takeAll (d : Draft) : List String → Except UsageError Draft
  | [] => .ok d
  | word :: words => do takeAll (← d.take word) words

/-- A switch as an override: it can only be turned on. -/
def override (d : Draft) (s : Switch) : Option Bool :=
  if d.switches.contains s then some true else none

/-- The request that a finished draft makes. -/
def finish (d : Draft) : Except UsageError Request :=
  match d.input with
  | none => .error .missingInput
  | some input =>
    if d.switches.contains .sanitize && d.switches.contains .noSanitize then .error .contradiction
    else .ok (.render {
      input
      config := d.config
      format := d.format.getD .html
      output := d.output
      overrides := {
        allowHtml := d.override .allowHtml
        linkify := d.override .linkify
        extractTitle := d.override .extractTitle
        flatHeadings := d.override .flatHeadings
        sanitize := if d.switches.contains .noSanitize then some false else d.override .sanitize
        vars := d.vars }
      verbose := d.switches.contains .verbose })

end Draft

/-- What a word of options comes to. -/
inductive Reading where
  /-- The draft with the options. -/
  | done (d : Draft)
  /-- The next word is the value of an option. -/
  | pending (d : Draft) (word : String) (s : Setting)
  /-- The usage is asked for. -/
  | help

/-- Reads letters behind a dash.  Behind an option with a value the rest of the word, without one
equals sign, is the value. -/
def readLetters (d : Draft) : List Char → Except UsageError Reading
  | [] => .ok (.done d)
  | c :: rest =>
    let word := String.ofList ['-', c]
    match Choice.ofShort? c with
    | none => .error (.unknownOption word)
    | some .help => .ok .help
    | some (.switch s) => do readLetters (← d.turnOn word s) rest
    | some (.setting s) =>
      match rest with
      | [] => .ok (.pending d word s)
      | '=' :: value => do return .done (← d.give word s (String.ofList value))
      | value => do return .done (← d.give word s (String.ofList value))

/-- Reads what stands behind two dashes. -/
def readLong (d : Draft) (body : List Char) : Except UsageError Reading :=
  let (name, value) : List Char × Option (List Char) :=
    match Text.splitFirst? ['='] body with
    | some (name, value) => (name, some value)
    | none => (body, none)
  let word := String.ofList ('-' :: '-' :: name)
  match Choice.ofLong? name, value with
  | none, _ => .error (.unknownOption word)
  | some .help, none => .ok .help
  | some (.switch s), none => do return .done (← d.turnOn word s)
  | some (.setting s), none => .ok (.pending d word s)
  | some (.setting s), some value => do return .done (← d.give word s (String.ofList value))
  | some _, some _ => .error (.unwantedValue word)

/-- A word that may be a value: it does not begin with a dash, or is one dash. -/
def isPlain (word : String) : Bool :=
  match word.toList with
  | '-' :: _ :: _ => false
  | _ => true

/-- Reads one word before the word of two dashes. -/
def readWord (d : Draft) (word : String) : Except UsageError Reading :=
  match word.toList with
  | '-' :: '-' :: body => readLong d body
  | '-' :: c :: cs => readLetters d (c :: cs)
  | _ => do return .done (← d.take word)

/-- Reads the arguments about one document. -/
def readArguments (d : Draft) : List String → Except UsageError Request
  | [] => d.finish
  | word :: words =>
    if word == "--" then do (← d.takeAll words).finish
    else do
      match ← readWord d word with
      | .done d => readArguments d words
      | .help => return .help
      | .pending d option s =>
        match words with
        | value :: words =>
          if isPlain value then readArguments (← d.give option s value) words
          else .error (.missingValue option)
        | [] => .error (.missingValue option)

/-- The first word, if it is no command. -/
def readOption (word : String) : Except UsageError Request :=
  match word.toList with
  | '-' :: '-' :: body =>
    match String.ofList body with
    | "help" => .ok .help
    | "version" => .ok .version
    | "" => .error .missingCommand
    | _ => .error (.unknownOption word)
  | '-' :: 'h' :: _ => .ok .help
  | '-' :: 'V' :: _ => .ok .version
  | '-' :: _ :: _ => .error (.unknownOption word)
  | _ => .error (.unknownCommand word)

/-- The request that the words behind the name of the program make. -/
def Request.ofArguments : List String → Except UsageError Request
  | [] => .error .missingCommand
  | "render" :: words => readArguments {} words
  | "help" :: topics =>
    if [[], ["render"], ["help"]].contains topics then .ok .help
    else .error (.unknownCommand (" ".intercalate topics))
  | word :: _ => readOption word

end Folio
