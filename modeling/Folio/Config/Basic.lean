import Folio.AttributeBlock
import Folio.Toml.Value

/-!
# Configurations

What the file beside the documents says about how they are rendered.

## Main definitions

* `Config` — a configuration.
* `ConfigError` — what is wrong with one, with its `message`.
* `Overrides` — what the command line changes.
* `Config.check` — the rules that a configuration keeps.
-/

namespace Folio

/-- What a configuration says about the markup. -/
structure MarkdownConfig where
  /-- Raw HTML is passed through. -/
  allowHtml : Bool := false
  /-- Addresses in the text become links. -/
  linkify : Bool := false
  /-- More top-level domains for such links. -/
  linkDomains : List String := []
  /-- A soft line break is rendered as a hard one. -/
  breaks : Bool := true
  /-- The languages that the aliases of code blocks stand for. -/
  langs : List (String × String) := []
  /-- The title is taken out of the document. -/
  extractTitle : Bool := false
  /-- The title is found, and stays in the document. -/
  needTitle : Bool := false
  /-- The headings are listed flat. -/
  flatHeadings : Bool := false
  /-- The names of the plugins; all built-in ones if there are none. -/
  plugins : Option (List String) := none
  /-- The delimiters of attribute blocks. -/
  delimiters : Delimiters := {}
  /-- Conditions in code blocks are evaluated. -/
  conditionsInCode : Bool := false
  /-- Templates are not evaluated. -/
  disableLiquid : Bool := false
  deriving Repr, Inhabited

/-- What a configuration says about cleaning pages. -/
structure SanitizeConfig where
  /-- Pages are cleaned. -/
  enabled : Bool := false
  /-- More elements that stay. -/
  addTags : List String := []
  /-- Elements that do not stay. -/
  removeTags : List String := []
  /-- More attributes that stay on every element. -/
  addGenericAttributes : List String := []
  /-- More attributes that stay on the elements of one name. -/
  addTagAttributes : List (String × List String) := []
  /-- Comments are dropped, if it says so. -/
  stripComments : Option Bool := none
  /-- The relation that links get, if it says so; the empty one stands for none. -/
  linkRel : Option String := none
  deriving Repr, Inhabited

/-- A configuration. -/
structure Config where
  /-- What it says about the markup. -/
  markdown : MarkdownConfig := {}
  /-- What it says about cleaning pages. -/
  sanitize : SanitizeConfig := {}
  /-- The variables, in order of their names. -/
  vars : List (String × Toml.Value) := []
  /-- Options that all plugins share, in order of their names. -/
  custom : List (String × Toml.Value) := []
  /-- The file that it has been read from. -/
  path : Option String := none
  deriving Repr, Inhabited

/-- What is wrong with a configuration. -/
inductive ConfigError where
  /-- There is no file at the path. -/
  | notFound (path : String)
  /-- The file cannot be read. -/
  | unreadable (reason : String)
  /-- The file is not well formed, or a value is not of its type. -/
  | malformed
  /-- A field must not be empty. -/
  | emptyField (field : String)
  /-- The two delimiters are the same. -/
  | equalDelimiters
  /-- A plugin is listed twice. -/
  | repeatedPlugin (name : String)
  /-- A field refers to a variable that is not set. -/
  | unsetVariable (field name : String)
  deriving DecidableEq, Repr

/-- The text of an error. -/
def ConfigError.message : ConfigError → String
  | .notFound path => "Configuration file not found: " ++ path
  | .unreadable reason => "I/O error: " ++ reason
  | .malformed => "TOML parse error: the document is not well formed"
  | .emptyField field => "Configuration error: " ++ field ++ " cannot be empty"
  | .equalDelimiters =>
    "Configuration error: markdown.delimiters.left and markdown.delimiters.right must differ"
  | .repeatedPlugin name =>
    "Configuration error: markdown.plugins lists \x60" ++ name ++ "\x60 more than once"
  | .unsetVariable field name =>
    "Environment variable error in " ++ field ++ ": $\x7b" ++ name ++ "\x7d not set"

/-! ### The rules of a configuration -/

/-- The text of a field is not empty. -/
def requireText (field text : String) : Except ConfigError Unit :=
  if text.isEmpty then .error (.emptyField field) else .ok ()

/-- The delimiters are not empty, and differ. -/
def checkDelimiters (d : Delimiters) : Except ConfigError Unit := do
  requireText "markdown.delimiters.left" d.left
  requireText "markdown.delimiters.right" d.right
  if d.left == d.right then .error .equalDelimiters else .ok ()

/-- The names of plugins are not empty, and none is among those before it. -/
def checkPlugins (before : List String) : List String → Except ConfigError Unit
  | [] => .ok ()
  | name :: rest => do
    requireText "markdown.plugins entry" name
    if before.contains name then .error (.repeatedPlugin name)
    else checkPlugins (name :: before) rest

/-- The rules that a configuration keeps; the first that it breaks is the error. -/
def Config.check (c : Config) : Except ConfigError Unit := do
  checkDelimiters c.markdown.delimiters
  for domain in c.markdown.linkDomains do
    requireText "markdown.linkify_tlds entry"
      (String.ofList (domain.toList.dropWhile (· == '.')))
  checkPlugins [] (c.markdown.plugins.getD [])
  for (name, lang) in c.markdown.langs do
    requireText "markdown.highlight_langs key" name
    requireText ("markdown.highlight_langs." ++ name) lang

/-! ### Overrides -/

/-- What the command line changes in a configuration. -/
structure Overrides where
  /-- Raw HTML is passed through. -/
  allowHtml : Option Bool := none
  /-- Addresses in the text become links. -/
  linkify : Option Bool := none
  /-- The title is taken out of the document. -/
  extractTitle : Option Bool := none
  /-- The headings are listed flat. -/
  flatHeadings : Option Bool := none
  /-- Pages are cleaned. -/
  sanitize : Option Bool := none
  /-- More variables. -/
  vars : List (String × String) := []
  deriving DecidableEq, Repr, Inhabited

/-- Sets a variable, in order of the names. -/
def setVariable (name : String) (value : Toml.Value) :
    List (String × Toml.Value) → List (String × Toml.Value)
  | [] => [(name, value)]
  | (n, v) :: rest =>
    if name < n then (name, value) :: (n, v) :: rest
    else if name == n then (name, value) :: rest
    else (n, v) :: setVariable name value rest

/-- The configuration with overrides; what they leave open stays. -/
def Config.override (c : Config) (o : Overrides) : Config :=
  { c with
    markdown :=
      { c.markdown with
        allowHtml := o.allowHtml.getD c.markdown.allowHtml
        linkify := o.linkify.getD c.markdown.linkify
        extractTitle := o.extractTitle.getD c.markdown.extractTitle
        flatHeadings := o.flatHeadings.getD c.markdown.flatHeadings }
    sanitize := { c.sanitize with enabled := o.sanitize.getD c.sanitize.enabled }
    vars := o.vars.foldl (fun vars p => setVariable p.1 (.string p.2) vars) c.vars }

end Folio
