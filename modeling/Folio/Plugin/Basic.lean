import Folio.Engine
import Folio.Json.Printer
import Folio.Title

/-!
# Plugins

A plugin takes part in a run at two points: rules revise and render tokens, and a processor
transforms the tokens after parsing.

## Main definitions

* `PluginOptions` — what every plugin gets to know.
* `PluginError` — why a processor fails.
* `Plugin` — a name, rules and a processor.
-/

namespace Folio

/-- What every plugin gets to know. -/
structure PluginOptions where
  /-- Options that all plugins share. -/
  custom : Json.Members := []
  /-- Conditions in code blocks are evaluated. -/
  conditionsInCode : Bool := false
  /-- The variables. -/
  vars : Json.Members := []
  /-- The path of the document. -/
  path : Option String := none
  /-- How the title is found. -/
  titleStrategy : TitleStrategy := extractTitle
  /-- Templates are not evaluated. -/
  disableLiquid : Bool := false

/-- Why a processor fails. -/
inductive PluginError where
  /-- The plugin rejects its input. -/
  | rejected (message : String)
  /-- The tokens would not be balanced. -/
  | invalidTokens (message : String)
  /-- Something that the plugin uses fails. -/
  | other (message : String)
  deriving DecidableEq, Repr

/-- The message of an error. -/
def PluginError.message : PluginError → String
  | .rejected m => m
  | .invalidTokens m => "invalid token stream: " ++ m
  | .other m => m

/-- A transformation of the tokens after parsing.  What it does to the session counts even if it
fails. -/
abbrev Processor := Engine → List Token → Session → Except PluginError (List Token) × Session

/-- A plugin. -/
structure Plugin where
  /-- The name. -/
  name : String
  /-- The rules that revise the tokens. -/
  coreRules : PluginOptions → List CoreRule := fun _ => []
  /-- The rules that render the plugin's own tokens. -/
  renderRules : List (String × RenderRule) := []
  /-- The transformation after parsing. -/
  processor : Option (PluginOptions → Processor) := none

/-- Adds the rules of a plugin to an engine.  Its render rules replace earlier ones of the same
names. -/
def Plugin.register (p : Plugin) (options : PluginOptions) (e : Engine) : Engine :=
  { e with
    coreRules := e.coreRules ++ p.coreRules options
    renderer := { e.renderer with rules := p.renderRules.reverse ++ e.renderer.rules } }

/-- A revision that does not touch the session. -/
def CoreRule.ofTokens (name : String) (revise : List Token → List Token) : CoreRule :=
  { name, apply := fun tokens s => (revise tokens, s) }

end Folio
