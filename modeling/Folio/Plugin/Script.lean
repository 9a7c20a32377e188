import Folio.Plugin.Basic

/-!
# Scripted plugins

A plugin may be given as a list of actions on the tokens and the session of a run.

## Main definitions

* `Action` — one step of a script.
* `Action.run` — takes the step.
* `Script` — the parts of a scripted plugin.
* `Script.plugin` — the plugin.
-/

namespace Folio

/-- One step of a script.  A place beyond the end of the tokens is no place: the step has no
effect. -/
inductive Action where
  | push (token : Token)
  | insert (index : Nat) (token : Token)
  | remove (index : Nat)
  | setAttr (index : Nat) (name value : String)
  | joinAttr (index : Nat) (name value : String)
  | reverse
  | clear
  | setMeta (key : String) (value : Json)
  | setTitle (title : String)
  /-- Stores the number of tokens. -/
  | count (key : String)
  /-- Stores whether a token of a plugin's own kind is among the tokens. -/
  | see (name : String)
  | addAsset (asset : Asset)
  | defer (tokens : List Token)
  /-- Appends the tokens that wait for the end of the page. -/
  | take
  | report (level : LogLevel) (message : String)
  /-- Reports the options that plugins get to know. -/
  | reportOptions
  /-- Stores the HTML of the tokens. -/
  | storeHtml (key : String)
  /-- Replaces the tokens by those of a text. -/
  | reparse (text : String)
  | fail (error : PluginError)

/-- What a script works on. -/
structure ScriptContext where
  /-- The name of the plugin. -/
  plugin : String
  /-- What the plugin knows of the options. -/
  options : PluginOptions
  /-- The engine, which only a processor can use. -/
  engine : Option Engine

/-- The options that plugins get to know, as one value.  The title is that of the tokens. -/
def PluginOptions.toJson (o : PluginOptions) (tokens : List Token) : Json :=
  .ofPairs [("custom", .object o.custom), ("conditions_in_code", .bool o.conditionsInCode),
    ("vars", .object o.vars), ("path", (o.path.map Json.string).getD .null),
    ("title", .string (o.titleStrategy tokens).title), ("disable_liquid", .bool o.disableLiquid)]

/-- The tokens with one more at an index, which may be the end. -/
def insertToken (tokens : List Token) (index : Nat) (t : Token) : List Token :=
  if index ≤ tokens.length then tokens.take index ++ t :: tokens.drop index else tokens

/-- Takes one step. -/
def Action.run (c : ScriptContext) (tokens : List Token) (s : Session) :
    Action → Except PluginError (List Token) × Session
  | .push t => (.ok (tokens ++ [t]), s)
  | .insert i t => (.ok (insertToken tokens i t), s)
  | .remove i => (.ok (tokens.eraseIdx i), s)
  | .setAttr i name value => (.ok (tokens.modify i (·.setAttr name value)), s)
  | .joinAttr i name value => (.ok (tokens.modify i (·.joinAttr name value)), s)
  | .reverse => (.ok tokens.reverse, s)
  | .clear => (.ok [], s)
  | .setMeta key value => (.ok tokens, s.mapEnv (·.setMeta key value))
  | .setTitle title => (.ok tokens, s.mapEnv fun env => { env with title })
  | .count key => (.ok tokens, s.mapEnv (·.setMeta key (.int tokens.length)))
  | .see name =>
    let seen := tokens.any fun t => t.kind == .custom name
    (.ok tokens, s.mapEnv (·.setMeta (c.plugin ++ " saw " ++ name) (.bool seen)))
  | .addAsset asset => (.ok tokens, s.mapEnv (·.addAsset asset))
  | .defer batch => (.ok tokens, s.mapEnv (·.defer batch))
  | .take =>
    let (deferred, env) := s.env.takeDeferred
    (.ok (tokens ++ deferred), { s with env })
  | .report level message => (.ok tokens, s.report level c.plugin message)
  | .reportOptions => (.ok tokens, s.report .info c.plugin (c.options.toJson tokens).compact)
  | .storeHtml key =>
    match c.engine with
    | some e => (.ok tokens, s.mapEnv (·.setMeta key (.string (e.render tokens s.env))))
    | none => (.ok tokens, s)
  | .reparse text =>
    match c.engine with
    | some e =>
      let (tokens, s) := e.parse text s
      (.ok tokens, s)
    | none => (.ok tokens, s)
  | .fail error => (.error error, s)

/-- Takes all steps, up to the first that fails. -/
def Action.runAll (c : ScriptContext) : List Action → List Token → Session →
    Except PluginError (List Token) × Session
  | [], tokens, s => (.ok tokens, s)
  | a :: as, tokens, s =>
    match a.run c tokens s with
    | (.ok tokens, s) => Action.runAll c as tokens s
    | (.error error, s) => (.error error, s)

/-- Takes the steps before the first that fails. -/
def Action.attemptAll (c : ScriptContext) : List Action → List Token → Session →
    List Token × Session
  | [], tokens, s => (tokens, s)
  | a :: as, tokens, s =>
    match a.run c tokens s with
    | (.ok tokens, s) => Action.attemptAll c as tokens s
    | (.error _, s) => (tokens, s)

/-- The parts of a scripted plugin. -/
structure Script where
  /-- The name. -/
  name : String
  /-- The steps of its rule. -/
  core : Option (List Action) := none
  /-- The steps of its processor. -/
  process : Option (List Action) := none
  /-- The names of its own tokens. -/
  rules : List String := []

/-- The rule for the tokens of a name: the name, the content, and the children rendered both
ways. -/
def Script.renderRule (name : String) : RenderRule := fun input =>
  .raw ("[" ++ name ++ "|") :: .text input.token.content :: .raw "|" :: input.inlines
    ++ .raw "|" :: input.blocks ++ [Html.Markup.raw "]"]

/-- The plugin that a script makes. -/
def Script.plugin (script : Script) : Plugin where
  name := script.name
  coreRules options := match script.core with
    | some actions =>
      [{ name := script.name
         apply := fun tokens s => Action.attemptAll ⟨script.name, options, none⟩ actions tokens s }]
    | none => []
  renderRules := script.rules.map fun name => (name, Script.renderRule name)
  processor := script.process.map fun actions options engine tokens s =>
    Action.runAll ⟨script.name, options, some engine⟩ actions tokens s

end Folio
