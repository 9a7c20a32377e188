import Folio.Config.Basic
import Folio.Pipeline

/-!
# Options from a configuration

## Main definitions

* `UnknownPlugin` — a configuration names a plugin that does not exist.
* `Config.options` — the options of the pipeline that a configuration describes.
-/

namespace Folio

/-- A configuration names a plugin that does not exist. -/
structure UnknownPlugin where
  /-- The name. -/
  name : String
  deriving DecidableEq, Repr

/-- The text of the error. -/
def UnknownPlugin.message (e : UnknownPlugin) : String :=
  "Unknown plugin \x60" ++ e.name ++ "\x60 in markdown.plugins (available: "
    ++ ", ".intercalate (Plugin.defaults.map Plugin.name) ++ ")"

/-- The built-in plugins of names, in order. -/
def builtinPlugins : List String → Except UnknownPlugin (List Plugin)
  | [] => .ok []
  | name :: rest =>
    match Plugin.builtin? name with
    | some plugin => (builtinPlugins rest).map (plugin :: ·)
    | none => .error ⟨name⟩

/-- How pages are cleaned: what a configuration adds to the defaults. -/
def SanitizeConfig.options (c : SanitizeConfig) : SanitizeOptions :=
  let d : SanitizeOptions := {}
  { addTags := d.addTags ++ c.addTags
    removeTags := d.removeTags ++ c.removeTags
    addGenericAttributes := d.addGenericAttributes ++ c.addGenericAttributes
    addTagAttributes := c.addTagAttributes.foldl (fun all p => allowAttributes all p.1 p.2)
      d.addTagAttributes
    stripComments := c.stripComments.getD d.stripComments
    linkRel := match c.linkRel with
      | some rel => if rel.isEmpty then none else some rel
      | none => d.linkRel }

/-- The options of the pipeline that a configuration describes, for the document at `path`. -/
def Config.options (c : Config) (path : Option String) : Except UnknownPlugin Options := do
  let plugins ← match c.markdown.plugins with
    | some names => builtinPlugins names
    | none => .ok Plugin.defaults
  return {
    allowHtml := c.markdown.allowHtml
    linkify := c.markdown.linkify
    linkDomains := c.markdown.linkDomains
    breaks := c.markdown.breaks
    langs := c.markdown.langs
    extractTitle := c.markdown.extractTitle
    needTitle := c.markdown.needTitle
    flatHeadings := c.markdown.flatHeadings
    plugins
    delimiters := c.markdown.delimiters
    vars := Toml.Value.jsonMembers c.vars
    path
    conditionsInCode := c.markdown.conditionsInCode
    disableLiquid := c.markdown.disableLiquid
    custom := Toml.Value.jsonMembers c.custom
    sanitize := if c.sanitize.enabled then some c.sanitize.options else none }

end Folio
