import Folio.Config.Basic
import Folio.Config.Reference
import Folio.Toml.Document

/-!
# Reading a configuration

A configuration is a TOML document.  Fields that it leaves out have their defaults, and entries
that are no fields are passed over.

## Main definitions

* `Section` — the entries of a part of a configuration, with `Section.field?`.
* `Config.ofEntries?` — the configuration that a document describes.
* `Config.expandVariables` — the variables with their references resolved.
* `Config.parse` — both, and the check of its rules.
-/

namespace Folio

open Toml (Value)

/-! ### Fields -/

/-- The entries of a part of a configuration. -/
abbrev Section := List (String × Value)

/-- The part that a value describes: a table by the names of its entries, an array by their
places.  Entries of a table that have none of the names must be readable, but do not count. -/
def section? (names : List String) : Value → Option Section
  | .array items => some (names.zip items)
  | v => do
    let entries ← v.entries?
    if entries.all fun e => names.contains e.1 || e.2.isReadable then some entries else none

/-- The field of a name; `default` if there is none. -/
def Section.field? {α : Type} (s : Section) (name : String) (read : Value → Option α)
    (default : α) : Option α :=
  match s.lookup name with
  | some v => read v
  | none => some default

/-- A truth value. -/
def readBool : Value → Option Bool
  | .boolean b => some b
  | _ => none

/-- A text. -/
def readText : Value → Option String
  | .string s => some s
  | _ => none

/-- Texts. -/
def readTexts : Value → Option (List String)
  | .array items => items.mapM readText
  | _ => none

/-- Values by name. -/
def readNamed {α : Type} (read : Value → Option α) (v : Value) : Option (List (String × α)) := do
  (← v.entries?).mapM fun e => do return (e.1, ← read e.2)

/-- A table of values that can be stored. -/
def readTable (v : Value) : Option (List (String × Value)) := do
  let entries ← v.entries?
  if Value.entriesAreStorable entries then some entries else none

/-! ### Parts -/

/-- The delimiters of attribute blocks. -/
def readDelimiters (v : Value) : Option Delimiters := do
  let s ← section? ["left", "right"] v
  let d : Delimiters := {}
  return { left := ← s.field? "left" readText d.left, right := ← s.field? "right" readText d.right }

/-- What a configuration says about the markup. -/
def readMarkdown (v : Value) : Option MarkdownConfig := do
  let s ← section? ["allow_html", "linkify", "linkify_tlds", "breaks", "highlight_langs",
    "extract_title", "need_title", "flat_headings", "plugins", "delimiters", "conditions_in_code",
    "disable_liquid"] v
  let d : MarkdownConfig := {}
  return {
    allowHtml := ← s.field? "allow_html" readBool d.allowHtml
    linkify := ← s.field? "linkify" readBool d.linkify
    linkDomains := ← s.field? "linkify_tlds" readTexts d.linkDomains
    breaks := ← s.field? "breaks" readBool d.breaks
    langs := ← s.field? "highlight_langs" (readNamed readText) d.langs
    extractTitle := ← s.field? "extract_title" readBool d.extractTitle
    needTitle := ← s.field? "need_title" readBool d.needTitle
    flatHeadings := ← s.field? "flat_headings" readBool d.flatHeadings
    plugins := ← s.field? "plugins" (fun v => (readTexts v).map some) d.plugins
    delimiters := ← s.field? "delimiters" readDelimiters d.delimiters
    conditionsInCode := ← s.field? "conditions_in_code" readBool d.conditionsInCode
    disableLiquid := ← s.field? "disable_liquid" readBool d.disableLiquid }

/-- What a configuration says about cleaning pages. -/
def readSanitize (v : Value) : Option SanitizeConfig := do
  let s ← section? ["enabled", "add_tags", "remove_tags", "add_generic_attributes",
    "add_tag_attributes", "strip_comments", "link_rel"] v
  let d : SanitizeConfig := {}
  return {
    enabled := ← s.field? "enabled" readBool d.enabled
    addTags := ← s.field? "add_tags" readTexts d.addTags
    removeTags := ← s.field? "remove_tags" readTexts d.removeTags
    addGenericAttributes := ← s.field? "add_generic_attributes" readTexts d.addGenericAttributes
    addTagAttributes := ← s.field? "add_tag_attributes" (readNamed readTexts) d.addTagAttributes
    stripComments := ← s.field? "strip_comments" (fun v => (readBool v).map some) d.stripComments
    linkRel := ← s.field? "link_rel" (fun v => (readText v).map some) d.linkRel }

/-- The configuration that the entries of a document describe. -/
def Config.ofEntries? (entries : List (String × Value)) : Option Config := do
  let s ← section? ["markdown", "sanitize", "vars", "custom"] (.table entries)
  return {
    markdown := ← s.field? "markdown" readMarkdown {}
    sanitize := ← s.field? "sanitize" readSanitize {}
    vars := ← s.field? "vars" readTable []
    custom := ← s.field? "custom" readTable [] }

/-! ### Variables -/

/-- The place of an item of an array. -/
def itemField (field : String) (index : Nat) : String :=
  field ++ "[" ++ toString index ++ "]"

/-- The place of an entry of a table. -/
def entryField (field key : String) : String := field ++ "." ++ key

mutual

/-- The value with the references in all its texts resolved; `field` is its place. -/
def expandValue (value? : String → Option String) (field : String) :
    Value → Except ConfigError Value
  | .string s => ((expand value? s).map Value.string).mapError (ConfigError.unsetVariable field)
  | .array items => (expandItems value? field 0 items).map .array
  | .table entries => (expandEntries value? field entries).map .table
  | v => .ok v

/-- The items of an array with their references resolved, from the item `index` on. -/
def expandItems (value? : String → Option String) (field : String) (index : Nat) :
    List Value → Except ConfigError (List Value)
  | [] => .ok []
  | v :: vs => do
    let v ← expandValue value? (itemField field index) v
    let vs ← expandItems value? field (index + 1) vs
    return v :: vs

/-- The entries of a table with their references resolved. -/
def expandEntries (value? : String → Option String) (field : String) :
    List (String × Value) → Except ConfigError (List (String × Value))
  | [] => .ok []
  | (k, v) :: es => do
    let v ← expandValue value? (entryField field k) v
    let es ← expandEntries value? field es
    return (k, v) :: es

end

/-- The configuration with the references in its variables resolved. -/
def Config.expandVariables (value? : String → Option String) (c : Config) :
    Except ConfigError Config := do
  let vars ← expandEntries value? "vars" c.vars
  return { c with vars }

mutual

/-- The variables that the texts of a value refer to. -/
def valueReferences : Value → List String
  | .string s => references s
  | .array items => itemReferences items
  | .table entries => entryReferences entries
  | _ => []

/-- The variables that the texts of values refer to. -/
def itemReferences : List Value → List String
  | [] => []
  | v :: vs => valueReferences v ++ itemReferences vs

/-- The variables that the texts of entries refer to. -/
def entryReferences : List (String × Value) → List String
  | [] => []
  | (_, v) :: es => valueReferences v ++ entryReferences es

end

/-! ### Configurations -/

/-- The configuration that a text describes, with its references not yet resolved. -/
def Config.read (text : String) : Except ConfigError Config :=
  match (Toml.parse? text).bind Config.ofEntries? with
  | some c => .ok c
  | none => .error .malformed

/-- The configuration with its references resolved, if it keeps the rules; `path` is where it has
been read from. -/
def Config.settle (value? : String → Option String) (path : String) (c : Config) :
    Except ConfigError Config := do
  let c ← c.expandVariables value?
  let c := { c with path := some path }
  c.check
  return c

/-- The configuration that a text from a path describes. -/
def Config.parse (value? : String → Option String) (path text : String) :
    Except ConfigError Config := do
  (← Config.read text).settle value? path

end Folio
