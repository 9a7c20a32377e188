import Folio.Plugin.Anchors
import Folio.Plugin.Assets
import Folio.Plugin.Attributes
import Folio.Plugin.Terms

/-!
# Built-in plugins

## Main definitions

* `Plugin.builtin?` — a built-in plugin by its name.
* `Plugin.defaults` — the plugins that take part unless others are chosen.
-/

namespace Folio.Plugin

/-- The names of the built-in plugins in their default order. -/
def builtinNames : List String := ["anchors", "terms", "assets"]

/-- A built-in plugin by its name. -/
def builtin? (name : String) : Option Plugin :=
  if name == "anchors" then some anchors
  else if name == "assets" then some assets
  else if name == "terms" then some terms
  else none

/-- The built-in plugins in their default order. -/
def defaults : List Plugin := builtinNames.filterMap builtin?

end Folio.Plugin
