import Folio.Yaml.Value

/-!
# Front matter

The metadata block of a document is a YAML mapping.

## Main definitions

* `frontMatter?` — the members of a metadata block.
-/

namespace Folio

/-- The members of a metadata block, if it is a mapping. -/
def frontMatter? (text : String) : Option Json.Members :=
  match Yaml.value? text.toList with
  | some (.object members) => some members
  | _ => none

end Folio
