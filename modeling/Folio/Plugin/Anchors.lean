import Folio.Outline
import Folio.Plugin.Basic

/-!
# The anchor plugin

Every heading gets an id.  The ids that headings already have are taken first, then each heading
without one gets the slug of its text.

## Main definitions

* `Anchors.explicitIds` — the ids that headings already have.
* `Anchors.revise` — gives every heading an id.
-/

namespace Folio.Plugin

namespace Anchors

/-- The ids that headings already have. -/
def explicitIds (tokens : List Token) : List String :=
  tokens.filterMap fun t => if t.headingLevel?.isSome then t.attr? "id" else none

/-- Gives the headings without an id their slugs. -/
def assign : SlugCounter → List Token → List Token
  | _, [] => []
  | slugs, t :: ts =>
    if t.headingLevel?.isSome && (t.attr? "id").isNone then
      let (id, slugs) := slugs.unique (runText ts)
      t.setAttr "id" id :: assign slugs ts
    else t :: assign slugs ts

/-- Gives every heading an id. -/
def revise (tokens : List Token) : List Token :=
  assign ((explicitIds tokens).foldl SlugCounter.reserve {}) tokens

end Anchors

/-- The anchor plugin. -/
def anchors : Plugin where
  name := "anchors"
  coreRules _ := [.ofTokens "anchors" Anchors.revise]

end Folio.Plugin
