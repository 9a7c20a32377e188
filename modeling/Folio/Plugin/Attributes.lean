import Folio.AttributeBlock
import Folio.Plugin.Basic

/-!
# The attribute plugin

An attribute block at the end of an inline run belongs to the block around the run, one that
follows an inline element belongs to that element, and one at the end of the words behind a fence
belongs to the code block.

## Main definitions

* `Attributes.toElements` — attaches the blocks that follow inline elements.
* `Attributes.toBlock?` — attaches the block at the end of a run.
* `Attributes.toFence` — attaches the block behind a fence.
* `Attributes.revise` — attaches all of them.
-/

namespace Folio.Plugin.Attributes

/-- Attaches a block to the element that the last of the tokens ends. -/
def attachLast (block : AttributeBlock) (tokens : List Token) : List Token :=
  match findOpen? tokens (tokens.length - 1) with
  | some i => tokens.modify i block.apply
  | none => tokens

/-- An attribute block may follow the token. -/
def isAttachable (t : Token) : Bool := t.isClosing || t.kind == .codeInline

/-- Attaches the blocks that directly follow an inline element.  `done` holds the tokens before,
last first. -/
def toElementsAfter (d : Delimiters) : (done : List Token) → List Token → List Token
  | done, [] => done.reverse
  | done, t :: ts =>
    let found := match done with
      | last :: _ =>
        if isAttachable last && t.kind == Kind.text then d.stripLeading? t.content else none
      | [] => none
    match found with
    | none => toElementsAfter d (t :: done) ts
    | some (block, rest) =>
      let done := (attachLast block done.reverse).reverse
      if rest.isEmpty then toElementsAfter d done ts
      else toElementsAfter d (t.withContent rest :: done) ts

/-- Attaches the blocks that directly follow an inline element. -/
def toElements (d : Delimiters) (children : List Token) : List Token :=
  toElementsAfter d [] children

/-- Attaches the block behind a fence. -/
def toFence (d : Delimiters) (t : Token) : Token :=
  match d.stripTrailing? t.info with
  | some (info, block) => { block.apply t with info }
  | none => t

/-- The children without the attribute block at their end, and the block. -/
def stripChildren? (d : Delimiters) (children : List Token) :
    Option (List Token × AttributeBlock) := do
  let last ← children.getLast?
  guard (last.kind == .text)
  let (text, block) ← d.stripTrailing? last.content
  let before := children.dropLast
  return (if text.isEmpty then before else before ++ [last.withContent text], block)

/-- Changes the block that a run belongs to, given the tokens before the run, last first.  The run
of a hidden paragraph belongs to its list item. -/
def modifyOwner? (f : Token → Token) : List Token → Option (List Token)
  | [] => none
  | owner :: before =>
    if !owner.isOpening then none
    else if !owner.hidden then some (f owner :: before)
    else match before with
      | item :: outer =>
        if item.kind == .listItem && item.isOpening then some (owner :: f item :: outer) else none
      | [] => none

/-- Attaches the block at the end of a run to the block that the run belongs to.  `done` holds
the tokens before the run, last first. -/
def toBlock? (d : Delimiters) (run : Token) (done : List Token) :
    Option (Token × List Token) := do
  let (children, block) ← stripChildren? d run.children
  let done ← modifyOwner? block.apply done
  return ({ run with children, content := plainText children }, done)

/-- Attaches all attribute blocks.  `done` holds the tokens before, last first. -/
def reviseAfter (d : Delimiters) : (done : List Token) → List Token → List Token
  | done, [] => done.reverse
  | done, t :: ts =>
    match t.kind with
    | .fence => reviseAfter d (toFence d t :: done) ts
    | .inline =>
      let run := { t with children := toElements d t.children }
      match toBlock? d run done with
      | some (run, done) => reviseAfter d (run :: done) ts
      | none => reviseAfter d (run :: done) ts
    | _ => reviseAfter d (t :: done) ts

/-- Attaches all attribute blocks. -/
def revise (d : Delimiters) (tokens : List Token) : List Token := reviseAfter d [] tokens

end Attributes

/-- The attribute plugin. -/
def attributes (d : Delimiters) : Plugin where
  name := "attrs"
  coreRules _ := [.ofTokens "attrs" (Attributes.revise d)]

end Folio.Plugin
