import Folio.Token.Label

/-!
# Pairs of tokens

An opening token and the closing token that ends its container are partners.  The partner is
found by counting the tokens of one kind, forwards from an opening token and backwards from a
closing one.  A list is balanced when a stack of the open kinds explains every closing token.

## Main definitions

* `findClose?` — the partner of an opening token.
* `findOpen?` — the partner of a closing token.
* `checkBalance` — the first token that breaks the balance, if any.
* `Imbalance.message` — what is wrong with it.
-/

namespace Folio

/-- The index, counted from `index` at the head of the list, of the closing token of `kind` that
ends the container `depth` levels up. -/
def closeAfter? (kind : Kind) : Nat → Nat → List Token → Option Nat
  | _, _, [] => none
  | depth, index, t :: ts =>
    if t.kind != kind then closeAfter? kind depth (index + 1) ts
    else match t.nesting with
      | .opening => closeAfter? kind (depth + 1) (index + 1) ts
      | .closing => if depth ≤ 1 then some index else closeAfter? kind (depth - 1) (index + 1) ts
      | .single => closeAfter? kind depth (index + 1) ts

/-- The index of the closing token that ends the container which the token at `index` begins. -/
def findClose? (tokens : List Token) (index : Nat) : Option Nat :=
  match tokens[index]? with
  | some t => if t.isOpening then closeAfter? t.kind 0 index (tokens.drop index) else none
  | none => none

/-- The index of the opening token of `kind` at which the depth is back at zero, in a list read
backwards from the token at `index`.  From a closing token on this is the one that begins the
container.  From an opening token on the depth underflows first: where machine numbers wrap around,
the search goes on below zero and passes that token over; where overflow is checked, it fails. -/
def openBefore? (kind : Kind) : Int → Nat → List Token → Option Nat
  | _, _, [] => none
  | depth, index, t :: ts =>
    if t.kind != kind then openBefore? kind depth (index - 1) ts
    else match t.nesting with
      | .closing => openBefore? kind (depth + 1) (index - 1) ts
      | .opening => if depth = 1 then some index else openBefore? kind (depth - 1) (index - 1) ts
      | .single => openBefore? kind depth (index - 1) ts

/-- The index of the token that begins what the token at `index` ends: that token itself, if it
stands alone. -/
def findOpen? (tokens : List Token) (index : Nat) : Option Nat :=
  match tokens[index]? with
  | some t =>
    if t.nesting == .single then some index
    else openBefore? t.kind 0 index (tokens.take (index + 1)).reverse
  | none => none

/-- What breaks the balance of a list. -/
inductive Imbalance where
  /-- A closing token ends the container of another kind that began at `start`. -/
  | crossed (opened : Kind) (closed : Kind) (index : Nat) (start : Nat)
  /-- A closing token at which no container is open. -/
  | unmatched (closed : Kind) (index : Nat)
  /-- A container that is still open at the end. -/
  | unclosed (opened : Kind) (start : Nat)
  deriving DecidableEq, Repr

/-- The balance check from `index` on, over the stack of the open containers. -/
def checkBalanceFrom : List (Nat × Kind) → Nat → List Token → Except Imbalance Unit
  | [], _, [] => .ok ()
  | (start, kind) :: _, _, [] => .error (.unclosed kind start)
  | stack, index, t :: ts =>
    match t.nesting with
    | .opening => checkBalanceFrom ((index, t.kind) :: stack) (index + 1) ts
    | .closing =>
      match stack with
      | [] => .error (.unmatched t.kind index)
      | (start, kind) :: rest =>
        if kind == t.kind then checkBalanceFrom rest (index + 1) ts
        else .error (.crossed kind t.kind index start)
    | .single => checkBalanceFrom stack (index + 1) ts

/-- Every opening token has its closing token at the same depth. -/
def checkBalance (tokens : List Token) : Except Imbalance Unit :=
  checkBalanceFrom [] 0 tokens

/-- The message for a broken balance. -/
def Imbalance.message : Imbalance → String
  | .crossed opened closed index start =>
    opened.label ++ " closed by " ++ closed.label ++ " at token " ++ toString index
      ++ " (opened at " ++ toString start ++ ")"
  | .unmatched closed index =>
    "unmatched close " ++ closed.label ++ " at token " ++ toString index
  | .unclosed opened start =>
    opened.label ++ " opened at token " ++ toString start ++ " is never closed"

end Folio
