import Folio.Proofs.HeadingPass
import Folio.Proofs.StrippedBlocks
import Folio.Proofs.TagTexts

/-!
# The names of attributes

Where the name of an attribute ends is told by the equals sign behind it, in the source of a block
as well as in the page.  So the names that blocks bring have no equals sign in them, and no blank
either: they can be read off the page.

## Main definitions

* `Token.HasLegibleNames` — the names of all attributes of a token can be read off the page.

## Main results

* `IsDivided.isLegible` — the names in the text of a block are legible.
* `isKeptByAttributes_hasLegibleNames` — **no attribute that is attached to a token has a name that
  is not legible.**
-/

namespace Folio

open Html (IsAttributeName)

/-! ### Reading a block -/

namespace AttributeItem

/-- The name of a named value is legible. -/
def IsLegible : AttributeItem → Prop
  | .pair key _ => IsAttributeName key
  | .id _ | .className _ => True

/-- A key has no equals sign in it, and no blank. -/
theorem IsWritten.isLegible {item : AttributeItem} {source : List Char} {stop : Char → Bool}
    (h : item.IsWritten source stop) : item.IsLegible := by
  cases h with
  | id | className => exact trivial
  | pair hkey =>
    intro c hc
    rw [String.toList_ofList] at hc
    obtain ⟨hblank, hne⟩ := hkey.plain c hc
    refine ⟨?_, hne⟩
    rintro rfl
    exact absurd hblank (by decide)

end AttributeItem

theorem IsDivided.isLegible {cs : List Char} {ps : List Part} (h : IsDivided cs ps) :
    ∀ item ∈ itemsOf ps, item.IsLegible := by
  induction h with
  | nil => exact List.forall_mem_nil _
  | blank _ _ ih | stray _ _ _ ih => exact ih
  | item hitem _ ih =>
    obtain ⟨stop, hwritten, -⟩ := hitem
    exact List.forall_mem_cons.mpr ⟨hwritten.isLegible, ih⟩

namespace AttributeBlock

/-- The names of all named values of a block are legible. -/
def IsLegible (b : AttributeBlock) : Prop := ∀ p ∈ b.pairs, IsAttributeName p.1

theorem isLegible_ofItems {items : List AttributeItem} (h : ∀ item ∈ items, item.IsLegible) :
    (ofItems items).IsLegible := by
  refine List.foldlRecOn items add (List.forall_mem_nil _) fun b hb item hitem => ?_
  cases item with
  | id _ | className _ => exact hb
  | pair key value =>
    exact List.forall_mem_append.mpr ⟨hb, List.forall_mem_singleton.mpr (h _ hitem)⟩

theorem isLegible_of_accepts {d : Delimiters} {inner : List Char} {block : AttributeBlock}
    (h : d.Accepts inner block) : block.IsLegible := by
  obtain ⟨ps, hps, -, rfl⟩ := h.items
  exact isLegible_ofItems hps.isLegible

theorem isLegible_of_stripTrailing? {d : Delimiters} {text rest : String} {block : AttributeBlock}
    (h : d.stripTrailing? text = some (rest, block)) : block.IsLegible := by
  obtain ⟨front, inner, hends, -⟩ := Delimiters.stripTrailing?_eq_some_iff.mp h
  exact isLegible_of_accepts hends.accepts

theorem isLegible_of_stripLeading? {d : Delimiters} {text rest : String} {block : AttributeBlock}
    (h : d.stripLeading? text = some (block, rest)) : block.IsLegible := by
  obtain ⟨inner, hbegins⟩ := Delimiters.stripLeading?_eq_some_iff.mp h
  exact isLegible_of_accepts hbegins.accepts

end AttributeBlock

/-! ### Attaching a block -/

namespace Attributes

/-- A value under a name brings no other name. -/
theorem mem_names_set {attrs : Attributes} {name value n : String}
    (h : n ∈ (attrs.set name value).map Prod.fst) : n = name ∨ n ∈ attrs.map Prod.fst := by
  induction attrs with
  | nil => simpa [set] using h
  | cons q attrs ih =>
    rw [set] at h
    split at h
    · exact .inr h
    · rw [List.map_cons] at h ⊢
      rcases List.mem_cons.mp h with rfl | h
      · exact .inr List.mem_cons_self
      · exact (ih h).imp id (List.mem_cons_of_mem _)

/-- The names are the same whether a value replaces what was there or is added to it. -/
theorem names_join (attrs : Attributes) (name value : String) :
    (attrs.join name value).map Prod.fst = (attrs.set name value).map Prod.fst := by
  induction attrs with
  | nil => rfl
  | cons q attrs ih =>
    rw [join, set]
    split
    · rfl
    · rw [List.map_cons, List.map_cons, ih]

end Attributes

/-- The names of all attributes can be read off the page. -/
def Token.HasLegibleNames (t : Token) : Prop := ∀ n ∈ t.attrs.map Prod.fst, IsAttributeName n

namespace Token.HasLegibleNames

variable {t : Token}

theorem setAttr (h : t.HasLegibleNames) {name : String} (hname : IsAttributeName name)
    (value : String) : (t.setAttr name value).HasLegibleNames := by
  intro n hn
  rcases Attributes.mem_names_set hn with rfl | hn
  · exact hname
  · exact h n hn

theorem joinAttr (h : t.HasLegibleNames) {name : String} (hname : IsAttributeName name)
    (value : String) : (t.joinAttr name value).HasLegibleNames := by
  intro n hn
  exact h.setAttr hname value n (Attributes.names_join t.attrs name value ▸ hn)

theorem applyPair (h : t.HasLegibleNames) {pair : String × String}
    (hpair : IsAttributeName pair.1) : (AttributeBlock.applyPair t pair).HasLegibleNames := by
  unfold AttributeBlock.applyPair
  split
  · exact h.joinAttr (by decide) pair.2
  · exact h.setAttr hpair pair.2

theorem apply (h : t.HasLegibleNames) {block : AttributeBlock} (hblock : block.IsLegible) :
    (block.apply t).HasLegibleNames := by
  refine List.foldlRecOn block.pairs _ ?_ fun u hu pair hpair => hu.applyPair (hblock pair hpair)
  refine List.foldlRecOn block.classes _ ?_ fun u hu name _ => hu.joinAttr (by decide) name
  split
  · next id _ => exact h.setAttr (by decide) id
  · exact h

end Token.HasLegibleNames

/-- **No attribute that is attached to a token has a name that is not legible.** -/
theorem isKeptByAttributes_hasLegibleNames (d : Delimiters) :
    IsKeptByAttributes d Token.HasLegibleNames where
  bare t h n hn := by simp [h] at hn
  apply h _ ht := ht.apply (AttributeBlock.isLegible_of_stripTrailing? h)
  withInfo _ _ h := h
  withId _ id h := h.setAttr (by decide) id

end Folio
