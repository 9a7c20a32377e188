import Mathlib.Data.List.TakeWhile
import Folio.Proofs.SourceBlocks

/-!
# The paragraphs that define terms

A definition is a paragraph whose run begins with a text `[*key]:`.  The tokens of a page do not
let two such paragraphs overlap, so the definitions that are taken out of a list are those of all
its paragraphs of this form, wherever they stand.

## Main definitions

* `IsDefinition` — three tokens are a paragraph that defines a key.
* `DefinesTerm` — a list has such a paragraph.

## Main results

* `isDefinition_iff` — such paragraphs are what definitions are made of.
* `mem_extract_of_infix`, `mem_extract` — **every paragraph that defines a term becomes a
  definition**, and there are no others.
* `mem_extractedKeys` — the keys that count as defined.
-/

namespace Folio.Plugin.Terms

/-- Three tokens are a paragraph whose text begins with a mark for the key. -/
structure IsDefinition (o run c : Token) (key : String) : Prop where
  paragraph : o.kind = .paragraph
  opening : o.nesting = .opening
  closing : c.nesting = .closing
  mark : ∃ first others rest, run.children = first :: others ∧ first.kind = .text ∧
    first.content = "[*" ++ key ++ "]:" ++ rest
  nonempty : key ≠ ""
  chars : ∀ ch ∈ key.toList, isKeyChar ch = true

/-- Somewhere in the list a paragraph defines the term. -/
def DefinesTerm (ts : List Token) (key : String) : Prop :=
  ∃ o run c, [o, run, c] <:+: ts ∧ IsDefinition o run c key

/-! ### The mark -/

theorem definitionMark?_of_mark {key : List Char} (hne : key ≠ [])
    (hchars : ∀ ch ∈ key, isKeyChar ch = true) (text : List Char) :
    definitionMark? ('[' :: '*' :: (key ++ ']' :: ':' :: text))
      = some (key, text.dropWhile fun c => c == ' ' || c == '\t') := by
  have htake : (key ++ ']' :: ':' :: text).takeWhile isKeyChar = key := by
    rw [List.takeWhile_append_of_pos hchars, List.takeWhile_cons_of_neg (by decide +kernel),
      List.append_nil]
  simp only [definitionMark?, htake, List.drop_left]
  cases key with
  | nil => exact absurd rfl hne
  | cons => rfl

theorem definitionMark?_eq_some {cs key text : List Char}
    (h : definitionMark? cs = some (key, text)) :
    ∃ rest, cs = '[' :: '*' :: (key ++ ']' :: ':' :: rest) ∧ key ≠ [] ∧
      ∀ ch ∈ key, isKeyChar ch = true := by
  unfold definitionMark? at h
  split at h
  · next rest =>
    dsimp only at h
    split at h
    · next ch chars text' hkey hdrop =>
      obtain ⟨rfl, -⟩ := Prod.mk.inj (Option.some.inj h)
      refine ⟨text', ?_, by simp [hkey], fun c hc => List.mem_takeWhile_imp hc⟩
      rw [← hdrop, List.prefix_iff_eq_append.mp (List.takeWhile_prefix isKeyChar)]
    · cases h
  · cases h

/-! ### One definition -/

section Definition

variable {o run c d : Token}

/-- The key of a definition is the one that the paragraph defines. -/
theorem isDefinition_iff {key : String} : IsDefinition o run c key ↔
    ∃ d, definition? o run c = some d ∧ d.attr? "key" = some key := by
  constructor
  · rintro ⟨hk, ho, hc, ⟨first, others, rest, hchildren, htext, hcontent⟩, hne, hchars⟩
    have hmark := definitionMark?_of_mark (by simpa using hne : key.toList ≠ []) hchars rest.toList
    have hlist : first.content.toList
        = '[' :: '*' :: (key.toList ++ ']' :: ':' :: rest.toList) := by
      simp [hcontent]
    rw [← hlist] at hmark
    refine ⟨_, definition?_eq_some_iff.mpr ⟨hk, ho, hc, first, others, _, _, hchildren, htext,
      hmark, rfl⟩, ?_⟩
    rw [String.ofList_toList]
    exact Token.attr?_setAttr (.leaf definitionKind o.level) "key" key
  · rintro ⟨d, hd, hkey⟩
    obtain ⟨hk, ho, hc, first, others, key', text, hchildren, htext, hmark, rfl⟩ :=
      definition?_eq_some_iff.mp hd
    have hkey' : (definitionToken (String.ofList key') o.level (if text.isEmpty then others else
        first.withContent (String.ofList text) :: others)).attr? "key"
          = some (String.ofList key') :=
      Token.attr?_setAttr (.leaf definitionKind o.level) "key" _
    obtain rfl := Option.some.inj (hkey'.symm.trans hkey)
    obtain ⟨rest, hlist, hne, hchars⟩ := definitionMark?_eq_some hmark
    refine ⟨hk, ho, hc, ⟨first, others, String.ofList rest, hchildren, htext, ?_⟩,
      by simpa using hne, by simpa using hchars⟩
    exact String.toList_inj.mp (by simp [hlist])

/-- A definition says a key. -/
theorem exists_attr?_key (h : definition? o run c = some d) : ∃ key, d.attr? "key" = some key := by
  obtain ⟨-, -, -, first, others, key, text, -, -, -, rfl⟩ := definition?_eq_some_iff.mp h
  exact ⟨_, Token.attr?_setAttr (.leaf definitionKind o.level) "key" _⟩

end Definition

/-! ### All definitions -/

/-- A token is one of the list or a definition of three tokens in a row. -/
theorem mem_extract {ts : List Token} {t : Token} (h : t ∈ extract ts) :
    t ∈ ts ∨ ∃ o run c, [o, run, c] <:+: ts ∧ definition? o run c = some t := by
  induction ts using extract.induct with
  | case1 a b c rest d hd ih =>
    rw [extract_of_some hd] at h
    rcases List.mem_cons.mp h with rfl | h
    · exact .inr ⟨a, b, c, ⟨[], rest, rfl⟩, hd⟩
    rcases ih h with ht | ⟨o, run, c', hrow, ht⟩
    · exact .inl (by simp [ht])
    · exact .inr ⟨o, run, c', hrow.trans (List.suffix_append [a, b, c] rest).isInfix, ht⟩
  | case2 a b c rest hd ih =>
    rw [extract_of_none hd] at h
    rcases List.mem_cons.mp h with rfl | h
    · exact .inl List.mem_cons_self
    rcases ih h with ht | ⟨o, run, c', hrow, ht⟩
    · exact .inl (List.mem_cons_of_mem a ht)
    · exact .inr ⟨o, run, c', List.infix_cons hrow, ht⟩
  | case3 ts hshort =>
    rw [extract_of_short hshort] at h
    exact .inl h

/-- **Every paragraph that defines a term becomes a definition**, as two of them do not overlap. -/
theorem mem_extract_of_infix {ts : List Token} (hts : ∀ t ∈ ts, t.IsPagePart) {o run c d : Token}
    (hrow : [o, run, c] <:+: ts) (hd : definition? o run c = some d) : d ∈ extract ts := by
  obtain ⟨-, ho, -, -⟩ := definition?_eq_some hd
  induction ts using extract.induct with
  | case1 a b c' rest d' hd' ih =>
    obtain ⟨-, -, hc', hchildren, -⟩ := definition?_eq_some hd'
    -- The run and the end of a paragraph do not begin another.
    have hb : o ≠ b := by
      rintro rfl
      exact hchildren ((hts o (by simp)).pair (by simp [ho])).2
    have hc : o ≠ c' := by
      rintro rfl
      rw [ho] at hc'
      cases hc'
    rw [extract_of_some hd']
    rcases List.infix_cons_iff.mp hrow with hrow | hrow
    · obtain ⟨rfl, rfl, rfl⟩ : o = a ∧ run = b ∧ c = c' := by simpa using hrow
      obtain rfl := Option.some.inj (hd.symm.trans hd')
      exact List.mem_cons_self
    rcases List.infix_cons_iff.mp hrow with hrow | hrow
    · exact absurd (List.cons_prefix_cons.mp hrow).1 hb
    rcases List.infix_cons_iff.mp hrow with hrow | hrow
    · exact absurd (List.cons_prefix_cons.mp hrow).1 hc
    · exact List.mem_cons_of_mem d' (ih (fun t ht => hts t (by simp [ht])) hrow)
  | case2 a b c' rest hd' ih =>
    rw [extract_of_none hd']
    rcases List.infix_cons_iff.mp hrow with hrow | hrow
    · obtain ⟨rfl, rfl, rfl⟩ : o = a ∧ run = b ∧ c = c' := by simpa using hrow
      rw [hd] at hd'
      cases hd'
    · exact List.mem_cons_of_mem a (ih (fun t ht => hts t (List.mem_cons_of_mem a ht)) hrow)
  | case3 ts hshort =>
    obtain ⟨pre, post, rfl⟩ := hrow
    -- A list with three tokens in a row is not short.
    rcases pre with _ | ⟨x, _ | ⟨y, _ | ⟨z, pre⟩⟩⟩
    · exact absurd rfl (hshort o run c post)
    · exact absurd rfl (hshort x o run (c :: post))
    · exact absurd rfl (hshort x y o (run :: c :: post))
    · exact absurd rfl (hshort x y z (pre ++ [o, run, c] ++ post))

theorem definedKeys_cons_of_eq {t : Token} (ht : t.kind = definitionKind) (ts : List Token) :
    definedKeys (t :: ts) = (t.attr? "key").getD "" :: definedKeys ts :=
  List.filterMap_cons_some (by simp [ht])

theorem definedKeys_cons_of_ne {t : Token} (ht : t.kind ≠ definitionKind) (ts : List Token) :
    definedKeys (t :: ts) = definedKeys ts :=
  List.filterMap_cons_none (by simp [ht])

/-- The keys that count as defined are those of the definitions. -/
theorem extractedKeys_eq {ts : List Token} (hts : ∀ t ∈ ts, t.kind ≠ definitionKind) :
    revise.extractedKeys ts = definedKeys (extract ts) := by
  induction ts using extract.induct with
  | case1 a b c rest d hd ih =>
    obtain ⟨-, -, -, -, hk, -⟩ := definition?_eq_some hd
    rw [extract_of_some hd, definedKeys_cons_of_eq hk, revise.extractedKeys, hd,
      ih fun t ht => hts t (by simp [ht])]
  | case2 a b c rest hd ih =>
    rw [extract_of_none hd, definedKeys_cons_of_ne (hts a List.mem_cons_self),
      revise.extractedKeys, hd, ih fun t ht => hts t (List.mem_cons_of_mem a ht)]
  | case3 ts hshort =>
    rw [extract_of_short hshort, revise.extractedKeys.eq_2 ts hshort, eq_comm]
    exact List.filterMap_eq_nil_iff.mpr fun t ht => by simp [hts t ht]

/-- **The keys that count as defined are those that some paragraph defines.** -/
theorem mem_extractedKeys {ts : List Token} (hparts : ∀ t ∈ ts, t.IsPagePart)
    (hts : ∀ t ∈ ts, t.IsBlock) {key : String} :
    key ∈ revise.extractedKeys ts ↔ DefinesTerm ts key := by
  rw [extractedKeys_eq fun t ht => (hts t ht).ne_definitionKind, definedKeys, List.mem_filterMap]
  constructor
  · rintro ⟨d, hd, hkey⟩
    split at hkey
    · next hk =>
      rcases mem_extract hd with hd | ⟨o, run, c, hrow, hd⟩
      · exact absurd (by simpa using hk) (hts d hd).ne_definitionKind
      · obtain ⟨key', hattr⟩ := exists_attr?_key hd
        obtain rfl : key' = key := by simpa [hattr] using hkey
        exact ⟨o, run, c, hrow, isDefinition_iff.mpr ⟨d, hd, hattr⟩⟩
    · cases hkey
  · rintro ⟨o, run, c, hrow, hdefinition⟩
    obtain ⟨d, hd, hattr⟩ := isDefinition_iff.mp hdefinition
    obtain ⟨-, -, -, -, hk, -⟩ := definition?_eq_some hd
    refine ⟨d, mem_extract_of_infix hparts hrow hd, ?_⟩
    rw [if_pos (by simpa using hk), hattr]
    rfl

end Folio.Plugin.Terms
