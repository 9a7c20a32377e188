import Folio.Html.Markup
import Folio.Proofs.Bracket

/-!
# The tags of a page

A page is read as text: a tag begins at `<` and ends at the next `>`.  Since texts, names and
values are escaped when they are written, the tags that are read are those that were written.

## Main definitions

* `tagsFrom` — the tags of a text, as a word of brackets.
* `WellNested` — every end tag closes the innermost start tag of its name, and none is left open.
* `Markup.bracket?`, `Markup.IsPlain` — the tag that a piece of markup is, and the pieces that are
  read as they were written.

## Main results

* `not_special_of_mem_escapeChars` — an escaped text has none of the four special characters.
* `tagsFrom_writeAll` — **the tags that are read are those that were written.**
-/

namespace Folio.Html

open BracketOf (IsBalanced)

/-! ### Escaped text -/

/-- A character that can begin or end a tag or a value. -/
def isSpecial (c : Char) : Bool := c == '<' || c == '>' || c == '\x22' || c == '\x27'

theorem not_special_of_mem_escapeChar {c d : Char} (h : d ∈ escapeChar c) :
    isSpecial d = false := by
  have hall : ∀ cs : List Char, cs.all (fun c => !isSpecial c) = true → d ∈ cs →
      isSpecial d = false := by
    intro cs hcs hd
    simpa using List.all_eq_true.mp hcs d hd
  unfold escapeChar at h
  split at h
  · exact hall _ (by decide) h
  split at h
  · exact hall _ (by decide) h
  split at h
  · exact hall _ (by decide) h
  split at h
  · exact hall _ (by decide) h
  split at h
  · exact hall _ (by decide) h
  · next h1 h2 h3 h4 h5 =>
    rw [List.mem_singleton] at h
    subst h
    simp_all [isSpecial]

/-- **An escaped text has no special characters.** -/
theorem not_special_of_mem_escapeChars {cs : List Char} {d : Char} (h : d ∈ escapeChars cs) :
    isSpecial d = false := by
  obtain ⟨c, -, hd⟩ := List.mem_flatMap.mp h
  exact not_special_of_mem_escapeChar hd

theorem toList_escape (s : String) : (escape s).toList = escapeChars s.toList :=
  String.toList_ofList

theorem not_special_of_mem_escape {s : String} {d : Char} (h : d ∈ (escape s).toList) :
    isSpecial d = false := by
  rw [toList_escape] at h
  exact not_special_of_mem_escapeChars h

/-! ### Reading tags -/

/-- The elements that have no end tag. -/
def voidNames : List String := ["br", "hr", "img", "input"]

/-- The bracket that a start tag is; none if its element has no end tag. -/
def startBracket? (name : List Char) : Option (BracketOf String) :=
  if voidNames.contains (String.ofList name) then none else some (.opening (String.ofList name))

/-- The bracket that a tag is, given what stands between `<` and `>`.  Its name ends at the first
blank. -/
def tagBracket? (inner : List Char) : Option (BracketOf String) :=
  match inner with
  | '/' :: rest => some (.closing (String.ofList (rest.takeWhile (· != ' '))))
  | _ => startBracket? (inner.takeWhile (· != ' '))

/-- The tags of a text from left to right.  `tag` holds what has been read of a tag that has begun,
last first.  A tag that does not end counts as one that is left open. -/
def tagsFrom : (tag : Option (List Char)) → List Char → List (BracketOf String)
  | none, [] => []
  | some tag, [] => [.opening (String.ofList tag.reverse)]
  | none, c :: cs => if c == '<' then tagsFrom (some []) cs else tagsFrom none cs
  | some tag, c :: cs =>
    if c == '>' then (tagBracket? tag.reverse).toList ++ tagsFrom none cs
    else tagsFrom (some (c :: tag)) cs

/-- Every end tag closes the innermost start tag of its name, and none is left open. -/
def WellNested (html : String) : Prop := IsBalanced (tagsFrom none html.toList)

theorem tagsFrom_none_append {cs : List Char} (h : ∀ c ∈ cs, c ≠ '<') (rest : List Char) :
    tagsFrom none (cs ++ rest) = tagsFrom none rest := by
  induction cs with
  | nil => rfl
  | cons c cs ih =>
    have hc : (c == '<') = false := by simpa using h c List.mem_cons_self
    rw [List.cons_append, tagsFrom, hc, if_neg Bool.false_ne_true]
    exact ih fun d hd => h d (List.mem_cons_of_mem c hd)

theorem tagsFrom_some_append {cs : List Char} (h : ∀ c ∈ cs, c ≠ '>') (rest : List Char) :
    ∀ tag, tagsFrom (some tag) (cs ++ '>' :: rest)
      = (tagBracket? (tag.reverse ++ cs)).toList ++ tagsFrom none rest := by
  induction cs with
  | nil => intro tag; simp [tagsFrom]
  | cons c cs ih =>
    intro tag
    have hc : (c == '>') = false := by simpa using h c List.mem_cons_self
    rw [List.cons_append, tagsFrom, hc, if_neg Bool.false_ne_true,
      ih fun d hd => h d (List.mem_cons_of_mem c hd)]
    simp

/-- A tag is read up to its end. -/
theorem tagsFrom_tag {inner : List Char} (h : ∀ c ∈ inner, c ≠ '>') (rest : List Char) :
    tagsFrom none ('<' :: inner ++ '>' :: rest)
      = (tagBracket? inner).toList ++ tagsFrom none rest := by
  rw [List.cons_append, tagsFrom, beq_self_eq_true, if_pos rfl, tagsFrom_some_append h]
  rfl

/-! ### Written markup -/

/-- The bracket that a piece of markup is. -/
def Markup.bracket? : Markup → Option (BracketOf String)
  | .startTag name _ => startBracket? name.toList
  | .endTag name => some (.closing name)
  | .text _ | .raw _ => none

/-- The name consists of letters and digits. -/
def IsTagName (name : String) : Prop := ∀ c ∈ name.toList, c.isAlphanum = true

theorem isTagName_of_all {name : String} (h : name.toList.all Char.isAlphanum = true) :
    IsTagName name :=
  List.all_eq_true.mp h

theorem isDigit_of_mem_toString {n : Nat} {c : Char} (h : c ∈ (toString n).toList) :
    c.isDigit = true :=
  Nat.isDigit_of_mem_toDigits (by decide) (by decide)
    (show c ∈ Nat.toDigits 10 n by simpa [Nat.repr, toString] using h)

theorem isTagName_heading (n : Nat) : IsTagName ("h" ++ toString n) := by
  intro c hc
  rw [String.toList_append, List.mem_append] at hc
  rcases hc with hc | hc
  · rw [show "h".toList = ['h'] from rfl, List.mem_singleton] at hc
    subst hc
    rfl
  · simp [Char.isAlphanum, isDigit_of_mem_toString hc]

/-- The piece is read as it was written: tags have names of letters and digits, and raw text holds
no tag. -/
def Markup.IsPlain : Markup → Prop
  | .startTag name _ | .endTag name => IsTagName name
  | .text _ => True
  | .raw s => ∀ c ∈ s.toList, c ≠ '<'

theorem IsTagName.ne {name : String} (h : IsTagName name) {c d : Char} (hc : c ∈ name.toList)
    (hd : d.isAlphanum = false) : c ≠ d := by
  rintro rfl
  rw [h c hc] at hd
  exact absurd hd (by decide)

/-- The attributes of a tag begin with a blank and do not end the tag. -/
theorem attribute_write (a : Attribute) : ∃ cs, a.write.toList = ' ' :: cs ∧
    ∀ c ∈ cs, c ≠ '>' := by
  have hname : ∀ c ∈ (escape a.name).toList, c ≠ '>' := by
    rintro c hc rfl
    exact absurd (not_special_of_mem_escape hc) (by decide)
  cases hv : a.value with
  | none =>
    refine ⟨(escape a.name).toList, ?_, hname⟩
    rw [Attribute.write, hv]
    simp
  | some value =>
    have hvalue : ∀ c ∈ (escape value).toList, c ≠ '>' := by
      rintro c hc rfl
      exact absurd (not_special_of_mem_escape hc) (by decide)
    -- Only the quotes around the value are special, and they do not end the tag.
    refine ⟨(escape a.name).toList ++ ['=', '\x22'] ++ (escape value).toList ++ ['\x22'], ?_, ?_⟩
    · rw [Attribute.write, hv]
      simp
    · intro c hc
      simp only [List.mem_append, List.mem_cons, List.not_mem_nil, or_false] at hc
      rcases hc with ((hc | rfl | rfl) | hc) | rfl
      · exact hname c hc
      · decide
      · decide
      · exact hvalue c hc
      · decide

theorem attributes_write (attrs : List Attribute) : ∃ cs,
    (String.join (attrs.map Attribute.write)).toList = cs ∧ (cs = [] ∨ ∃ ds, cs = ' ' :: ds) ∧
      ∀ c ∈ cs, c ≠ '>' := by
  induction attrs with
  | nil => exact ⟨[], by simp, .inl rfl, List.forall_mem_nil _⟩
  | cons a attrs ih =>
    obtain ⟨cs, hcs, -, hne⟩ := ih
    obtain ⟨ds, hds, hds'⟩ := attribute_write a
    refine ⟨' ' :: ds ++ cs, ?_, .inr ⟨ds ++ cs, rfl⟩, ?_⟩
    · rw [String.toList_join] at hcs ⊢
      rw [List.map_cons, List.flatMap_cons, hds, hcs]
    · intro c hc
      rcases List.mem_append.mp hc with hc | hc
      · rcases List.mem_cons.mp hc with rfl | hc
        · decide
        · exact hds' c hc
      · exact hne c hc

theorem takeWhile_tagName {name : String} (h : IsTagName name) {cs : List Char}
    (hcs : cs = [] ∨ ∃ ds, cs = ' ' :: ds) :
    (name.toList ++ cs).takeWhile (· != ' ') = name.toList := by
  rw [List.takeWhile_append_of_pos fun c hc => by simpa using h.ne hc (by decide)]
  rcases hcs with rfl | ⟨ds, rfl⟩ <;> simp

/-- **A piece of markup is read as it was written.** -/
theorem tagsFrom_write {m : Markup} (h : m.IsPlain) (rest : List Char) :
    tagsFrom none (m.write.toList ++ rest) = m.bracket?.toList ++ tagsFrom none rest := by
  cases m with
  | text s =>
    rw [Markup.write, tagsFrom_none_append]
    · rfl
    · rintro c hc rfl
      exact absurd (not_special_of_mem_escape hc) (by decide)
  | raw s => rw [Markup.write, tagsFrom_none_append h]; rfl
  | endTag name =>
    have hwrite : (Markup.endTag name).write.toList ++ rest
        = '<' :: ('/' :: name.toList) ++ '>' :: rest := by simp [Markup.write]
    rw [hwrite, tagsFrom_tag]
    · -- An end tag has no attributes, so its name goes on to its end.
      have htake := takeWhile_tagName h (.inl (rfl : ([] : List Char) = []))
      rw [List.append_nil] at htake
      rw [tagBracket?, htake, String.ofList_toList]
      rfl
    · intro c hc
      rcases List.mem_cons.mp hc with rfl | hc
      · decide
      · exact IsTagName.ne h hc (by decide)
  | startTag name attrs =>
    obtain ⟨cs, hcs, hblank, hne⟩ := attributes_write attrs
    have hwrite : (Markup.startTag name attrs).write.toList ++ rest
        = '<' :: (name.toList ++ cs) ++ '>' :: rest := by
      simp [Markup.write, ← hcs]
    rw [hwrite, tagsFrom_tag]
    · rw [Markup.bracket?, tagBracket?]
      · rw [takeWhile_tagName h hblank]
      · -- Neither a name nor a blank is a slash.
        intro tail heq
        cases hn : name.toList with
        | nil => rcases hblank with rfl | ⟨ds, rfl⟩ <;> simp [hn] at heq
        | cons c ns =>
          rw [hn, List.cons_append, List.cons.injEq] at heq
          exact h.ne (hn ▸ List.mem_cons_self) (by decide) heq.1
    · intro c hc
      rcases List.mem_append.mp hc with hc | hc
      · exact IsTagName.ne h hc (by decide)
      · exact hne c hc

/-- **The tags that are read are those that were written.** -/
theorem tagsFrom_writeAll {page : List Markup} (h : ∀ m ∈ page, m.IsPlain) :
    tagsFrom none (writeAll page).toList = page.filterMap Markup.bracket? := by
  rw [writeAll, String.toList_join]
  induction page with
  | nil => rfl
  | cons m page ih =>
    rw [List.map_cons, List.flatMap_cons, tagsFrom_write (h m List.mem_cons_self),
      ih fun m' hm => h m' (List.mem_cons_of_mem m hm)]
    cases hb : m.bracket? with
    | none => rw [List.filterMap_cons_none hb]; rfl
    | some b => rw [List.filterMap_cons_some hb]; rfl

theorem wellNested_writeAll_iff {page : List Markup} (h : ∀ m ∈ page, m.IsPlain) :
    WellNested (writeAll page) ↔ IsBalanced (page.filterMap Markup.bracket?) := by
  rw [WellNested, tagsFrom_writeAll h]

end Folio.Html
