import Folio.Proofs.PageTags

/-!
# What the tags of a page say

A page is read as text once more, this time with all that stands in its tags: a tag has a name, and
behind it attributes, each with a blank before its name and with its value in quotes.  The special
characters of values are escaped, so a value is read as it was written.

## Main definitions

* `unescapeChars` — the text that has been escaped.
* `tagTexts`, `unfinished` — what stands between `<` and `>`, and what is left of a tag that does
  not end.
* `attributesFrom` — the attributes of a tag, as they are written.
* `headingTags` — the levels and the ids of the headings of a page.
* `HasNoHeadings` — a text in which no heading begins.

## Main results

* `unescapeChars_escapeChars` — **escaping can be undone.**
* `headingTags_heading` — **the tag of a heading says its level and its id.**
* `headingTags_writeAll` — **the heading tags of a page are those of its pieces.**
-/

namespace Folio.Html

/-! ### Unescaping -/

/-- The text that has been escaped. -/
def unescapeChars : List Char → List Char
  | '&' :: 'a' :: 'm' :: 'p' :: ';' :: cs => '&' :: unescapeChars cs
  | '&' :: 'l' :: 't' :: ';' :: cs => '<' :: unescapeChars cs
  | '&' :: 'g' :: 't' :: ';' :: cs => '>' :: unescapeChars cs
  | '&' :: 'q' :: 'u' :: 'o' :: 't' :: ';' :: cs => '\x22' :: unescapeChars cs
  | '&' :: '#' :: 'x' :: '2' :: '7' :: ';' :: cs => '\x27' :: unescapeChars cs
  | c :: cs => c :: unescapeChars cs
  | [] => []

theorem unescapeChars_cons {c : Char} (h : c ≠ '&') (cs : List Char) :
    unescapeChars (c :: cs) = c :: unescapeChars cs := by
  rw [unescapeChars] <;> simp [h]

theorem unescapeChars_escapeChar (c : Char) (cs : List Char) :
    unescapeChars (escapeChar c ++ cs) = c :: unescapeChars cs := by
  unfold escapeChar
  split
  · next h => simp_all [unescapeChars]
  split
  · next h => simp_all [unescapeChars]
  split
  · next h => simp_all [unescapeChars]
  split
  · next h => simp_all [unescapeChars]
  split
  · next h => simp_all [unescapeChars]
  · next hamp _ _ _ _ => exact unescapeChars_cons (by simpa using hamp) cs

/-- **Escaping can be undone.** -/
theorem unescapeChars_escapeChars (cs : List Char) : unescapeChars (escapeChars cs) = cs := by
  induction cs with
  | nil => rfl
  | cons c cs ih => rw [escapeChars_cons, unescapeChars_escapeChar, ih]

theorem escapeChars_injective : Function.Injective escapeChars :=
  Function.LeftInverse.injective unescapeChars_escapeChars

theorem escape_injective : Function.Injective escape := by
  intro s t h
  exact String.toList_inj.mp (escapeChars_injective (String.ofList_inj.mp h))

theorem escape_append (s t : String) : escape (s ++ t) = escape s ++ escape t := by
  rw [escape, escape, escape, String.toList_append, escapeChars_append, String.ofList_append]

/-! ### The texts of tags -/

/-- The texts between `<` and `>`.  `tag` holds what has been read of a tag that has begun, last
first. -/
def tagTexts : (tag : Option (List Char)) → List Char → List (List Char)
  | _, [] => []
  | none, c :: cs => if c == '<' then tagTexts (some []) cs else tagTexts none cs
  | some tag, c :: cs =>
    if c == '>' then tag.reverse :: tagTexts none cs else tagTexts (some (c :: tag)) cs

/-- What has been read of a tag that does not end, last first. -/
def unfinished : (tag : Option (List Char)) → List Char → Option (List Char)
  | tag, [] => tag
  | none, c :: cs => if c == '<' then unfinished (some []) cs else unfinished none cs
  | some tag, c :: cs => if c == '>' then unfinished none cs else unfinished (some (c :: tag)) cs

/-- The text is read on from where it stops. -/
theorem tagTexts_append (xs ys : List Char) : ∀ tag,
    tagTexts tag (xs ++ ys) = tagTexts tag xs ++ tagTexts (unfinished tag xs) ys := by
  induction xs with
  | nil => intro tag; cases tag <;> rfl
  | cons c xs ih =>
    intro tag
    cases tag with
    | none =>
      simp only [List.cons_append, tagTexts, unfinished]
      split <;> exact ih _
    | some tag =>
      simp only [List.cons_append, tagTexts, unfinished]
      split <;> simp [ih]

theorem unfinished_append (xs ys : List Char) : ∀ tag,
    unfinished tag (xs ++ ys) = unfinished (unfinished tag xs) ys := by
  induction xs with
  | nil => intro tag; cases tag <;> rfl
  | cons c xs ih =>
    intro tag
    cases tag with
    | none =>
      simp only [List.cons_append, unfinished]
      split <;> exact ih _
    | some tag =>
      simp only [List.cons_append, unfinished]
      split <;> exact ih _

/-- A text without `<` has no tags. -/
theorem tagTexts_of_no_tag {cs : List Char} (h : ∀ c ∈ cs, c ≠ '<') :
    tagTexts none cs = [] ∧ unfinished none cs = none := by
  induction cs with
  | nil => exact ⟨rfl, rfl⟩
  | cons c cs ih =>
    have hc : (c == '<') = false := by simpa using h c List.mem_cons_self
    simp only [tagTexts, unfinished, hc, Bool.false_eq_true, if_false]
    exact ih fun d hd => h d (List.mem_cons_of_mem c hd)

/-- A tag is read up to its end. -/
theorem tagTexts_tag {inner : List Char} (h : ∀ c ∈ inner, c ≠ '>') :
    tagTexts none ('<' :: inner ++ ['>']) = [inner] ∧
      unfinished none ('<' :: inner ++ ['>']) = none := by
  have hinner : ∀ (cs tag : List Char), (∀ c ∈ cs, c ≠ '>') →
      tagTexts (some tag) (cs ++ ['>']) = [tag.reverse ++ cs] ∧
        unfinished (some tag) (cs ++ ['>']) = none := by
    intro cs
    induction cs with
    | nil => intro tag _; simp [tagTexts, unfinished]
    | cons c cs ih =>
      intro tag hcs
      have hc : (c == '>') = false := by simpa using hcs c List.mem_cons_self
      simp only [List.cons_append, tagTexts, unfinished, hc, Bool.false_eq_true, if_false]
      have hrest := ih (c :: tag) fun d hd => hcs d (List.mem_cons_of_mem c hd)
      simpa using hrest
  exact hinner inner [] h

/-! ### Attributes -/

/-- A part of the attributes of a tag that is being read, with what has been read of it, last
first. -/
inductive AttributePart where
  | name (chars : List Char)
  /-- The quote before a value, behind the name that is given. -/
  | quote (name : List Char)
  | value (name chars : List Char)

/-- The attributes that have values, as they are written. -/
def attributesFrom : AttributePart → List Char → List (List Char × List Char)
  | _, [] => []
  | .name chars, c :: cs =>
    if c == ' ' then attributesFrom (.name []) cs
    else if c == '=' then attributesFrom (.quote chars.reverse) cs
    else attributesFrom (.name (c :: chars)) cs
  | .quote name, c :: cs =>
    if c == '\x22' then attributesFrom (.value name []) cs else attributesFrom (.quote name) cs
  | .value name chars, c :: cs =>
    if c == '\x22' then (name, chars.reverse) :: attributesFrom (.name []) cs
    else attributesFrom (.value name (c :: chars)) cs

/-- The name can be told from the blank before it and the value behind it. -/
def IsAttributeName (name : String) : Prop := ∀ c ∈ name.toList, c ≠ ' ' ∧ c ≠ '='

instance (name : String) : Decidable (IsAttributeName name) :=
  List.decidableBAll (fun c => c ≠ ' ' ∧ c ≠ '=') name.toList

theorem ne_of_mem_escapeChars {cs : List Char} (h : ∀ c ∈ cs, c ≠ ' ' ∧ c ≠ '=') :
    ∀ d ∈ escapeChars cs, d ≠ ' ' ∧ d ≠ '=' := by
  intro d hd
  obtain ⟨c, hc, hd⟩ := List.mem_flatMap.mp hd
  have hall : ∀ ds : List Char, ds.all (fun d => d != ' ' && d != '=') = true → d ∈ ds →
      d ≠ ' ' ∧ d ≠ '=' := by
    intro ds hds hd
    simpa using List.all_eq_true.mp hds d hd
  unfold escapeChar at hd
  split at hd
  · exact hall _ (by decide) hd
  split at hd
  · exact hall _ (by decide) hd
  split at hd
  · exact hall _ (by decide) hd
  split at hd
  · exact hall _ (by decide) hd
  split at hd
  · exact hall _ (by decide) hd
  · exact List.mem_singleton.mp hd ▸ h c hc

theorem attributesFrom_name {cs : List Char} (h : ∀ c ∈ cs, c ≠ ' ' ∧ c ≠ '=') (rest : List Char) :
    ∀ chars, attributesFrom (.name chars) (cs ++ '=' :: '\x22' :: rest)
      = attributesFrom (.value (chars.reverse ++ cs) []) rest := by
  induction cs with
  | nil => intro chars; simp [attributesFrom]
  | cons c cs ih =>
    intro chars
    obtain ⟨hblank, hequals⟩ := h c List.mem_cons_self
    have hrest := ih (fun d hd => h d (List.mem_cons_of_mem c hd)) (c :: chars)
    simpa [attributesFrom, hblank, hequals] using hrest

theorem attributesFrom_value {cs : List Char} (h : ∀ c ∈ cs, c ≠ '\x22') (name rest : List Char) :
    ∀ chars, attributesFrom (.value name chars) (cs ++ '\x22' :: rest)
      = (name, chars.reverse ++ cs) :: attributesFrom (.name []) rest := by
  induction cs with
  | nil => intro chars; simp [attributesFrom]
  | cons c cs ih =>
    intro chars
    have hc := h c List.mem_cons_self
    have hrest := ih (fun d hd => h d (List.mem_cons_of_mem c hd)) (c :: chars)
    simpa [attributesFrom, hc] using hrest

/-- **Attributes are read as they were written.** -/
theorem attributesFrom_write {pairs : List (String × String)}
    (h : ∀ p ∈ pairs, IsAttributeName p.1) :
    attributesFrom (.name []) (String.join ((attributes pairs).map Attribute.write)).toList
      = pairs.map fun p => (escapeChars p.1.toList, escapeChars p.2.toList) := by
  rw [String.toList_join]
  induction pairs with
  | nil => rfl
  | cons p pairs ih =>
    have hname := ne_of_mem_escapeChars (h p List.mem_cons_self)
    have hvalue : ∀ c ∈ escapeChars p.2.toList, c ≠ '\x22' := by
      rintro c hc rfl
      exact absurd (not_special_of_mem_escapeChars hc) (by decide)
    have hwrite : (Attribute.write ⟨p.1, some p.2⟩).toList
        = ' ' :: (escapeChars p.1.toList ++ '=' :: '\x22' :: (escapeChars p.2.toList
          ++ ['\x22'])) := by
      simp [Attribute.write, toList_escape]
    have hblank : ∀ cs, attributesFrom (.name []) (' ' :: cs) = attributesFrom (.name []) cs :=
      fun cs => by simp [attributesFrom]
    rw [attributes, List.map_cons, List.map_cons, List.flatMap_cons, hwrite, List.cons_append,
      hblank, List.append_assoc, List.cons_append, List.cons_append, List.append_assoc,
      List.singleton_append, attributesFrom_name hname, attributesFrom_value hvalue]
    exact congrArg _ (ih fun q hq => h q (List.mem_cons_of_mem p hq))

/-! ### Heading tags -/

/-- The level in the name of a heading element. -/
def headingNumber? (name : List Char) : Option Nat :=
  match name with
  | 'h' :: digits =>
    if digits.isEmpty || !digits.all Char.isDigit then none
    else some (Nat.ofDigitChars 10 digits 0)
  | _ => none

/-- The value of the attribute `id` in what stands behind the name of a tag. -/
def idFrom (cs : List Char) : Option String :=
  ((attributesFrom (.name []) cs).lookup ['i', 'd']).map fun v => String.ofList (unescapeChars v)

/-- The level and the id that the text of a tag says, if it begins a heading. -/
def headingTag? (inner : List Char) : Option (Nat × Option String) :=
  (headingNumber? (inner.takeWhile (· != ' '))).map fun n =>
    (n, idFrom (inner.dropWhile (· != ' ')))

/-- The levels and the ids of the headings of a page, as its tags say them. -/
def headingTags (html : String) : List (Nat × Option String) :=
  (tagTexts none html.toList).filterMap headingTag?

theorem headingNumber?_heading (n : Nat) : headingNumber? ("h" ++ toString n).toList = some n := by
  have hdigits : ("h" ++ toString n).toList = 'h' :: Nat.toDigits 10 n := by
    simp [Nat.repr, toString]
  have hne : (Nat.toDigits 10 n).isEmpty = false := by simp
  have hall : (Nat.toDigits 10 n).all Char.isDigit = true :=
    List.all_eq_true.mpr fun c hc => Nat.isDigit_of_mem_toDigits (by decide) (by decide) hc
  rw [hdigits, headingNumber?, hne, hall]
  simp [Nat.ofDigitChars_toDigits]

theorem escapeChars_eq_id_iff (name : String) :
    escapeChars name.toList = ['i', 'd'] ↔ name = "id" := by
  constructor
  · intro h
    have hname := unescapeChars_escapeChars name.toList
    rw [h] at hname
    exact String.toList_inj.mp hname.symm
  · rintro rfl
    rfl

/-- The id of a tag is read as it was written. -/
theorem idFrom_write {pairs : List (String × String)} (h : ∀ p ∈ pairs, IsAttributeName p.1) :
    idFrom (String.join ((attributes pairs).map Attribute.write)).toList = pairs.lookup "id" := by
  rw [idFrom, attributesFrom_write h]
  clear h
  induction pairs with
  | nil => rfl
  | cons p pairs ih =>
    rw [List.map_cons, List.lookup_cons, List.lookup_cons]
    -- A name is `id` just if its code is.
    have hcode : (['i', 'd'] == escapeChars p.1.toList) = ("id" == p.1) := by
      rw [Bool.eq_iff_iff, beq_iff_eq, beq_iff_eq, eq_comm, escapeChars_eq_id_iff, eq_comm]
    rw [hcode]
    cases "id" == p.1 with
    | true => simp [unescapeChars_escapeChars]
    | false => exact ih

/-! ### Written markup -/

/-- No heading begins in the text, and all tags that begin in it end in it. -/
structure HasNoHeadings (html : String) : Prop where
  closed : unfinished none html.toList = none
  headings : headingTags html = []

/-- The text of a start tag: its name, and its attributes with a blank before them. -/
theorem tagTexts_startTag {name : String} (h : IsTagName name) (attrs : List Attribute) :
    tagTexts none (Markup.startTag name attrs).write.toList
        = [name.toList ++ (String.join (attrs.map Attribute.write)).toList] ∧
      unfinished none (Markup.startTag name attrs).write.toList = none := by
  obtain ⟨cs, hcs, -, hne⟩ := attributes_write attrs
  have hwrite : (Markup.startTag name attrs).write.toList
      = '<' :: (name.toList ++ (String.join (attrs.map Attribute.write)).toList) ++ ['>'] := by
    simp [Markup.write]
  rw [hwrite, hcs]
  refine tagTexts_tag fun c hc => ?_
  rcases List.mem_append.mp hc with hc | hc
  · exact h.ne hc (by decide)
  · exact hne c hc

/-- What a start tag says depends on its name and on its id. -/
theorem headingTags_startTag {name : String} (h : IsTagName name) (attrs : List Attribute) :
    headingTags (Markup.startTag name attrs).write
      = ((headingNumber? name.toList).map fun n =>
          (n, idFrom (String.join (attrs.map Attribute.write)).toList)).toList := by
  obtain ⟨cs, hcs, hblank, -⟩ := attributes_write attrs
  have hdrop : (name.toList ++ cs).dropWhile (· != ' ') = cs := by
    have hsplit := List.takeWhile_append_dropWhile (p := (· != ' ')) (l := name.toList ++ cs)
    rw [takeWhile_tagName h hblank] at hsplit
    exact List.append_cancel_left hsplit
  have htag : headingTag? (name.toList ++ cs)
      = (headingNumber? name.toList).map fun n => (n, idFrom cs) := by
    rw [headingTag?, takeWhile_tagName h hblank, hdrop]
  rw [headingTags, (tagTexts_startTag h attrs).1, hcs]
  cases hn : headingNumber? name.toList <;> simp [htag, hn]

/-- **The tag of a heading says its level and its id.** -/
theorem headingTags_heading (n : Nat) {pairs : List (String × String)}
    (h : ∀ p ∈ pairs, IsAttributeName p.1) :
    headingTags (Markup.startTag ("h" ++ toString n) (attributes pairs)).write
      = [(n, pairs.lookup "id")] := by
  rw [headingTags_startTag (isTagName_heading n), headingNumber?_heading, idFrom_write h]
  rfl

theorem hasNoHeadings_startTag {name : String} (h : IsTagName name)
    (hn : headingNumber? name.toList = none) (attrs : List Attribute) :
    HasNoHeadings (Markup.startTag name attrs).write := by
  refine ⟨(tagTexts_startTag h attrs).2, ?_⟩
  rw [headingTags_startTag h, hn]
  rfl

/-- An end tag begins no heading. -/
theorem hasNoHeadings_endTag {name : String} (h : IsTagName name) :
    HasNoHeadings (Markup.endTag name).write := by
  have hwrite : (Markup.endTag name).write.toList = '<' :: ('/' :: name.toList) ++ ['>'] := by
    simp [Markup.write]
  have hne : ∀ c ∈ '/' :: name.toList, c ≠ '>' :=
    List.forall_mem_cons.mpr ⟨by decide, fun c hc => h.ne hc (by decide)⟩
  have htag := tagTexts_tag hne
  rw [← hwrite] at htag
  refine ⟨htag.2, ?_⟩
  rw [headingTags, htag.1]
  simp [headingTag?, headingNumber?]

/-- A text without `<` begins no heading. -/
theorem hasNoHeadings_of_no_tag {html : String} (h : ∀ c ∈ html.toList, c ≠ '<') :
    HasNoHeadings html := by
  obtain ⟨htags, hclosed⟩ := tagTexts_of_no_tag h
  refine ⟨hclosed, ?_⟩
  rw [headingTags, htags]
  rfl

theorem hasNoHeadings_text (s : String) : HasNoHeadings (Markup.text s).write := by
  refine hasNoHeadings_of_no_tag fun c hc => ?_
  rintro rfl
  exact absurd (not_special_of_mem_escape hc) (by decide)

/-- The tags of a page are those of its pieces. -/
theorem tagTexts_writeAll {page : List Markup}
    (h : ∀ m ∈ page, unfinished none m.write.toList = none) :
    tagTexts none (writeAll page).toList = page.flatMap fun m => tagTexts none m.write.toList := by
  rw [writeAll, String.toList_join]
  induction page with
  | nil => rfl
  | cons m page ih =>
    rw [List.map_cons, List.flatMap_cons, List.flatMap_cons, tagTexts_append,
      h m List.mem_cons_self, ih fun m' hm' => h m' (List.mem_cons_of_mem m hm')]

/-- **The heading tags of a page are those of its pieces.** -/
theorem headingTags_writeAll {page : List Markup}
    (h : ∀ m ∈ page, unfinished none m.write.toList = none) :
    headingTags (writeAll page) = page.flatMap fun m => headingTags m.write := by
  rw [headingTags, tagTexts_writeAll h, List.filterMap_flatMap]
  rfl

end Folio.Html
