import Folio.Proofs.LowerCase
import Folio.Slug
import Mathlib.Data.List.Chain

/-!
# What a slug is made of

A slug is written from left to right: the letters and numbers of the text in lower case, and a dash
for the first blank, dash or underscore behind one of them.  So the dashes are told apart from what
is put in lower case: which characters are kept is settled first (`slugSource`), and the slug is
their lower case.  Between the two nothing happens but for the dotted capital I, whose lower case
has a dot as a character of its own.  The dot is no letter, so a slug that is made of the slug
loses it.

## Main definitions

* `slugSource`, `slugLetters` — what a slug keeps of a text, before it is put in lower case.
* `IsDashed` — dashes stand one at a time, and not at the ends.
* `IsSlugOf` — what a text is as the slug of another.

## Main results

* `slugify_eq` — a slug is the lower case of the characters that are kept.
* `slugify_slugify` — **a slug that is made of a slug loses its dots and nothing else.**
* `isSlugOf_slugify` — **letters, numbers and single dashes**, and a dot for each dotted capital I.
* `not_isAlphanumeric_slugify` — the dot is neither a letter nor a number.
-/

namespace Folio

open Text (isAlphanumeric isBlank lower lowerBase dottedCapital dotAbove IsBlankText)

/-! ### The characters that are kept -/

/-- The characters of a text that its slug has before they are put in lower case. -/
def slugSource : (afterDash : Bool) → List Char → List Char
  | _, [] => []
  | afterDash, c :: cs =>
    if isAlphanumeric c then c :: slugSource false cs
    else if !afterDash && (isBlank c || c == '-' || c == '_') then '-' :: slugSource true cs
    else slugSource afterDash cs

/-- The characters without the dash at their end. -/
def withoutLastDash (cs : List Char) : List Char :=
  if cs.getLast? == some '-' then cs.dropLast else cs

/-- The characters of a slug before they are put in lower case. -/
def slugLetters (text : String) : List Char :=
  withoutLastDash (slugSource true (Text.trim text.toList))

/-- A character that a slug keeps. -/
def IsSlugChar (c : Char) : Prop := isAlphanumeric c = true ∨ c = '-'

/-- Dashes stand between other characters, one at a time. -/
structure IsDashed (cs : List Char) : Prop where
  begins : cs.head? ≠ some '-'
  ends : cs.getLast? ≠ some '-'
  single : ¬ ['-', '-'] <:+: cs

/-- The two characters are not both dashes. -/
def NotBothDashes (c d : Char) : Prop := ¬ (c = '-' ∧ d = '-')

theorem notBothDashes_of_ne {c : Char} (h : c ≠ '-') (d : Char) : NotBothDashes c d :=
  fun hboth => h hboth.1

theorem ne_dash_of_isAlphanumeric {c : Char} (h : isAlphanumeric c = true) : c ≠ '-' := by
  rintro rfl
  exact absurd h (by decide)

theorem not_dashes_infix_of_isChain {cs : List Char} (h : cs.IsChain NotBothDashes) :
    ¬ ['-', '-'] <:+: cs := by
  intro hdashes
  have hpair := List.IsChain.infix h hdashes
  simp [NotBothDashes] at hpair

theorem isSlugChar_of_mem_slugSource (afterDash : Bool) (cs : List Char) :
    ∀ c ∈ slugSource afterDash cs, IsSlugChar c := by
  fun_induction slugSource afterDash cs with
  | case1 => exact List.forall_mem_nil _
  | case2 _ c cs hc ih => exact List.forall_mem_cons.mpr ⟨.inl hc, ih⟩
  | case3 _ _ _ _ _ ih => exact List.forall_mem_cons.mpr ⟨.inr rfl, ih⟩
  | case4 _ _ _ _ _ ih => exact ih

/-- Behind a dash comes no dash. -/
theorem head?_slugSource (cs : List Char) : (slugSource true cs).head? ≠ some '-' := by
  induction cs with
  | nil => simp [slugSource]
  | cons c cs ih =>
    rw [slugSource]
    split
    · next hc => simpa using ne_dash_of_isAlphanumeric hc
    · simpa using ih

theorem isChain_slugSource (afterDash : Bool) (cs : List Char) :
    (slugSource afterDash cs).IsChain NotBothDashes := by
  fun_induction slugSource afterDash cs with
  | case1 => exact .nil
  | case2 _ c cs hc ih =>
    exact List.isChain_cons.mpr
      ⟨fun d _ => notBothDashes_of_ne (ne_dash_of_isAlphanumeric hc) d, ih⟩
  | case3 _ _ cs _ _ ih =>
    refine List.isChain_cons.mpr ⟨fun d hd hboth => head?_slugSource cs ?_, ih⟩
    rw [Option.mem_def.mp hd, hboth.2]
  | case4 _ _ _ _ _ ih => exact ih

/-- Every letter and every number is kept. -/
theorem count_slugSource {d : Char} (hd : isAlphanumeric d = true) (afterDash : Bool)
    (cs : List Char) : (slugSource afterDash cs).count d = cs.count d := by
  have hne : '-' ≠ d := (ne_dash_of_isAlphanumeric hd).symm
  have hother : ∀ c, ¬ isAlphanumeric c = true → c ≠ d := fun c hc h => hc (h ▸ hd)
  fun_induction slugSource afterDash cs with
  | case1 => rfl
  | case2 _ c cs _ ih => rw [List.count_cons, List.count_cons, ih]
  | case3 _ c cs hc _ ih =>
    rw [List.count_cons_of_ne hne, List.count_cons_of_ne (hother c hc), ih]
  | case4 _ c cs hc _ ih => rw [List.count_cons_of_ne (hother c hc), ih]

/-! ### The dash at the end -/

theorem withoutLastDash_append_dash (cs : List Char) : withoutLastDash (cs ++ ['-']) = cs := by
  simp [withoutLastDash]

theorem withoutLastDash_of_ne {cs : List Char} (h : cs.getLast? ≠ some '-') :
    withoutLastDash cs = cs := by
  simp [withoutLastDash, h]

/-- Either the characters end with a dash, and that is left out, or all are kept. -/
theorem withoutLastDash_cases (cs : List Char) :
    cs = withoutLastDash cs ++ ['-'] ∨
      (cs.getLast? ≠ some '-' ∧ cs = withoutLastDash cs) := by
  by_cases h : cs.getLast? = some '-'
  · obtain ⟨ds, rfl⟩ := List.getLast?_eq_some_iff.mp h
    exact .inl (by rw [withoutLastDash_append_dash])
  · exact .inr ⟨h, (withoutLastDash_of_ne h).symm⟩

theorem prefix_withoutLastDash (cs : List Char) : withoutLastDash cs <+: cs := by
  rcases withoutLastDash_cases cs with h | ⟨-, h⟩
  · exact ⟨['-'], h.symm⟩
  · exact ⟨[], by rw [List.append_nil, ← h]⟩

theorem isSlugChar_of_mem_slugLetters (text : String) : ∀ c ∈ slugLetters text, IsSlugChar c :=
  fun c hc => isSlugChar_of_mem_slugSource _ _ c ((prefix_withoutLastDash _).subset hc)

theorem isChain_slugLetters (text : String) : (slugLetters text).IsChain NotBothDashes :=
  List.IsChain.prefix (isChain_slugSource true _) (prefix_withoutLastDash _)

theorem isDashed_slugLetters (text : String) : IsDashed (slugLetters text) := by
  have hchain := isChain_slugSource true (Text.trim text.toList)
  have hhead := head?_slugSource (Text.trim text.toList)
  refine ⟨?_, ?_, not_dashes_infix_of_isChain (isChain_slugLetters text)⟩
  · intro hbegins
    obtain ⟨rest, hrest⟩ := prefix_withoutLastDash (slugSource true (Text.trim text.toList))
    rw [← hrest, List.head?_append_of_ne_nil _ (by rintro h; simp [slugLetters, h] at hbegins)]
      at hhead
    exact hhead hbegins
  · intro hends
    rcases withoutLastDash_cases (slugSource true (Text.trim text.toList)) with h | ⟨hne, h⟩
    · -- A dash before the dash that is left out would be the second of two.
      obtain ⟨ds, hds⟩ := List.getLast?_eq_some_iff.mp hends
      rw [slugLetters] at hds
      rw [hds] at h
      exact not_dashes_infix_of_isChain hchain ⟨ds, [], by rw [h]; simp⟩
    · exact hne (h ▸ hends)

/-! ### Lower case -/

theorem lower_of_isSlugChar {c : Char} (h : IsSlugChar c) :
    lower c = lowerBase c :: if c = dottedCapital then [dotAbove] else [] := by
  rcases h with h | rfl
  · exact Text.lower_eq h
  · decide

theorem lowerBase_eq_dash_iff {c : Char} (h : IsSlugChar c) : lowerBase c = '-' ↔ c = '-' := by
  rcases h with h | rfl
  · have hbase := ne_dash_of_isAlphanumeric (Text.isLowered_lowerBase h).alphanumeric
    simp [hbase, ne_dash_of_isAlphanumeric h]
  · decide

theorem lowerBase_ne_dotAbove {c : Char} (h : IsSlugChar c) : lowerBase c ≠ dotAbove := by
  rcases h with h | rfl
  · have hbase := (Text.isLowered_lowerBase h).alphanumeric
    intro heq
    rw [heq] at hbase
    exact absurd hbase (by decide +kernel)
  · decide

theorem slugChars_eq (afterDash : Bool) (cs : List Char) :
    slugChars afterDash cs = (slugSource afterDash cs).flatMap lower := by
  fun_induction slugSource afterDash cs with
  | case1 => rfl
  | case2 afterDash c cs hc ih => rw [slugChars, if_pos hc, ih, List.flatMap_cons]
  | case3 afterDash c cs hc hdash ih =>
    rw [slugChars, if_neg hc, if_pos hdash, ih, List.flatMap_cons]
    rfl
  | case4 afterDash c cs hc hdash ih => rw [slugChars, if_neg hc, if_neg hdash, ih]

section LowerCase

variable {ks : List Char} (hks : ∀ c ∈ ks, IsSlugChar c)

include hks

theorem head?_flatMap_lower : (ks.flatMap lower).head? = ks.head?.map lowerBase := by
  cases ks with
  | nil => rfl
  | cons c ks =>
    rw [List.flatMap_cons, lower_of_isSlugChar (hks c List.mem_cons_self)]
    rfl

theorem getLast?_flatMap_lower : (ks.flatMap lower).getLast? = some '-' ↔
    ks.getLast? = some '-' := by
  rcases List.eq_nil_or_concat' ks with rfl | ⟨ks, c, rfl⟩
  · simp
  · have hc := hks c (by simp)
    rw [List.flatMap_append, List.flatMap_cons, List.flatMap_nil, List.append_nil,
      lower_of_isSlugChar hc, List.getLast?_append, List.getLast?_concat, Option.some_inj]
    split
    · next hdotted =>
      subst hdotted
      show (some dotAbove).or _ = some '-' ↔ _
      rw [Option.some_or]
      decide
    · simpa using lowerBase_eq_dash_iff hc

theorem isChain_flatMap_lower (h : ks.IsChain NotBothDashes) :
    (ks.flatMap lower).IsChain NotBothDashes := by
  induction ks with
  | nil => exact .nil
  | cons c ks ih =>
    obtain ⟨hc, hrest⟩ := List.forall_mem_cons.mp hks
    obtain ⟨hnext, hchain⟩ := List.isChain_cons.mp h
    have ih := ih hrest hchain
    have hbase : ∀ d ∈ (ks.flatMap lower).head?, NotBothDashes (lowerBase c) d := by
      intro d hd hboth
      rw [head?_flatMap_lower hrest] at hd
      obtain ⟨k, hk, rfl⟩ := Option.map_eq_some_iff.mp hd
      have hk' := hrest k (List.mem_of_mem_head? hk)
      exact hnext k hk ⟨(lowerBase_eq_dash_iff hc).mp hboth.1,
        (lowerBase_eq_dash_iff hk').mp hboth.2⟩
    rw [List.flatMap_cons, lower_of_isSlugChar hc]
    split
    · refine .cons_cons (fun hboth => absurd hboth.2 (by decide)) (List.isChain_cons.mpr ⟨?_, ih⟩)
      exact fun d _ => notBothDashes_of_ne (by decide) d
    · exact List.isChain_cons.mpr ⟨hbase, ih⟩

theorem isDashed_flatMap_lower (h : ks.IsChain NotBothDashes) (hdashed : IsDashed ks) :
    IsDashed (ks.flatMap lower) := by
  refine ⟨?_, fun hends => hdashed.ends ((getLast?_flatMap_lower hks).mp hends),
    not_dashes_infix_of_isChain (isChain_flatMap_lower hks h)⟩
  intro hbegins
  rw [head?_flatMap_lower hks] at hbegins
  obtain ⟨k, hk, hbase⟩ := Option.map_eq_some_iff.mp hbegins
  have hk' := hks k (List.mem_of_mem_head? hk)
  exact hdashed.begins (hk.trans (congrArg some ((lowerBase_eq_dash_iff hk').mp hbase)))

/-- Only the lower case of a dotted capital I has a dot of its own. -/
theorem filter_flatMap_lower :
    (ks.flatMap lower).filter (· != dotAbove) = ks.map lowerBase := by
  induction ks with
  | nil => rfl
  | cons c ks ih =>
    obtain ⟨hc, hrest⟩ := List.forall_mem_cons.mp hks
    have hne : (lowerBase c != dotAbove) = true := by simpa using lowerBase_ne_dotAbove hc
    rw [List.flatMap_cons, lower_of_isSlugChar hc, List.filter_append, ih hrest, List.map_cons,
      List.filter_cons_of_pos (p := (· != dotAbove)) hne]
    split <;> rfl

theorem count_flatMap_lower :
    (ks.flatMap lower).count dotAbove = ks.count dottedCapital := by
  induction ks with
  | nil => rfl
  | cons c ks ih =>
    obtain ⟨hc, hrest⟩ := List.forall_mem_cons.mp hks
    rw [List.flatMap_cons, lower_of_isSlugChar hc, List.count_append, ih hrest,
      List.count_cons_of_ne (lowerBase_ne_dotAbove hc)]
    split
    · next hdotted =>
      rw [hdotted, List.count_cons_self, List.count_cons_self, List.count_nil, Nat.zero_add,
        Nat.add_comm]
    · next hdotted => rw [List.count_nil, List.count_cons_of_ne hdotted, Nat.zero_add]

/-- A slug that is made of lower case drops the dots and keeps all else. -/
theorem slugChars_flatMap_lower (afterDash : Bool) (h : ks.IsChain NotBothDashes)
    (hbegins : afterDash = true → ks.head? ≠ some '-') :
    slugChars afterDash (ks.flatMap lower) = ks.map lowerBase := by
  induction ks generalizing afterDash with
  | nil => rfl
  | cons c ks ih =>
    obtain ⟨hc, hrest⟩ := List.forall_mem_cons.mp hks
    obtain ⟨hnext, hchain⟩ := List.isChain_cons.mp h
    rcases hc with hc | rfl
    · have hlowered := Text.isLowered_lowerBase hc
      have ih := ih hrest false hchain nofun
      rw [List.flatMap_cons, Text.lower_eq hc, List.cons_append, slugChars,
        if_pos hlowered.alphanumeric, hlowered.lower, List.map_cons]
      split
      · -- The dot is passed over: it is neither a letter nor a blank.
        have hdot : ∀ cs, slugChars false (dotAbove :: cs) = slugChars false cs := fun cs => by
          rw [slugChars, if_neg (by decide +kernel), if_neg (by decide +kernel)]
        rw [List.singleton_append, List.singleton_append, hdot, ih]
      · rw [List.nil_append, ih]
        rfl
    · have hfalse : afterDash = false := by
        cases afterDash
        · rfl
        · exact absurd rfl (hbegins rfl)
      subst hfalse
      have ih := ih hrest true hchain fun _ hdash =>
        hnext '-' (Option.mem_def.mpr hdash) ⟨rfl, rfl⟩
      have hdash : ∀ cs, slugChars false ('-' :: cs) = '-' :: slugChars true cs := fun cs => by
        rw [slugChars, if_neg (by decide), if_pos (by decide)]
      rw [List.flatMap_cons, show lower '-' = ['-'] from rfl, List.singleton_append, hdash, ih]
      rfl

end LowerCase

/-! ### Slugs -/

theorem slugify_eq_withoutLastDash (text : String) : slugify text
    = String.ofList (withoutLastDash (slugChars true (Text.trim text.toList))) := rfl

/-- **A slug is the lower case of the characters that are kept.** -/
theorem slugify_eq (text : String) :
    slugify text = String.ofList ((slugLetters text).flatMap lower) := by
  have hkept := isSlugChar_of_mem_slugSource true (Text.trim text.toList)
  have hcut : withoutLastDash (slugChars true (Text.trim text.toList))
      = (slugLetters text).flatMap lower := by
    rw [slugChars_eq, slugLetters]
    rcases withoutLastDash_cases (slugSource true (Text.trim text.toList)) with h | ⟨hne, h⟩
    · rw [h, withoutLastDash_append_dash, List.flatMap_append]
      exact withoutLastDash_append_dash _
    · rw [← h, withoutLastDash_of_ne (mt (getLast?_flatMap_lower hkept).mp hne)]
  rw [slugify_eq_withoutLastDash, hcut]

theorem not_isBlank_of_mem_slug {ks : List Char} (hks : ∀ c ∈ ks, IsSlugChar c) :
    ∀ d ∈ ks.flatMap lower, isBlank d = false := by
  intro d hd
  obtain ⟨c, hc, hd⟩ := List.mem_flatMap.mp hd
  rw [lower_of_isSlugChar (hks c hc)] at hd
  rcases List.mem_cons.mp hd with rfl | hd
  · rcases hks c hc with hc | rfl
    · exact Text.isBlank_of_isAlphanumeric (Text.isLowered_lowerBase hc).alphanumeric
    · decide
  · split at hd
    · rw [List.mem_singleton.mp hd]
      decide
    · exact absurd hd List.not_mem_nil

theorem trim_of_not_isBlank {cs : List Char} (h : ∀ c ∈ cs, isBlank c = false) :
    Text.trim cs = cs := by
  have htrim := Text.trim_append h Text.isBlankText_nil
  rwa [List.append_nil] at htrim

/-- **A slug that is made of a slug loses its dots and nothing else.** -/
theorem slugify_slugify (text : String) :
    slugify (slugify text) = String.ofList ((slugLetters text).map lowerBase) := by
  have hks := isSlugChar_of_mem_slugLetters text
  have hdashed := isDashed_slugLetters text
  have hagain := slugChars_flatMap_lower hks true (isChain_slugLetters text)
    fun _ => hdashed.begins
  have hends : ((slugLetters text).map lowerBase).getLast? ≠ some '-' := by
    rw [List.getLast?_map]
    intro hlast
    obtain ⟨k, hk, hbase⟩ := Option.map_eq_some_iff.mp hlast
    have hk' := hks k (List.mem_of_mem_getLast? hk)
    exact hdashed.ends (hk.trans (congrArg some ((lowerBase_eq_dash_iff hk').mp hbase)))
  rw [slugify_eq text, slugify_eq_withoutLastDash, String.toList_ofList,
    trim_of_not_isBlank (not_isBlank_of_mem_slug hks), hagain, withoutLastDash_of_ne hends]

/-- Every dotted capital I of a text is kept. -/
theorem count_slugLetters (text : String) :
    (slugLetters text).count dottedCapital = text.toList.count dottedCapital := by
  have halphanumeric : isAlphanumeric dottedCapital = true := by decide +kernel
  have hsource : (slugLetters text).count dottedCapital
      = (slugSource true (Text.trim text.toList)).count dottedCapital := by
    rcases withoutLastDash_cases (slugSource true (Text.trim text.toList)) with h | ⟨-, h⟩
    · rw [h, List.count_append, slugLetters]
      rfl
    · rw [slugLetters, ← h]
  have hblank : ∀ {cs}, IsBlankText cs → cs.count dottedCapital = 0 := by
    intro cs hcs
    refine List.count_eq_zero.mpr fun hmem => ?_
    rw [IsBlankText] at hcs
    exact absurd (hcs _ hmem) (by decide)
  obtain ⟨lead, trail, htext, hlead, htrail⟩ := Text.exists_trim text.toList
  rw [hsource, count_slugSource halphanumeric]
  conv_rhs => rw [htext]
  rw [List.count_append, List.count_append, hblank hlead, hblank htrail, Nat.zero_add,
    Nat.add_zero]

/-- What a text is as the slug of another one, and what becomes of it when a slug is made of it
once more. -/
structure IsSlugOf (text slug : String) : Prop where
  /-- It has letters, numbers and dashes, and the dots of dotted letters. -/
  chars : ∀ c ∈ slug.toList, isAlphanumeric c = true ∨ c = '-' ∨ c = dotAbove
  /-- No dash is at either end, and no two stand in a row. -/
  dashed : IsDashed slug.toList
  /-- There is one dot for each dotted capital I of the text. -/
  dots : slug.toList.count dotAbove = text.toList.count dottedCapital
  /-- A slug that is made of it loses the dots and nothing else. -/
  again : slugify slug = String.ofList (slug.toList.filter (· != dotAbove))
  /-- It is all letters, numbers and dashes just if the text has no dotted capital I. -/
  plain_iff : (∀ c ∈ slug.toList, isAlphanumeric c = true ∨ c = '-') ↔
    dottedCapital ∉ text.toList
  /-- And just then it is its own slug. -/
  fixed_iff : slugify slug = slug ↔ dottedCapital ∉ text.toList

/-- **A slug has letters, numbers and single dashes**, and a dot for each dotted capital I.  It is
its own slug unless there is such a dot. -/
theorem isSlugOf_slugify (text : String) : IsSlugOf text (slugify text) := by
  have hks := isSlugChar_of_mem_slugLetters text
  have htoList : (slugify text).toList = (slugLetters text).flatMap lower := by
    rw [slugify_eq, String.toList_ofList]
  have hdots : (slugify text).toList.count dotAbove = text.toList.count dottedCapital := by
    rw [htoList, count_flatMap_lower hks, count_slugLetters]
  have hagain : slugify (slugify text)
      = String.ofList ((slugify text).toList.filter (· != dotAbove)) := by
    rw [htoList, filter_flatMap_lower hks, slugify_slugify]
  have hchars : ∀ c ∈ (slugify text).toList, isAlphanumeric c = true ∨ c = '-' ∨ c = dotAbove := by
    intro d hd
    rw [htoList] at hd
    obtain ⟨c, hc, hd⟩ := List.mem_flatMap.mp hd
    rw [lower_of_isSlugChar (hks c hc)] at hd
    rcases List.mem_cons.mp hd with rfl | hd
    · rcases hks c hc with hc | rfl
      · exact .inl (Text.isLowered_lowerBase hc).alphanumeric
      · exact .inr (.inl (by decide))
    · split at hd
      · exact .inr (.inr (List.mem_singleton.mp hd))
      · exact absurd hd List.not_mem_nil
  have hnone : dotAbove ∉ (slugify text).toList ↔ dottedCapital ∉ text.toList := by
    rw [← List.count_eq_zero, ← List.count_eq_zero, hdots]
  refine ⟨hchars, ?_, hdots, hagain, ?_, ?_⟩
  · rw [htoList]
    exact isDashed_flatMap_lower hks (isChain_slugLetters text) (isDashed_slugLetters text)
  · rw [← hnone]
    constructor
    · intro hplain hmem
      exact absurd (hplain _ hmem) (by decide +kernel)
    · intro hmem c hc
      rcases hchars c hc with halpha | hdash | rfl
      · exact .inl halpha
      · exact .inr hdash
      · exact absurd hc hmem
  · rw [← hnone, hagain, ← String.toList_inj, String.toList_ofList, List.filter_eq_self]
    constructor
    · intro hall hmem
      exact absurd (hall _ hmem) (by decide)
    · intro hmem c hc
      have hne : c ≠ dotAbove := fun h => hmem (h ▸ hc)
      simpa using hne

/-- The dot that the dotted capital I leaves in a slug is neither a letter nor a number, and the
slug of that slug has lost it. -/
theorem not_isAlphanumeric_slugify : dotAbove ∈ (slugify "\u0130").toList ∧
    isAlphanumeric dotAbove = false ∧ dotAbove ≠ '-' ∧
      slugify (slugify "\u0130") = "i" ∧ slugify "\u0130" ≠ "i" := by
  decide +kernel

end Folio
