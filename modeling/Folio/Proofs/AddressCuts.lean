import Folio.Proofs.Addresses

/-!
# Addresses in a text that is cut

A text is cut in front of an address, where a word begins or ends.  What stood before the cut has
the same address at its beginning with or without what stood behind it, unless that address goes on
across the cut.  An opening cannot stand across the cut: the address behind it begins with a letter
or a number, so that letters of the opening would stand on both sides.  For the same reason a
top-level domain does not stand across it.  A domain name that ends in front of the cut with a
point goes on behind it, because every address begins with a domain name or with a word that could
be a top-level domain.

## Main definitions

* `Linkify.IsCut` — a text is cut in front of an address.

## Main results

* `Linkify.IsCut.domainAt?_append` — **a domain name goes on across a cut, or it does not depend on
  what is behind it.**
* `Linkify.IsCut.addressAt?_append` — **so does an address.**
-/

namespace Folio

namespace Linkify

open Text (isWordChar)

/-- The text `cs` begins with an address, and a word begins or ends in front of it. -/
structure IsCut (w cs : List Char) : Prop where
  /-- An address stands behind the cut. -/
  address : addressAt? cs ≠ none
  /-- The two characters at the cut do not belong to one word. -/
  boundary : ∀ c ∈ w.getLast?, ∀ d ∈ cs.head?, isWordChar c ≠ isWordChar d

variable {w cs : List Char}

theorem IsCut.exists_cons (h : IsCut w cs) : ∃ d ds, cs = d :: ds ∧ isLabelEnd d = true := by
  obtain ⟨a, ha⟩ := Option.ne_none_iff_exists'.mp h.address
  exact exists_cons_of_addressAt? ha

/-- The end of a text is cut where the text is. -/
theorem IsCut.of_append {v : List Char} (h : IsCut (v ++ w) cs) : IsCut w cs := by
  refine ⟨h.address, fun c hc => h.boundary c ?_⟩
  rw [List.getLast?_append, Option.mem_def.mp hc]
  rfl

/-- A run of letters does not stand across a cut. -/
theorem IsCut.not_letters {x rest : List Char} (h : IsCut w (x ++ rest)) (hw : w ≠ []) (hx : x ≠ [])
    (hletters : ∀ c ∈ w ++ x, isDomainLetter c = true) : False := by
  obtain ⟨d, x, rfl⟩ := List.exists_cons_of_ne_nil hx
  have hbefore := hletters (w.getLast hw) (List.mem_append_left _ (List.getLast_mem hw))
  have hbehind := hletters d (List.mem_append_right _ List.mem_cons_self)
  refine h.boundary (w.getLast hw) (List.getLast?_eq_getLast_of_ne_nil hw) d rfl ?_
  rw [isWordChar_of_isDomainLetter hbefore, isWordChar_of_isDomainLetter hbehind]

/-! ### Openings and top-level domains -/

/-- No sign stands behind a cut, so the letters of an opening would reach across it. -/
theorem IsCut.not_isOpening {x rest : List Char} (h : IsCut w (x ++ rest)) (hw : w ≠ [])
    (hx : x ≠ []) : ¬ IsOpening (w ++ x) := by
  intro hopening
  obtain ⟨letters, marks, hparts, hletters, -, hmarks⟩ := hopening.exists_letters
  obtain ⟨d, x, rfl⟩ := List.exists_cons_of_ne_nil hx
  have hd : d ∉ marks := by
    obtain ⟨e, es, hcs, he⟩ := h.exists_cons
    obtain ⟨rfl, -⟩ := List.cons.inj hcs
    intro hmem
    rw [(hmarks d hmem).1] at he
    cases he
  rcases List.append_eq_append_iff.mp hparts with ⟨y, rfl, hy⟩ | ⟨y, rfl, rfl⟩
  · cases y with
    | nil =>
      rw [List.nil_append] at hy
      exact hd (hy ▸ List.mem_cons_self)
    | cons e y =>
      rw [hy, List.append_assoc] at h
      exact h.not_letters hw (List.cons_ne_nil e y) hletters.letters
  · exact hd (List.mem_append_right y List.mem_cons_self)

/-- **An opening does not stand across a cut.** -/
theorem IsCut.afterOpening?_append (h : IsCut w cs) (hw : w ≠ []) :
    afterOpening? (w ++ cs) = (afterOpening? w).map (· ++ cs) := by
  ext after
  rw [Option.map_eq_some_iff, afterOpening?_eq_some_iff]
  constructor
  · rintro ⟨start, hstart, heq⟩
    rcases List.append_eq_append_iff.mp heq with ⟨x, rfl, rfl⟩ | ⟨x, rfl, rfl⟩
    · by_cases hx : x = []
      · subst hx
        rw [List.append_nil] at hstart
        exact ⟨[], afterOpening?_eq_some_iff.mpr ⟨w, hstart, by simp⟩, rfl⟩
      · exact (h.not_isOpening hw hx hstart).elim
    · exact ⟨x, afterOpening?_eq_some_iff.mpr ⟨start, hstart, rfl⟩, rfl⟩
  · rintro ⟨rest, hrest, rfl⟩
    obtain ⟨start, hstart, rfl⟩ := afterOpening?_eq_some_iff.mp hrest
    exact ⟨start, hstart, List.append_assoc start rest cs⟩

/-- **A top-level domain does not stand across a cut.** -/
theorem IsCut.topLevel?_append (h : IsCut w cs) (hw : w ≠ []) :
    topLevel? (w ++ cs) = (topLevel? w).map fun (top, rest) => (top, rest ++ cs) := by
  ext ⟨top, after⟩
  rw [Option.map_eq_some_iff, topLevel?_eq_some_iff]
  constructor
  · rintro ⟨heq, htop, hafter⟩
    rcases List.append_eq_append_iff.mp heq with ⟨x, rfl, rfl⟩ | ⟨x, rfl, rfl⟩
    · by_cases hx : x = []
      · subst hx
        rw [List.append_nil] at htop
        exact ⟨(w, []), topLevel?_eq_some_iff.mpr ⟨by simp, htop, Text.stopsAt_nil _⟩, by simp⟩
      · exact (h.not_letters hw hx htop.letters).elim
    · refine ⟨(top, x), topLevel?_eq_some_iff.mpr ⟨rfl, htop, ?_⟩, rfl⟩
      cases x with
      | nil => exact Text.stopsAt_nil _
      | cons c x => exact Text.stopsAt_cons.mpr (Text.stopsAt_cons.mp hafter)
  · rintro ⟨⟨top', rest⟩, hfound, heq⟩
    obtain ⟨rfl, rfl⟩ := Prod.mk.inj heq
    obtain ⟨rfl, htop, hrest⟩ := topLevel?_eq_some_iff.mp hfound
    refine ⟨List.append_assoc top' rest cs, htop, ?_⟩
    cases rest with
    | nil =>
      -- The last letter stands before the cut, so what is behind it begins no word.
      rw [List.append_nil] at h hw
      have hlast := htop.letters _ (List.getLast_mem hw)
      intro d hd
      have hne := h.boundary _ (List.getLast?_eq_getLast_of_ne_nil hw) d hd
      rw [isWordChar_of_isDomainLetter hlast] at hne
      simpa [endsWord] using hne.symm
    | cons c rest => exact Text.stopsAt_cons.mpr (Text.stopsAt_cons.mp hrest)

/-! ### Domain names -/

theorem domainRest?_eq_some {cs chars top after : List Char}
    (h : domainRest? cs = some (chars, top, after)) : cs = chars ++ after ∧ chars ≠ [] := by
  rcases Option.or_eq_some_iff.mp h with h | ⟨-, h⟩
  · obtain ⟨rfl, hdomain⟩ := domainAt?_eq_some_iff.mp h
    obtain ⟨c, chars, rfl, -⟩ := hdomain.exists_cons
    exact ⟨rfl, List.cons_ne_nil c chars⟩
  · obtain ⟨⟨top', after'⟩, htop, heq⟩ := Option.map_eq_some_iff.mp h
    obtain ⟨rfl, rfl, rfl⟩ : top' = chars ∧ top' = top ∧ after' = after := by simpa using heq
    obtain ⟨rfl, htop, -⟩ := topLevel?_eq_some_iff.mp htop
    refine ⟨rfl, ?_⟩
    rintro rfl
    cases htop.two_le

/-- What was found reaches into the text `cs` at the end. -/
def ReachesInto (cs : List Char) (found : Option (List Char × List Char × List Char)) : Prop :=
  ∃ chars top after, found = some (chars, top, after) ∧ after.length < cs.length

/-- What was found in front of `cs`. -/
def before (cs : List Char) (found : Option (List Char × List Char × List Char)) :
    Option (List Char × List Char × List Char) :=
  found.map fun (chars, top, after) => (chars, top, after ++ cs)

/-- **Every address begins with a domain name or a word that could be a top-level domain.** -/
theorem reachesInto_domainRest? (h : addressAt? cs ≠ none) : ReachesInto cs (domainRest? cs) := by
  have hsome : domainRest? cs ≠ none := by
    obtain ⟨a, ha⟩ := Option.ne_none_iff_exists'.mp h
    obtain ⟨rest, rfl, hfits⟩ := addressAt?_eq_some_iff.mp ha
    cases hfits with
    | @opening start more _ hstart =>
      obtain ⟨letters, marks, rfl, hletters, hne, hmarks⟩ := hstart.exists_letters
      obtain ⟨c, marks, rfl⟩ := List.exists_cons_of_ne_nil hne
      have htop : topLevel? (letters ++ c :: marks ++ more ++ rest)
          = some (letters, c :: marks ++ more ++ rest) :=
        topLevel?_eq_some_iff.mpr ⟨by simp, hletters,
          Text.stopsAt_cons.mpr (hmarks c List.mem_cons_self).2⟩
      rw [domainRest?, htop]
      simp
    | @domain chars top path _ hdomain =>
      have hfound : domainAt? (chars ++ path ++ rest) = some (chars, top, path ++ rest) :=
        domainAt?_eq_some_iff.mpr ⟨by simp, hdomain⟩
      rw [domainRest?, hfound]
      simp
  obtain ⟨⟨chars, top, after⟩, hfound⟩ := Option.ne_none_iff_exists'.mp hsome
  obtain ⟨rfl, hne⟩ := domainRest?_eq_some hfound
  refine ⟨chars, top, after, hfound, ?_⟩
  have hpos := List.length_pos_iff.mpr hne
  rw [List.length_append]
  omega

theorem IsCut.domainRest?_append (h : IsCut w cs) (hw : w ≠ [])
    (hdomain : ReachesInto cs (domainAt? (w ++ cs)) ∨
      domainAt? (w ++ cs) = before cs (domainAt? w)) :
    ReachesInto cs (domainRest? (w ++ cs)) ∨ domainRest? (w ++ cs) = before cs (domainRest? w) := by
  unfold domainRest?
  rcases hdomain with ⟨chars, top, after, hfound, hlt⟩ | hsame
  · exact .inl ⟨chars, top, after, by rw [hfound, Option.some_or], hlt⟩
  · rw [hsame, h.topLevel?_append hw]
    cases domainAt? w with
    | some found => exact .inr rfl
    | none => cases topLevel? w <;> exact .inr rfl

theorem label?_append {label rest : List Char} (h : label? w = some (label, rest))
    (cs : List Char) : label? (w ++ cs) = some (label, rest ++ cs) := by
  obtain ⟨rfl, hlabel⟩ := label?_eq_some_iff.mp h
  exact label?_eq_some_iff.mpr ⟨by simp, hlabel⟩

/-- A label that is found with what is behind the cut only goes on across it. -/
theorem IsCut.length_lt_of_label? (h : IsCut w cs) {label rest : List Char}
    (hnone : label? w = none) (hfound : label? (w ++ cs) = some (label, rest)) :
    rest.length < cs.length := by
  obtain ⟨heq, hlabel⟩ := label?_eq_some_iff.mp hfound
  rcases List.append_eq_append_iff.mp heq with ⟨x, -, rfl⟩ | ⟨x, rfl, hx⟩
  · rw [List.length_append, List.length_cons]
    omega
  · exfalso
    cases x with
    | nil =>
      obtain ⟨d, ds, rfl, hd⟩ := h.exists_cons
      obtain ⟨rfl, -⟩ := List.cons.inj hx
      revert hd
      decide
    | cons c x =>
      obtain ⟨rfl, -⟩ := List.cons.inj hx
      rw [label?_eq_some_iff.mpr ⟨rfl, hlabel⟩] at hnone
      cases hnone

/-- **A domain name goes on across a cut, or it does not depend on what is behind it.** -/
theorem IsCut.domainAt?_append (h : IsCut w cs) :
    ReachesInto cs (domainAt? (w ++ cs)) ∨ domainAt? (w ++ cs) = before cs (domainAt? w) := by
  -- What follows a label is shorter.
  induction hn : w.length using Nat.strongRecOn generalizing w with
  | ind n ih =>
    cases hfound : label? w with
    | some found =>
      obtain ⟨label, rest⟩ := found
      obtain ⟨rfl, -⟩ := label?_eq_some_iff.mp hfound
      rw [domainAt?_of_label? (label?_append hfound cs), domainAt?_of_label? hfound]
      have hrest : ReachesInto cs (domainRest? (rest ++ cs)) ∨
          domainRest? (rest ++ cs) = before cs (domainRest? rest) := by
        by_cases hne : rest = []
        · subst hne
          exact .inl (reachesInto_domainRest? h.address)
        · have hcut : IsCut rest cs := IsCut.of_append (v := label ++ ['.']) (by simpa using h)
          refine hcut.domainRest?_append hne (ih rest.length ?_ hcut rfl)
          rw [← hn, List.length_append, List.length_cons]
          omega
      rcases hrest with ⟨chars, top, after, heq, hlt⟩ | heq
      · exact .inl ⟨label ++ '.' :: chars, top, after, by rw [heq]; rfl, hlt⟩
      · refine .inr ?_
        rw [heq]
        cases domainRest? rest <;> rfl
    | none =>
      have hnone : before cs (domainAt? w) = none := by rw [domainAt?_eq, hfound]; rfl
      rw [hnone]
      cases hfound' : label? (w ++ cs) with
      | none => exact .inr (by rw [domainAt?_eq, hfound']; rfl)
      | some found =>
        obtain ⟨label, rest⟩ := found
        have hlt := h.length_lt_of_label? hfound hfound'
        rw [domainAt?_of_label? hfound']
        cases hrest : domainRest? rest with
        | none => exact .inr rfl
        | some found =>
          obtain ⟨chars, top, after⟩ := found
          obtain ⟨rfl, -⟩ := domainRest?_eq_some hrest
          refine .inl ⟨label ++ '.' :: chars, top, after, rfl, ?_⟩
          rw [List.length_append] at hlt
          omega

/-! ### Addresses -/

/-- The address does not end in front of the cut. -/
def Crosses (w : List Char) (found : Option Address) : Prop :=
  ∃ a, found = some a ∧ w.length < a.chars.length

/-- Behind the cut an address goes on as far as it can. -/
theorem forall_isAddressChar_append {run : List Char} {c : Char}
    (hrun : ∀ x ∈ run, isAddressChar x = true) (hc : isAddressChar c = true) (cs : List Char) :
    ∀ x ∈ run ++ c :: cs.takeWhile isAddressChar, isAddressChar x = true :=
  List.forall_mem_append.mpr ⟨hrun, List.forall_mem_cons.mpr
    ⟨hc, fun _ hx => List.mem_takeWhile_imp hx⟩⟩

theorem addressFrom?_append (start after : List Char) {c : Char} (hc : isAddressChar c = true)
    (cs : List Char) :
    Crosses (start ++ after) (addressFrom? (start ++ (after ++ c :: cs)) (after ++ c :: cs)) ∨
      addressFrom? (start ++ (after ++ c :: cs)) (after ++ c :: cs)
        = addressFrom? (start ++ after) after := by
  by_cases hall : ∀ x ∈ after, isAddressChar x = true
  · refine .inl ⟨⟨start ++ (after ++ c :: cs.takeWhile isAddressChar), none⟩, ?_, by simp⟩
    refine addressFrom?_eq_some_iff.mpr ⟨after ++ c :: cs.takeWhile isAddressChar,
      cs.dropWhile isAddressChar, by simp, ⟨by simp, ?_⟩,
      Text.stopsAt_dropWhile (by simp [endsAddress]) cs, rfl⟩
    exact forall_isAddressChar_append hall hc cs
  · -- The address ends in front of the cut, at a character that belongs to none.
    have htake : (after ++ c :: cs).takeWhile isAddressChar = after.takeWhile isAddressChar := by
      rw [List.takeWhile_append, if_neg]
      intro hlength
      exact hall (List.takeWhile_eq_self_iff.mp ((List.takeWhile_prefix _).eq_of_length hlength))
    unfold addressFrom?
    rw [take_before, take_before, htake]
    exact .inr rfl

/-- A path ends in front of the cut, or it goes on behind it. -/
theorem IsPath.append {path rest : List Char} (h : IsPath path rest) {c : Char}
    (hc : isLabelEnd c = true) (cs : List Char) : IsPath path (rest ++ c :: cs) ∨
      rest = [] ∧ ∃ more rest', cs = more ++ rest' ∧ IsPath (path ++ c :: more) rest' := by
  cases h with
  | nil hrest =>
    refine .inl (.nil fun d hd => ?_)
    cases rest with
    | nil =>
      obtain rfl : c = d := by simpa using hd
      rintro rfl
      revert hc
      decide
    | cons e rest => exact hrest d hd
  | @cons path _ hpath hrest =>
    cases rest with
    | nil =>
      have hall := forall_isAddressChar_append hpath
        (isAddressChar_of_isLabelChar (isLabelChar_of_isLabelEnd hc)) cs
      exact .inr ⟨rfl, cs.takeWhile isAddressChar, cs.dropWhile isAddressChar,
        List.takeWhile_append_dropWhile.symm,
        .cons hall (Text.stopsAt_dropWhile (by simp [endsAddress]) cs)⟩
    | cons e rest => exact .inl (.cons hpath (Text.stopsAt_cons.mpr (Text.stopsAt_cons.mp hrest)))

theorem IsCut.domainAddress?_append (h : IsCut w cs) :
    Crosses w (domainAddress? (w ++ cs)) ∨ domainAddress? (w ++ cs) = domainAddress? w := by
  rcases h.domainAt?_append with ⟨chars, top, after, hfound, hlt⟩ | hsame
  · left
    refine ⟨_, by rw [domainAddress?, ← domainAt?, hfound]; rfl, ?_⟩
    obtain ⟨heq, -⟩ := domainAt?_eq_some_iff.mp hfound
    have hlength := congrArg List.length heq
    simp only [List.length_append] at hlength ⊢
    omega
  · cases hfound : domainAt? w with
    | none =>
      rw [hfound] at hsame
      rw [domainAddress?_eq_none hfound, domainAddress?_eq_none hsame]
      exact .inr rfl
    | some found =>
      obtain ⟨a, ha⟩ : ∃ a, domainAddress? w = some a := by
        rw [domainAddress?, ← domainAt?, hfound]
        exact ⟨_, rfl⟩
      obtain ⟨chars, top, path, rest, rfl, hdomain, hpath, rfl⟩ := domainAddress?_eq_some_iff.mp ha
      have hdomain' : IsDomain chars top (path ++ (rest ++ cs)) := by
        rw [domainAt?_eq_some_iff.mpr ⟨List.append_assoc chars path rest, hdomain⟩] at hsame
        simpa using (domainAt?_eq_some_iff.mp hsame).2
      obtain ⟨d, ds, rfl, hd⟩ := h.exists_cons
      rcases hpath.append hd ds with hpath | ⟨rfl, more, rest', rfl, hpath⟩
      · right
        rw [ha, domainAddress?_eq_some_iff]
        exact ⟨chars, top, path, rest ++ d :: ds, by simp, hdomain', hpath, rfl⟩
      · left
        refine ⟨⟨chars ++ (path ++ d :: more), some top⟩, domainAddress?_eq_some_iff.mpr
          ⟨chars, top, path ++ d :: more, rest', by simp, by simpa using hdomain', hpath, rfl⟩, ?_⟩
        simp

/-- **An address goes on across a cut, or it does not depend on what is behind it.** -/
theorem IsCut.addressAt?_append (h : IsCut w cs) (hw : w ≠ []) :
    Crosses w (addressAt? (w ++ cs)) ∨ addressAt? (w ++ cs) = addressAt? w := by
  rw [addressAt?_eq, addressAt?_eq, h.afterOpening?_append hw]
  have hdomain := h.domainAddress?_append
  cases hafter : afterOpening? w with
  | none => exact hdomain
  | some after =>
    obtain ⟨start, -, rfl⟩ := afterOpening?_eq_some_iff.mp hafter
    obtain ⟨d, ds, rfl, hd⟩ := h.exists_cons
    have haddress := isAddressChar_of_isLabelChar (isLabelChar_of_isLabelEnd hd)
    rw [Option.map_some, Option.bind_some, Option.bind_some, List.append_assoc]
    rcases addressFrom?_append start after haddress ds with ⟨a, ha, hlt⟩ | hsame
    · exact .inl ⟨a, by rw [ha, Option.some_or], hlt⟩
    · rw [hsame]
      cases addressFrom? (start ++ after) after with
      | some a => exact .inr rfl
      | none => simpa using hdomain

end Linkify

end Folio
