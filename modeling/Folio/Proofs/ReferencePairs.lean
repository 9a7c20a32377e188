import Folio.Proofs.Partners
import Folio.Proofs.ReferencePass

/-!
# Which tokens of a run become references

A link to a term is two tokens, and the second one is looked up in the list as it is by then: links
that begin further to the front are references already, with both of their ends.  This does not
disturb the search.  It begins at a link and is over before it leaves the container around that
link, and what stands between the two ends of the link is nested before anything in it is marked.
So marking works along the structure of the list, from the outside to the inside.

## Main definitions

* `Marks` — what marking makes of a nested list, along its structure.
* `Token.LinksTo` — a token opens a link to a term.
* `MarksLinks` — what marking makes of a list, place by place.

## Main results

* `exists_marks` — **the marking of a nested list does not depend on what stands around it.**
* `marksLinks_markReferences` — **the links to terms become references, each with its partner, and
  nothing else is changed.**
-/

namespace Folio

open Plugin.Terms (markAt markAt_of_link markAt_of_none markReferences referenceClosing
  referenceKey? referenceKey?_eq_some referenceOpening)

/-! ### Marking along the structure of a list -/

/-- What marking makes of a nested list: the two ends of a link to a term become the two ends of a
reference, and all else stays.  The keys are those of the links, in order. -/
inductive Marks : List Token → List Token → List String → Prop
  | nil : Marks [] [] []
  | single {t : Token} {ts us : List Token} {keys : List String} (ht : t.nesting = .single)
      (hts : Marks ts us keys) : Marks (t :: ts) (t :: us) keys
  | pair {o c : Token} {body body' rest rest' : List Token} {keys keys' : List String}
      (ho : o.nesting = .opening) (hc : c.nesting = .closing) (hk : c.kind = o.kind)
      (hkey : referenceKey? o = none) (hbody : Marks body body' keys)
      (hrest : Marks rest rest' keys') :
      Marks (o :: body ++ c :: rest) (o :: body' ++ c :: rest') (keys ++ keys')
  | link {o c : Token} {body body' rest rest' : List Token} {keys keys' : List String}
      {key : String} (hkey : referenceKey? o = some key) (hc : c.nesting = .closing)
      (hk : c.kind = o.kind) (hbody : Marks body body' keys) (hrest : Marks rest rest' keys') :
      Marks (o :: body ++ c :: rest) (referenceOpening key :: body' ++ referenceClosing :: rest')
        (key :: keys ++ keys')

namespace Marks

variable {ts us : List Token} {keys : List String}

theorem nested_left (h : Marks ts us keys) : Nested ts := by
  induction h with
  | nil => exact .nil
  | single ht _ ih => exact .single ht ih
  | pair ho hc hk _ _ _ ihbody ihrest => exact .pair ho hc hk ihbody ihrest
  | link hkey hc hk _ _ ihbody ihrest =>
    exact .pair (referenceKey?_eq_some hkey).2 hc hk ihbody ihrest

theorem nested (h : Marks ts us keys) : Nested us := by
  induction h with
  | nil => exact .nil
  | single ht _ ih => exact .single ht ih
  | pair ho hc hk _ _ _ ihbody ihrest => exact .pair ho hc hk ihbody ihrest
  | link _ _ _ _ _ ihbody ihrest => exact .pair rfl rfl rfl ihbody ihrest

/-- Marking is done with the links to terms in the order in which they begin. -/
theorem keys_eq (h : Marks ts us keys) : keys = ts.filterMap referenceKey? := by
  induction h with
  | nil => rfl
  | single ht _ ih =>
    rw [List.filterMap_cons_none (referenceKey?_of_ne_opening (by simp [ht])), ← ih]
  | pair _ hc _ hkey _ _ ihbody ihrest =>
    rw [List.cons_append, List.filterMap_cons_none hkey, List.filterMap_append,
      List.filterMap_cons_none (referenceKey?_of_closing hc), ← ihbody, ← ihrest]
  | @link o c body _ rest _ _ _ _ hkey hc _ _ _ ihbody ihrest =>
    have hfirst : (o :: body ++ c :: rest).filterMap referenceKey?
        = _ :: (body ++ c :: rest).filterMap referenceKey? := List.filterMap_cons_some hkey
    rw [hfirst, List.filterMap_append, List.filterMap_cons_none (referenceKey?_of_closing hc),
      ← ihbody, ← ihrest]
    rfl

end Marks

/-- The marking of `count` tokens, from an index on. -/
def markRange (start count : Nat) (state : List Token × List String) : List Token × List String :=
  (List.range' start count).foldl markAt state

theorem markReferences_eq (children : List Token) :
    markReferences children = markRange 0 children.length (children, []) := by
  rw [markReferences, List.range_eq_range', markRange]

section MarkRange

variable {start : Nat} {state : List Token × List String}

@[simp] theorem markRange_zero : markRange start 0 state = state := rfl

theorem markRange_succ (count : Nat) :
    markRange start (count + 1) state = markRange (start + 1) count (markAt state start) := rfl

theorem markRange_add (m n : Nat) :
    markRange start (m + n) state = markRange (start + m) n (markRange start m state) := by
  rw [markRange, ← List.range'_append_1, List.foldl_append, markRange, markRange]

/-- A token that opens no link to a term is passed over. -/
theorem markRange_of_none {t : Token} (h : referenceKey? t = none) (pre post : List Token)
    (found : List String) (count : Nat) :
    markRange pre.length (count + 1) (pre ++ t :: post, found)
      = markRange (pre ++ [t]).length count (pre ++ [t] ++ post, found) := by
  rw [markRange_succ, markAt_of_none (by simpa using h)]
  simp

end MarkRange

/-- Marking makes `us` of a list wherever it stands, and finds some keys in it. -/
structure MarksTo (ts us : List Token) (keys : List String) : Prop where
  length : us.length = ts.length
  marks : ∀ pre post found, markRange pre.length ts.length (pre ++ (ts ++ post), found)
    = (pre ++ (us ++ post), found ++ keys)

namespace MarksTo

theorem nil : MarksTo [] [] [] := ⟨rfl, fun _ _ _ => by simp⟩

theorem single {t : Token} {ts us : List Token} {keys : List String} (ht : referenceKey? t = none)
    (h : MarksTo ts us keys) : MarksTo (t :: ts) (t :: us) keys := by
  refine ⟨by simp [h.length], fun pre post found => ?_⟩
  rw [List.cons_append, List.length_cons, markRange_of_none ht, h.marks]
  simp

/-- Behind the token that begins a container, what stands in it and behind it is marked. -/
theorem inside {o c : Token} {body body' rest rest' : List Token} {keys keys' : List String}
    (hc : referenceKey? c = none) (hbody : MarksTo body body' keys)
    (hrest : MarksTo rest rest' keys') (pre post : List Token) (found : List String) :
    markRange (pre.length + 1) (body.length + (rest.length + 1))
        (pre ++ o :: (body ++ c :: (rest ++ post)), found)
      = (pre ++ o :: (body' ++ c :: (rest' ++ post)), found ++ (keys ++ keys')) := by
  have hfirst := hbody.marks (pre ++ [o]) (c :: (rest ++ post)) found
  have hsecond := hrest.marks (pre ++ [o] ++ body' ++ [c]) post (found ++ keys)
  have hpre : (pre ++ [o]).length = pre.length + 1 := by simp
  have hlength : pre.length + 1 + body.length = (pre ++ [o] ++ body').length := by
    simp only [List.length_append, List.length_singleton, hbody.length]
  have hsplit : pre ++ o :: (body ++ c :: (rest ++ post))
      = pre ++ [o] ++ (body ++ c :: (rest ++ post)) := by simp
  rw [hsplit, markRange_add]
  rw [hpre] at hfirst
  rw [hfirst, hlength, ← List.append_assoc, markRange_of_none hc, hsecond]
  simp

/-- A pair of tokens that is no link to a term stays. -/
theorem pair {o c : Token} {body body' rest rest' : List Token} {keys keys' : List String}
    (ho : referenceKey? o = none) (hc : referenceKey? c = none) (hbody : MarksTo body body' keys)
    (hrest : MarksTo rest rest' keys') :
    MarksTo (o :: body ++ c :: rest) (o :: body' ++ c :: rest') (keys ++ keys') := by
  refine ⟨by simp [hbody.length, hrest.length], fun pre post found => ?_⟩
  have hinside := inside (o := o) hc hbody hrest pre post found
  simp only [List.cons_append, List.append_assoc, List.length_cons, List.length_append]
  rw [markRange_succ, markAt_of_none (by simpa using ho), hinside]

/-- A link to a term becomes a reference, with its partner. -/
theorem link {o c : Token} {body body' rest rest' : List Token} {keys keys' : List String}
    {key : String} (ho : referenceKey? o = some key) (hc : c.nesting = .closing)
    (hk : c.kind = o.kind) (hnested : Nested body) (hbody : MarksTo body body' keys)
    (hrest : MarksTo rest rest' keys') :
    MarksTo (o :: body ++ c :: rest)
      (referenceOpening key :: body' ++ referenceClosing :: rest') (key :: keys ++ keys') := by
  refine ⟨by simp [hbody.length, hrest.length], fun pre post found => ?_⟩
  -- The link is looked at before anything in it, so its body is still nested as it was.
  have hmark := markAt_of_link ho hc hk hnested pre (rest ++ post) found
  have hinside := inside (o := referenceOpening key) (c := referenceClosing) rfl hbody hrest pre
    post (found ++ [key])
  simp only [List.cons_append, List.append_assoc, List.length_cons, List.length_append]
  rw [markRange_succ, hmark, hinside, List.append_assoc, List.singleton_append]

end MarksTo

/-- **The marking of a nested list does not depend on what stands around it.** -/
theorem exists_marks {ts : List Token} (h : Nested ts) :
    ∃ us keys, Marks ts us keys ∧ MarksTo ts us keys := by
  induction h with
  | nil => exact ⟨[], [], .nil, .nil⟩
  | single ht _ ih =>
    obtain ⟨us, keys, hmarks, hto⟩ := ih
    exact ⟨_, keys, .single ht hmarks, hto.single (referenceKey?_of_ne_opening (by simp [ht]))⟩
  | @pair o c body rest ho hc hk hbody _ ihbody ihrest =>
    obtain ⟨body', keys, hmbody, htbody⟩ := ihbody
    obtain ⟨rest', keys', hmrest, htrest⟩ := ihrest
    have hclosing := referenceKey?_of_closing hc
    cases hkey : referenceKey? o with
    | none => exact ⟨_, _, .pair ho hc hk hkey hmbody hmrest, .pair hkey hclosing htbody htrest⟩
    | some key =>
      exact ⟨_, _, .link hkey hc hk hmbody hmrest, .link hkey hc hk hbody htbody htrest⟩

theorem exists_marks_markReferences {ts : List Token} (h : Nested ts) :
    ∃ us keys, Marks ts us keys ∧ markReferences ts = (us, keys) := by
  obtain ⟨us, keys, hmarks, hto⟩ := exists_marks h
  refine ⟨us, keys, hmarks, ?_⟩
  rw [markReferences_eq]
  simpa using hto.marks [] [] []

/-! ### Marking, place by place -/

/-- The token opens a link to a term. -/
def Token.LinksTo (t : Token) (key : String) : Prop :=
  t.kind = .link ∧ t.nesting = .opening ∧ t.attr? "href" = some ("*" ++ key)

/-- The token at an index of a list opens a link to a term. -/
def LinksAt (ts : List Token) (i : Nat) (key : String) : Prop :=
  ∃ t, ts[i]? = some t ∧ t.LinksTo key

section LinksAt

variable {ts us : List Token} {i : Nat} {key : String}

theorem linksAt_iff : LinksAt ts i key ↔ ∃ t, ts[i]? = some t ∧ referenceKey? t = some key := by
  simp only [LinksAt, Token.LinksTo, referenceKey?_eq_some_iff]

theorem linksAt_append_left (h : i < ts.length) : LinksAt (ts ++ us) i key ↔ LinksAt ts i key := by
  rw [LinksAt, List.getElem?_append_left h, LinksAt]

theorem linksAt_append_right (i : Nat) :
    LinksAt (ts ++ us) (ts.length + i) key ↔ LinksAt us i key := by
  rw [LinksAt, List.getElem?_append_right (Nat.le_add_right _ _), Nat.add_sub_cancel_left, LinksAt]

end LinksAt

/-- What marking makes of the tokens of a list: the two ends of a link to a term become those of a
reference, and every other token is what it was. -/
structure MarksPlaces (ts us : List Token) : Prop where
  length : us.length = ts.length
  link : ∀ i key, LinksAt ts i key → ∃ j, ArePartners ts i j ∧
    us[i]? = some (referenceOpening key) ∧ us[j]? = some referenceClosing
  other : ∀ i, (∀ key, ¬LinksAt ts i key) → (∀ j key, ArePartners ts j i → ¬LinksAt ts j key) →
    us[i]? = ts[i]?

namespace MarksPlaces

variable {ts us ts' us' : List Token}

theorem nil : MarksPlaces [] [] where
  length := rfl
  link _ _ h := by
    obtain ⟨t, ht, -⟩ := h
    cases ht
  other _ _ _ := rfl

theorem of_none {t : Token} (h : referenceKey? t = none) : MarksPlaces [t] [t] where
  length := rfl
  link i key hlink := by
    obtain ⟨u, hu, hkey⟩ := linksAt_iff.mp hlink
    rw [List.mem_singleton.mp (List.mem_of_getElem? hu), h] at hkey
    cases hkey
  other _ _ _ := rfl

theorem append (h : MarksPlaces ts us) (h' : MarksPlaces ts' us') :
    MarksPlaces (ts ++ ts') (us ++ us') where
  length := by rw [List.length_append, List.length_append, h.length, h'.length]
  link i key hlink := by
    -- The partner of a link is in the same part as the link.
    rcases Nat.lt_or_ge i ts.length with hlt | hge
    · obtain ⟨j, hpair, hi, hj⟩ := h.link i key ((linksAt_append_left hlt).mp hlink)
      refine ⟨j, hpair.append_right ts', ?_, ?_⟩
      · rw [List.getElem?_append_left (List.getElem?_eq_some_iff.mp hi).1, hi]
      · rw [List.getElem?_append_left (List.getElem?_eq_some_iff.mp hj).1, hj]
    · obtain ⟨i, rfl⟩ := Nat.exists_eq_add_of_le hge
      obtain ⟨j, hpair, hi, hj⟩ := h'.link i key ((linksAt_append_right i).mp hlink)
      refine ⟨ts.length + j, hpair.append_left ts, ?_, ?_⟩ <;>
        rwa [← h.length, List.getElem?_append_right (Nat.le_add_right _ _), Nat.add_sub_cancel_left]
  other i hnone hpartner := by
    rcases Nat.lt_or_ge i ts.length with hlt | hge
    · rw [List.getElem?_append_left hlt, List.getElem?_append_left (h.length ▸ hlt)]
      refine h.other i (fun key hlink => hnone key ((linksAt_append_left hlt).mpr hlink))
        fun j key hpair hlink => hpartner j key (hpair.append_right ts') ?_
      exact (linksAt_append_left (hpair.between.1.trans hlt)).mpr hlink
    · obtain ⟨i, rfl⟩ := Nat.exists_eq_add_of_le hge
      rw [List.getElem?_append_right hge, ← h.length,
        List.getElem?_append_right (Nat.le_add_right _ _), h.length, Nat.add_sub_cancel_left]
      exact h'.other i (fun key hlink => hnone key ((linksAt_append_right i).mpr hlink))
        fun j key hpair hlink => hpartner _ key (hpair.append_left ts)
          ((linksAt_append_right j).mpr hlink)

/-- A link to a term around a list becomes a reference around the marked list. -/
theorem enclose {o c : Token} {key : String} (ho : referenceKey? o = some key)
    (hc : c.nesting = .closing) (hk : c.kind = o.kind) (hnested : Nested ts)
    (h : MarksPlaces ts us) :
    MarksPlaces (o :: ts ++ [c]) (referenceOpening key :: us ++ [referenceClosing]) := by
  have hends : ArePartners (o :: ts ++ [c]) 0 (ts.length + 1) := by
    simpa [Nat.add_comm] using
      ArePartners.intro [] [] (referenceKey?_eq_some ho).2 hc hk hnested
  have hinside : ∀ {i j : Nat}, ArePartners ts i j → ArePartners (o :: ts ++ [c]) (i + 1) (j + 1) :=
    fun hpair => by simpa [Nat.add_comm] using (hpair.append_left [o]).append_right [c]
  have hlinks : ∀ {i : Nat} {key : String}, i < ts.length →
      (LinksAt (o :: ts ++ [c]) (i + 1) key ↔ LinksAt ts i key) := fun hlt => by
    rw [LinksAt, List.cons_append, List.getElem?_cons_succ, List.getElem?_append_left hlt, LinksAt]
  refine ⟨by simp [h.length], fun i key' hlink => ?_, fun i hnone hpartner => ?_⟩
  · cases i with
    | zero =>
      obtain ⟨t, ht, hkey⟩ := linksAt_iff.mp hlink
      obtain rfl : o = t := by simpa using ht
      obtain rfl : key = key' := by simpa [ho] using hkey
      exact ⟨ts.length + 1, hends, rfl, by simp [h.length]⟩
    | succ i =>
      rcases Nat.lt_or_ge i ts.length with hlt | hge
      · obtain ⟨j, hpair, hi, hj⟩ := h.link i key' ((hlinks hlt).mp hlink)
        refine ⟨j + 1, hinside hpair, ?_, ?_⟩
        · rw [List.cons_append, List.getElem?_cons_succ,
            List.getElem?_append_left (List.getElem?_eq_some_iff.mp hi).1, hi]
        · rw [List.cons_append, List.getElem?_cons_succ,
            List.getElem?_append_left (List.getElem?_eq_some_iff.mp hj).1, hj]
      · -- The token behind the list opens nothing.
        obtain ⟨t, ht, hkey⟩ := linksAt_iff.mp hlink
        rw [List.cons_append, List.getElem?_cons_succ, List.getElem?_append_right hge] at ht
        rw [List.mem_singleton.mp (List.mem_of_getElem? ht), referenceKey?_of_closing hc] at hkey
        cases hkey
  · have hstart : LinksAt (o :: ts ++ [c]) 0 key := linksAt_iff.mpr ⟨o, rfl, ho⟩
    cases i with
    | zero => exact absurd hstart (hnone key)
    | succ i =>
      rw [List.cons_append, List.cons_append, List.getElem?_cons_succ, List.getElem?_cons_succ]
      rcases Nat.lt_trichotomy i ts.length with hlt | rfl | hgt
      · rw [List.getElem?_append_left hlt, List.getElem?_append_left (h.length ▸ hlt)]
        exact h.other i (fun key' hlink => hnone key' ((hlinks hlt).mpr hlink))
          fun j key' hpair hlink => hpartner _ key' (hinside hpair)
            ((hlinks (hpair.between.1.trans hlt)).mpr hlink)
      · exact absurd hstart (hpartner 0 key hends)
      · rw [List.getElem?_eq_none (by simp [h.length]; omega),
          List.getElem?_eq_none (by simp; omega)]

end MarksPlaces

theorem Marks.marksPlaces {ts us : List Token} {keys : List String} (h : Marks ts us keys) :
    MarksPlaces ts us := by
  induction h with
  | nil => exact .nil
  | single ht _ ih =>
    exact (MarksPlaces.of_none (referenceKey?_of_ne_opening (by simp [ht]))).append ih
  | @pair o c body _ rest _ _ _ _ hc _ hkey _ _ ihbody ihrest =>
    have hpair := ((MarksPlaces.of_none hkey).append ihbody).append
      ((MarksPlaces.of_none (referenceKey?_of_closing hc)).append ihrest)
    exact hpair
  | @link o c body _ rest _ _ _ key hkey hc hk hbody _ ihbody ihrest =>
    have henclosed := (ihbody.enclose hkey hc hk hbody.nested_left).append ihrest
    simpa using henclosed

/-- What marking makes of a list of tokens. -/
structure MarksLinks (children marked : List Token) (keys : List String) : Prop where
  /-- Every token has its place. -/
  length : marked.length = children.length
  /-- A link to a term, and the token that closes it, become the two ends of a reference, of which
  the first has the key and nothing else. -/
  link : ∀ i key, LinksAt children i key → ∃ j, ArePartners children i j ∧
    marked[i]? = some { kind := .custom "term", nesting := .opening, level := 0,
                        attrs := [("key", key)] } ∧
    marked[j]? = some { kind := .custom "term", nesting := .closing, level := 0 }
  /-- Every other token is what it was. -/
  other : ∀ i, (∀ key, ¬LinksAt children i key) →
    (∀ j key, ArePartners children j i → ¬LinksAt children j key) → marked[i]? = children[i]?
  /-- The keys are those of the links, in the order in which these begin. -/
  keys : keys = children.filterMap referenceKey?
  /-- A token has a key exactly if it opens a link to a term. -/
  key_iff : ∀ t key, referenceKey? t = some key ↔ t.LinksTo key
  balanced : checkBalance marked = .ok ()

/-- **The links to terms become references, each with its partner, and nothing else is changed.** -/
theorem marksLinks_markReferences {children : List Token} (h : checkBalance children = .ok ()) :
    MarksLinks children (markReferences children).1 (markReferences children).2 := by
  obtain ⟨marked, keys, hmarks, heq⟩ :=
    exists_marks_markReferences (nested_of_balanced (checkBalance_eq_ok_iff.mp h))
  have hplaces := hmarks.marksPlaces
  rw [heq]
  exact ⟨hplaces.length, hplaces.link, hplaces.other, hmarks.keys_eq,
    fun _ _ => referenceKey?_eq_some_iff, checkBalance_eq_ok_iff.mpr hmarks.nested.balanced⟩

/-- A link to a term in another one, and that one in an element. -/
def linkInLink : List Token :=
  let starLink (key : String) : Token := (Token.mark .link .opening).setAttr "href" ("*" ++ key)
  [.mark .strong .opening, starLink "outer", .text "a", starLink "inner", .mark .emphasis .opening,
    .text "b", .mark .emphasis .closing, .mark .link .closing, .mark .link .closing,
    .mark .strong .closing]

/-- Both links become references, from the outside to the inside, and their keys come in order. -/
theorem marksLinks_linkInLink : checkBalance linkInLink = .ok () ∧
    (markReferences linkInLink).2 = ["outer", "inner"] ∧
    MarksLinks linkInLink (markReferences linkInLink).1 (markReferences linkInLink).2 :=
  have balanced : checkBalance linkInLink = .ok () := rfl
  ⟨balanced, by decide +kernel, marksLinks_markReferences balanced⟩

end Folio
