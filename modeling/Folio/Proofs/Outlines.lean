import Folio.Outline
import Folio.Proofs.HeadingShape

/-!
# What an outline lists

Read from top to bottom an outline lists the headings of the document in order, whether they are
nested or not: a heading is always added below the last one that has been added, or behind it.

## Main definitions

* `Heading.preorder` — the entries of an outline from top to bottom.

## Main results

* `preorder_outline` — **an outline lists the headings of the document in order.**
* `Headed.flatOutline_append`, `HeadingParts.flatOutline` — the outlines of the parts of a document.
-/

namespace Folio

namespace Heading

mutual

/-- The level, the title and the id of a heading, and those of the headings below it. -/
def entries : Heading → List (Nat × String × String)
  | ⟨level, title, id, items⟩ => (level, title, id) :: preorder items

/-- The entries of an outline from top to bottom. -/
def preorder : List Heading → List (Nat × String × String)
  | [] => []
  | h :: hs => h.entries ++ preorder hs

end

@[simp] theorem preorder_nil : preorder [] = [] := by rw [preorder]

@[simp] theorem preorder_cons (h : Heading) (hs : List Heading) :
    preorder (h :: hs) = h.entries ++ preorder hs := by rw [preorder]

theorem entries_mk (level : Nat) (title id : String) (items : List Heading) :
    entries ⟨level, title, id, items⟩ = (level, title, id) :: preorder items := by rw [entries]

/-- A heading that is added comes last. -/
theorem preorder_insertInto (h : Heading) (hs : List Heading) :
    preorder (h.insertInto hs) = preorder hs ++ h.entries := by
  fun_induction insertInto h hs with
  | case1 => simp
  | case2 level title id items hlt ih => simp [entries_mk, ih]
  | case3 level title id items hge => simp
  | case4 first second rest ih =>
    rw [preorder_cons first, ih, preorder_cons first, List.append_assoc]

theorem preorder_foldl_insertInto (hs : List Heading) : ∀ items : List Heading,
    preorder (hs.foldl (fun items h => h.insertInto items) items)
      = preorder items ++ hs.flatMap entries := by
  induction hs with
  | nil => simp
  | cons h hs ih =>
    intro items
    rw [List.foldl_cons, ih, preorder_insertInto, List.flatMap_cons, List.append_assoc]

theorem preorder_eq_flatMap (hs : List Heading) : preorder hs = hs.flatMap entries := by
  induction hs with
  | nil => simp
  | cons h hs ih => rw [preorder_cons, ih, List.flatMap_cons]

theorem preorder_append (xs ys : List Heading) :
    preorder (xs ++ ys) = preorder xs ++ preorder ys := by
  simp only [preorder_eq_flatMap, List.flatMap_append]

end Heading

/-- **An outline lists the headings of the document in order**, nested or not. -/
theorem preorder_outline (flat : Bool) (ts : List Token) :
    Heading.preorder (outline flat ts) = Heading.preorder (flatOutline ts) := by
  unfold outline
  dsimp only
  split
  · rfl
  · rw [Heading.preorder_foldl_insertInto, Heading.preorder_nil, List.nil_append,
      ← Heading.preorder_eq_flatMap]

/-! ### The outlines of the parts of a document -/

theorem flatOutline_cons_none {t : Token} (h : t.headingLevel? = none) (ts : List Token) :
    flatOutline (t :: ts) = flatOutline ts := by
  rw [flatOutline, h]

theorem flatOutline_cons_some {t : Token} {level : Nat} (h : t.headingLevel? = some level)
    (ts : List Token) : flatOutline (t :: ts)
      = ⟨level, runText ts, (t.attr? "id").getD (slugify (runText ts)), []⟩ :: flatOutline ts := by
  rw [flatOutline, h]

theorem Token.headingLevel?_of_ne {t : Token} (h : t.kind.isHeading = false) :
    t.headingLevel? = none := by
  unfold headingLevel?
  split
  · next n hk _ =>
    rw [hk] at h
    cases h
  · rfl

theorem Token.headingLevel?_of_not_opening {t : Token} (h : t.nesting ≠ .opening) :
    t.headingLevel? = none := by
  unfold headingLevel?
  split
  · next hn => exact absurd hn h
  · rfl

/-- The entry of a heading. -/
theorem HeadingParts.flatOutline {o run c : Token} (h : HeadingParts o run c) {n : Nat}
    (hn : o.kind = .heading n) (ts : List Token) : Folio.flatOutline (o :: run :: c :: ts)
      = ⟨n, run.content, (o.attr? "id").getD (slugify run.content), []⟩
        :: Folio.flatOutline ts := by
  have ho : o.headingLevel? = some n := by rw [Token.headingLevel?, hn, h.opening]
  have hrun : run.headingLevel? = none := Token.headingLevel?_of_ne h.run_isHeading
  have hc : c.headingLevel? = none :=
    Token.headingLevel?_of_not_opening (by simp [h.closing])
  have htext : runText (run :: c :: ts) = run.content := by
    rw [runText, h.inline]
    rfl
  rw [flatOutline_cons_some ho, flatOutline_cons_none hrun, flatOutline_cons_none hc, htext]

/-- A heading has its text with it, so what stands behind does not change its entry. -/
theorem Headed.flatOutline_append {P : Token → Prop} {ts : List Token} (h : Headed P ts)
    (us : List Token) : flatOutline (ts ++ us) = flatOutline ts ++ flatOutline us := by
  induction h with
  | nil => rfl
  | other ht _ ih =>
    have hlevel := Token.headingLevel?_of_ne ht
    rw [List.cons_append, flatOutline_cons_none hlevel, flatOutline_cons_none hlevel, ih]
  | heading hparts _ _ ih =>
    obtain ⟨n, hn⟩ := hparts.exists_kind
    simp only [List.cons_append, hparts.flatOutline hn, ih]

end Folio
