import Folio.Config.Reference
import Folio.Proofs.TextSearch

/-!
# References in braces

What a text refers to is meant to stand in braces: a name, and a default behind `:-`.  All else in
the text, a dollar sign without braces too, is meant to stay as it is.  A text is therefore read
here a second time, with the references in braces as its only ones.

The reading that is used knows two more things that a dollar sign can do: of two dollar signs it
leaves one, and behind a dollar sign it takes a name.  It is not used at all for a text in which no
brace is open.  So the two readings come to the same unless the text has an open brace and a dollar
sign of that other kind outside of the references in braces, and then they do differ, whatever
stands between the two: one reading has a dollar sign at the first place where the other has none.

## Main definitions

* `readPieces` — the pieces of a text, for any notion of what a reference is.
* `braceReference?`, `bareReference?` — a reference in braces, and what else a dollar sign can do.
* `expandBraces` — the text with its references in braces resolved, and nothing else changed.
* `hasBareReference` — a dollar sign outside of the references in braces is not left alone.
* `ReadsAlike` — texts up to a length are resolved as if they were read character by character.

## Main results

* `flatMap_written_bracePieces` — the pieces with braces, written out, are the text.
* `resolveAll_piecesWith` — a text is resolved as if it were read character by character.
* `filled_ne_of_hasBareReference` — the two readings differ if each reference gets the same value.
* `expandsBraces_expand` — **a text is expanded as its references in braces say unless it has an
  open brace and a dollar sign that is not left alone.**
-/

namespace Folio

/-! ### A text and its pieces -/

/-- What stands for pieces; the name of the first variable for which there is nothing. -/
def resolveAll (value? : String → Option String) (ps : List Piece) : Except String (List Char) :=
  (ps.mapM (Piece.resolve value?)).map List.flatten

/-- The reference at the beginning of a text, and how many characters of it stand behind the
first. -/
abbrev ReferenceReader := List Char → Option (Piece × Nat)

/-- The pieces of a text: its references, and its other characters one by one. -/
def readPieces (reference? : ReferenceReader) : List Char → List Piece
  | [] => []
  | c :: cs =>
    match reference? (c :: cs) with
    | some (piece, n) => piece :: readPieces reference? (cs.drop n)
    | none => .text [c] :: readPieces reference? cs
termination_by cs => cs.length
decreasing_by all_goals (simp only [List.length_drop, List.length_cons]; omega)

/-- A reference in braces. -/
def braceReference? : ReferenceReader
  | '$' :: '\x7b' :: inner =>
    let name := inner.takeWhile (· != '\x7d')
    if name.length < inner.length then some (braced name, name.length + 2) else none
  | _ => none

/-- What else a dollar sign can do: of two one is left, and a name behind it is taken. -/
def bareReference? : ReferenceReader
  | '$' :: '$' :: _ => some (.text ['$'], 1)
  | '$' :: rest =>
    let name := rest.takeWhile isNameChar
    if name.isEmpty then none else some (.variable (String.ofList name) none, name.length)
  | _ => none

/-- All that a dollar sign can do. -/
def anyReference? (cs : List Char) : Option (Piece × Nat) :=
  (braceReference? cs).or (bareReference? cs)

/-- The pieces of a text whose references all stand in braces. -/
def bracePieces (s : String) : List Piece := readPieces braceReference? s.toList

/-- The text with its references in braces resolved, and nothing else changed. -/
def expandBraces (value? : String → Option String) (s : String) : Except String String :=
  (resolveAll value? (bracePieces s)).map String.ofList

/-- A piece as it stands in a text whose references all stand in braces. -/
def Piece.written : Piece → List Char
  | .text cs => cs
  | .variable name none => ['$', '\x7b'] ++ name.toList ++ ['\x7d']
  | .variable name (some default) =>
    ['$', '\x7b'] ++ name.toList ++ [':', '-'] ++ default ++ ['\x7d']

/-- A dollar sign outside of the references in braces is not left alone. -/
def hasBareReference : List Char → Bool
  | [] => false
  | c :: cs =>
    match braceReference? (c :: cs) with
    | some (_, n) => hasBareReference (cs.drop n)
    | none => (bareReference? (c :: cs)).isSome || hasBareReference cs
termination_by cs => cs.length
decreasing_by all_goals (simp only [List.length_drop, List.length_cons]; omega)

/-! ### Pieces are resolved one by one -/

section Resolving

variable {value? : String → Option String} {p : Piece} {ps : List Piece}

@[simp]
theorem resolveAll_nil : resolveAll value? [] = .ok [] := rfl

theorem resolveAll_cons : resolveAll value? (p :: ps) = (do
    let cs ← p.resolve value?
    let rest ← resolveAll value? ps
    return cs ++ rest) := by
  unfold resolveAll
  rw [List.mapM_cons]
  cases p.resolve value? with
  | error name => rfl
  | ok cs => cases ps.mapM (Piece.resolve value?) <;> rfl

theorem resolveAll_congr {qs : List Piece} (h : resolveAll value? ps = resolveAll value? qs) :
    resolveAll value? (p :: ps) = resolveAll value? (p :: qs) := by
  rw [resolveAll_cons, resolveAll_cons, h]

theorem resolveAll_append (ps qs : List Piece) : resolveAll value? (ps ++ qs) = (do
    let cs ← resolveAll value? ps
    let rest ← resolveAll value? qs
    return cs ++ rest) := by
  induction ps with
  | nil =>
    rw [List.nil_append, resolveAll_nil]
    cases resolveAll value? qs <;> rfl
  | cons p ps ih =>
    rw [List.cons_append, resolveAll_cons, resolveAll_cons, ih]
    cases p.resolve value? with
    | error name => rfl
    | ok cs =>
      cases resolveAll value? ps with
      | error name => rfl
      | ok cs' =>
        cases resolveAll value? qs with
        | error name => rfl
        | ok cs'' => simp [bind, Except.bind, pure, Except.pure]

/-- Characters stand for themselves, whether they are one piece or many. -/
theorem resolveAll_map_text (cs : List Char) :
    resolveAll value? (cs.map fun c => .text [c]) = .ok cs := by
  induction cs with
  | nil => rfl
  | cons c cs ih =>
    rw [List.map_cons, resolveAll_cons, ih]
    rfl

theorem resolve_eq_error_iff (p : Piece) (name : String) :
    p.resolve value? = .error name ↔ p = .variable name none ∧ value? name = none := by
  cases p with
  | text cs => simp [Piece.resolve]
  | «variable» name' default =>
    cases hvalue : value? name' with
    | some value =>
      simp only [Piece.resolve, hvalue, reduceCtorEq, Piece.variable.injEq, false_iff]
      rintro ⟨⟨rfl, -⟩, hnone⟩
      rw [hvalue] at hnone
      cases hnone
    | none =>
      cases default with
      | some cs => simp [Piece.resolve, hvalue]
      | none =>
        simp only [Piece.resolve, hvalue, Except.error.injEq, Piece.variable.injEq, and_true]
        constructor
        · rintro rfl
          exact ⟨rfl, hvalue⟩
        · exact And.left

/-- **Pieces cannot be resolved exactly if a variable among them is not set and has no default.** -/
theorem exists_resolveAll_eq_error_iff (ps : List Piece) :
    (∃ name, resolveAll value? ps = .error name) ↔
      ∃ name, .variable name none ∈ ps ∧ value? name = none := by
  induction ps with
  | nil => simp
  | cons p ps ih =>
    rw [resolveAll_cons]
    cases hp : p.resolve value? with
    | error name =>
      obtain ⟨rfl, hnone⟩ := (resolve_eq_error_iff p name).mp hp
      exact ⟨fun _ => ⟨name, List.mem_cons_self, hnone⟩, fun _ => ⟨name, rfl⟩⟩
    | ok cs =>
      have hhead : ∀ name, value? name = none → p ≠ .variable name none := by
        intro name hnone heq
        rw [(resolve_eq_error_iff p name).mpr ⟨heq, hnone⟩] at hp
        cases hp
      have hrest : (∃ name, Piece.variable name none ∈ p :: ps ∧ value? name = none) ↔
          ∃ name, .variable name none ∈ ps ∧ value? name = none := by
        constructor
        · rintro ⟨name, hmem, hnone⟩
          rcases List.mem_cons.mp hmem with heq | hmem
          · exact absurd heq.symm (hhead name hnone)
          · exact ⟨name, hmem, hnone⟩
        · rintro ⟨name, hmem, hnone⟩
          exact ⟨name, List.mem_cons_of_mem _ hmem, hnone⟩
      rw [hrest, ← ih]
      cases resolveAll value? ps with
      | error name => exact Iff.rfl
      | ok rest => simp [bind, Except.bind, pure, Except.pure]

end Resolving

/-! ### References in braces -/

section Braces

variable {c : Char} {cs inner : List Char} {p : Piece} {n : Nat}

/-- A name ends where its brace is closed for the first time. -/
theorem takeWhile_append_closed : ∀ {inner : List Char},
    (inner.takeWhile (· != '\x7d')).length < inner.length →
    inner.takeWhile (· != '\x7d') ++ '\x7d' :: inner.drop
      ((inner.takeWhile (· != '\x7d')).length + 1) = inner := by
  intro inner
  induction inner with
  | nil =>
    intro h
    simp at h
  | cons c inner ih =>
    intro h
    by_cases hc : c = '\x7d'
    · simp [hc]
    · have hplain : (c != '\x7d') = true := by simpa using hc
      rw [List.takeWhile_cons, if_pos hplain] at h ⊢
      simp only [List.length_cons, Nat.add_lt_add_iff_right] at h
      simpa using ih h

theorem written_braced (inner : List Char) :
    (braced inner).written = ['$', '\x7b'] ++ inner ++ ['\x7d'] := by
  unfold braced
  split
  · next c name default hsplit =>
    rw [← Text.append_of_splitFirst? hsplit]
    simp [Piece.written]
  · simp [Piece.written]

/-- What stands in braces is always a variable. -/
theorem exists_braced_eq (inner : List Char) :
    ∃ name default, braced inner = .variable name default := by
  unfold braced
  split
  · exact ⟨_, _, rfl⟩
  · exact ⟨_, _, rfl⟩

theorem braceReference?_of_ne (h : c ≠ '$') : braceReference? (c :: cs) = none := by
  unfold braceReference?
  split
  · next heq =>
    obtain ⟨rfl, -⟩ := List.cons.inj heq
    exact absurd rfl h
  · rfl

theorem bareReference?_of_ne (h : c ≠ '$') : bareReference? (c :: cs) = none := by
  unfold bareReference?
  split
  · next heq =>
    obtain ⟨rfl, -⟩ := List.cons.inj heq
    exact absurd rfl h
  · next heq =>
    obtain ⟨rfl, -⟩ := List.cons.inj heq
    exact absurd rfl h
  · rfl

/-- The form of a reference in braces. -/
theorem braceReference?_eq_some (h : braceReference? (c :: cs) = some (p, n)) :
    c = '$' ∧ ∃ inner, cs = '\x7b' :: inner ∧
      (inner.takeWhile (· != '\x7d')).length < inner.length ∧
      p = braced (inner.takeWhile (· != '\x7d')) ∧
      n = (inner.takeWhile (· != '\x7d')).length + 2 := by
  unfold braceReference? at h
  split at h
  · next inner heq =>
    obtain ⟨rfl, rfl⟩ := List.cons.inj heq
    simp only [Option.ite_none_right_eq_some, Option.some.injEq, Prod.mk.injEq] at h
    exact ⟨rfl, inner, rfl, h.1, h.2.1.symm, h.2.2.symm⟩
  · cases h

theorem written_append_drop (h : braceReference? (c :: cs) = some (p, n)) :
    p.written ++ cs.drop n = c :: cs := by
  obtain ⟨rfl, inner, rfl, hclosed, rfl, rfl⟩ := braceReference?_eq_some h
  rw [written_braced, List.drop_succ_cons]
  simpa using takeWhile_append_closed hclosed

/-- **The pieces with braces, written out, are the text.** -/
theorem flatMap_written_readPieces : ∀ cs : List Char,
    (readPieces braceReference? cs).flatMap Piece.written = cs := by
  intro cs
  induction cs using readPieces.induct braceReference? with
  | case1 => simp [readPieces]
  | case2 c cs p n h ih =>
    rw [readPieces, h]
    simp only [List.flatMap_cons, ih, written_append_drop h]
  | case3 c cs h ih =>
    rw [readPieces, h]
    simp only [List.flatMap_cons, ih, Piece.written, List.singleton_append]

end Braces

/-! ### What a text is resolved to -/

section Reading

variable {value? : String → Option String} {c : Char} {cs plain : List Char}

theorem anyReference?_of_ne (h : c ≠ '$') : anyReference? (c :: cs) = none := by
  rw [anyReference?, braceReference?_of_ne h, bareReference?_of_ne h]
  rfl

theorem readPieces_of_none {reference? : ReferenceReader} (h : reference? (c :: cs) = none) :
    readPieces reference? (c :: cs) = .text [c] :: readPieces reference? cs := by
  rw [readPieces, h]

theorem readPieces_of_some {reference? : ReferenceReader} {p : Piece} {n : Nat}
    (h : reference? (c :: cs) = some (p, n)) :
    readPieces reference? (c :: cs) = p :: readPieces reference? (cs.drop n) := by
  rw [readPieces, h]

/-- Characters before a dollar sign are pieces of their own. -/
theorem readPieces_append (h : ∀ c ∈ plain, c ≠ '$') :
    readPieces anyReference? (plain ++ cs)
      = plain.map (fun c => Piece.text [c]) ++ readPieces anyReference? cs := by
  induction plain with
  | nil => rfl
  | cons c plain ih =>
    have hc : anyReference? (c :: (plain ++ cs)) = none :=
      anyReference?_of_ne (h c List.mem_cons_self)
    rw [List.cons_append, readPieces_of_none hc,
      ih fun c hmem => h c (List.mem_cons_of_mem _ hmem)]
    rfl

theorem isNameChar_brace : isNameChar '\x7b' = false := by decide +kernel

theorem anyReference?_of_closed {inner : List Char}
    (h : (inner.takeWhile (· != '\x7d')).length < inner.length) :
    anyReference? ('$' :: '\x7b' :: inner) = some (braced (inner.takeWhile (· != '\x7d')),
      (inner.takeWhile (· != '\x7d')).length + 2) := by
  simp [anyReference?, braceReference?, h]

/-- A brace that is not closed is no reference, and neither is the dollar sign before it. -/
theorem anyReference?_of_open {inner : List Char}
    (h : ¬ (inner.takeWhile (· != '\x7d')).length < inner.length) :
    anyReference? ('$' :: '\x7b' :: inner) = none := by
  simp [anyReference?, braceReference?, bareReference?, h, isNameChar_brace]

theorem anyReference?_dollar (after : List Char) :
    anyReference? ('$' :: '$' :: after) = some (.text ['$'], 1) := by
  simp [anyReference?, braceReference?, bareReference?]

/-- Behind a dollar sign that neither a brace nor a dollar sign follows there may be a name. -/
theorem anyReference?_name (hbrace : ∀ inner, cs ≠ '\x7b' :: inner)
    (hdollar : ∀ after, cs ≠ '$' :: after) :
    anyReference? ('$' :: cs) =
      if (cs.takeWhile isNameChar).isEmpty then none
      else some (.variable (String.ofList (cs.takeWhile isNameChar)) none,
        (cs.takeWhile isNameChar).length) := by
  match cs with
  | [] => rfl
  | c :: cs =>
    have hbrace : c ≠ '\x7b' := fun h => hbrace cs (h ▸ rfl)
    simp [anyReference?, braceReference?, bareReference?, hbrace]

/-- A dollar sign is followed by a brace, by a dollar sign or by neither. -/
theorem brace_or_dollar (cs : List Char) : (∃ inner, cs = '\x7b' :: inner) ∨
    (∃ after, cs = '$' :: after) ∨
    (∀ inner, cs ≠ '\x7b' :: inner) ∧ ∀ after, cs ≠ '$' :: after := by
  by_cases hbrace : ∃ inner, cs = '\x7b' :: inner
  · exact .inl hbrace
  · by_cases hdollar : ∃ after, cs = '$' :: after
    · exact .inr (.inl hdollar)
    · exact .inr (.inr ⟨not_exists.mp hbrace, not_exists.mp hdollar⟩)

theorem piecesWith_of_ne (fuel : Nat) (h : c ≠ '$') :
    piecesWith (fuel + 1) (c :: cs) = .text ((c :: cs).takeWhile (· != '$')) ::
      piecesWith fuel ((c :: cs).dropWhile (· != '$')) := by
  have hdrop : ((c :: cs).takeWhile (· != '$') ++ (c :: cs).dropWhile (· != '$')).drop
      ((c :: cs).takeWhile (· != '$')).length = (c :: cs).dropWhile (· != '$') := List.drop_left
  rw [List.takeWhile_append_dropWhile] at hdrop
  rw [piecesWith.eq_def]
  simp only [bne_iff_ne, ne_eq, h, not_false_eq_true, if_true, hdrop]

theorem piecesWith_brace (fuel : Nat) (inner : List Char) :
    piecesWith (fuel + 1) ('$' :: '\x7b' :: inner) =
      if (inner.takeWhile (· != '\x7d')).length < inner.length then
        braced (inner.takeWhile (· != '\x7d')) ::
          piecesWith fuel (inner.drop ((inner.takeWhile (· != '\x7d')).length + 1))
      else .text ['$', '\x7b'] :: piecesWith fuel inner := by
  simp only [piecesWith, bne_self_eq_false, Bool.false_eq_true, if_false]
  split
  · next c after hdrop =>
    have hlength := congrArg List.length hdrop
    have hafter := congrArg List.tail hdrop
    rw [List.tail_drop, List.tail_cons] at hafter
    rw [List.length_drop, List.length_cons] at hlength
    rw [if_pos (by omega), hafter]
  · next hdrop =>
    have hlength := List.drop_eq_nil_iff.mp hdrop
    rw [if_neg (by omega)]

theorem piecesWith_dollar (fuel : Nat) (after : List Char) :
    piecesWith (fuel + 1) ('$' :: '$' :: after) = .text ['$'] :: piecesWith fuel after := by
  simp [piecesWith]

theorem piecesWith_name (fuel : Nat) (hbrace : ∀ inner, cs ≠ '\x7b' :: inner)
    (hdollar : ∀ after, cs ≠ '$' :: after) :
    piecesWith (fuel + 1) ('$' :: cs) =
      if (cs.takeWhile isNameChar).isEmpty then .text ['$'] :: piecesWith fuel cs
      else .variable (String.ofList (cs.takeWhile isNameChar)) none ::
        piecesWith fuel (cs.drop (cs.takeWhile isNameChar).length) := by
  rw [piecesWith]
  · rfl
  · exact hbrace
  · exact hdollar

theorem resolveAll_text (text : List Char) (ps : List Piece) :
    resolveAll value? (.text text :: ps)
      = resolveAll value? (text.map (fun c => Piece.text [c]) ++ ps) := by
  rw [resolveAll_cons, resolveAll_append, resolveAll_map_text]
  rfl

/-- Texts up to a length are resolved as if they were read character by character. -/
def ReadsAlike (value? : String → Option String) (fuel : Nat) : Prop :=
  ∀ cs : List Char, cs.length ≤ fuel →
    resolveAll value? (piecesWith fuel cs) = resolveAll value? (readPieces anyReference? cs)

namespace ReadsAlike

variable {fuel : Nat} (h : ReadsAlike value? fuel)

include h

/-- The characters up to the next dollar sign are one piece in one reading. -/
theorem characters (hc : c ≠ '$') (hlength : (c :: cs).length ≤ fuel + 1) :
    resolveAll value? (piecesWith (fuel + 1) (c :: cs))
      = resolveAll value? (readPieces anyReference? (c :: cs)) := by
  have hplain : ∀ d ∈ (c :: cs).takeWhile (· != '$'), d ≠ '$' := by
    intro d hd
    simpa using List.all_eq_true.mp List.all_takeWhile d hd
  have hread : readPieces anyReference? ((c :: cs).takeWhile (· != '$')
      ++ (c :: cs).dropWhile (· != '$')) = _ := readPieces_append hplain
  have hafter : ((c :: cs).dropWhile (· != '$')).length ≤ fuel := by
    have hsuffix := (List.dropWhile_suffix (· != '$') (l := cs)).length_le
    rw [List.length_cons] at hlength
    rw [List.dropWhile_cons, if_pos (by simpa using hc)]
    omega
  rw [List.takeWhile_append_dropWhile] at hread
  rw [piecesWith_of_ne fuel hc, hread, resolveAll_text, resolveAll_append, resolveAll_append,
    h _ hafter]

theorem brace {inner : List Char} (hlength : ('$' :: '\x7b' :: inner).length ≤ fuel + 1) :
    resolveAll value? (piecesWith (fuel + 1) ('$' :: '\x7b' :: inner))
      = resolveAll value? (readPieces anyReference? ('$' :: '\x7b' :: inner)) := by
  rw [List.length_cons, List.length_cons] at hlength
  rw [piecesWith_brace]
  split
  · next hclosed =>
    have hafter : (inner.drop ((inner.takeWhile (· != '\x7d')).length + 1)).length ≤ fuel := by
      rw [List.length_drop]
      omega
    rw [readPieces_of_some (anyReference?_of_closed hclosed), List.drop_succ_cons]
    exact resolveAll_congr (h _ hafter)
  · next hopen =>
    -- The dollar sign and the open brace are one piece in one reading and two in the other.
    rw [readPieces_of_none (anyReference?_of_open hopen),
      readPieces_of_none (anyReference?_of_ne (by decide)), resolveAll_text]
    exact resolveAll_congr (resolveAll_congr (h inner (by omega)))

theorem dollar {after : List Char} (hlength : ('$' :: '$' :: after).length ≤ fuel + 1) :
    resolveAll value? (piecesWith (fuel + 1) ('$' :: '$' :: after))
      = resolveAll value? (readPieces anyReference? ('$' :: '$' :: after)) := by
  rw [List.length_cons, List.length_cons] at hlength
  rw [piecesWith_dollar, readPieces_of_some (anyReference?_dollar after)]
  exact resolveAll_congr (h after (by omega))

theorem name (hbrace : ∀ inner, cs ≠ '\x7b' :: inner) (hdollar : ∀ after, cs ≠ '$' :: after)
    (hlength : ('$' :: cs).length ≤ fuel + 1) :
    resolveAll value? (piecesWith (fuel + 1) ('$' :: cs))
      = resolveAll value? (readPieces anyReference? ('$' :: cs)) := by
  have href := anyReference?_name hbrace hdollar
  rw [List.length_cons] at hlength
  rw [piecesWith_name fuel hbrace hdollar]
  split
  · next hempty =>
    rw [if_pos hempty] at href
    rw [readPieces_of_none href]
    exact resolveAll_congr (h cs (by omega))
  · next hname =>
    have hafter : (cs.drop (cs.takeWhile isNameChar).length).length ≤ fuel := by
      rw [List.length_drop]
      omega
    rw [if_neg hname] at href
    rw [readPieces_of_some href]
    exact resolveAll_congr (h _ hafter)

end ReadsAlike

/-- **A text is resolved as if it were read character by character.** -/
theorem resolveAll_piecesWith (fuel : Nat) : ReadsAlike value? fuel := by
  induction fuel with
  | zero =>
    intro cs hlength
    obtain rfl := List.length_eq_zero_iff.mp (Nat.le_zero.mp hlength)
    rw [piecesWith, resolveAll_text, readPieces]
    rfl
  | succ fuel ih =>
    intro cs hlength
    cases cs with
    | nil => simp [piecesWith, readPieces]
    | cons c cs =>
      by_cases hc : c = '$'
      · subst hc
        rcases brace_or_dollar cs with ⟨inner, rfl⟩ | ⟨after, rfl⟩ | ⟨hbrace, hdollar⟩
        · exact ih.brace hlength
        · exact ih.dollar hlength
        · exact ih.name hbrace hdollar hlength
      · exact ih.characters hc hlength

end Reading

/-! ### Where the two readings differ -/

/-- What stands for a piece if every variable has the same value of one character. -/
def Piece.filled : Piece → List Char
  | .text cs => cs
  | .variable _ _ => ['x']

/-- The text with that value for every reference. -/
def fill (reference? : ReferenceReader) (cs : List Char) : List Char :=
  (readPieces reference? cs).flatMap Piece.filled

section Differing

variable {c : Char} {cs r : List Char} {p : Piece} {n : Nat}

theorem resolveAll_eq_filled (ps : List Piece) :
    resolveAll (fun _ => some "x") ps = .ok (ps.flatMap Piece.filled) := by
  induction ps with
  | nil => rfl
  | cons p ps ih =>
    rw [resolveAll_cons, ih]
    cases p <;> rfl

theorem fill_of_none {reference? : ReferenceReader} (h : reference? (c :: cs) = none) :
    fill reference? (c :: cs) = c :: fill reference? cs := by
  rw [fill, readPieces_of_none h, List.flatMap_cons]
  rfl

theorem fill_of_some {reference? : ReferenceReader} (h : reference? (c :: cs) = some (p, n)) :
    fill reference? (c :: cs) = p.filled ++ fill reference? (cs.drop n) := by
  rw [fill, readPieces_of_some h, List.flatMap_cons]
  rfl

theorem filled_of_braceReference? (h : braceReference? (c :: cs) = some (p, n)) :
    p.filled = ['x'] := by
  obtain ⟨-, inner, -, -, rfl, -⟩ := braceReference?_eq_some h
  obtain ⟨name, default, hbraced⟩ := exists_braced_eq (inner.takeWhile (· != '\x7d'))
  rw [hbraced]
  rfl

theorem anyReference?_of_brace (h : braceReference? (c :: cs) = some (p, n)) :
    anyReference? (c :: cs) = some (p, n) := by
  rw [anyReference?, h]
  rfl

/-- What a dollar sign that is not left alone can be: one of two, or one before a name. -/
theorem bareReference?_eq_some (h : bareReference? (c :: cs) = some (p, n)) :
    c = '$' ∧ ((∃ after, cs = '$' :: after ∧ p = .text ['$'] ∧ n = 1) ∨ p.filled = ['x']) := by
  by_cases hc : c = '$'
  · subst hc
    refine ⟨rfl, ?_⟩
    unfold bareReference? at h
    split at h
    · next after heq =>
      obtain ⟨-, rfl⟩ := List.cons.inj heq
      obtain ⟨rfl, rfl⟩ := Prod.mk.inj (Option.some.inj h)
      exact .inl ⟨after, rfl, rfl, rfl⟩
    · simp only [Option.ite_none_left_eq_some, Option.some.injEq, Prod.mk.injEq] at h
      obtain ⟨-, rfl, -⟩ := h
      exact .inr rfl
    · cases h
  · rw [bareReference?_of_ne hc] at h
    cases h

theorem anyReference?_eq_some (h : anyReference? (c :: cs) = some (p, n)) :
    c = '$' ∧ ((∃ after, cs = '$' :: after ∧ p = .text ['$'] ∧ n = 1) ∨ p.filled = ['x']) := by
  rw [anyReference?] at h
  cases hbrace : braceReference? (c :: cs) with
  | none =>
    rw [hbrace] at h
    exact bareReference?_eq_some h
  | some found =>
    rw [hbrace] at h
    obtain rfl := Option.some.inj h
    exact ⟨(braceReference?_eq_some hbrace).1, .inr (filled_of_braceReference? hbrace)⟩

theorem fill_dollar (after : List Char) :
    fill anyReference? ('$' :: '$' :: after) = '$' :: fill anyReference? after :=
  fill_of_some (anyReference?_dollar after)

theorem replicate_append_cons (k : Nat) (c : Char) (cs : List Char) :
    List.replicate k c ++ c :: cs = List.replicate (k + 1) c ++ cs := by
  rw [List.replicate_succ', List.append_assoc]
  rfl

/-- Once one reading has lost dollar signs, it never makes up for them: what it makes of the rest of
the text is never what the other makes of that rest with dollar signs before it. -/
theorem fill_ne_replicate_append : ∀ (m : Nat) (r : List Char) (k : Nat), r.length ≤ m →
    fill anyReference? r ≠ List.replicate k '$' ++ fill braceReference? ('$' :: r) := by
  intro m
  induction m using Nat.strongRecOn with
  | ind m ih =>
    intro r k hm h
    cases hbrace : braceReference? ('$' :: r) with
    | some found =>
      -- One reading begins with the brace, the other with a value or a dollar sign.
      obtain ⟨p, n⟩ := found
      obtain ⟨-, inner, rfl, -⟩ := braceReference?_eq_some hbrace
      rw [fill_of_some hbrace, filled_of_braceReference? hbrace,
        fill_of_none (anyReference?_of_ne (by decide))] at h
      cases k with
      | zero => simp at h
      | succ k => simp [List.replicate_succ] at h
    | none =>
      rw [fill_of_none hbrace, replicate_append_cons, List.replicate_succ, List.cons_append] at h
      match r with
      | [] => simp [fill, readPieces] at h
      | c :: r =>
        rw [List.length_cons] at hm
        cases hany : anyReference? (c :: r) with
        | none =>
          rw [fill_of_none hany] at h
          obtain ⟨rfl, h⟩ := List.cons.inj h
          exact ih r.length (by omega) r k (Nat.le_refl _) h
        | some found =>
          obtain ⟨p, n⟩ := found
          obtain ⟨rfl, ⟨after, rfl, -, -⟩ | hp⟩ := anyReference?_eq_some hany
          · -- Another dollar sign is lost.
            rw [fill_dollar] at h
            obtain ⟨-, h⟩ := List.cons.inj h
            have hnone : braceReference? ('$' :: '$' :: after) = none := by simp [braceReference?]
            rw [fill_of_none hnone, replicate_append_cons] at h
            rw [List.length_cons] at hm
            exact ih after.length (by omega) after (k + 1) (Nat.le_refl _) h
          · rw [fill_of_some hany, hp] at h
            obtain ⟨hx, -⟩ := List.cons.inj h
            exact absurd hx (by decide)

/-- **The two readings differ, with the same value for every reference, if a dollar sign is not left
alone.** -/
theorem fill_ne_of_hasBareReference : ∀ {cs : List Char}, hasBareReference cs = true →
    fill anyReference? cs ≠ fill braceReference? cs := by
  intro cs
  induction cs using hasBareReference.induct with
  | case1 =>
    intro h
    simp [hasBareReference] at h
  | case2 c cs p n hbrace ih =>
    intro h heq
    rw [hasBareReference, hbrace] at h
    rw [fill_of_some hbrace, fill_of_some (anyReference?_of_brace hbrace)] at heq
    exact ih h (List.append_cancel_left heq)
  | case3 c cs hbrace ih =>
    intro h heq
    have hany : anyReference? (c :: cs) = bareReference? (c :: cs) := by
      rw [anyReference?, hbrace]
      rfl
    rw [fill_of_none hbrace] at heq
    cases hbare : bareReference? (c :: cs) with
    | none =>
      rw [hasBareReference, hbrace, hbare] at h
      rw [fill_of_none (hany.trans hbare)] at heq
      exact ih h (List.cons.inj heq).2
    | some found =>
      obtain ⟨p, n⟩ := found
      obtain ⟨rfl, ⟨after, rfl, -, -⟩ | hp⟩ := bareReference?_eq_some hbare
      · -- From here on the first reading is one dollar sign short.
        rw [fill_dollar] at heq
        obtain ⟨-, heq⟩ := List.cons.inj heq
        exact fill_ne_replicate_append after.length after 0 (Nat.le_refl _) heq
      · rw [fill_of_some (hany.trans hbare), hp] at heq
        obtain ⟨hx, -⟩ := List.cons.inj heq
        exact absurd hx (by decide)

theorem readPieces_eq_of_hasBareReference : ∀ {cs : List Char}, hasBareReference cs = false →
    readPieces anyReference? cs = readPieces braceReference? cs := by
  intro cs
  induction cs using hasBareReference.induct with
  | case1 =>
    intro h
    simp [readPieces]
  | case2 c cs p n hbrace ih =>
    intro h
    rw [hasBareReference, hbrace] at h
    rw [readPieces_of_some hbrace, readPieces_of_some (anyReference?_of_brace hbrace), ih h]
  | case3 c cs hbrace ih =>
    intro h
    rw [hasBareReference, hbrace, Bool.or_eq_false_iff] at h
    have hany : anyReference? (c :: cs) = none := by
      rw [anyReference?, hbrace]
      simpa using h.1
    rw [readPieces_of_none hbrace, readPieces_of_none hany, ih h.2]

/-- A text in which no brace is open has no references in braces. -/
theorem readPieces_of_occursIn_false : ∀ {cs : List Char},
    Text.occursIn ['$', '\x7b'] cs = false →
    readPieces braceReference? cs = cs.map fun c => .text [c] := by
  intro cs
  induction cs with
  | nil =>
    intro h
    simp [readPieces]
  | cons c cs ih =>
    intro h
    obtain ⟨hdrop, h⟩ := Text.splitFirst?_of_occursIn_false h
    have hnone : braceReference? (c :: cs) = none := by
      cases hbrace : braceReference? (c :: cs) with
      | none => rfl
      | some found =>
        obtain ⟨rfl, inner, rfl, -⟩ := braceReference?_eq_some hbrace
        simp [Text.dropStart?] at hdrop
    rw [readPieces_of_none hnone, ih h]
    rfl

end Differing

/-! ### What a text is expanded to -/

section Expanding

variable {value? : String → Option String} {s : String}

theorem expand_eq_resolveAll (value? : String → Option String) (s : String) :
    expand value? s = (resolveAll value? (pieces s)).map String.ofList := by
  rw [expand, resolveAll]
  cases (pieces s).mapM (Piece.resolve value?) <;> rfl

theorem expand_of_occursIn (h : Text.occursIn ['$', '\x7b'] s.toList = true) :
    expand value? s
      = (resolveAll value? (readPieces anyReference? s.toList)).map String.ofList := by
  rw [expand_eq_resolveAll, pieces, if_pos h, resolveAll_piecesWith _ _ (Nat.le_refl _)]

theorem expand_of_occursIn_false (h : Text.occursIn ['$', '\x7b'] s.toList = false) :
    expand value? s = expandBraces value? s := by
  rw [expand_eq_resolveAll, pieces, h, expandBraces, bracePieces, readPieces_of_occursIn_false h]
  simp only [Bool.false_eq_true, if_false]
  rw [resolveAll_text, List.append_nil]

end Expanding

/-- What is known of a text whose references are meant to stand in braces. -/
structure ExpandsBraces (s : String) : Prop where
  /-- The text is its references in braces and its other characters, one behind the other. -/
  written : (bracePieces s).flatMap Piece.written = s.toList
  /-- References in braces cannot be resolved exactly if a variable among them is not set and has
  no default. -/
  fails : ∀ value?, (∃ name, expandBraces value? s = .error name) ↔
    ∃ name, .variable name none ∈ bracePieces s ∧ value? name = none
  /-- The text is expanded as its references in braces say, whatever the variables are, unless it
  has an open brace and a dollar sign that is not left alone. -/
  agrees : (∀ value?, expand value? s = expandBraces value? s) ↔
    ¬ (Text.occursIn ['$', '\x7b'] s.toList = true ∧ hasBareReference s.toList = true)

/-- **A text is expanded as its references in braces say unless it has an open brace and a dollar
sign that is not left alone.** -/
theorem expandsBraces_expand (s : String) : ExpandsBraces s := by
  refine ⟨flatMap_written_readPieces s.toList, fun value? => ?_, fun h => ?_, fun h value? => ?_⟩
  · rw [← exists_resolveAll_eq_error_iff, expandBraces]
    cases resolveAll value? (bracePieces s) with
    | error name => simp [Except.map]
    | ok cs => simp [Except.map]
  · rintro ⟨hbrace, hbare⟩
    have heq := h fun _ => some "x"
    rw [expand_of_occursIn hbrace, expandBraces, bracePieces, resolveAll_eq_filled,
      resolveAll_eq_filled] at heq
    exact fill_ne_of_hasBareReference hbare (String.ofList_injective (Except.ok.inj heq))
  · cases hbrace : Text.occursIn ['$', '\x7b'] s.toList with
    | false => exact expand_of_occursIn_false hbrace
    | true =>
      have hbare : hasBareReference s.toList = false := by
        simpa [hbrace] using h
      rw [expand_of_occursIn hbrace, expandBraces, bracePieces,
        readPieces_eq_of_hasBareReference hbare]

/-- A price stands for itself, but not behind a reference. -/
theorem expand_price :
    expand (fun name => if name = "A" then some "x" else none) "$5" = .ok "$5" ∧
    expand (fun name => if name = "A" then some "x" else none) "$\x7bA\x7d costs $5" = .error "5" ∧
    expandBraces (fun name => if name = "A" then some "x" else none) "$\x7bA\x7d costs $5"
      = .ok "x costs $5" := by
  refine ⟨rfl, rfl, ?_⟩
  cbv

end Folio
