import Folio.Markdown.Inlines
import Folio.Proofs.EventShape
import Folio.Proofs.TextSearch

/-!
# Addresses of mailboxes

The address of a mailbox is a name, an at sign, and a host name of labels with points between them.
The reader of autolinks takes exactly these addresses, as far as they begin with no scheme, and no
address of a mailbox does: a scheme ends at a colon, which is no character of such an address.  So
every address of a mailbox between angle brackets is read as a link to itself.

## Main definitions

* `IsLabel`, `IsHostName`, `IsMailbox` — the addresses of mailboxes.
* `selfLink` — the events of an address that links to itself.

## Main results

* `email?_eq_some_iff` — **exactly the addresses of mailboxes are read.**
* `InlineReader.angle_of_isMailbox` — between angle brackets such an address is a link to itself.
-/

namespace Folio

namespace Markdown

/-- A label of a host name: at most 63 letters, digits and inner hyphens. -/
structure IsLabel (label : List Char) : Prop where
  chars : ∀ c ∈ label, c.isAlphanum = true ∨ c = '-'
  nonempty : 1 ≤ label.length
  length : label.length ≤ 63
  first : label.head? ≠ some '-'
  last : label.getLast? ≠ some '-'

/-- Labels with points between them. -/
inductive IsHostName : List Char → Prop
  | label {label : List Char} (h : IsLabel label) : IsHostName label
  | dotted {label host : List Char} (h : IsLabel label) (hhost : IsHostName host) :
      IsHostName (label ++ '.' :: host)

/-- The address of a mailbox: a name, an at sign and a host name. -/
inductive IsMailbox : List Char → Prop
  | mk {name host : List Char} (hne : name ≠ []) (hname : ∀ c ∈ name, isMailboxChar c = true)
      (hhost : IsHostName host) : IsMailbox (name ++ '@' :: host)

/-- The events of an address that links to itself. -/
def selfLink (address : String) : List Event := within (.link ⟨address, ""⟩) [.text address]

/-! ### Host names -/

/-- A character of a host name. -/
def isHostChar (c : Char) : Bool := c.isAlphanum || c == '-' || c == '.'

theorem IsLabel.not_point {label : List Char} (h : IsLabel label) : ∀ c ∈ label, c ≠ '.' := by
  rintro c hc rfl
  rcases h.chars '.' hc with halnum | hhyphen
  · exact absurd halnum (by decide)
  · exact absurd hhyphen (by decide)

theorem IsLabel.isHostChar {label : List Char} (h : IsLabel label) :
    ∀ c ∈ label, isHostChar c = true := by
  intro c hc
  rcases h.chars c hc with halnum | rfl
  · simp [Markdown.isHostChar, halnum]
  · rfl

/-- Of a text of such characters the labels are told by their length and their ends. -/
theorem isHostLabel_iff {label : List Char} (hchars : ∀ c ∈ label, isHostChar c = true)
    (hpoint : ∀ c ∈ label, c ≠ '.') : isHostLabel label = true ↔ IsLabel label := by
  simp only [isHostLabel, Bool.and_eq_true, decide_eq_true_eq, bne_iff_ne]
  constructor
  · rintro ⟨⟨⟨hnonempty, hlength⟩, hfirst⟩, hlast⟩
    refine ⟨fun c hc => ?_, hnonempty, hlength, hfirst, hlast⟩
    have hchar := hchars c hc
    simp only [isHostChar, Bool.or_eq_true, beq_iff_eq] at hchar
    exact hchar.resolve_right (hpoint c hc)
  · intro h
    exact ⟨⟨⟨h.nonempty, h.length⟩, h.first⟩, h.last⟩

theorem splitPoints_of_not_point {label : List Char} (h : ∀ c ∈ label, c ≠ '.') :
    splitPoints label = [label] := by
  induction label with
  | nil => rfl
  | cons c label ih =>
    obtain ⟨hc, hlabel⟩ := List.forall_mem_cons.mp h
    rw [splitPoints, ih hlabel, if_neg (by simpa using hc)]

theorem splitPoints_append {label : List Char} (h : ∀ c ∈ label, c ≠ '.') (host : List Char) :
    splitPoints (label ++ '.' :: host) = label :: splitPoints host := by
  induction label with
  | nil => rfl
  | cons c label ih =>
    obtain ⟨hc, hlabel⟩ := List.forall_mem_cons.mp h
    rw [List.cons_append, splitPoints, ih hlabel, if_neg (by simpa using hc)]

/-- A text has no point, or it has a first one. -/
theorem exists_firstPoint (cs : List Char) : (∀ c ∈ cs, c ≠ '.') ∨
    ∃ label host, cs = label ++ '.' :: host ∧ ∀ c ∈ label, c ≠ '.' := by
  induction cs with
  | nil => exact .inl (List.forall_mem_nil _)
  | cons c cs ih =>
    by_cases hc : c = '.'
    · exact .inr ⟨[], cs, by rw [hc]; rfl, List.forall_mem_nil _⟩
    · rcases ih with hnone | ⟨label, host, rfl, hlabel⟩
      · exact .inl (List.forall_mem_cons.mpr ⟨hc, hnone⟩)
      · exact .inr ⟨c :: label, host, rfl, List.forall_mem_cons.mpr ⟨hc, hlabel⟩⟩

theorem IsHostName.isHostChar {host : List Char} (h : IsHostName host) :
    ∀ c ∈ host, isHostChar c = true := by
  induction h with
  | label h => exact h.isHostChar
  | dotted h _ ih =>
    exact List.forall_mem_append.mpr ⟨h.isHostChar, List.forall_mem_cons.mpr ⟨rfl, ih⟩⟩

/-- **The labels of a host name are told apart by its points.** -/
theorem isHostName_iff {host : List Char} (hchars : ∀ c ∈ host, isHostChar c = true) :
    (splitPoints host).all isHostLabel = true ↔ IsHostName host := by
  constructor
  · intro h
    -- The labels behind the first point are those of a shorter text.
    induction hlength : host.length using Nat.strong_induction_on generalizing host with
    | _ n ih =>
      rcases exists_firstPoint host with hnone | ⟨label, rest, rfl, hlabel⟩
      · rw [splitPoints_of_not_point hnone, List.all_cons, List.all_nil, Bool.and_true] at h
        exact .label ((isHostLabel_iff hchars hnone).mp h)
      · obtain ⟨hleft, hright⟩ := List.forall_mem_append.mp hchars
        obtain ⟨-, hrest⟩ := List.forall_mem_cons.mp hright
        rw [splitPoints_append hlabel, List.all_cons, Bool.and_eq_true] at h
        refine .dotted ((isHostLabel_iff hleft hlabel).mp h.1) (ih rest.length ?_ hrest h.2 rfl)
        rw [← hlength, List.length_append, List.length_cons]
        omega
  · intro h
    clear hchars
    induction h with
    | label h =>
      rw [splitPoints_of_not_point h.not_point, List.all_cons, List.all_nil, Bool.and_true]
      exact (isHostLabel_iff h.isHostChar h.not_point).mpr h
    | dotted h _ ih =>
      rw [splitPoints_append h.not_point, List.all_cons, Bool.and_eq_true]
      exact ⟨(isHostLabel_iff h.isHostChar h.not_point).mpr h, ih⟩

/-! ### Reading addresses -/

theorem drop_length_takeWhile (p : Char → Bool) (cs : List Char) :
    cs.drop (cs.takeWhile p).length = cs.dropWhile p := by
  induction cs with
  | nil => rfl
  | cons c cs ih => cases hc : p c <;> simp [hc, ih]

theorem ne_of_isMailboxChar {c : Char} (h : isMailboxChar c = true) :
    c ≠ '@' ∧ c ≠ ':' ∧ c ≠ '>' := by
  refine ⟨?_, ?_, ?_⟩ <;> (rintro rfl; exact absurd h (by decide))

/-- **Exactly the addresses of mailboxes are read.** -/
theorem email?_eq_some_iff {cs address rest : List Char} :
    email? cs = some (address, rest) ↔ IsMailbox address ∧ cs = address ++ '>' :: rest := by
  constructor
  · intro h
    unfold email? at h
    simp only [drop_length_takeWhile] at h
    split at h
    · next after hat =>
      split at h
      · next rest' hclose =>
        split at h
        · next hcond =>
          obtain ⟨rfl, rfl⟩ := Prod.mk.inj (Option.some.inj h)
          rw [Bool.and_eq_true, Bool.not_eq_true', List.isEmpty_eq_false_iff] at hcond
          refine ⟨.mk hcond.1 (fun c hc => List.mem_takeWhile_imp hc) ?_, ?_⟩
          · exact (isHostName_iff fun c hc => List.mem_takeWhile_imp hc).mp hcond.2
          · rw [List.append_assoc, List.cons_append, ← hclose, List.takeWhile_append_dropWhile,
              ← hat, List.takeWhile_append_dropWhile]
        · cases h
      · cases h
    · cases h
  · rintro ⟨⟨hne, hname, hhost⟩, rfl⟩
    next name host =>
    have hat : Text.StopsAt (· == '@') ('@' :: (host ++ '>' :: rest)) := Text.stopsAt_cons.mpr rfl
    have hclose : Text.StopsAt (· == '>') ('>' :: rest) := Text.stopsAt_cons.mpr rfl
    have hafterName : ∀ c, (c == '@') = true → isMailboxChar c = false := by
      intro c hc
      rw [beq_iff_eq.mp hc]
      decide
    have hafterHost : ∀ c, (c == '>') = true → isHostChar c = false := by
      intro c hc
      rw [beq_iff_eq.mp hc]
      decide
    have hcs : (name ++ '@' :: host) ++ '>' :: rest = name ++ '@' :: (host ++ '>' :: rest) := by
      simp
    have hlabels := (isHostName_iff hhost.isHostChar).mpr hhost
    unfold email?
    simp only [drop_length_takeWhile]
    rw [hcs, Text.takeWhile_append hname hafterName hat, Text.dropWhile_append hname hafterName hat]
    have htake : (host ++ '>' :: rest).takeWhile isHostChar = host :=
      Text.takeWhile_append hhost.isHostChar hafterHost hclose
    have hdrop : (host ++ '>' :: rest).dropWhile isHostChar = '>' :: rest :=
      Text.dropWhile_append hhost.isHostChar hafterHost hclose
    unfold isHostChar at htake hdrop
    simp only [htake, hdrop, hlabels, Bool.and_true]
    rw [if_pos (by simpa using hne)]

/-- No address of a mailbox has a colon. -/
theorem IsMailbox.ne_colon {address : List Char} (h : IsMailbox address) :
    ∀ c ∈ address, c ≠ ':' := by
  obtain ⟨-, hname, hhost⟩ := h
  refine List.forall_mem_append.mpr ⟨fun c hc => (ne_of_isMailboxChar (hname c hc)).2.1,
    List.forall_mem_cons.mpr ⟨by decide, fun c hc => ?_⟩⟩
  rintro rfl
  exact absurd (hhost.isHostChar ':' hc) (by decide)

/-- A scheme ends at a colon before every at sign. -/
theorem uri?_eq_some {cs address rest : List Char} (h : uri? cs = some (address, rest)) :
    ∃ first scheme after, cs = first :: scheme ++ ':' :: after ∧ first.isAlpha = true ∧
      ∀ c ∈ scheme, isSchemeChar c = true := by
  cases cs with
  | nil => cases h
  | cons first others =>
    unfold uri? at h
    simp only [List.length_cons, List.drop_succ_cons, drop_length_takeWhile] at h
    split at h
    · next after hcolon =>
      split at h
      · split at h
        · next hcond =>
          simp only [Bool.and_eq_true] at hcond
          refine ⟨first, others.takeWhile isSchemeChar, after, ?_, hcond.1.1,
            fun c hc => List.mem_takeWhile_imp hc⟩
          rw [List.cons_append, ← hcolon, List.takeWhile_append_dropWhile]
        · cases h
      · cases h
    · cases h

/-- **An address of a mailbox begins with no scheme**, whatever stands behind it. -/
theorem IsMailbox.uri?_eq_none {address : List Char} (h : IsMailbox address) (rest : List Char) :
    uri? (address ++ rest) = none := by
  rw [Option.eq_none_iff_forall_ne_some]
  rintro ⟨uri, after⟩ huri
  obtain ⟨first, scheme, behind, hcs, hfirst, hscheme⟩ := uri?_eq_some huri
  obtain ⟨-, hname, -⟩ := h
  rw [List.append_assoc, List.cons_append] at hcs
  -- The scheme ends before the at sign, or behind it.
  rcases List.append_eq_append_iff.mp hcs with ⟨mid, hmid, hrest⟩ | ⟨mid, hmid, hrest⟩
  · have hat : '@' ∈ first :: scheme := by
      cases mid with
      | nil => exact absurd (List.cons.inj hrest).1 (by decide)
      | cons c mid =>
        obtain ⟨rfl, -⟩ := List.cons.inj hrest
        rw [hmid]
        simp
    rcases List.mem_cons.mp hat with rfl | hat
    · exact absurd hfirst (by decide)
    · exact absurd (hscheme '@' hat) (by decide)
  · cases mid with
    | nil => exact absurd (List.cons.inj hrest).1 (by decide)
    | cons c mid =>
      obtain ⟨rfl, -⟩ := List.cons.inj hrest
      exact (ne_of_isMailboxChar (hname ':' (by rw [hmid]; simp))).2.1 rfl

/-- **Between angle brackets an address of a mailbox is a link to itself**: this is what the reader
adds, and these are its events. -/
theorem InlineReader.angle_of_isMailbox (r : InlineReader) {address : String}
    (h : IsMailbox address.toList) (rest : List Char) : ∃ inline : Inline,
      r.angle (address.toList ++ '>' :: rest) = (r.add (.node inline) '>', rest) ∧
        inline.events = selfLink address := by
  refine ⟨.link ⟨address, ""⟩ [.text address], ?_, rfl⟩
  have hread : autolink? (address.toList ++ '>' :: rest) = some (address.toList, rest) := by
    rw [autolink?, h.uri?_eq_none, Option.none_or, email?_eq_some_iff]
    exact ⟨h, rfl⟩
  rw [angle, hread]
  dsimp only
  rw [String.ofList_toList]

end Markdown

end Folio
