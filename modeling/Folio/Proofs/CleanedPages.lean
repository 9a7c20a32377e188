import Folio.Proofs.Policies
import Folio.Proofs.StartTags

/-!
# The elements of a cleaned page

A cleaner writes a page anew, and what matters is the text that it writes: whoever reads that text
must find no element in it that the policy removes.

The cleaner that goes by the tree of a page takes the elements out of the tree, and then writes what
is left.  Its texts and its values are escaped, so a tag begins and ends in the text where it does
in the tree.  Three things would come between: a comment and the text of an element such as `xmp`
are written as they stand, and a name with a blank or a `>` in it does not end where it seems to.  A
policy that keeps none of them is readable, and for such a policy the text says what the tree says.

## Main definitions

* `Policy.Keeps` — the policy keeps a node and all that it holds.
* `Policy.Allows` — a text in which no element begins but those that the policy keeps.
* `Policy.IsReadable` — what the policy keeps can be read in the text.
* `Cleaner.KeepsTagsOf` — the cleaner writes no elements but those that the policy keeps.

## Main results

* `Policy.keeps_cleanAll` — **what a policy leaves of a page is what it keeps.**
* `Policy.Keeps.allows` — **no other element begins where such a node is written.**
* `treeCleaner_keepsTagsOf` — **the tree cleaner writes no elements but those that a readable policy
  keeps.**
-/

namespace Folio

open Html (ElementAttribute ElementName Node startTag? startTags tagTexts tagTexts_append
  tagTexts_of_no_tag tagTexts_tag unfinished unfinished_append writeNodes)

/-! ### What a policy leaves -/

namespace Policy

variable {p : Policy} {element : String} {a : ElementAttribute} {all : List ElementAttribute}

/-- The policy keeps the attribute of an element, or sets it. -/
def KeepsOrSets (p : Policy) (element : String) (a : ElementAttribute) : Prop :=
  p.keepsAttribute element a = true ∨
    element = "a" ∧ ∃ rel, p.linkRel = some rel ∧ a = { name := "rel", value := rel }

/-- The policy keeps the node and all that it holds. -/
inductive Keeps (p : Policy) : Node → Prop
  | text (s : String) : p.Keeps (.text s)
  | comment (s : String) (h : p.stripComments = false) : p.Keeps (.comment s)
  | element {name : ElementName} {attributes : List ElementAttribute} {children : List Node}
      (hname : name.name ∈ p.tags) (hdropped : name.name ∉ droppedTags)
      (hattributes : ∀ a ∈ attributes, p.KeepsOrSets name.name a)
      (hchildren : ∀ n ∈ children, p.Keeps n) : p.Keeps (.element name attributes children)

theorem keepsOrSets_of_mem_attributes (h : a ∈ p.attributes element all) :
    p.KeepsOrSets element a := by
  have hkept : a ∈ all.filter (p.keepsAttribute element) → p.KeepsOrSets element a :=
    fun h => .inl (List.mem_filter.mp h).2
  unfold attributes at h
  split at h
  · next rel hrel =>
    split at h
    · next hlink =>
      rcases List.mem_append.mp h with h | h
      · exact hkept h
      · exact .inr ⟨beq_iff_eq.mp hlink, rel, hrel, List.mem_singleton.mp h⟩
    · exact hkept h
  · exact hkept h

mutual

theorem keeps_clean (p : Policy) : ∀ (node : Node) (holder : ElementName),
    ∀ n ∈ Folio.clean p holder node, p.Keeps n
  | .text s, holder => by
    rw [Folio.clean]
    exact List.forall_mem_singleton.mpr (.text s)
  | .comment s, holder => by
    rw [Folio.clean]
    cases h : p.stripComments with
    | true => exact List.forall_mem_nil _
    | false => exact List.forall_mem_singleton.mpr (.comment s h)
  | .element name attributes children, holder => by
    have hinside := keeps_cleanAll p children name
    have hinstead := keeps_cleanAll p children holder
    rw [Folio.clean]
    split
    · exact List.forall_mem_nil _
    · next hfits =>
      split
      · next hname =>
        have hdropped : name.name ∉ droppedTags := by
          intro hdropped
          simp [hdropped] at hfits
        refine List.forall_mem_singleton.mpr (.element (by simpa using hname) hdropped ?_ hinside)
        exact fun a ha => keepsOrSets_of_mem_attributes ha
      · exact hinstead

/-- **What a policy leaves of a page is what it keeps.** -/
theorem keeps_cleanAll (p : Policy) : ∀ (nodes : List Node) (holder : ElementName),
    ∀ n ∈ Folio.cleanAll p holder nodes, p.Keeps n
  | [], holder => by
    rw [Folio.cleanAll]
    exact List.forall_mem_nil _
  | node :: nodes, holder => by
    have hhead := keeps_clean p node holder
    have hrest := keeps_cleanAll p nodes holder
    rw [Folio.cleanAll]
    exact List.forall_mem_append.mpr ⟨hhead, hrest⟩

end

end Policy

/-! ### What is written -/

theorem Html.ne_of_mem_textChar {c d : Char} (h : d ∈ Html.textChar c) : d ≠ '<' ∧ d ≠ '>' := by
  have hall : ∀ ds : List Char, ds.all (fun d => d != '<' && d != '>') = true → d ∈ ds →
      d ≠ '<' ∧ d ≠ '>' := by
    intro ds hds hd
    simpa using List.all_eq_true.mp hds d hd
  unfold Html.textChar at h
  split at h
  · exact hall _ (by decide) h
  split at h
  · exact hall _ (by decide) h
  split at h
  · exact hall _ (by decide) h
  split at h
  · exact hall _ (by decide) h
  · next hopening hclosing =>
    obtain rfl := List.mem_singleton.mp h
    exact ⟨by simpa using hopening, by simpa using hclosing⟩

theorem Html.ne_of_mem_valueChar {c d : Char} (h : d ∈ Html.valueChar c) : d ≠ '>' := by
  unfold Html.valueChar at h
  split at h
  · have hquote : '>' ∉ ['&', 'q', 'u', 'o', 't', ';'] := by decide
    exact fun hclosing => hquote (hclosing ▸ h)
  · exact (Html.ne_of_mem_textChar h).2

/-- An attribute does not end the tag that it stands in. -/
theorem Html.ElementAttribute.ne_of_mem_write {a : ElementAttribute} (ha : '>' ∉ a.name.toList) :
    ∀ c ∈ a.write, c ≠ '>' := by
  have hspace : ∀ s : Html.AttributeSpace, '>' ∉ s.text.toList := by
    intro s
    cases s <;> decide
  rintro c hc rfl
  unfold Html.ElementAttribute.write at hc
  simp only [List.mem_cons, List.mem_append, List.not_mem_nil, or_false] at hc
  rcases hc with ((((hc | hc) | hc) | hc | hc) | hc) | hc
  · exact absurd hc (by decide)
  · cases hs : a.space with
    | none => simp [hs] at hc
    | some s => simp [hs, hspace s] at hc
  · exact ha hc
  · exact absurd hc (by decide)
  · exact absurd hc (by decide)
  · obtain ⟨d, -, hc⟩ := List.mem_flatMap.mp hc
    exact Html.ne_of_mem_valueChar hc rfl
  · exact absurd hc (by decide)

namespace Policy

variable {p : Policy}

/-- No element begins in the text but those that the policy keeps, and all tags that begin in it end
in it. -/
structure Allows (p : Policy) (cs : List Char) : Prop where
  closed : unfinished none cs = none
  names : ∀ inner ∈ tagTexts none cs, ∀ tag, startTag? inner = some tag → tag.name ∈ p.tags

/-- What the policy keeps can be read in the text. -/
structure IsReadable (p : Policy) : Prop where
  /-- Comments go. -/
  comments : p.stripComments = true
  /-- The name of an element ends at the blank or the `>` behind it, and is no slash. -/
  names : ∀ name ∈ p.tags, ∀ c ∈ name.toList, c ≠ ' ' ∧ c ≠ '>' ∧ c ≠ '/'
  /-- The text of an element is escaped. -/
  escaped : ∀ name ∈ p.tags, Html.isUnescaped { name } = false
  /-- The name of an attribute does not end the tag. -/
  attributes : ∀ name ∈ p.genericAttributes ++ p.tagAttributes.flatMap Prod.snd, '>' ∉ name.toList

namespace Allows

theorem append {xs ys : List Char} (hx : p.Allows xs) (hy : p.Allows ys) :
    p.Allows (xs ++ ys) := by
  refine ⟨?_, ?_⟩
  · rw [unfinished_append, hx.closed, hy.closed]
  · rw [tagTexts_append, hx.closed]
    exact List.forall_mem_append.mpr ⟨hx.names, hy.names⟩

theorem of_no_tag {cs : List Char} (h : ∀ c ∈ cs, c ≠ '<') : p.Allows cs := by
  obtain ⟨htags, hclosed⟩ := tagTexts_of_no_tag h
  exact ⟨hclosed, htags ▸ List.forall_mem_nil _⟩

theorem of_tag (inner : List Char) (h : ∀ c ∈ inner, c ≠ '>')
    (hname : ∀ tag, startTag? inner = some tag → tag.name ∈ p.tags) :
    p.Allows ('<' :: inner ++ ['>']) := by
  obtain ⟨htags, hclosed⟩ := tagTexts_tag h
  exact ⟨hclosed, htags ▸ List.forall_mem_singleton.mpr hname⟩

theorem writeNodes {holder : ElementName} {nodes : List Node}
    (h : ∀ n ∈ nodes, p.Allows (n.write holder)) : p.Allows (writeNodes holder nodes) := by
  induction nodes with
  | nil => exact of_no_tag (List.forall_mem_nil _)
  | cons n nodes ih =>
    obtain ⟨hn, hnodes⟩ := List.forall_mem_cons.mp h
    rw [Html.writeNodes]
    exact hn.append (ih hnodes)

end Allows

/-- The attributes that a readable policy keeps or sets do not end a tag. -/
theorem KeepsOrSets.not_mem_name (hp : p.IsReadable) {element : String} {a : ElementAttribute}
    (h : p.KeepsOrSets element a) : '>' ∉ a.name.toList := by
  rcases h with h | ⟨-, rel, -, rfl⟩
  · refine hp.attributes a.name ?_
    simp only [keepsAttribute, Bool.and_eq_true, Bool.or_eq_true, List.contains_iff_mem] at h
    refine List.mem_append.mpr (h.1.imp_right fun hmem => ?_)
    cases hlookup : p.tagAttributes.lookup element with
    | none => simp [hlookup] at hmem
    | some names =>
      obtain ⟨before, after, heq, -⟩ := List.lookup_eq_some_iff.mp hlookup
      rw [hlookup, Option.getD_some] at hmem
      rw [heq]
      exact List.mem_flatMap.mpr ⟨(element, names), by simp, hmem⟩
  · change '>' ∉ "rel".toList
    decide

theorem IsReadable.isUnescaped_eq_false (hp : p.IsReadable) {name : ElementName}
    (h : name.name ∈ p.tags) : Html.isUnescaped name = false := by
  have hname := hp.escaped _ h
  rw [Html.isUnescaped, ElementName.isOneOf] at hname ⊢
  rw [show (({ name := name.name } : ElementName).space == .html) = true from rfl,
    Bool.true_and] at hname
  rw [hname, Bool.and_false]

/-- The start tag of an element that a readable policy keeps. -/
theorem IsReadable.allows_startTag (hp : p.IsReadable) {name : ElementName}
    (hname : name.name ∈ p.tags) {attributes : List ElementAttribute}
    (hattributes : ∀ a ∈ attributes, p.KeepsOrSets name.name a) :
    p.Allows (Html.writeStartTag name attributes) := by
  have hends := hp.names _ hname
  have hwritten : ∀ c ∈ attributes.flatMap ElementAttribute.write, c ≠ '>' := by
    intro c hc
    obtain ⟨a, ha, hc⟩ := List.mem_flatMap.mp hc
    exact ElementAttribute.ne_of_mem_write ((hattributes a ha).not_mem_name hp) c hc
  refine .of_tag (name.name.toList ++ attributes.flatMap ElementAttribute.write) ?_ ?_
  · exact List.forall_mem_append.mpr ⟨fun c hc => (hends c hc).2.1, hwritten⟩
  · intro tag htag
    unfold startTag? at htag
    split at htag
    · cases htag
    · obtain rfl := Option.some.inj htag
      -- Behind the name there is a blank, or nothing at all.
      have htake : (name.name.toList ++ attributes.flatMap ElementAttribute.write).takeWhile
          (· != ' ') = name.name.toList := by
        rw [List.takeWhile_append_of_pos fun c hc => by simpa using (hends c hc).1]
        cases attributes with
        | nil => simp
        | cons a attributes => simp [ElementAttribute.write]
      dsimp only
      rwa [htake, String.ofList_toList]

theorem IsReadable.allows_endTag (hp : p.IsReadable) {name : ElementName}
    (hname : name.name ∈ p.tags) : p.Allows (Html.writeEndTag name) := by
  refine .of_tag ('/' :: name.name.toList) ?_ fun tag htag => ?_
  · exact List.forall_mem_cons.mpr ⟨by decide, fun c hc => (hp.names _ hname c hc).2.1⟩
  · rw [startTag?, if_pos (by rfl)] at htag
    cases htag

/-- **No element begins where a node is written that a readable policy keeps, but those that it
keeps.** -/
theorem Keeps.allows (hp : p.IsReadable) {node : Node} (h : p.Keeps node) :
    ∀ holder, Html.isUnescaped holder = false → p.Allows (node.write holder) := by
  induction h with
  | text s =>
    intro holder hholder
    rw [Node.write, hholder, if_neg Bool.false_ne_true]
    refine .of_no_tag fun c hc => ?_
    obtain ⟨d, -, hc⟩ := List.mem_flatMap.mp hc
    exact (Html.ne_of_mem_textChar hc).1
  | comment s hkept =>
    rw [hp.comments] at hkept
    cases hkept
  | @element name attributes children hname _ hattributes _ ih =>
    intro holder _
    have hinside := Allows.writeNodes fun n hn => ih n hn name (hp.isUnescaped_eq_false hname)
    rw [Node.write]
    refine (hp.allows_startTag hname hattributes).append ?_
    split
    · exact .of_no_tag (List.forall_mem_nil _)
    · exact hinside.append (hp.allows_endTag hname)

end Policy

/-! ### Cleaners -/

/-- Only elements that the policy keeps begin in what the cleaner writes. -/
def Cleaner.KeepsTagsOf (cleaner : Cleaner) (p : Policy) : Prop :=
  ∀ page cleaned, cleaner p page = .ok cleaned → ∀ tag ∈ startTags cleaned, tag.name ∈ p.tags

/-- **The tree cleaner writes no elements but those that a readable policy keeps.** -/
theorem treeCleaner_keepsTagsOf {p : Policy} (hp : p.IsReadable) : treeCleaner.KeepsTagsOf p := by
  intro page cleaned hcleaned tag htag
  have hclean : cleaned = p.clean page := by
    unfold treeCleaner at hcleaned
    cases hcheck : p.check with
    | error e =>
      rw [hcheck] at hcleaned
      cases hcleaned
    | ok _ =>
      rw [hcheck] at hcleaned
      exact (Except.ok.inj hcleaned).symm
  have hallows : p.Allows (writeNodes pageRoot (cleanAll p pageRoot (Html.parse page))) :=
    .writeNodes fun n hn => (p.keeps_cleanAll _ _ n hn).allows hp pageRoot (by decide)
  rw [hclean, Policy.clean, startTags, String.toList_ofList] at htag
  obtain ⟨inner, hinner, htag⟩ := List.mem_filterMap.mp htag
  exact hallows.names inner hinner tag htag

/-- What the options keep by default can be read. -/
theorem isReadable_default : ({} : SanitizeOptions).policy.IsReadable := by
  have hnames : (({} : SanitizeOptions).policy.tags.all fun name =>
      name.toList.all fun c => c != ' ' && c != '>' && c != '/') = true := by decide +kernel
  refine ⟨rfl, fun name hname c hc => ?_, by decide +kernel, by decide +kernel⟩
  simpa [and_assoc] using List.all_eq_true.mp (List.all_eq_true.mp hnames name hname) c hc

end Folio
