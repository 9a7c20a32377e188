import Folio.Config.Options

/-!
# Policies that contradict themselves

A policy contradicts itself when it keeps what it takes out or sets: an element that goes with its
content, attributes of such an element, or the relation of links.  A page cannot be cleaned with
such a policy.

Options are turned into a policy with three of these four faults in mind.  Elements that go with
their content are not added, and while the relation of links is set it is neither added to the
attributes of all elements nor to those of links.  The fourth is forgotten: attributes may be added
for an element that goes with its content.  So options make a contradiction exactly if they do that.

## Main definitions

* `Policy.IsConsistent` — the policy keeps nothing that it takes out or sets.
* `SanitizeOptions.NamesDropped` — attributes are added for an element that goes with its content.
* `SanitizeOptions.IsGuarded` — what a policy made of options is guarded against.

## Main results

* `Policy.check_eq_ok_iff` — the check of a policy passes exactly if the policy is consistent.
* `SanitizeOptions.check_policy_eq_ok_iff` — options make a consistent policy exactly if they add
  no attributes for an element that goes with its content.
* `isGuarded_sanitize` — **what options and configurations are guarded against, and against what
  they are not.**
-/

namespace Folio

/-! ### The check of a policy -/

section FirstError

variable {names : List String} {test : String → Bool} {error : String → PolicyError}

theorem firstError_eq_ok_iff :
    firstError names test error = .ok () ↔ ∀ name ∈ names, test name = false := by
  unfold firstError
  cases hfind : names.find? test with
  | none =>
    have hnone := List.find?_eq_none.mp hfind
    simpa using hnone
  | some name =>
    have htest := List.find?_some hfind
    have hmem := List.mem_of_find?_eq_some hfind
    constructor
    · intro h
      cases h
    · intro h
      rw [h name hmem] at htest
      cases htest

theorem firstError_eq_error {e : PolicyError} (h : firstError names test error = .error e) :
    ∃ name ∈ names, test name = true ∧ e = error name := by
  unfold firstError at h
  cases hfind : names.find? test with
  | none =>
    rw [hfind] at h
    cases h
  | some name =>
    rw [hfind] at h
    injection h with h
    exact ⟨name, List.mem_of_find?_eq_some hfind, List.find?_some hfind, h.symm⟩

end FirstError

/-- The attributes that a list keeps for the elements of a name. -/
def attributesOf (all : List (String × List String)) (tag : String) : List String :=
  (all.lookup tag).getD []

/-- The policy keeps nothing that it takes out or sets. -/
structure Policy.IsConsistent (p : Policy) : Prop where
  /-- No element that goes with its content stays. -/
  tags : ∀ tag ∈ droppedTags, tag ∉ p.tags
  /-- No attributes stay on an element that goes with its content. -/
  tagAttributes : ∀ tag ∈ droppedTags, p.tagAttributes.lookup tag = none
  /-- A relation that all links get stays neither on all elements nor on links. -/
  linkRel : p.linkRel.isSome = true →
    "rel" ∉ p.genericAttributes ∧ "rel" ∉ attributesOf p.tagAttributes "a"

/-- **The check of a policy passes exactly if the policy is consistent.** -/
theorem Policy.check_eq_ok_iff (p : Policy) : p.check = .ok () ↔ p.IsConsistent := by
  have htags : firstError droppedTags p.tags.contains .droppedTag = .ok () ↔
      ∀ tag ∈ droppedTags, tag ∉ p.tags := by
    rw [firstError_eq_ok_iff]
    simp
  have hattributes : firstError droppedTags (fun tag => (p.tagAttributes.lookup tag).isSome)
      .droppedTagAttributes = .ok () ↔ ∀ tag ∈ droppedTags, p.tagAttributes.lookup tag = none := by
    rw [firstError_eq_ok_iff]
    simp
  unfold Policy.check
  constructor
  · intro h
    -- A check that passes passes each of its steps.
    cases h₁ : firstError droppedTags p.tags.contains .droppedTag with
    | error e =>
      rw [h₁] at h
      cases h
    | ok =>
      cases h₂ : firstError droppedTags (fun tag => (p.tagAttributes.lookup tag).isSome)
          .droppedTagAttributes with
      | error e =>
        rw [h₁, h₂] at h
        cases h
      | ok =>
        refine ⟨htags.mp h₁, hattributes.mp h₂, fun hset => ?_⟩
        rw [h₁, h₂, hset] at h
        simpa [bind, Except.bind, attributesOf] using h
  · intro h
    rw [htags.mpr h.tags, hattributes.mpr h.tagAttributes]
    cases hset : p.linkRel.isSome with
    | false => rfl
    | true =>
      obtain ⟨hgeneric, hlinks⟩ := h.linkRel hset
      simp [bind, Except.bind, hgeneric, attributesOf] at hlinks ⊢
      exact hlinks

/-! ### Attributes that are added -/

variable {all : List (String × List String)} {tag name : String}

theorem lookup_allowAttributes (all : List (String × List String)) (tag : String)
    (names : List String) (t : String) :
    (allowAttributes all tag names).lookup t
      = if t = tag then some (attributesOf all tag ++ names) else all.lookup t := by
  induction all with
  | nil =>
    by_cases ht : t = tag
    · simp [allowAttributes, attributesOf, ht]
    · have ht' : (t == tag) = false := by simpa using ht
      simp [allowAttributes, List.lookup_cons, ht, ht']
  | cons p rest ih =>
    obtain ⟨u, ns⟩ := p
    unfold allowAttributes
    by_cases hu : u = tag
    · by_cases ht : t = tag
      · simp [attributesOf, hu, ht]
      · have ht' : (t == tag) = false := by simpa using ht
        simp [List.lookup_cons, hu, ht, ht']
    · have hu' : (u == tag) = false := by simpa using hu
      have htag : (tag == u) = false := by simpa using fun h : tag = u => hu h.symm
      simp only [hu', Bool.false_eq_true, if_false, List.lookup_cons, ih, attributesOf, htag]
      by_cases ht : t = tag
      · simp [ht, htag]
      · simp [ht]

section Added

variable (f : String × List String → List String)

/-- A name is listed if it was or if attributes are added for it. -/
theorem isSome_lookup_foldl_iff (pairs : List (String × List String)) (t : String) :
    ∀ all : List (String × List String),
      ((pairs.foldl (fun all p => allowAttributes all p.1 (f p)) all).lookup t).isSome = true ↔
        (all.lookup t).isSome = true ∨ ∃ p ∈ pairs, p.1 = t := by
  induction pairs with
  | nil => simp
  | cons p pairs ih =>
    intro all
    rw [List.foldl_cons, ih, lookup_allowAttributes]
    by_cases ht : t = p.1
    · simp [ht]
    · have hp : p.1 ≠ t := fun h => ht h.symm
      simp [ht, hp]

/-- The attributes of a name are those that it had and those that are added for it. -/
theorem mem_attributesOf_foldl (pairs : List (String × List String)) (t : String) :
    ∀ all : List (String × List String),
      name ∈ attributesOf (pairs.foldl (fun all p => allowAttributes all p.1 (f p)) all) t ↔
        name ∈ attributesOf all t ∨ ∃ p ∈ pairs, p.1 = t ∧ name ∈ f p := by
  induction pairs with
  | nil => simp
  | cons p pairs ih =>
    intro all
    have hstep : attributesOf (allowAttributes all p.1 (f p)) t
        = if t = p.1 then attributesOf all p.1 ++ f p else attributesOf all t := by
      rw [attributesOf, lookup_allowAttributes]
      split <;> rfl
    rw [List.foldl_cons, ih, hstep]
    by_cases ht : t = p.1
    · simp [ht, or_assoc]
    · have hp : p.1 ≠ t := fun h => ht h.symm
      simp [ht, hp]

end Added

namespace SanitizeOptions

variable (o : SanitizeOptions)

/-! ### The policy of options -/

/-- Attributes are added for an element that goes with its content. -/
def NamesDropped : Prop := ∃ p ∈ o.addTagAttributes, p.1 ∈ droppedTags

/-- The elements that stay are the default ones and those that are added, but for those that go
with their content; and of these those that are not removed. -/
theorem mem_tags_policy (tag : String) : tag ∈ o.policy.tags ↔
    (tag ∈ defaultTags ∨ tag ∈ o.addTags ∧ tag ∉ droppedTags) ∧ tag ∉ o.removeTags := by
  have hpolicy : tag ∈ o.policy.tags ↔
      (tag ∈ defaultTags ∨ tag ∈ o.addTags.filter fun t => !droppedTags.contains t) ∧
        tag ∉ o.removeTags := by
    rw [policy, List.mem_filter, List.mem_append]
    simp
  rw [hpolicy, List.mem_filter]
  simp

theorem not_mem_tags_policy_of_dropped (h : tag ∈ droppedTags) : tag ∉ o.policy.tags := by
  have hdefault : ∀ tag ∈ droppedTags, tag ∉ defaultTags := by decide
  intro htag
  rcases ((o.mem_tags_policy tag).mp htag).1 with htag | ⟨-, htag⟩
  · exact hdefault tag h htag
  · exact htag h

theorem isSome_lookup_policy (h : tag ∈ droppedTags) :
    (o.policy.tagAttributes.lookup tag).isSome = true ↔ ∃ p ∈ o.addTagAttributes, p.1 = tag := by
  have hdefault : ∀ tag ∈ droppedTags, (defaultTagAttributes.lookup tag).isSome = false := by decide
  rw [policy, isSome_lookup_foldl_iff, hdefault tag h]
  simp only [Bool.false_eq_true, false_or]

/-- While the relation of links is set, it stays on no element as it is. -/
theorem rel_not_mem_policy (h : o.linkRel.isSome = true) :
    "rel" ∉ o.policy.genericAttributes ∧ "rel" ∉ attributesOf o.policy.tagAttributes "a" := by
  have hset : o.linkRel.isNone = false := by simpa [Option.isSome_iff_ne_none] using h
  constructor
  · simp [policy, defaultGenericAttributes, hset]
  · intro hrel
    have hdefault : "rel" ∉ attributesOf defaultTagAttributes "a" := by decide
    rcases (mem_attributesOf_foldl _ o.addTagAttributes "a" defaultTagAttributes).mp hrel with
      hrel | ⟨p, -, hp, hrel⟩
    · exact hdefault hrel
    · -- What is added for links has gone through the same filter.
      simp [hp, hset] at hrel

theorem isConsistent_policy_iff : o.policy.IsConsistent ↔ ¬ o.NamesDropped := by
  constructor
  · rintro h ⟨p, hp, hdropped⟩
    have hsome := (o.isSome_lookup_policy hdropped).mpr ⟨p, hp, rfl⟩
    rw [h.tagAttributes p.1 hdropped] at hsome
    cases hsome
  · intro h
    refine ⟨fun tag => o.not_mem_tags_policy_of_dropped, fun tag htag => ?_, o.rel_not_mem_policy⟩
    cases hlookup : o.policy.tagAttributes.lookup tag with
    | none => rfl
    | some names =>
      obtain ⟨p, hp, rfl⟩ := (o.isSome_lookup_policy htag).mp (by rw [hlookup]; rfl)
      exact absurd ⟨p, hp, htag⟩ h

/-- **Options make a consistent policy exactly if they add no attributes for an element that goes
with its content.** -/
theorem check_policy_eq_ok_iff : o.policy.check = .ok () ↔ ¬ o.NamesDropped :=
  o.policy.check_eq_ok_iff.trans o.isConsistent_policy_iff

/-- A policy made of options fails at an element that goes with its content and has attributes
added. -/
theorem check_policy_eq_error {e : PolicyError} (h : o.policy.check = .error e) :
    ∃ p ∈ o.addTagAttributes, p.1 ∈ droppedTags ∧ e = .droppedTagAttributes p.1 := by
  have htags : firstError droppedTags o.policy.tags.contains .droppedTag = .ok () := by
    rw [firstError_eq_ok_iff]
    intro tag htag
    simpa using o.not_mem_tags_policy_of_dropped htag
  unfold Policy.check at h
  rw [htags] at h
  cases hattributes : firstError droppedTags
      (fun tag => (o.policy.tagAttributes.lookup tag).isSome) .droppedTagAttributes with
  | error e' =>
    rw [hattributes] at h
    injection h with h
    subst h
    obtain ⟨tag, htag, hsome, rfl⟩ := firstError_eq_error hattributes
    obtain ⟨p, hp, rfl⟩ := (o.isSome_lookup_policy htag).mp hsome
    exact ⟨p, hp, htag, rfl⟩
  | ok =>
    -- The relation of links cannot be what fails.
    rw [hattributes] at h
    cases hset : o.policy.linkRel.isSome with
    | false =>
      rw [hset] at h
      cases h
    | true =>
      obtain ⟨hgeneric, hlinks⟩ := o.rel_not_mem_policy hset
      rw [attributesOf] at hlinks
      simp [bind, Except.bind, hset, hgeneric, hlinks] at h

theorem sanitize_of_check_ok (h : o.policy.check = .ok ()) (page : String) :
    sanitize o page = .ok (o.policy.clean page) := by
  rw [sanitize, treeCleaner, h]
  rfl

theorem sanitize_of_check_error {e : PolicyError} (h : o.policy.check = .error e) (page : String) :
    sanitize o page = .error e := by
  rw [sanitize, treeCleaner, h]
  rfl

end SanitizeOptions

/-! ### What options are guarded against -/

/-- What cleaning with options is guarded against: all faults of a policy but one. -/
structure SanitizeOptions.IsGuarded (o : SanitizeOptions) : Prop where
  /-- Every page is cleaned, unless attributes are added for an element that goes with its
  content. -/
  cleans : ¬ o.NamesDropped → ∀ page, sanitize o page = .ok (o.policy.clean page)
  /-- Otherwise none is, and an element of that kind is the reason. -/
  fails : o.NamesDropped → ∀ page, ∃ p ∈ o.addTagAttributes, p.1 ∈ droppedTags ∧
    sanitize o page = .error (.droppedTagAttributes p.1)
  /-- No element that goes with its content stays. -/
  dropped : ∀ tag ∈ droppedTags, tag ∉ o.policy.tags
  /-- A relation that all links get stays neither on all elements nor on links. -/
  linkRel : o.linkRel.isSome = true →
    "rel" ∉ o.policy.genericAttributes ∧ "rel" ∉ attributesOf o.policy.tagAttributes "a"
  /-- The elements that stay are the default ones and those that are added, but for those that go
  with their content; and of these those that are not removed. -/
  tags : ∀ tag, tag ∈ o.policy.tags ↔
    (tag ∈ defaultTags ∨ tag ∈ o.addTags ∧ tag ∉ droppedTags) ∧ tag ∉ o.removeTags

/-- A configuration adds attributes to those of the default options. -/
theorem SanitizeConfig.namesDropped_options_iff (c : SanitizeConfig) :
    c.options.NamesDropped ↔ ∃ p ∈ c.addTagAttributes, p.1 ∈ droppedTags := by
  have hkey : ∀ tag ∈ droppedTags, (∃ p ∈ c.options.addTagAttributes, p.1 = tag) ↔
      ∃ p ∈ c.addTagAttributes, p.1 = tag := by
    intro tag htag
    have hdefault : ∀ tag ∈ droppedTags,
        ((({} : SanitizeOptions).addTagAttributes).lookup tag).isSome = false := by decide
    have hlookup := isSome_lookup_foldl_iff Prod.snd c.addTagAttributes tag
      ({} : SanitizeOptions).addTagAttributes
    rw [hdefault tag htag, List.lookup_isSome_iff] at hlookup
    simp only [Bool.false_eq_true, false_or, beq_iff_eq] at hlookup
    simpa only [options, eq_comm] using hlookup
  constructor
  · rintro ⟨p, hp, hdropped⟩
    obtain ⟨q, hq, heq⟩ := (hkey p.1 hdropped).mp ⟨p, hp, rfl⟩
    exact ⟨q, hq, heq ▸ hdropped⟩
  · rintro ⟨p, hp, hdropped⟩
    obtain ⟨q, hq, heq⟩ := (hkey p.1 hdropped).mpr ⟨p, hp, rfl⟩
    exact ⟨q, hq, heq ▸ hdropped⟩

/-- **Cleaning a page fails exactly if attributes are added for an element that goes with its
content.**  Against every other way to contradict themselves options are guarded, also those that a
configuration describes: of a configuration it is told from the attributes that it adds. -/
theorem isGuarded_sanitize (o : SanitizeOptions) : o.IsGuarded ∧
    ∀ c : SanitizeConfig, c.options = o →
      (o.NamesDropped ↔ ∃ p ∈ c.addTagAttributes, p.1 ∈ droppedTags) := by
  refine ⟨⟨fun h => o.sanitize_of_check_ok (o.check_policy_eq_ok_iff.mpr h), fun h page => ?_,
    fun tag => o.not_mem_tags_policy_of_dropped, o.rel_not_mem_policy, o.mem_tags_policy⟩, ?_⟩
  · cases hcheck : o.policy.check with
    | ok => exact absurd h (o.check_policy_eq_ok_iff.mp hcheck)
    | error e =>
      obtain ⟨p, hp, hdropped, rfl⟩ := o.check_policy_eq_error hcheck
      exact ⟨p, hp, hdropped, o.sanitize_of_check_error hcheck page⟩
  · rintro c rfl
    exact c.namesDropped_options_iff

/-- Scripts are not added to the elements that stay, but attributes are added for them, and then no
page can be cleaned. -/
theorem sanitize_scriptAttributes :
    (sanitize { addTags := ["script"] } "ok").toOption = some "ok" ∧
    sanitize { addTagAttributes := [("script", ["src"])] } "ok"
      = .error (.droppedTagAttributes "script") :=
  ⟨by decide +kernel, rfl⟩

end Folio
