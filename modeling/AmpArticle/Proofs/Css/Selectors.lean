import AmpArticle.Proofs.Css.Parts
import AmpArticle.Proofs.Text.Finding

/-!
The selectors of different keys are different, whatever the class prefix. The prefix is behind the element and the dot
of a selector, so selectors with different elements differ. Two selectors with the same element differ in what is behind
the prefix; a list of several selectors has an element that no other key begins with.

Results:
- `styleKeys_apart`: no two keys of a description have a selector in common.
-/

namespace AmpArticle.Css.Style

/-- the part of a selector in front of its first class -/
def elementOf (selector : String) : List Char := selector.toList.takeWhile (· ≠ '.')

/-- selectors that begin with an element, which is not the page -/
def Plain (ss : List Selector) : Prop :=
  ∃ s ∈ ss.head?, (∀ c ∈ s.element.toList, c ≠ '.') ∧ s.element ≠ "" ∧ s.element ≠ "html"

/-- selectors that begin with different elements, or are single and different -/
def Apart (ss ss' : List Selector) : Prop :=
  ss.head?.map Selector.element ≠ ss'.head?.map Selector.element ∨ ss.length = 1 ∧ ss'.length = 1 ∧ ss ≠ ss'

instance (ss : List Selector) : Decidable (Plain ss) := inferInstanceAs (Decidable (∃ s ∈ ss.head?, _ ∧ _))

instance (ss ss' : List Selector) : Decidable (Apart ss ss') := inferInstanceAs (Decidable (_ ∨ _))

theorem selectors_plain : ∀ s ∈ selectors, Plain s.2 := by decide +kernel

theorem selectors_apart : selectors.Pairwise fun s s' => Apart s.2 s'.2 := by decide +kernel

section Texts

variable {classPrefix : String} {ss ss' : List Selector}

theorem elementOf_append {element : String} (h : ∀ c ∈ element.toList, c ≠ '.') (rest : String) :
    elementOf (element ++ "." ++ rest) = element.toList := by
  rw [elementOf, String.toList_append, String.toList_append, List.append_assoc,
    List.takeWhile_append_of_pos (by simpa using h)]
  simp

theorem selectorText_cons (s : Selector) (rest : List Selector) :
    ∃ behind, selectorText classPrefix (s :: rest) = s.element ++ "." ++ behind := by
  cases rest with
  | nil => exact ⟨classPrefix ++ s.rest, by simp [selectorText, Text.joinWith, Selector.text, String.append_assoc]⟩
  | cons s' rest =>
    refine ⟨classPrefix ++ s.rest ++ (", " ++ selectorText classPrefix (s' :: rest)), ?_⟩
    simp [selectorText, Text.joinWith, Selector.text, String.append_assoc]

theorem elementOf_selectorText {s : Selector} (h : s ∈ ss.head?) (hdot : ∀ c ∈ s.element.toList, c ≠ '.') :
    elementOf (selectorText classPrefix ss) = s.element.toList := by
  cases ss with
  | nil => cases h
  | cons s' rest =>
    cases h
    obtain ⟨behind, hbehind⟩ : ∃ behind, selectorText classPrefix (s :: rest) = s.element ++ "." ++ behind :=
      selectorText_cons s rest
    rw [hbehind, elementOf_append hdot]

/-- selectors that are apart have different texts behind every class prefix -/
theorem selectorText_ne (hplain : Plain ss) (hplain' : Plain ss') (h : Apart ss ss') :
    selectorText classPrefix ss ≠ selectorText classPrefix ss' := by
  intro heq
  obtain ⟨s, hs, hdot, -⟩ := hplain
  obtain ⟨s', hs', hdot', -⟩ := hplain'
  have helement : s.element = s'.element := by
    rw [← String.toList_inj, ← elementOf_selectorText hs hdot, ← elementOf_selectorText hs' hdot', heq]
  rcases h with hhead | ⟨hone, hone', hne⟩
  · exact hhead (by rw [hs, hs', Option.map_some, Option.map_some, helement])
  · obtain ⟨a, rfl⟩ := List.length_eq_one_iff.1 hone
    obtain ⟨b, rfl⟩ := List.length_eq_one_iff.1 hone'
    cases hs
    cases hs'
    simp only [selectorText, List.map_cons, List.map_nil, Text.joinWith, Selector.text, helement,
      String.append_right_inj] at heq
    have hsame : s = s' := by
      cases s
      cases s'
      exact congr (congrArg Selector.mk helement) heq
    exact hne (by rw [hsame])

theorem selectorText_ne_html (hplain : Plain ss) : selectorText classPrefix ss ≠ "html" := by
  intro heq
  obtain ⟨s, hs, hdot, -, hhtml⟩ := hplain
  have helement : elementOf (selectorText classPrefix ss) = s.element.toList := elementOf_selectorText hs hdot
  rw [heq, show elementOf "html" = "html".toList from by decide, String.toList_inj] at helement
  exact hhtml helement.symm

theorem elementOf_bar {selector : String} (h : selector ∈ [barSelector classPrefix, barSpacingSelector classPrefix]) :
    elementOf selector = [] := by
  have hdot (rest : String) : elementOf ("." ++ rest) = [] := by
    simp [elementOf]
  simp only [List.mem_cons, List.not_mem_nil, or_false] at h
  rcases h with rfl | rfl
  · rw [barSelector, String.append_assoc, hdot]
  · rw [barSpacingSelector, barSelector, String.append_assoc, String.append_assoc, String.append_assoc,
      String.append_assoc, hdot]

theorem selectorText_ne_bar (hplain : Plain ss) {selector : String}
    (h : selector ∈ [barSelector classPrefix, barSpacingSelector classPrefix]) :
    selectorText classPrefix ss ≠ selector := by
  intro heq
  obtain ⟨s, hs, hdot, hempty, -⟩ := hplain
  have helement : elementOf (selectorText classPrefix ss) = s.element.toList := elementOf_selectorText hs hdot
  rw [heq, elementOf_bar h] at helement
  exact hempty (String.toList_inj.1 helement.symm)

end Texts

/-- **The keys of a description share no selector**, whatever the class prefix. -/
theorem styleKeys_apart [Room] (classPrefix : String) :
    styleKeys.Pairwise fun k k' => ∀ x ∈ k.selectors classPrefix, ∀ y ∈ k'.selectors classPrefix, x ≠ y := by
  have hhtml : ∀ y ∈ [barSelector classPrefix, barSpacingSelector classPrefix], "html" ≠ y := by
    rintro y hy rfl
    have helement := elementOf_bar hy
    revert helement
    decide
  have htexts : (selectors.map textKey).Pairwise fun k k' =>
      ∀ x ∈ k.selectors classPrefix, ∀ y ∈ k'.selectors classPrefix, x ≠ y := by
    rw [List.pairwise_map]
    refine selectors_apart.imp_of_mem fun {s s'} hs hs' hapart x hx y hy => ?_
    rw [List.mem_singleton.1 hx, List.mem_singleton.1 hy]
    exact selectorText_ne (selectors_plain s hs) (selectors_plain s' hs') hapart
  rw [styleKeys, List.append_assoc, List.pairwise_append]
  refine ⟨List.pairwise_singleton _ _, List.pairwise_append.2 ⟨htexts, by simp [headerKey, dateKey], ?_⟩, ?_⟩
  · intro k hk k' hk' x hx y hy
    obtain ⟨s, hs, rfl⟩ := List.mem_map.1 hk
    rw [List.mem_singleton.1 hx]
    simp only [List.mem_cons, List.not_mem_nil, or_false] at hk'
    rcases hk' with rfl | rfl
    · exact selectorText_ne_bar (selectors_plain s hs) hy
    · cases hy
  · intro k hk k' hk' x hx y hy
    rw [List.mem_singleton.1 hk] at hx
    rw [List.mem_singleton.1 hx]
    simp only [List.mem_append, List.mem_cons, List.not_mem_nil, or_false, List.mem_map] at hk'
    rcases hk' with ⟨s, hs, rfl⟩ | rfl | rfl
    · rw [List.mem_singleton.1 hy]
      exact (selectorText_ne_html (selectors_plain s hs)).symm
    · exact hhtml y hy
    · cases hy

end AmpArticle.Css.Style
