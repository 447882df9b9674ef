import AmpArticle.Markup.Name
import AmpArticle.Proofs.Url.Form

/-!
What may stand in a document. Visible ASCII characters may, and so may every query of an address, since whatever is
asked for is written with such characters alone.

Results:
- `query_allowed`: a query has nothing in it that is not allowed;
- `set_eq`, `setAll_eq`: attributes are set exactly when their values are allowed.
-/

namespace AmpArticle.Markup

theorem isAllowedText_append (s t : String) : isAllowedText (s ++ t) = (isAllowedText s && isAllowedText t) := by
  simp [isAllowedText]

/-! ## Queries -/

/-- a visible character of ASCII -/
def IsVisible (c : Char) : Prop := 0x21 ≤ c.toNat ∧ c.toNat ≤ 0x7e

theorem IsVisible.isAllowed {c : Char} (h : IsVisible c) : isAllowedChar c = true := by
  obtain ⟨hlow, hhigh⟩ := h
  simp only [isAllowedChar, Bool.or_eq_true, Bool.and_eq_true, bne_iff_ne, beq_iff_eq, decide_eq_true_eq]
  omega

theorem isQueryChar_visible {c : Char} (h : Url.isQueryChar c = true) : IsVisible c := by
  simp only [Url.isQueryChar, Bool.or_eq_true, beq_iff_eq] at h
  rcases h with (((h | rfl) | rfl) | rfl) | rfl
  · delta Char.isAlphanum Char.isAlpha Char.isUpper Char.isLower Char.isDigit at h
    simp only [Bool.or_eq_true, Bool.and_eq_true, decide_eq_true_eq, ge_iff_le, UInt32.le_iff_toNat_le] at h
    change ((65 ≤ c.toNat ∧ c.toNat ≤ 90) ∨ (97 ≤ c.toNat ∧ c.toNat ≤ 122)) ∨ (48 ≤ c.toNat ∧ c.toNat ≤ 57) at h
    unfold IsVisible
    omega
  all_goals exact ⟨by decide, by decide⟩

theorem queryChar_visible {c d : Char} (h : d ∈ Url.queryChar c) : IsVisible d := by
  rcases Url.queryChar_mem h with h | rfl | rfl
  · exact isQueryChar_visible h
  · exact ⟨by decide, by decide⟩
  · exact ⟨by decide, by decide⟩

theorem isAllowedText_joinWith {separator : String} {parts : List String} (hseparator : isAllowedText separator = true)
    (hparts : ∀ part ∈ parts, isAllowedText part = true) :
    isAllowedText (Text.joinWith separator parts) = true := by
  induction parts with
  | nil => rfl
  | cons part rest ih =>
    have hpart := hparts part List.mem_cons_self
    have hrest := ih fun p hp => hparts p (List.mem_cons_of_mem _ hp)
    cases rest with
    | nil => exact hpart
    | cons next rest =>
      rw [Text.joinWith, isAllowedText_append, isAllowedText_append, hpart, hseparator, hrest]
      · rfl
      · simp

/-- **A query may stand in a document**, whatever it asks for. -/
theorem query_allowed (parts : List (String × String)) : isAllowedText (Url.query parts) = true := by
  have hpart (s : String) : isAllowedText (Url.queryPart s) = true := by
    simp only [isAllowedText, Url.queryPart, String.toList_ofList, List.all_eq_true, List.mem_flatMap]
    rintro d ⟨c, -, hd⟩
    exact (queryChar_visible hd).isAllowed
  refine isAllowedText_joinWith (by decide) fun part h => ?_
  obtain ⟨p, -, rfl⟩ := List.mem_map.1 h
  rw [isAllowedText_append, isAllowedText_append, hpart, hpart]
  rfl

/-! ## Attributes -/

namespace Element

variable {e : Element} {name value : String}

/-- a name that an attribute may have -/
structure IsPlainName (name : String) : Prop where
  isAllowed : isAllowedText name = true
  isName : isName name = true

theorem set_eq (h : IsPlainName name) :
    e.set name value = if isAllowedText value then .ok (e.put name value) else .error .forbiddenCharacter := by
  have hempty : name.isEmpty = false := by
    refine Bool.not_eq_true _ ▸ fun hempty => ?_
    rw [String.isEmpty_iff] at hempty
    subst hempty
    exact absurd h.isName (by decide)
  simp only [set, checkText, h.isAllowed, hempty, h.isName, Bool.false_eq_true, Bool.not_true, if_true, if_false]
  split_ifs <;> rfl

theorem setAll_eq {attributes : List (String × String)}
    (h : ∀ a ∈ attributes, IsPlainName a.1 ∧ isAllowedText a.2 = true) :
    e.setAll attributes = (attributes.foldl (fun e a => e.put a.1 a.2) e, none) := by
  induction attributes generalizing e with
  | nil => rfl
  | cons a rest ih =>
    obtain ⟨hname, hvalue⟩ := h a List.mem_cons_self
    rw [setAll, set_eq hname, if_pos hvalue]
    exact ih fun b hb => h b (List.mem_cons_of_mem _ hb)

end Element

end AmpArticle.Markup
