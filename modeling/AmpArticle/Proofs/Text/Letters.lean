import AmpArticle.Proofs.Text.Utf8
import AmpArticle.Text.Letters

/-!
Small letters among the first 128 characters. Two characters beyond these have such a letter in their lower case: the
sign of the Kelvin, and the capital letter I with a dot above.

Results:
- `lowerChar_beyond`: every other character beyond stays there;
- `lowerFrom_eq_map`: where neither of the two letters is looked for, only the first 128 characters change their case.
-/

namespace AmpArticle.Text

/-- a row of a case table that leads from beyond the first 128 characters to a character there, or to the letter k -/
def CaseRow.StaysBeyond (r : CaseRow) : Prop :=
  0x80 ≤ (r.first : Int) + r.shift ∧ ((r.last : Int) + r.shift < 0xd800 ∨
    0xe000 ≤ (r.first : Int) + r.shift ∧ (r.last : Int) + r.shift < 0x110000) ∨
  r.first = r.last ∧ (r.first : Int) + r.shift = 0x6b

instance (r : CaseRow) : Decidable r.StaysBeyond := by
  unfold CaseRow.StaysBeyond
  infer_instance

theorem lowerRows_beyond : ∀ r ∈ lowerRows.toList, r.last < 0x80 ∨ r.StaysBeyond := by decide +kernel

theorem mapByRows_beyond {c : Char} (hc : 0x80 ≤ c.toNat) :
    0x80 ≤ (mapByRows lowerRows c).toNat ∨ mapByRows lowerRows c = 'k' := by
  unfold mapByRows
  split
  · exact .inl hc
  · rename_i r hfind
    have hrange := Array.find?_some hfind
    simp only [Bool.and_eq_true, decide_eq_true_eq] at hrange
    obtain ⟨⟨hfirst, hlast⟩, -⟩ := hrange
    rcases lowerRows_beyond r (Array.mem_def.1 (Array.mem_of_find?_eq_some hfind)) with hbefore | hrow | ⟨hsingle, hk⟩
    · omega
    · left
      have hscalar : IsScalar (c.toNat + r.shift).toNat := by
        unfold IsScalar
        omega
      show 0x80 ≤ (Char.ofNat (c.toNat + r.shift).toNat).val.toNat
      rw [scalar_toNat hscalar]
      omega
    · right
      rw [show (c.toNat + r.shift).toNat = 0x6b by omega]

/-- **The lower case of a character beyond the first 128** has none of these but an i or a k. -/
theorem lowerChar_beyond {c d : Char} {before after : List Char} (hc : 0x80 ≤ c.toNat)
    (hd : d ∈ lowerChar before c after) : 0x80 ≤ d.toNat ∨ d = 'i' ∨ d = 'k' := by
  unfold lowerChar at hd
  rw [if_neg (by omega)] at hd
  split at hd
  · simp only [List.mem_cons, List.not_mem_nil, or_false] at hd
    rcases hd with rfl | rfl
    · exact .inr (.inl rfl)
    · exact .inl (by decide)
  · split at hd
    · rw [List.mem_singleton] at hd
      rw [hd]
      split
      · exact .inl (by decide +kernel)
      · exact .inl (by decide +kernel)
    · have hmapped : d = mapByRows lowerRows c := by simpa using hd
      rw [hmapped]
      exact (mapByRows_beyond hc).imp_right .inr

theorem lowerChar_ne_nil (before : List Char) (c : Char) (after : List Char) : lowerChar before c after ≠ [] := by
  unfold lowerChar
  split_ifs <;> simp

theorem toLower_beyond {c : Char} (hc : 0x80 ≤ c.toNat) : c.toLower = c := by
  unfold Char.toLower
  refine dif_neg fun hupper => ?_
  have : c.toNat ≤ 90 := hupper.2
  omega

/-- characters of a kind among the first 128 that neither an i nor a k is of -/
structure IsNarrow (p : Char → Prop) : Prop where
  small : ∀ c, p c → c.toNat < 0x80
  i : ¬ p 'i'
  k : ¬ p 'k'

/-- **Texts of such characters** are in lower case what the first 128 characters are changed to. -/
theorem lowerFrom_eq_map {p : Char → Prop} (hp : IsNarrow p) {before cs : List Char}
    (h : (∀ d ∈ lowerFrom before cs, p d) ∨ ∀ d ∈ cs.map Char.toLower, p d) :
    lowerFrom before cs = cs.map Char.toLower := by
  induction cs generalizing before with
  | nil => rfl
  | cons c cs ih =>
    have hsmall : c.toNat < 0x80 := by
      by_contra hc
      rw [Nat.not_lt] at hc
      rcases h with h | h
      · obtain ⟨d, rest, hd⟩ := List.exists_cons_of_ne_nil (lowerChar_ne_nil before c cs)
        have hmem : d ∈ lowerChar before c cs := hd ▸ List.mem_cons_self
        have hpd := h d (List.mem_append_left _ hmem)
        rcases lowerChar_beyond hc hmem with hbeyond | rfl | rfl
        · exact absurd (hp.small d hpd) (by omega)
        · exact hp.i hpd
        · exact hp.k hpd
      · have hpc := h _ (List.mem_map_of_mem List.mem_cons_self)
        rw [toLower_beyond hc] at hpc
        exact absurd (hp.small c hpc) (by omega)
    have hhead : lowerChar before c cs = [c.toLower] := if_pos hsmall
    rw [lowerFrom, hhead, List.map_cons, ih]
    · rfl
    · refine h.imp (fun h d hd => h d ?_) fun h d hd => h d ?_
      · rw [lowerFrom]
        exact List.mem_append_right _ hd
      · exact List.mem_cons_of_mem _ hd

end AmpArticle.Text
