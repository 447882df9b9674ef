import AmpArticle.Text.Blank
import Mathlib.Tactic.SplitIfs

/-!
Texts put together of pieces, and taken apart again.

Results:
- `toList_joinWith`, `toList_joinWith_cons`: the characters of joined texts;
- `joinWith_append_of_ne_nil`: two rows of texts that are joined in one;
- `splitOnChar_joinWith`: pieces that lack a character are found again between its occurrences.
-/

namespace AmpArticle.Text

variable {c : Char} {cs : List Char}

theorem splitOnChar_eq_splitOn (c : Char) (cs : List Char) : splitOnChar c cs = cs.splitOn c := by
  induction cs with
  | nil => rfl
  | cons d cs ih =>
    obtain ⟨piece, pieces, hpieces⟩ := List.exists_cons_of_ne_nil (List.splitOnP_ne_nil (· == c) cs)
    rw [List.splitOn] at ih ⊢
    rw [List.splitOnP_cons_eq_if_modifyHead, splitOnChar, ih, hpieces]
    simp only [beq_iff_eq, List.modifyHead_cons]

theorem notMem_of_mem_splitOnChar {piece : List Char} (h : piece ∈ splitOnChar c cs) : c ∉ piece := by
  induction cs generalizing piece with
  | nil =>
    rw [List.mem_singleton.1 h]
    exact List.not_mem_nil
  | cons d cs ih =>
    rw [splitOnChar] at h
    split at h
    · rename_i hnone
      rw [splitOnChar_eq_splitOn] at hnone
      exact absurd hnone (List.splitOnP_ne_nil _ _)
    · rename_i first rest hpieces
      rw [hpieces] at ih
      split_ifs at h with hd
      · rcases List.mem_cons.1 h with rfl | h
        · exact List.not_mem_nil
        · exact ih h
      · rcases List.mem_cons.1 h with rfl | h
        · rw [List.mem_cons, not_or]
          exact ⟨Ne.symm hd, ih List.mem_cons_self⟩
        · exact ih (List.mem_cons_of_mem _ h)

theorem toList_joinWith (separator : String) (ss : List String) :
    (joinWith separator ss).toList = separator.toList.intercalate (ss.map String.toList) := by
  induction ss with
  | nil => rfl
  | cons s ss ih =>
    cases ss with
    | nil => simp [joinWith]
    | cons s' ss =>
      rw [joinWith, String.toList_append, String.toList_append, ih]
      · simp [List.intercalate]
      · exact List.cons_ne_nil _ _

/-- joined rows begin with the first of them, and each of the others stands behind a separator -/
theorem intercalate_cons (separator piece : List Char) (pieces : List (List Char)) :
    separator.intercalate (piece :: pieces) = piece ++ pieces.flatMap (separator ++ ·) := by
  induction pieces generalizing piece with
  | nil => simp
  | cons piece' pieces ih =>
    rw [List.intercalate_cons_cons, ih, List.flatMap_cons, List.append_assoc, List.append_assoc]

/-- so do joined texts -/
theorem toList_joinWith_cons (separator s : String) (ss : List String) : (joinWith separator (s :: ss)).toList =
    s.toList ++ ss.flatMap fun s' => separator.toList ++ s'.toList := by
  rw [toList_joinWith, List.map_cons, intercalate_cons, List.flatMap_map]

/-- the separator stands behind a text that is joined to others -/
theorem joinWith_cons_of_ne_nil (separator s : String) {ss : List String} (h : ss ≠ []) :
    joinWith separator (s :: ss) = s ++ separator ++ joinWith separator ss := by
  rw [joinWith]
  exact h

/-- a separator stands between two rows of texts that are joined, as it does inside each of them -/
theorem joinWith_append_of_ne_nil (separator : String) {ss ss' : List String} (h : ss ≠ []) (h' : ss' ≠ []) :
    joinWith separator (ss ++ ss') = joinWith separator ss ++ separator ++ joinWith separator ss' := by
  induction ss with
  | nil => exact absurd rfl h
  | cons s ss ih =>
    cases ss with
    | nil => rw [List.singleton_append, joinWith_cons_of_ne_nil separator s h', joinWith]
    | cons second ss =>
      have hne : second :: ss ≠ [] := List.cons_ne_nil _ _
      rw [List.cons_append, joinWith_cons_of_ne_nil separator s (List.append_ne_nil_of_left_ne_nil hne ss'), ih hne,
        joinWith_cons_of_ne_nil separator s hne]
      simp only [String.append_assoc]

/-- **Pieces that lack a character** are what is found between its occurrences, when there are any. -/
theorem splitOnChar_joinWith {separator : String} (hseparator : separator.toList = [c]) {ss : List String}
    (hne : ss ≠ []) (hss : ∀ s ∈ ss, c ∉ s.toList) :
    splitOnChar c (joinWith separator ss).toList = ss.map String.toList := by
  rw [splitOnChar_eq_splitOn, toList_joinWith, hseparator]
  refine List.splitOn_intercalate c ?_ (by simpa using hne)
  rintro _ hl
  obtain ⟨s, hs, rfl⟩ := List.mem_map.1 hl
  exact hss s hs

end AmpArticle.Text
