import AmpArticle.Proofs.Text.Finding

/-!
Texts that are replaced in another one. The occurrences are found from left to right, and what has been put in their
place is not read again.

Results:
- `replaced_start`, `replaced_cons`: what is done at the front of a text, whether the old text is there or not;
- `replaced_append`: in front of the first character of the old text all is kept;
- `removed_character`: a single character is replaced by nothing.
-/

namespace AmpArticle.Text

/-- characters with every occurrence of `old` replaced -/
def replaced (old new cs : List Char) : List Char := replaceFrom old new cs.length cs

variable {a c : Char} {old new cs xs ys : List Char}

theorem toList_replaceAll (old new s : String) :
    (replaceAll old new s).toList = replaced old.toList new.toList s.toList := String.toList_ofList

/-- any number of characters that is large enough is as good as another -/
theorem replaceFrom_enough (hold : old ≠ []) {fuel fuel' : Nat} (h : cs.length ≤ fuel) (h' : cs.length ≤ fuel') :
    replaceFrom old new fuel cs = replaceFrom old new fuel' cs := by
  induction fuel generalizing cs fuel' with
  | zero =>
    obtain rfl := List.length_eq_zero_iff.1 (Nat.le_zero.1 h)
    cases fuel' <;> rfl
  | succ fuel ih =>
    cases cs with
    | nil => cases fuel' <;> rfl
    | cons c cs =>
      cases fuel' with
      | zero => cases h'
      | succ fuel' =>
        rw [List.length_cons] at h h'
        rw [replaceFrom, replaceFrom]
        cases hdrop : dropStart? old (c :: cs) with
        | none => rw [ih (Nat.le_of_succ_le_succ h) (Nat.le_of_succ_le_succ h')]
        | some rest =>
          have hlength := congrArg List.length (dropStart?_eq_some hdrop)
          have hpos := List.length_pos_of_ne_nil hold
          rw [List.length_cons, List.length_append] at hlength
          have hrest : replaceFrom old new fuel rest = replaceFrom old new fuel' rest := ih (by omega) (by omega)
          exact congrArg _ hrest

/-- an occurrence at the front is replaced, and the rest is read on behind it -/
theorem replaced_start (hold : old ≠ []) (cs : List Char) :
    replaced old new (old ++ cs) = new ++ replaced old new cs := by
  obtain ⟨c, w, rfl⟩ := List.exists_cons_of_ne_nil hold
  have hdrop : dropStart? (c :: w) (c :: (w ++ cs)) = some cs := by
    obtain ⟨rest, hrest⟩ := Option.isSome_iff_exists.1 (dropStart?_isSome_iff.2 (List.prefix_append (c :: w) cs))
    rw [List.cons_append] at hrest
    rw [hrest, List.append_cancel_left (dropStart?_eq_some hrest)]
  rw [replaced, List.cons_append, List.length_cons, replaceFrom, hdrop]
  exact congrArg _ (replaceFrom_enough hold (by simp) le_rfl)

/-- a character where no occurrence begins is kept -/
theorem replaced_cons (h : ¬ old <+: c :: cs) : replaced old new (c :: cs) = c :: replaced old new cs := by
  have hdrop : dropStart? old (c :: cs) = none := by
    rwa [← dropStart?_isSome_iff, Bool.not_eq_true, Option.isSome_eq_false_iff, Option.isNone_iff_eq_none] at h
  rw [replaced, List.length_cons, replaceFrom, hdrop]
  rfl

/-- what lacks the first character of the old text is kept -/
theorem replaced_append (hxs : a ∉ xs) (ys : List Char) :
    replaced (a :: old) new (xs ++ ys) = xs ++ replaced (a :: old) new ys := by
  induction xs with
  | nil => rfl
  | cons x xs ih =>
    rw [List.mem_cons, not_or] at hxs
    rw [List.cons_append, replaced_cons, ih hxs.2, List.cons_append]
    exact fun h => hxs.1 (List.cons_prefix_cons.1 h).1

/-- a single character that is replaced by nothing is left out -/
theorem removed_character (a : Char) (cs : List Char) : replaced [a] [] cs = cs.filter (· ≠ a) := by
  induction cs with
  | nil => rfl
  | cons c cs ih =>
    by_cases hc : c = a
    · subst hc
      rw [List.filter_cons_of_neg (by simp), ← ih]
      exact replaced_start (List.cons_ne_nil c []) cs
    · rw [List.filter_cons_of_pos (by simpa using hc), ← ih]
      exact replaced_cons fun h => hc (List.cons_prefix_cons.1 h).1.symm

end AmpArticle.Text
