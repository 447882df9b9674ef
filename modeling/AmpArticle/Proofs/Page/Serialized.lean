import AmpArticle.Page.Serialize
import AmpArticle.Proofs.Text.Finding

/-!
The text of a whole document, taken apart. Dropping the values of empty attributes works on the text as a whole; but
what is found begins with a blank and holds none besides, nor any sign that a tag begins or ends with. So it works on
the pieces in front of and behind such a character one by one.

Results:
- `squeeze_append`, `droppable_append`: pieces in front of and behind a character that no found text goes on with;
- `squeeze_eq_self_iff`: a text stays as it is exactly when it holds nothing to drop, and gets shorter otherwise.
-/

namespace AmpArticle.Page

open Text (isBlank dropStart? dropStart?_eq_some dropStart?_isSome_iff)

/-- a text with the values of empty attributes dropped -/
def squeeze (cs : List Char) : List Char := dropEmptyValues cs.length cs

theorem serialize_eq (root : Markup.Element) : (serialize root).toList = docType.toList ++ squeeze root.write.toList := by
  simp [serialize, squeeze]

/-! ## One character -/

theorem bareAttribute?_eq_some {cs name rest : List Char} (h : bareAttribute? cs = some (name, rest)) :
    cs = name ++ emptyValue ++ rest := by
  obtain ⟨s, -, hs⟩ := List.exists_of_findSome?_eq_some h
  obtain ⟨rest', hdrop, hpair⟩ := Option.map_eq_some_iff.1 hs
  rw [Prod.mk.injEq] at hpair
  rw [← hpair.1, ← hpair.2]
  exact dropStart?_eq_some hdrop

/-- what a blank is followed by decides about the values behind it -/
def squeezeBlank (squeezed : List Char → List Char) (c : Char) (cs : List Char) : List Char :=
  match bareAttribute? cs with
  | some (name, rest) => c :: name ++ squeezed rest
  | none => c :: squeezed cs

theorem dropEmptyValues_cons (n : Nat) (c : Char) (cs : List Char) : dropEmptyValues (n + 1) (c :: cs) =
    if isBlank c then squeezeBlank (dropEmptyValues n) c cs else c :: dropEmptyValues n cs := rfl

theorem squeezeBlank_congr {f g : List Char → List Char} {cs : List Char} (c : Char)
    (h : ∀ rest, rest.length ≤ cs.length → f rest = g rest) : squeezeBlank f c cs = squeezeBlank g c cs := by
  unfold squeezeBlank
  split
  · rename_i name rest hname
    have hlength := congrArg List.length (bareAttribute?_eq_some hname)
    rw [List.length_append, List.length_append] at hlength
    rw [h rest (by omega)]
  · rw [h cs le_rfl]

/-- more fuel than characters changes nothing -/
theorem dropEmptyValues_fuel {n k : Nat} {cs : List Char} (hn : cs.length ≤ n) (hk : cs.length ≤ k) :
    dropEmptyValues n cs = dropEmptyValues k cs := by
  induction n generalizing k cs with
  | zero =>
    rw [List.length_eq_zero_iff.1 (Nat.le_zero.1 hn)]
    cases k <;> rfl
  | succ n ih =>
    cases cs with
    | nil => cases k <;> rfl
    | cons c cs =>
      obtain ⟨k, rfl⟩ := Nat.exists_eq_succ_of_ne_zero (Nat.ne_zero_of_lt hk)
      rw [List.length_cons] at hn hk
      rw [dropEmptyValues_cons, dropEmptyValues_cons]
      split_ifs
      · exact squeezeBlank_congr c fun rest hrest => ih (by omega) (by omega)
      · rw [ih (k := k) (by omega) (by omega)]

theorem squeeze_cons (c : Char) (cs : List Char) :
    squeeze (c :: cs) = if isBlank c then squeezeBlank squeeze c cs else c :: squeeze cs := by
  rw [squeeze, List.length_cons, dropEmptyValues_cons]
  split_ifs
  · exact squeezeBlank_congr c fun rest hrest => dropEmptyValues_fuel hrest le_rfl
  · rfl

/-! ## Pieces -/

/-- a character that what is found never goes on with -/
def Outside (c : Char) : Prop := ∀ name ∈ bareNames, c ∉ name.toList ++ emptyValue

instance (c : Char) : Decidable (Outside c) := inferInstanceAs (Decidable (∀ name ∈ bareNames, _))

theorem outside_open : Outside '<' := by decide

theorem outside_close : Outside '>' := by decide

theorem outside_space : Outside ' ' := by decide

theorem bareAttribute?_append {c : Char} (hc : Outside c) (cs ys : List Char) :
    bareAttribute? (cs ++ c :: ys) = (bareAttribute? cs).map fun r => (r.1, r.2 ++ c :: ys) := by
  unfold Outside at hc
  unfold bareAttribute?
  generalize bareNames = names at hc
  induction names with
  | nil => rfl
  | cons name names ih =>
    rw [List.findSome?_cons, List.findSome?_cons,
      Text.dropStart?_append_cons (hc name List.mem_cons_self)]
    cases dropStart? (name.toList ++ emptyValue) cs with
    | none => exact ih fun name' hname' => hc name' (List.mem_cons_of_mem _ hname')
    | some rest => rfl

/-- **Pieces in front of and behind a character** that what is found never goes on with. -/
theorem squeeze_append {c : Char} (hc : Outside c) (xs ys : List Char) :
    squeeze (xs ++ c :: ys) = squeeze xs ++ squeeze (c :: ys) := by
  induction hn : xs.length using Nat.strongRecOn generalizing xs with
  | ind n ih =>
    cases xs with
    | nil => rfl
    | cons x xs =>
      have hrest {rest : List Char} (h : rest.length ≤ xs.length) :
          squeeze (rest ++ c :: ys) = squeeze rest ++ squeeze (c :: ys) :=
        ih rest.length (by rw [← hn, List.length_cons]; omega) rest rfl
      rw [List.cons_append, squeeze_cons, squeeze_cons]
      split_ifs
      · unfold squeezeBlank
        rw [bareAttribute?_append hc]
        cases hname : bareAttribute? xs with
        | none => simp [hrest le_rfl]
        | some r =>
          have hlength := congrArg List.length (bareAttribute?_eq_some hname)
          rw [List.length_append] at hlength
          have hshort : r.2.length ≤ xs.length := by omega
          simp [hrest hshort]
      · rw [hrest le_rfl, List.cons_append]

theorem squeeze_append_of_notBlank {xs : List Char} (h : ∀ c ∈ xs, isBlank c = false) (ys : List Char) :
    squeeze (xs ++ ys) = xs ++ squeeze ys := by
  induction xs with
  | nil => rfl
  | cons x xs ih =>
    rw [List.cons_append, squeeze_cons, h x List.mem_cons_self, if_neg (by decide),
      ih fun c hc => h c (List.mem_cons_of_mem _ hc), List.cons_append]

/-! ## What is found -/

/-- an empty value that is dropped from a text: behind a blank and one of the names -/
def Droppable (cs : List Char) : Prop :=
  ∃ blank name, isBlank blank = true ∧ name ∈ bareNames ∧ blank :: (name.toList ++ emptyValue) <:+: cs

theorem bareAttribute?_isSome_iff {cs : List Char} :
    (bareAttribute? cs).isSome = true ↔ ∃ name ∈ bareNames, name.toList ++ emptyValue <+: cs := by
  simp [bareAttribute?, List.findSome?_isSome_iff, dropStart?_isSome_iff]

theorem droppable_cons {c : Char} {cs : List Char} :
    Droppable (c :: cs) ↔ (isBlank c = true ∧ (bareAttribute? cs).isSome = true) ∨ Droppable cs := by
  rw [bareAttribute?_isSome_iff]
  constructor
  · rintro ⟨blank, name, hblank, hname, hfound⟩
    rcases List.infix_cons_iff.1 hfound with hfound | hfound
    · obtain ⟨rfl, hprefix⟩ := List.cons_prefix_cons.1 hfound
      exact .inl ⟨hblank, name, hname, hprefix⟩
    · exact .inr ⟨blank, name, hblank, hname, hfound⟩
  · rintro (⟨hblank, name, hname, hfound⟩ | ⟨blank, name, hblank, hname, hfound⟩)
    · exact ⟨c, name, hblank, hname, (List.cons_prefix_cons.2 ⟨rfl, hfound⟩).isInfix⟩
    · exact ⟨blank, name, hblank, hname, List.infix_cons hfound⟩

/-- what can be dropped stands on one side of such a character -/
theorem droppable_append {c : Char} (hc : Outside c) (xs ys : List Char) :
    Droppable (xs ++ c :: ys) ↔ Droppable xs ∨ Droppable (c :: ys) := by
  constructor
  · rintro ⟨blank, name, hblank, hname, hfound⟩
    rcases (Text.infix_cons_append (hc name hname) xs ys).1 hfound with hfound | hfound
    · exact .inl ⟨blank, name, hblank, hname, hfound⟩
    · exact .inr ⟨blank, name, hblank, hname, hfound⟩
  · rintro (⟨blank, name, hblank, hname, hfound⟩ | ⟨blank, name, hblank, hname, hfound⟩)
    · exact ⟨blank, name, hblank, hname, hfound.trans (List.prefix_append xs _).isInfix⟩
    · exact ⟨blank, name, hblank, hname, hfound.trans (List.suffix_append xs _).isInfix⟩

theorem not_droppable_of_absent {cs : List Char} (h : ¬ emptyValue <:+: cs) : ¬ Droppable cs := by
  rintro ⟨blank, name, -, -, hfound⟩
  exact h (((List.suffix_append name.toList emptyValue).trans (List.suffix_cons blank _)).isInfix.trans hfound)

/-- a character is left as it is, or it is a blank and an empty value is dropped behind it -/
theorem squeeze_cons_cases (c : Char) (cs : List Char) :
    (∃ name rest, cs = name ++ emptyValue ++ rest ∧ squeeze (c :: cs) = c :: (name ++ squeeze rest)) ∨
      ¬ (isBlank c = true ∧ (bareAttribute? cs).isSome = true) ∧ squeeze (c :: cs) = c :: squeeze cs := by
  rw [squeeze_cons]
  split_ifs with hblank
  · unfold squeezeBlank
    cases hname : bareAttribute? cs with
    | none => exact .inr ⟨by simp, rfl⟩
    | some r => exact .inl ⟨r.1, r.2, bareAttribute?_eq_some hname, rfl⟩
  · exact .inr ⟨fun h => hblank h.1, rfl⟩

theorem length_squeeze_le (cs : List Char) : (squeeze cs).length ≤ cs.length := by
  induction hn : cs.length using Nat.strongRecOn generalizing cs with
  | ind n ih =>
    cases cs with
    | nil => exact Nat.zero_le n
    | cons c cs =>
      rw [List.length_cons] at hn
      rcases squeeze_cons_cases c cs with ⟨name, rest, hcs, hsqueeze⟩ | ⟨-, hsqueeze⟩
      · have hlength := congrArg List.length hcs
        simp only [List.length_append] at hlength
        have hrest := ih rest.length (by omega) rest rfl
        rw [hsqueeze, List.length_cons, List.length_append]
        omega
      · have hrest := ih cs.length (by omega) cs rfl
        rw [hsqueeze, List.length_cons]
        omega

/-- a text with something to drop gets shorter -/
theorem length_squeeze_lt {cs : List Char} (h : Droppable cs) : (squeeze cs).length < cs.length := by
  induction cs with
  | nil => exact absurd h (not_droppable_of_absent (by decide))
  | cons c cs ih =>
    rcases squeeze_cons_cases c cs with ⟨name, rest, rfl, hsqueeze⟩ | ⟨hnot, hsqueeze⟩
    · have hrest := length_squeeze_le rest
      have hvalue : emptyValue.length = 3 := rfl
      simp only [hsqueeze, List.length_cons, List.length_append, hvalue]
      omega
    · have hcs := ih ((droppable_cons.1 h).resolve_left hnot)
      rw [hsqueeze, List.length_cons, List.length_cons]
      omega

theorem squeeze_of_not_droppable {cs : List Char} (h : ¬ Droppable cs) : squeeze cs = cs := by
  induction cs with
  | nil => rfl
  | cons c cs ih =>
    rw [droppable_cons, not_or] at h
    rw [squeeze_cons]
    split_ifs with hblank
    · have hnone : bareAttribute? cs = none := Option.not_isSome_iff_eq_none.1 fun hsome => h.1 ⟨hblank, hsome⟩
      rw [squeezeBlank, hnone, ih h.2]
    · rw [ih h.2]

/-- **A text stays as it is** exactly when it holds nothing to drop. -/
theorem squeeze_eq_self_iff {cs : List Char} : squeeze cs = cs ↔ ¬ Droppable cs := by
  refine ⟨fun h hfound => ?_, squeeze_of_not_droppable⟩
  have hlength := length_squeeze_lt hfound
  rw [h] at hlength
  exact lt_irrefl _ hlength

end AmpArticle.Page
