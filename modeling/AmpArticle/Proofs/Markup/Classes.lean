import AmpArticle.Markup.Node
import Mathlib.Data.List.Infix
import Mathlib.Data.List.Perm.Basic

/-!
The classes that a class attribute tells, one or two names being behind one prefix in it. A prefix may have white space
inside, and then a name behind it is several classes, of which only the last has the name in it.

Results:
- `infix_pair`: in two rows that differ in their ends only, no row with another end begins anywhere;
- `classesOf_single`, `classesOf_pair`: the names that are told behind a prefix are those that are there;
- `carries_single`, `carries_pair`: the same of elements.
-/

namespace AmpArticle.Markup

/-! ## Rows -/

section Rows

variable {α : Type} {xs ys : List α} {a b x : α}

/-- where two lists are one, so are parts of the same length at their fronts -/
theorem front_unique {ps qs : List α} (hp : ps <+: xs ++ ys) (hq : qs <+: xs ++ [a]) (hlength : ps.length = qs.length)
    (hshort : ps.length ≤ xs.length) : ps = qs := by
  have hp' : ps <+: xs := List.prefix_of_prefix_length_le hp (List.prefix_append _ _) hshort
  have hq' : qs <+: xs := List.prefix_of_prefix_length_le hq (List.prefix_append _ _) (hlength ▸ hshort)
  exact List.IsPrefix.eq_of_length (List.prefix_of_prefix_length_le hp' hq' hlength.le) hlength

/-- **Rows with the same beginning**, one behind the other, hold no row of the same beginning and another end. -/
theorem infix_pair (h : xs ++ [x] <:+: (xs ++ [a]) ++ (xs ++ [b])) : x = a ∨ x = b := by
  have hwhole {c : α} (hc : xs ++ [x] <:+: xs ++ [c]) : x = c :=
    List.singleton_inj.1 (List.append_cancel_left (hc.eq_of_length (by simp)))
  rcases List.infix_append_iff_ne_nil.1 h with hleft | hright | ⟨first, last, hfirst, -, hrow, ⟨before, hbefore⟩, hlast⟩
  · exact .inl (hwhole hleft)
  · exact .inr (hwhole hright)
  · -- what is in front of the row is as long as its part in the second one, so both are the same beginning
    have hlength := congrArg List.length hrow
    have hlength' := congrArg List.length hbefore
    have hpos := List.length_pos_of_ne_nil hfirst
    simp only [List.length_append, List.length_singleton] at hlength hlength'
    obtain rfl : last = before := front_unique hlast ⟨first, hbefore⟩ (by omega) (by omega)
    have hperm : (xs ++ [x]).Perm (xs ++ [a]) := by
      rw [hrow, ← hbefore]
      exact List.perm_append_comm
    exact .inl (List.singleton_perm_singleton.1 ((List.perm_append_left_iff xs).1 hperm))

end Rows

/-! ## Classes -/

/-- white space between classes -/
def isClassSpace (c : Char) : Bool := [' ', '\t', '\n', '\x0c', '\r'].contains c

/-- the classes of a class attribute -/
def classesOf (cs : List Char) : List (List Char) := (cs.splitOnP isClassSpace).filter fun piece => !piece.isEmpty

/-- a text without white space -/
def IsWord (cs : List Char) : Prop := ∀ c ∈ cs, isClassSpace c = false

-- not by trying every character there is
instance (cs : List Char) : Decidable (IsWord cs) := List.decidableBAll (fun c => isClassSpace c = false) cs

section Classes

variable {c : Char} {p a b x cs : List Char}

theorem classesOf_space (hc : isClassSpace c = true) (xs ys : List Char) :
    classesOf (xs ++ c :: ys) = classesOf xs ++ classesOf ys := by
  rw [classesOf, List.splitOnP_append_cons _ _ hc, List.filter_append]
  rfl

theorem classesOf_word (h : IsWord cs) (hne : cs ≠ []) : classesOf cs = [cs] := by
  rw [classesOf, List.splitOnP_eq_singleton h, List.filter_cons_of_pos (by simpa using hne)]
  rfl

theorem classesOf_nil : classesOf [] = [] := rfl

theorem IsWord.append (ha : IsWord a) (hb : IsWord b) : IsWord (a ++ b) := fun c hc =>
  (List.mem_append.1 hc).elim (ha c) (hb c)

/-- what a prefix makes of names: classes of its own in front, and a beginning of the next class -/
theorem classesOf_prefix (p : List Char) : ∃ front start, IsWord start ∧ (IsWord p → front = []) ∧
    ∀ name, IsWord name → classesOf (p ++ name) = front ++ classesOf (start ++ name) := by
  induction p using List.reverseRecOn with
  | nil => exact ⟨[], [], by simp [IsWord], fun _ => rfl, fun _ _ => rfl⟩
  | append_singleton p c ih =>
    cases hc : isClassSpace c with
    | true =>
      refine ⟨classesOf p, [], by simp [IsWord], fun hp => ?_, fun name _ => ?_⟩
      · cases hc.symm.trans (hp c (by simp))
      · rw [List.append_assoc]
        exact classesOf_space hc p name
    | false =>
      obtain ⟨front, start, hstart, hfront, hname⟩ := ih
      have hword : IsWord [c] := by
        intro d hd
        rw [List.mem_singleton.1 hd, hc]
      refine ⟨front, start ++ [c], hstart.append hword, fun hp => ?_, fun name hn => ?_⟩
      · exact hfront fun d hd => hp d (List.mem_append_left _ hd)
      · rw [List.append_assoc, hname _ (hword.append hn), ← List.append_assoc start]

/-- **One name** behind a prefix. -/
theorem classesOf_single (ha : IsWord a) (hx : IsWord x) (hne : x ≠ []) (hempty : a = [] → IsWord p) :
    classesOf (p ++ x) <:+: classesOf (p ++ a) ↔ x = a := by
  obtain ⟨front, start, hstart, hfront, hname⟩ := classesOf_prefix p
  have hx' : classesOf (start ++ x) = [start ++ x] := classesOf_word (hstart.append hx) (by simp [hne])
  refine ⟨fun h => ?_, fun h => h ▸ List.infix_rfl⟩
  rw [hname x hx, hname a ha, hx'] at h
  by_cases hend : start ++ a = []
  · rw [hend, classesOf_nil, hfront (hempty (List.append_eq_nil_iff.1 hend).2)] at h
    simp at h
  · rw [classesOf_word (hstart.append ha) hend] at h
    have heq := h.eq_of_length (by simp)
    exact List.append_cancel_left (List.singleton_inj.1 (List.append_cancel_left heq))

/-- **Two names** behind one prefix. -/
theorem classesOf_pair (ha : IsWord a) (hb : IsWord b) (hx : IsWord x) (hneb : b ≠ []) (hne : x ≠ [])
    (hempty : a = [] → IsWord p) :
    classesOf (p ++ x) <:+: classesOf (p ++ a ++ ' ' :: (p ++ b)) ↔ x = a ∨ x = b := by
  obtain ⟨front, start, hstart, hfront, hname⟩ := classesOf_prefix p
  have hx' : classesOf (start ++ x) = [start ++ x] := classesOf_word (hstart.append hx) (by simp [hne])
  have hb' : classesOf (start ++ b) = [start ++ b] := classesOf_word (hstart.append hb) (by simp [hneb])
  have hparts : classesOf (p ++ a ++ ' ' :: (p ++ b)) = classesOf (p ++ a) ++ classesOf (p ++ b) :=
    classesOf_space rfl _ _
  rw [hparts]
  constructor
  · intro h
    rw [hname x hx, hname a ha, hname b hb, hx', hb'] at h
    by_cases hend : start ++ a = []
    · rw [hend, classesOf_nil, hfront (hempty (List.append_eq_nil_iff.1 hend).2)] at h
      have heq := h.eq_of_length (by simp)
      simp only [List.nil_append] at heq
      exact .inr (List.append_cancel_left (List.singleton_inj.1 heq))
    · rw [classesOf_word (hstart.append ha) hend] at h
      exact (infix_pair h).imp List.append_cancel_left List.append_cancel_left
  · rintro (rfl | rfl)
    · exact (List.prefix_append _ _).isInfix
    · exact (List.suffix_append _ _).isInfix

end Classes

/-- an element has the classes of a text, one after the other -/
def Element.Carries (e : Element) (name : String) : Prop :=
  ∃ text, e.attribute? "class" = some text ∧ classesOf name.toList <:+: classesOf text.toList

section Elements

variable {e : Element} {p a b x : String}

theorem not_carries_of_none (h : e.attribute? "class" = none) (name : String) : ¬ e.Carries name := by
  rintro ⟨text, htext, -⟩
  cases h.symm.trans htext

/-- an element with the class of one name -/
theorem carries_single (h : e.attribute? "class" = some (p ++ a)) (ha : IsWord a.toList) (hx : IsWord x.toList)
    (hne : x ≠ "") (hempty : a = "" → IsWord p.toList) : e.Carries (p ++ x) ↔ x = a := by
  rw [Element.Carries, h]
  simp only [Option.some.injEq, exists_eq_left', String.toList_append]
  rw [classesOf_single ha hx (by simpa using hne) (by simpa using hempty), String.toList_inj]

/-- an element with the classes of two names -/
theorem carries_pair (h : e.attribute? "class" = some (p ++ a ++ " " ++ (p ++ b))) (ha : IsWord a.toList)
    (hb : IsWord b.toList) (hx : IsWord x.toList) (hneb : b ≠ "") (hne : x ≠ "") (hempty : a = "" → IsWord p.toList) :
    e.Carries (p ++ x) ↔ x = a ∨ x = b := by
  have htext : (p ++ a ++ " " ++ (p ++ b)).toList = p.toList ++ a.toList ++ ' ' :: (p.toList ++ b.toList) := by simp
  rw [Element.Carries, h]
  simp only [Option.some.injEq, exists_eq_left', htext, String.toList_append]
  rw [classesOf_pair ha hb hx (by simpa using hneb) (by simpa using hne) (by simpa using hempty), String.toList_inj,
    String.toList_inj]

end Elements

end AmpArticle.Markup
