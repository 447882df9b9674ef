import AmpArticle.Proofs.Css.NameTrees
import AmpArticle.Proofs.Entries
import AmpArticle.Proofs.Number.Decimals
import AmpArticle.Proofs.Page.Steps
import AmpArticle.Proofs.Text.Finding

/-!
Class names on a page. Names that are given together, in sequences to any depth, come to the same names in a selector
and in a class attribute. Numbered names are counted for each name apart, but they all stand side by side: one that is
given out is never given out again, even when names look like numbered ones themselves.

Results:
- `classNames_agree`: the names of a tree in a selector and in a class attribute, and when both fail;
- `numberedClass_inj`: a numbered name tells its name and its number;
- `uniqueClass_run`: one call takes the next number of its name;
- `Calls.numbered`: what the calls of a run return;
- `uniqueClass_apart`: after any calls on a page, all names that were returned are different.
-/

namespace AmpArticle.Page

open Css (ClassNames)
open Css.ClassNames (Leaf)

/-! ## Names given together -/

section Trees

variable {names : ClassNames}

theorem classAttribute_run (names : ClassNames) (s : State) :
    (Rendering.classAttribute names).run.run s = (names.classAttribute s.classPrefix, s) := by
  rw [Rendering.classAttribute, run_bind, run_get]
  dsimp only
  cases names.classAttribute s.classPrefix <;> rfl

/-- **Selectors and class attributes agree** on the names of a tree without empty sequences, whatever the two prefixes
are. When all its leaves are names, the selector has each of them behind a point and the prefix, the class attribute has
each of them behind the prefix, and both have them from left to right. When another value is among them, both fail for
the first one. -/
theorem classNames_agree (hfull : names.IsFull) (p : String) (s : State) :
    (∀ texts : List String, names.leaves = texts.map .name →
      names.selector p = .ok (Text.joinWith ", " (texts.map ("." ++ p ++ ·))) ∧
      (Rendering.classAttribute names).run.run s = (.ok (Text.joinWith " " (texts.map (s.classPrefix ++ ·))), s)) ∧
    ∀ value, .other value ∈ names.leaves → ∃ fault fault',
      names.selector p = .error fault ∧ fault.label = "TypeError" ∧
      (Rendering.classAttribute names).run.run s = (.error fault', s) ∧ fault'.label = "TypeError" := by
  refine ⟨fun texts h => ⟨ClassNames.selector_tree hfull h, ?_⟩, fun value hmem => ?_⟩
  · rw [classAttribute_run, ClassNames.classAttribute_tree hfull h]
  · obtain ⟨first, hfirst⟩ := Option.isSome_iff_exists.1
      (List.findSome?_isSome_iff.2 ⟨_, hmem, rfl⟩ : (names.leaves.findSome? Leaf.other?).isSome = true)
    refine ⟨.selectorKind first.kindName, .notIterable first.kindName, ClassNames.selector_other hfull hfirst, rfl,
      ?_, rfl⟩
    rw [classAttribute_run, ClassNames.classAttribute_other hfull hfirst]

/-- names at three depths -/
def nestedNames : ClassNames := .many [.name "a", .many [.many [.name "b"], .name ""], .name "c"]

/-- a sequence with a value that is no name, below another one -/
def mixedNames : ClassNames := .many [.many [.name "a", .other .null], .other (.int 1)]

theorem classNames_agree_nested :
    (nestedNames.IsFull ∧ nestedNames.leaves = ["a", "b", "", "c"].map .name ∧
      nestedNames.selector "x-" = .ok ".x-a, .x-b, .x-, .x-c" ∧
      (Rendering.classAttribute nestedNames).run.run (State.start "y-" .empty) =
        (.ok "y-a y-b y- y-c", State.start "y-" .empty)) ∧
    mixedNames.IsFull ∧ .other .null ∈ mixedNames.leaves ∧
      ∃ fault, mixedNames.selector "x-" = .error fault ∧ fault.label = "TypeError" := by
  have hnested : nestedNames.IsFull := by simp [nestedNames, ClassNames.IsFull, ClassNames.AreFull]
  have hmixed : mixedNames.IsFull := by simp [mixedNames, ClassNames.IsFull, ClassNames.AreFull]
  have hleaves : nestedNames.leaves = ["a", "b", "", "c"].map .name := by
    simp [nestedNames, ClassNames.leaves, ClassNames.leavesOf]
  have hnull : .other .null ∈ mixedNames.leaves := by simp [mixedNames, ClassNames.leaves, ClassNames.leavesOf]
  obtain ⟨hselector, hclass⟩ := (classNames_agree hnested "x-" (State.start "y-" .empty)).1 _ hleaves
  obtain ⟨fault, -, hfails, hlabel, -⟩ := (classNames_agree hmixed "x-" (State.start "y-" .empty)).2 _ hnull
  exact ⟨⟨hnested, hleaves, hselector, hclass⟩, hmixed, hnull, fault, hfails, hlabel⟩

end Trees

/-! ## Numbered names -/

/-- a class name with a number -/
def numberedClass (name : String) (k : Nat) : String := name ++ "-" ++ toString k

/-- **A numbered name tells its name and its number**: the number is what stands behind the last dash. -/
theorem numberedClass_inj {name name' : String} {k k' : Nat} (h : numberedClass name k = numberedClass name' k') :
    name = name' ∧ k = k' := by
  have hdash (k : Nat) : '-' ∉ (toString k).toList.reverse := fun hmem =>
    absurd (Json.allDigits_toString k '-' (List.mem_reverse.1 hmem)) (by decide)
  have hchars (name : String) (k : Nat) : (numberedClass name k).toList.reverse =
      (toString k).toList.reverse ++ '-' :: name.toList.reverse := by
    simp [numberedClass]
  have hreversed := congrArg (fun text : String => text.toList.reverse) h
  simp only [hchars] at hreversed
  obtain ⟨hdigits, hname⟩ := Text.append_cons_unique (hdash k) (hdash k') hreversed
  have hvalue := congrArg Json.digitsValue (List.reverse_injective hdigits)
  rw [Json.digitsValue_toString, Json.digitsValue_toString] at hvalue
  exact ⟨String.toList_inj.1 (List.reverse_injective hname), hvalue⟩

/-- how many numbers of a name were given out so far -/
def State.used (s : State) (name : String) : Nat := (lookup? name s.classCounts).getD 0

/-- the state with one more number of a name given out -/
def State.take (s : State) (name : String) : State :=
  { s with classCounts := insertEntry name (s.used name + 1) s.classCounts }

section Calls

variable {s t u : State} {name other : String}

theorem count_first (name : String) (names : List String) (other : String) :
    (name :: names).count other = [name].count other + names.count other :=
  (List.count_append : ([name] ++ names).count other = _)

theorem used_take (s : State) (name other : String) :
    (s.take name).used other = s.used other + [name].count other := by
  unfold State.take State.used
  dsimp only
  by_cases h : other = name
  · rw [h, lookup?_insertEntry, List.count_singleton_self]
    rfl
  · rw [lookup?_insertEntry_of_ne h, List.count_singleton, if_neg (by simpa using Ne.symm h), Nat.add_zero]

/-- **One call** never fails, and takes the next number of its name. -/
theorem uniqueClass_run (name : String) (s : State) :
    Runs (Rendering.uniqueClass name) s (numberedClass name (s.used name + 1)) (s.take name) := rfl

theorem runs_uniqueClass {own : String} :
    Runs (Rendering.uniqueClass name) s own t ↔ numberedClass name (s.used name + 1) = own ∧ s.take name = t := by
  constructor
  · intro h
    obtain ⟨hown, htake⟩ := Prod.mk.inj ((uniqueClass_run name s).symm.trans h)
    exact ⟨Except.ok.inj hown, htake⟩
  · rintro ⟨rfl, rfl⟩
    exact uniqueClass_run name s

/-- a conversion goes on from one state to another; the calls for numbered names on the way, with what each returned.
What is done between them leaves the numbers alone -/
inductive Calls : State → List (String × String) → State → Prop where
  | none {s : State} : Calls s [] s
  | other {s t u : State} {calls : List (String × String)} :
    t.classCounts = s.classCounts → Calls t calls u → Calls s calls u
  | call {s t u : State} {name own : String} {calls : List (String × String)} :
    Runs (Rendering.uniqueClass name) s own t → Calls t calls u → Calls s ((name, own) :: calls) u

variable {calls : List (String × String)}

/-- after a run the numbers of its calls are taken -/
theorem Calls.used (h : Calls s calls t) (name : String) :
    t.used name = s.used name + (calls.map Prod.fst).count name := by
  induction h with
  | none => rfl
  | other hcounts _ ih => rw [ih, State.used, hcounts, State.used]
  | @call _ _ _ first _ calls hrun _ ih =>
    obtain ⟨rfl, rfl⟩ := runs_uniqueClass.1 hrun
    rw [ih, used_take, List.map_cons, count_first first (calls.map Prod.fst), Nat.add_assoc]

/-- **What the calls of a run return**: the name with the number that comes behind those given out before. -/
theorem Calls.numbered (h : Calls s calls t) {before after : List (String × String)} {own : String}
    (hcalls : calls = before ++ (name, own) :: after) :
    own = numberedClass name (s.used name + (before.map Prod.fst).count name + 1) := by
  induction h generalizing before with
  | none => simp at hcalls
  | other hcounts _ ih =>
    rw [ih hcalls, State.used, hcounts, State.used]
  | @call s _ _ _ _ _ hrun _ ih =>
    obtain ⟨rfl, rfl⟩ := runs_uniqueClass.1 hrun
    cases before with
    | nil =>
      obtain ⟨hfirst, -⟩ := List.cons.inj hcalls
      cases hfirst
      rfl
    | cons first before =>
      obtain ⟨rfl, hrest⟩ := List.cons.inj hcalls
      rw [ih hrest, used_take, List.map_cons, count_first _ (before.map Prod.fst), Nat.add_assoc (s.used name)]

/-- what the calls of a run return is different from all that was given out before, and from one another -/
theorem Calls.nodup (h : Calls s calls t) : (calls.map Prod.snd).Nodup := by
  induction h with
  | none => exact List.nodup_nil
  | other _ _ ih => exact ih
  | @call s t _ name own calls hrun hcalls ih =>
    obtain ⟨rfl, rfl⟩ := runs_uniqueClass.1 hrun
    refine List.nodup_cons.2 ⟨fun hmem => ?_, ih⟩
    obtain ⟨⟨name', own'⟩, hcall, hsame⟩ := List.mem_map.1 hmem
    obtain ⟨before, after, hsplit⟩ := List.append_of_mem hcall
    have hlater := hcalls.numbered hsplit
    obtain ⟨rfl, hnumber⟩ := numberedClass_inj (hsame.symm.trans hlater)
    rw [used_take, List.count_singleton_self] at hnumber
    omega

end Calls

/-- **Numbered names are never given out again.** After any calls on a page, among anything else that is done there,
what they returned is different from one another: each of them its name, a dash, and how many calls there were for this
name until then. The next call returns the next one. -/
theorem uniqueClass_apart {p : String} {observer : Extension.Observer} {calls : List (String × String)} {t : State}
    (h : Calls (State.start p observer) calls t) :
    (calls.map Prod.snd).Nodup ∧
    (∀ before name own after, calls = before ++ (name, own) :: after →
      own = name ++ "-" ++ toString ((before.map Prod.fst).count name + 1)) ∧
    ∀ name, ∃ u, Runs (Rendering.uniqueClass name) t
      (name ++ "-" ++ toString ((calls.map Prod.fst).count name + 1)) u := by
  have hnone (name : String) : (State.start p observer).used name = 0 := rfl
  refine ⟨h.nodup, fun before name own after hcalls => ?_, fun name => ⟨t.take name, ?_⟩⟩
  · rw [h.numbered hcalls, hnone, Nat.zero_add, numberedClass]
  · have hnext := uniqueClass_run name t
    rwa [h.used, hnone, Nat.zero_add, numberedClass] at hnext

/-- a name is used twice, and another one that looks like what its first use returned -/
theorem uniqueClass_apart_lookalike : ∃ t,
    Calls (State.start "x-" .empty) [("a", "a-1"), ("a-1", "a-1-1"), ("a", "a-2")] t ∧
      ["a-1", "a-1-1", "a-2"].Nodup ∧ ∃ u, Runs (Rendering.uniqueClass "a-1") t "a-1-2" u := by
  have hcalls : Calls (State.start "x-" .empty) [("a", "a-1"), ("a-1", "a-1-1"), ("a", "a-2")]
      ((((State.start "x-" .empty).take "a").take "a-1").take "a") :=
    .call (uniqueClass_run "a" _) (.call (uniqueClass_run "a-1" _) (.call (uniqueClass_run "a" _) .none))
  obtain ⟨hnodup, -, hnext⟩ := uniqueClass_apart hcalls
  exact ⟨_, hcalls, hnodup, hnext "a-1"⟩

end AmpArticle.Page
