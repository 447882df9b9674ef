import AmpArticle.Proofs.Css.History
import AmpArticle.Proofs.Css.Refusal
import AmpArticle.Proofs.Text.Pieces
import AmpArticle.Proofs.Text.Replacing

/-!
The two texts of a style sheet, and what they say. The formatted text has line feeds and indentation, the dense one has
neither. Nothing is escaped in them, so a selector that is read for indentation, or a sign that is read for one that
separates, would make them say something else.

Results:
- `toList_build_false`, `toList_build_true`: the texts as blocks one behind the other;
- `flat_inside`, `flat_blocks`: what taking line feeds and indentation away leaves of a block, and of all;
- `build_flat_iff`: the formatted text without them is the dense one, exactly when no selector is read for indentation;
- `block_unique`, `blocks_unique`: a block is found again at the front of a text;
- `build_unique`: rules with the same dense text are the same.
-/

namespace AmpArticle.Css.RuleSet

open Text (replaced replaceAll)

variable {b : Key × Declarations} {bs bs' : List (Key × Declarations)} {ds ds' : Declarations} {r r' : RuleSet}

/-! ## Blocks one behind the other -/

/-- the blocks that have a declaration -/
def shown (r : RuleSet) : List (Key × Declarations) := r.blocks.filter fun b => !b.2.isEmpty

/-- the spaces in front of a declaration that has a line of its own -/
def indent : List Char := "    ".toList

/-- the braces of a block with the declarations between them -/
def inside (formatted : Bool) (ds : Declarations) : List Char :=
  '\x7b' :: ((if formatted then ['\n'] else []) ++ (declarationsText formatted ds).toList ++ ['\x7d'])

/-- a declaration -/
def declaration (d : Key × String) : List Char := d.1.spelling.toList ++ ": ".toList ++ d.2.toList ++ ";".toList

/-- a selector as it stands in front of the brace -/
def heading (b : Key × Declarations) : List Char := b.1.spelling.toList ++ [' ']

theorem toList_blockText (formatted : Bool) (b : Key × Declarations) :
    (blockText formatted b).toList = heading b ++ inside formatted b.2 := by
  cases formatted <;> simp [blockText, heading, inside]

theorem toList_declarationsText_cons (formatted : Bool) (d : Key × String) (ds : Declarations) :
    (declarationsText formatted (d :: ds)).toList = (if formatted then indent else []) ++ declaration d ++
      (if formatted then ['\n'] else []) ++ (declarationsText formatted ds).toList := by
  cases formatted <;> simp [declarationsText, declaration, indent]

theorem toList_build_false (r : RuleSet) :
    (r.build false).toList = r.shown.flatMap fun b => heading b ++ inside false b.2 := by
  rw [build, ← shown]
  cases r.shown with
  | nil => rfl
  | cons b bs => simp [Text.toList_joinWith_cons, List.flatMap_map, toList_blockText]

theorem toList_build_true (h : r.shown = b :: bs) : (r.build true).toList =
    heading b ++ inside true b.2 ++ bs.flatMap fun b => '\n' :: '\n' :: (heading b ++ inside true b.2) := by
  rw [build, ← shown, h, List.map_cons, Text.toList_joinWith_cons, toList_blockText, List.flatMap_map]
  simp [toList_blockText]

/-! ## Line feeds and indentation -/

/-- a text without its indented line starts, and then without its line feeds -/
def flat (cs : List Char) : List Char := (replaced ('\n' :: indent) [] cs).filter (· ≠ '\n')

/-- a text without indentation at its front -/
def unindented (cs : List Char) : List Char := if indent <+: cs then cs.drop indent.length else cs

/-- the texts of a block have no line feed -/
structure OneLine (b : Key × Declarations) : Prop where
  selector : '\n' ∉ b.1.spelling.toList
  declarations : ∀ d ∈ b.2, '\n' ∉ d.1.spelling.toList ∧ '\n' ∉ d.2.toList

instance (b : Key × Declarations) : Decidable (OneLine b) :=
  decidable_of_iff (_ ∧ _) ⟨fun h => ⟨h.1, h.2⟩, fun h => ⟨h.selector, h.declarations⟩⟩

section Flat

variable {xs ys : List Char}

theorem toList_replaceAll_flat (s : String) :
    (replaceAll "\n" "" (replaceAll "\n    " "" s)).toList = flat s.toList := by
  rw [Text.toList_replaceAll, Text.toList_replaceAll]
  exact Text.removed_character '\n' _

theorem flat_append (hxs : '\n' ∉ xs) (ys : List Char) : flat (xs ++ ys) = xs ++ flat ys := by
  rw [flat, Text.replaced_append hxs, List.filter_append, flat]
  refine congrArg (· ++ _) (List.filter_eq_self.2 fun x hx => ?_)
  exact decide_eq_true fun heq => hxs (heq ▸ hx)

theorem flat_cons {c : Char} (hc : c ≠ '\n') (ys : List Char) : flat (c :: ys) = c :: flat ys :=
  flat_append (List.not_mem_cons_of_ne_of_not_mem (Ne.symm hc) List.not_mem_nil) ys

/-- a line feed goes, with the indentation behind it -/
theorem flat_line (ys : List Char) : flat ('\n' :: ys) = flat (unindented ys) := by
  rw [unindented]
  split_ifs with h
  · obtain ⟨zs, rfl⟩ := h
    rw [List.drop_left, flat, ← List.cons_append, Text.replaced_start (List.cons_ne_nil _ _), List.nil_append, flat]
  · rw [flat, Text.replaced_cons (fun hfound => h (List.cons_prefix_cons.1 hfound).2), List.filter_cons_of_neg (by simp),
      flat]

theorem unindented_indent (ys : List Char) : unindented (indent ++ ys) = ys := by
  rw [unindented, if_pos (List.prefix_append _ _), List.drop_left]

/-- a sign that is no space is read for itself -/
theorem unindented_append_cons {c : Char} (hc : c ∉ indent) (xs ys : List Char) :
    unindented (xs ++ c :: ys) = unindented xs ++ c :: ys := by
  rw [unindented, unindented]
  by_cases h : indent <+: xs
  · rw [if_pos ((Text.prefix_append_cons_iff hc xs ys).2 h), if_pos h, List.drop_append_of_le_length h.length_le]
  · rw [if_neg (mt (Text.prefix_append_cons_iff hc xs ys).1 h), if_neg h]

theorem unindented_cons {c : Char} (hc : c ∉ indent) (ys : List Char) : unindented (c :: ys) = c :: ys :=
  unindented_append_cons hc [] ys

theorem length_unindented_le (xs : List Char) : (unindented xs).length ≤ xs.length := by
  rw [unindented]
  split_ifs
  · exact (List.drop_sublist _ _).length_le
  · exact le_rfl

theorem unindented_eq_self_iff : unindented xs = xs ↔ ¬ indent <+: xs := by
  rw [unindented]
  split_ifs with h
  · refine iff_of_false (fun heq => ?_) (not_not_intro h)
    have hlength := congrArg List.length heq
    have hle := h.length_le
    rw [List.length_drop] at hlength
    have hpos : 0 < indent.length := by decide
    omega
  · exact iff_of_true rfl h

end Flat

theorem flat_declarations (h : ∀ d ∈ ds, '\n' ∉ d.1.spelling.toList ∧ '\n' ∉ d.2.toList) (ys : List Char) :
    flat ('\n' :: ((declarationsText true ds).toList ++ '\x7d' :: ys)) =
      (declarationsText false ds).toList ++ '\x7d' :: flat ys := by
  induction ds with
  | nil =>
    rw [flat_line]
    exact (congrArg flat (unindented_cons (by decide) ys)).trans (flat_cons (by decide) ys)
  | cons d ds ih =>
    obtain ⟨hproperty, hvalue⟩ := h d List.mem_cons_self
    have hfree : '\n' ∉ declaration d := by
      simp only [declaration, List.mem_append, not_or]
      exact ⟨⟨⟨hproperty, by decide⟩, hvalue⟩, by decide⟩
    rw [toList_declarationsText_cons, toList_declarationsText_cons]
    simp only [if_true, if_false, Bool.false_eq_true, List.append_assoc, List.nil_append, List.cons_append]
    rw [flat_line, unindented_indent, flat_append hfree, ih fun e he => h e (List.mem_cons_of_mem d he)]

/-- what is between the braces of a block becomes dense -/
theorem flat_inside (h : ∀ d ∈ ds, '\n' ∉ d.1.spelling.toList ∧ '\n' ∉ d.2.toList) (ys : List Char) :
    flat (inside true ds ++ ys) = inside false ds ++ flat ys := by
  simp only [inside, if_true, if_false, Bool.false_eq_true, List.append_assoc, List.nil_append, List.cons_append]
  rw [flat_cons (by decide), flat_declarations h]

theorem heading_free (h : OneLine b) : '\n' ∉ heading b := by
  simp only [heading, List.mem_append, not_or]
  exact ⟨h.selector, by decide⟩

/-- a selector behind a blank line is read for indentation when it can be -/
theorem flat_blocks (h : ∀ b ∈ bs, OneLine b) :
    flat (bs.flatMap fun b => '\n' :: '\n' :: (heading b ++ inside true b.2)) =
      bs.flatMap fun b => unindented (heading b) ++ inside false b.2 := by
  induction bs with
  | nil => rfl
  | cons b bs ih =>
    have hb := h b List.mem_cons_self
    have hfree : '\n' ∉ unindented (heading b) := by
      rw [unindented]
      split_ifs
      · exact fun hmem => heading_free hb (List.mem_of_mem_drop hmem)
      · exact heading_free hb
    rw [List.flatMap_cons, List.flatMap_cons, List.cons_append, List.cons_append, flat_line,
      unindented_cons (by decide), flat_line, List.append_assoc, inside, List.cons_append,
      unindented_append_cons (by decide), ← List.cons_append, ← inside, flat_append hfree, flat_inside hb.declarations,
      ih fun b' hb' => h b' (List.mem_cons_of_mem b hb'), List.append_assoc]

theorem flatMap_eq_iff {α β : Type} {as : List α} {f g : α → List β} (h : ∀ a, (f a).length ≤ (g a).length) :
    as.flatMap f = as.flatMap g ↔ ∀ a ∈ as, f a = g a := by
  refine ⟨fun heq => ?_, fun heq => List.flatMap_congr heq⟩
  have hle (as : List α) : (as.flatMap f).length ≤ (as.flatMap g).length := by
    rw [List.length_flatMap, List.length_flatMap]
    exact List.sum_le_sum fun a _ => h a
  induction as with
  | nil => simp
  | cons a as ih =>
    rw [List.flatMap_cons, List.flatMap_cons] at heq
    have hlength := congrArg List.length heq
    rw [List.length_append, List.length_append] at hlength
    obtain ⟨ha, has⟩ := List.append_inj heq (by have := h a; have := hle as; omega)
    exact List.forall_mem_cons.2 ⟨ha, ih has⟩

/-- whether a selector is read for indentation: it begins with four spaces, or three spaces are all of it -/
def IsIndented (s : String) : Prop := "    ".toList <+: s.toList ∨ s = "   "

instance (s : String) : Decidable (IsIndented s) := inferInstanceAs (Decidable (_ ∨ _))

theorem indent_prefix_heading_iff : indent <+: heading b ↔ IsIndented b.1.spelling := by
  rw [heading, List.prefix_concat_iff, IsIndented, or_comm, ← String.toList_inj]
  refine or_congr_right ?_
  rw [show indent = "   ".toList ++ [' '] from rfl, List.append_cancel_right_eq, eq_comm]

/-- **The formatted text without line feeds and indentation is the dense text**, as long as no text in it has a line
feed, exactly when no selector but the first is read for indentation. -/
theorem build_flat_iff (h : ∀ b ∈ r.shown, OneLine b) :
    replaceAll "\n" "" (replaceAll "\n    " "" (r.build true)) = r.build false ↔
      ∀ b ∈ r.shown.tail, ¬ IsIndented b.1.spelling := by
  rw [← String.toList_inj, toList_replaceAll_flat]
  cases hshown : r.shown with
  | nil =>
    rw [build, build, ← shown, hshown]
    exact iff_of_true rfl (by simp)
  | cons b bs =>
    rw [hshown] at h
    have hb := h b List.mem_cons_self
    rw [toList_build_true hshown, toList_build_false, hshown, List.append_assoc, flat_append (heading_free hb),
      flat_inside hb.declarations, flat_blocks fun b' hb' => h b' (List.mem_cons_of_mem b hb'), List.flatMap_cons,
      List.append_assoc, List.append_cancel_left_eq, List.append_cancel_left_eq, flatMap_eq_iff]
    · simp only [List.append_cancel_right_eq, unindented_eq_self_iff, indent_prefix_heading_iff, List.tail_cons]
    · intro b'
      rw [List.length_append, List.length_append]
      exact Nat.add_le_add_right (length_unindented_le _) _

/-- texts with spaces, braces and semicolons in them; the first selector begins with four spaces -/
def spacedCalls : List Call :=
  [.property (.text "    a") (.text "  \x7d \x7b") (.text " ;;    "), .property (.text "  ") (.text "") (.int 1),
    .property (.text "    a") .null (.text "b")]

theorem build_flat_iff_spaced : (∀ b ∈ ((empty "x-").afterAll spacedCalls).shown, OneLine b) ∧
    (∀ b ∈ ((empty "x-").afterAll spacedCalls).shown.tail, ¬ IsIndented b.1.spelling) ∧
    replaceAll "\n" "" (replaceAll "\n    " "" (((empty "x-").afterAll spacedCalls).build true)) =
      ((empty "x-").afterAll spacedCalls).build false := by
  have hlines : ∀ b ∈ ((empty "x-").afterAll spacedCalls).shown, OneLine b := by decide +kernel
  have hindented : ∀ b ∈ ((empty "x-").afterAll spacedCalls).shown.tail, ¬ IsIndented b.1.spelling := by
    decide +kernel
  exact ⟨hlines, hindented, (build_flat_iff hlines).2 hindented⟩

/-- **A selector of three spaces** does not begin with four, but with the space in front of the brace it is read for
indentation. -/
theorem build_flat_three : ¬ ∀ cs, (∀ b ∈ ((empty "x-").afterAll cs).shown,
      OneLine b ∧ ¬ "    ".toList <+: b.1.spelling.toList) →
    replaceAll "\n" "" (replaceAll "\n    " "" (((empty "x-").afterAll cs).build true)) =
      ((empty "x-").afterAll cs).build false := by
  intro h
  have hflat := h [.property (.text "a") (.text "x") (.text "1"), .property (.text "   ") (.text "y") (.text "2")]
    (by decide +kernel)
  revert hflat
  decide +kernel

/-! ## Blocks found again -/

/-- what a declaration says -/
def saidBy (d : Key × String) : String × String := (d.1.spelling, d.2)

/-- what a block says: its selector, and its declarations -/
def texts (b : Key × Declarations) : String × List (String × String) := (b.1.spelling, b.2.map saidBy)

/-- the texts of a declaration do not hold the sign that ends them, and the property does not begin like the end of a
block -/
structure Delimited (d : Key × String) : Prop where
  property : ':' ∉ d.1.spelling.toList
  start : d.1.spelling.toList.head? ≠ some '\x7d'
  value : ';' ∉ d.2.toList

instance (d : Key × String) : Decidable (Delimited d) :=
  decidable_of_iff (_ ∧ _ ∧ _) ⟨fun h => ⟨h.1, h.2.1, h.2.2⟩, fun h => ⟨h.property, h.start, h.value⟩⟩

/-- the same of a block, whose selector does not hold the brace behind it -/
structure Legible (b : Key × Declarations) : Prop where
  selector : '\x7b' ∉ b.1.spelling.toList
  declarations : ∀ d ∈ b.2, Delimited d

instance (b : Key × Declarations) : Decidable (Legible b) :=
  decidable_of_iff (_ ∧ _) ⟨fun h => ⟨h.1, h.2⟩, fun h => ⟨h.selector, h.declarations⟩⟩

section Unique

variable {d d' : Key × String} {xs ys : List Char}

theorem declaration_unique (hd : Delimited d) (hd' : Delimited d')
    (h : declaration d ++ xs = declaration d' ++ ys) : saidBy d = saidBy d' ∧ xs = ys := by
  have hsigns (e : Key × String) (zs : List Char) :
      declaration e ++ zs = e.1.spelling.toList ++ ':' :: ' ' :: (e.2.toList ++ ';' :: zs) := by
    simp [declaration]
  rw [hsigns, hsigns] at h
  obtain ⟨hproperty, h⟩ := Text.append_cons_unique hd.property hd'.property h
  obtain ⟨hvalue, hrest⟩ := Text.append_cons_unique hd.value hd'.value (List.cons.inj h).2
  exact ⟨Prod.ext (String.toList_inj.1 hproperty) (String.toList_inj.1 hvalue), hrest⟩

/-- a declaration does not begin like the end of its block -/
theorem declaration_ne_brace (hd : Delimited d) :
    declaration d ++ xs ≠ '\x7d' :: ys := by
  intro h
  cases hp : d.1.spelling.toList with
  | nil => simp [declaration, hp] at h
  | cons c cs =>
    simp only [declaration, hp, List.cons_append, List.cons.injEq] at h
    exact hd.start (by rw [hp, h.1]; rfl)

theorem declarationsText_unique (hds : ∀ d ∈ ds, Delimited d) (hds' : ∀ d ∈ ds', Delimited d)
    (h : (declarationsText false ds).toList ++ '\x7d' :: xs = (declarationsText false ds').toList ++ '\x7d' :: ys) :
    ds.map saidBy = ds'.map saidBy ∧ xs = ys := by
  have hcons (d : Key × String) (ds : Declarations) (zs : List Char) :
      (declarationsText false (d :: ds)).toList ++ zs = declaration d ++ ((declarationsText false ds).toList ++ zs) := by
    simp [toList_declarationsText_cons]
  induction ds generalizing ds' with
  | nil =>
    cases ds' with
    | nil => exact ⟨rfl, (List.cons.inj h).2⟩
    | cons d' ds' =>
      rw [hcons] at h
      exact absurd h.symm (declaration_ne_brace (hds' d' List.mem_cons_self))
  | cons d ds ih =>
    cases ds' with
    | nil =>
      rw [hcons] at h
      exact absurd h (declaration_ne_brace (hds d List.mem_cons_self))
    | cons d' ds' =>
      rw [hcons, hcons] at h
      obtain ⟨hd, h⟩ := declaration_unique (hds d List.mem_cons_self) (hds' d' List.mem_cons_self) h
      obtain ⟨hrest, hxs⟩ := ih (fun e he => hds e (List.mem_cons_of_mem d he))
        (fun e he => hds' e (List.mem_cons_of_mem d' he)) h
      exact ⟨by rw [List.map_cons, List.map_cons, hd, hrest], hxs⟩

/-- **A block is found again** at the front of a text: its selector ends at the first brace, and what is between the
braces where a declaration would begin like their end. -/
theorem block_unique (hb : Legible b) {b' : Key × Declarations} (hb' : Legible b')
    (h : heading b ++ inside false b.2 ++ xs = heading b' ++ inside false b'.2 ++ ys) : texts b = texts b' ∧ xs = ys := by
  have hbrace (e : Key × Declarations) (zs : List Char) : heading e ++ inside false e.2 ++ zs =
      heading e ++ '\x7b' :: ((declarationsText false e.2).toList ++ '\x7d' :: zs) := by
    simp [inside]
  have hheading {e : Key × Declarations} (he : Legible e) : '\x7b' ∉ heading e := by
    simp only [heading, List.mem_append, not_or]
    exact ⟨he.selector, by decide⟩
  rw [hbrace, hbrace] at h
  obtain ⟨hselector, h⟩ := Text.append_cons_unique (hheading hb) (hheading hb') h
  obtain ⟨hdeclarations, hrest⟩ := declarationsText_unique hb.declarations hb'.declarations h
  exact ⟨Prod.ext (String.toList_inj.1 (List.append_cancel_right hselector)) hdeclarations, hrest⟩

theorem blocks_unique (hbs : ∀ b ∈ bs, Legible b) (hbs' : ∀ b ∈ bs', Legible b)
    (h : (bs.flatMap fun b => heading b ++ inside false b.2) = bs'.flatMap fun b => heading b ++ inside false b.2) :
    bs.map texts = bs'.map texts := by
  have hne (b : Key × Declarations) (zs : List Char) : heading b ++ inside false b.2 ++ zs ≠ [] := by
    simp [heading]
  induction bs generalizing bs' with
  | nil =>
    cases bs' with
    | nil => rfl
    | cons b' bs' => exact absurd h.symm (hne b' _)
  | cons b bs ih =>
    cases bs' with
    | nil => exact absurd h (hne b _)
    | cons b' bs' =>
      obtain ⟨hb, hrest⟩ := block_unique (hbs b List.mem_cons_self) (hbs' b' List.mem_cons_self) h
      rw [List.map_cons, List.map_cons, hb, ih (fun e he => hbs e (List.mem_cons_of_mem b he))
        (fun e he => hbs' e (List.mem_cons_of_mem b' he)) hrest]

end Unique

/-! ## What calls lead to -/

/-- rules that calls with a property have led to, those calls included that failed -/
def Reached (p : Call → Prop) (r : RuleSet) : Prop :=
  ∃ classPrefix spacing cs, (∀ c ∈ cs, p c) ∧ r = afterAll ⟨classPrefix, spacing, []⟩ cs

/-- what holds without blocks, and after each call with the property, holds of all that is reached -/
theorem Reached.keeps {p : Call → Prop} {P : List (Key × Declarations) → Prop} (h : r.Reached p) (hstart : P [])
    (hstep : ∀ (r : RuleSet) c, p c → P r.blocks → P (r.perform c).rules.blocks) : P r.blocks := by
  obtain ⟨classPrefix, spacing, cs, hcs, rfl⟩ := h
  have hrun (r : RuleSet) (hr : P r.blocks) : P (r.afterAll cs).blocks := by
    induction cs generalizing r with
    | nil => exact hr
    | cons c cs ih =>
      obtain ⟨hc, hrest⟩ := List.forall_mem_cons.1 hcs
      rw [afterAll, List.foldl_cons]
      exact ih hrest _ (hstep r c hc hr)
  exact hrun _ hstart

/-- what a call is given for a property can be one -/
def Call.HasProperty (c : Call) : Prop := ∃ p, c.propertyKey = .ok p

theorem set_ne_nil (property : Key) (value : String) (ds : Declarations) : Declarations.set property value ds ≠ [] := by
  cases ds with
  | nil => exact List.cons_ne_nil _ _
  | cons d ds =>
    rw [Declarations.set]
    split_ifs <;> exact List.cons_ne_nil _ _

theorem modifyBlock_filled {t : Key} {f : Declarations → Declarations} (hf : ∀ ds, f ds ≠ [])
    (h : ∀ b ∈ bs, b.2 ≠ []) : ∀ b ∈ modifyBlock t f bs, b.2 ≠ [] := by
  induction bs with
  | nil => simpa [modifyBlock] using hf []
  | cons b bs ih =>
    obtain ⟨hb, hbs⟩ := List.forall_mem_cons.1 h
    rw [modifyBlock]
    split_ifs
    · exact List.forall_mem_cons.2 ⟨hf _, hbs⟩
    · exact List.forall_mem_cons.2 ⟨hb, ih hbs⟩

theorem perform_filled {c : Call} (hc : c.HasProperty) (h : ∀ b ∈ r.blocks, b.2 ≠ []) :
    ∀ b ∈ (r.perform c).rules.blocks, b.2 ≠ [] := by
  obtain ⟨p, hp⟩ := hc
  rw [perform_eq, hp]
  cases c.selector r.classPrefix r.spacing with
  | error fault => exact h
  | ok s => exact modifyBlock_filled (set_ne_nil p c.text) h

/-- when nothing is refused for a property, every selector has a declaration -/
theorem Reached.filled (h : r.Reached Call.HasProperty) : ∀ b ∈ r.blocks, b.2 ≠ [] :=
  h.keeps (P := fun bs => ∀ b ∈ bs, b.2 ≠ []) (by simp) fun _ _ => perform_filled

theorem Call.HasTextKeys.hasProperty {c : Call} (h : c.HasTextKeys) : c.HasProperty := by
  cases c with
  | property selector property value =>
    obtain ⟨-, p, rfl⟩ := h
    exact ⟨_, rfl⟩
  | names ns property value | dimension ns property value unit | sides ns property top right bottom left unit =>
    obtain ⟨p, rfl⟩ := h
    exact ⟨_, rfl⟩
  | heightSpacing ns height unit => exact ⟨_, rfl⟩

theorem Reached.hasProperty (h : r.Reached Call.HasTextKeys) : r.Reached Call.HasProperty := by
  obtain ⟨classPrefix, spacing, cs, hcs, hr⟩ := h
  exact ⟨classPrefix, spacing, cs, fun c hc => (hcs c hc).hasProperty, hr⟩

/-- a call with texts for keys makes a write or does nothing -/
theorem perform_text {c : Call} (hc : c.HasTextKeys) {ws : History} (h : r.blocks = Css.blocks ws) :
    ∃ ws' : History, (r.perform c).rules.blocks = Css.blocks ws' := by
  rcases hperform : r.perform c with ⟨r', _ | fault⟩
  · obtain ⟨w, -, rfl⟩ := perform_write hc hperform
    refine ⟨ws ++ [w], ?_⟩
    rw [set_eq_updateAll, h, Css.blocks, Css.blocks, updateAll, updateAll, updateAll, List.foldl_append]
  · rcases perform_fails hperform with rfl | ⟨s, -, hfault, -⟩
    · exact ⟨ws, h⟩
    · obtain ⟨p, hp⟩ := hc.hasProperty
      cases hp.symm.trans hfault

/-- rules that calls with texts for keys have led to are those of a history -/
theorem Reached.history (h : r.Reached Call.HasTextKeys) : ∃ ws : History, r.blocks = Css.blocks ws := by
  refine h.keeps (P := fun bs => ∃ ws : History, bs = Css.blocks ws) ⟨[], rfl⟩ ?_
  rintro r c hc ⟨ws, hws⟩
  exact perform_text hc hws

/-- the block that says texts -/
def ofTexts (t : String × List (String × String)) : Key × Declarations :=
  (.ofText t.1, t.2.map fun p => (.ofText p.1, p.2))

/-- blocks of a history are given by what they say -/
theorem ofTexts_texts {ws : History} (h : b ∈ Css.blocks ws) : ofTexts (texts b) = b := by
  rw [History.blocks_eq] at h
  obtain ⟨s, -, rfl⟩ := List.mem_map.1 h
  simp [ofTexts, texts, saidBy, History.settle_eq, Key.ofText, Function.comp_def]

theorem Reached.ofTexts (h : r.Reached Call.HasTextKeys) : (r.blocks.map texts).map RuleSet.ofTexts = r.blocks := by
  obtain ⟨ws, hws⟩ := h.history
  rw [List.map_map, hws]
  exact (List.map_congr_left fun b hb => ofTexts_texts hb).trans (List.map_id _)

/-- when every selector has a declaration, all blocks are shown -/
theorem shown_eq_blocks (h : ∀ b ∈ r.blocks, b.2 ≠ []) : r.shown = r.blocks := by
  refine List.filter_eq_self.2 fun b hb => ?_
  rw [List.isEmpty_eq_false_iff.2 (h b hb), Bool.not_false]

/-- **The dense text tells what rules say.** When no text in it holds the sign that ends it, and no property begins like
the end of a block, then rules with the same dense text show the same selectors with the same properties and values in
the same order. They have no others when no call was refused for its property, and they have the same keys when the
calls had texts for keys. -/
theorem build_unique (hr : ∀ b ∈ r.shown, Legible b) (hr' : ∀ b ∈ r'.shown, Legible b)
    (h : r.build false = r'.build false) :
    r.shown.map texts = r'.shown.map texts ∧
      (r.Reached Call.HasProperty → r'.Reached Call.HasProperty → r.blocks.map texts = r'.blocks.map texts) ∧
      (r.Reached Call.HasTextKeys → r'.Reached Call.HasTextKeys → r.blocks = r'.blocks) := by
  have hshown : r.shown.map texts = r'.shown.map texts := by
    refine blocks_unique hr hr' ?_
    rw [← toList_build_false, ← toList_build_false, h]
  have hblocks (hreached : r.Reached Call.HasProperty) (hreached' : r'.Reached Call.HasProperty) :
      r.blocks.map texts = r'.blocks.map texts := by
    rwa [shown_eq_blocks hreached.filled, shown_eq_blocks hreached'.filled] at hshown
  refine ⟨hshown, hblocks, fun htext htext' => ?_⟩
  rw [← htext.ofTexts, ← htext'.ofTexts, hblocks htext.hasProperty htext'.hasProperty]

/-- calls with signs inside the texts that do not end there, and one that is refused for its class names -/
def signCalls : List Call :=
  [.property (.text ";:\x7d") (.text "\x7b;") (.text "x"), .property (.text ";:\x7d") (.text "\x7b;") (.text "\x7d:\x7b"),
    .names (.other .null) (.text "p") (.text "v"), .names (.name "") (.text "") (.text "")]

/-- other calls that lead to the same text -/
def otherSignCalls : List Call :=
  [.property (.text ";:\x7d") (.text "\x7b;") (.text "\x7d:\x7b"), .property (.text ".x-") (.text "") (.text "")]

theorem build_unique_signs :
    let r := afterAll ⟨"x-", "gap", []⟩ signCalls
    let r' := afterAll ⟨"y-", "gap", []⟩ otherSignCalls
    (∀ b ∈ r.shown, Legible b) ∧ (∀ b ∈ r'.shown, Legible b) ∧ r.build false = r'.build false ∧
      r.blocks = r'.blocks := by
  intro r r'
  have hr : ∀ b ∈ r.shown, Legible b := by decide +kernel
  have hr' : ∀ b ∈ r'.shown, Legible b := by decide +kernel
  have hbuild : r.build false = r'.build false := by decide +kernel
  refine ⟨hr, hr', hbuild, (build_unique hr hr' hbuild).2.2 ⟨_, _, _, ?_, rfl⟩ ⟨_, _, _, ?_, rfl⟩⟩
  · simp [signCalls, Call.HasTextKeys, IsText]
  · simp [otherSignCalls, Call.HasTextKeys, IsText]

end AmpArticle.Css.RuleSet
