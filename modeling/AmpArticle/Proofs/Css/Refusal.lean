import AmpArticle.Proofs.Css.Rules

/-!
Calls on rules that fail. A call finds its selector, enters it, and then looks at its property. It can fail before the
selector is entered and after, and only then has it done anything: a selector without declarations stands among the
others. No style sheet shows it, but the declarations that it gets later stand in its place.

Results:
- `perform_eq`: what a call does, and when it fails;
- `Ahead`, `Ahead.modify`, `ahead_afterAll`: a selector that has been entered ahead of its declarations, through one
  call and through any number of them;
- `perform_refused`: what a call that fails leaves behind;
- `perform_refused_place`: a selector may be left behind, and its place is seen later.
-/

namespace AmpArticle.Css.RuleSet

variable {s t : Key} {f : Declarations → Declarations} {bs bs' : List (Key × Declarations)} {keys : List Key}

/-! ## Selectors of blocks -/

/-- whether a selector is one of those of blocks -/
def Entered (s : Key) (bs : List (Key × Declarations)) : Prop := ∃ k ∈ bs.map Prod.fst, k.identity = s.identity

instance (s : Key) (bs : List (Key × Declarations)) : Decidable (Entered s bs) :=
  inferInstanceAs (Decidable (∃ k ∈ bs.map Prod.fst, k.identity = s.identity))

@[simp] theorem entered_nil : ¬ Entered s [] := by simp [Entered]

@[simp] theorem entered_cons {b : Key × Declarations} :
    Entered s (b :: bs) ↔ b.1.identity = s.identity ∨ Entered s bs := by
  simp only [Entered, List.map_cons, List.mem_cons, exists_eq_or_imp]

@[simp] theorem entered_append : Entered s (bs ++ bs') ↔ Entered s bs ∨ Entered s bs' := by
  simp only [Entered, List.map_append, List.mem_append, or_and_right, exists_or]

theorem entered_congr (h : s.identity = t.identity) : Entered s bs ↔ Entered t bs := by rw [Entered, Entered, h]

theorem modifyBlock_keys (h : Entered t bs) : (modifyBlock t f bs).map Prod.fst = bs.map Prod.fst := by
  induction bs with
  | nil => exact absurd h entered_nil
  | cons b bs ih =>
    rw [modifyBlock]
    split_ifs with hb
    · rfl
    · rw [List.map_cons, List.map_cons, ih ((entered_cons.1 h).resolve_left hb)]

theorem modifyBlock_id (h : Entered t bs) : modifyBlock t id bs = bs := by
  induction bs with
  | nil => exact absurd h entered_nil
  | cons b bs ih =>
    rw [modifyBlock]
    split_ifs with hb
    · rfl
    · rw [ih ((entered_cons.1 h).resolve_left hb)]

theorem modifyBlock_append (h : Entered t bs) (bs' : List (Key × Declarations)) :
    modifyBlock t f (bs ++ bs') = modifyBlock t f bs ++ bs' := by
  induction bs with
  | nil => exact absurd h entered_nil
  | cons b bs ih =>
    rw [List.cons_append, modifyBlock, modifyBlock]
    split_ifs with hb
    · rfl
    · rw [ih ((entered_cons.1 h).resolve_left hb), List.cons_append]

theorem modifyBlock_append_new (h : ¬ Entered t bs) (bs' : List (Key × Declarations)) :
    modifyBlock t f (bs ++ bs') = bs ++ modifyBlock t f bs' := by
  rw [modifyBlock_eq_update, modifyBlock_eq_update]
  exact update_append (fun b hb heq => h ⟨b.1, List.mem_map_of_mem hb, heq⟩) bs'

theorem modifyBlock_new (h : ¬ Entered t bs) : modifyBlock t f bs = bs ++ [(t, f [])] := by
  rw [← List.append_nil bs, modifyBlock_append_new h, List.append_nil]
  rfl

theorem entered_modifyBlock : Entered s (modifyBlock t f bs) ↔ Entered s bs ∨ t.identity = s.identity := by
  by_cases h : Entered t bs
  · rw [Entered, modifyBlock_keys h]
    refine ⟨.inl, fun hs => hs.elim id fun heq => (entered_congr heq).1 h⟩
  · rw [modifyBlock_new h, entered_append, entered_cons]
    simp

/-! ## What a call does -/

/-- the selector that a call writes under -/
def Call.selector (classPrefix spacing : String) : Call → Except Fault Key
  | .property selector _ _ => Key.ofJson selector
  | .names ns _ _ | .dimension ns _ _ _ | .sides ns _ _ _ _ _ _ => Key.ofText <$> ns.selector classPrefix
  | .heightSpacing ns _ _ => (fun s => Key.ofText (s ++ " + ." ++ classPrefix ++ spacing)) <$> ns.selector classPrefix

/-- the property that a call sets -/
def Call.propertyKey : Call → Except Fault Key
  | .property _ p _ | .names _ p _ | .dimension _ p _ _ | .sides _ p _ _ _ _ _ => Key.ofJson p
  | .heightSpacing _ _ _ => .ok (.ofText "height")

/-- the text that a call sets a property to -/
def Call.text : Call → String
  | .property _ _ value | .names _ _ value => value.plain
  | .dimension _ _ value unit | .heightSpacing _ value unit => Css.dimension value unit
  | .sides _ _ top right bottom left unit => Css.sides top right bottom left unit

/-- **What a call does**: it finds its selector, enters it, finds its property and sets it. -/
theorem perform_eq (r : RuleSet) (c : Call) : r.perform c =
    match c.selector r.classPrefix r.spacing with
    | .error fault => ⟨r, some fault⟩
    | .ok s =>
      match c.propertyKey with
      | .error fault => ⟨{ r with blocks := modifyBlock s id r.blocks }, some fault⟩
      | .ok p => ⟨r.setKey s p c.text, none⟩ := by
  cases c with
  | property selector property value => rfl
  | names ns property value | dimension ns property value unit | sides ns property top right bottom left unit
  | heightSpacing ns height unit =>
    simp only [perform, addToSelector, addDimension, addSides, addHeightSpacing, Call.selector]
    cases ns.selector r.classPrefix <;> rfl

/-- a call changes the declarations under one selector, or nothing, and which does not depend on the blocks -/
theorem perform_blocks (classPrefix spacing : String) (c : Call) :
    (∀ bs, (perform ⟨classPrefix, spacing, bs⟩ c).rules = ⟨classPrefix, spacing, bs⟩) ∨
      ∃ t f, ∀ bs, (perform ⟨classPrefix, spacing, bs⟩ c).rules = ⟨classPrefix, spacing, modifyBlock t f bs⟩ := by
  simp only [perform_eq]
  cases c.selector classPrefix spacing with
  | error fault => exact .inl fun bs => rfl
  | ok t =>
    refine .inr ?_
    cases c.propertyKey with
    | error fault => exact ⟨t, id, fun bs => rfl⟩
    | ok p => exact ⟨t, Declarations.set p c.text, fun bs => rfl⟩

/-- the rules after calls one after the other, whether they fail or not -/
def afterAll (r : RuleSet) (cs : List Call) : RuleSet := cs.foldl (fun r c => (r.perform c).rules) r

/-! ## A selector ahead of its declarations -/

/-- blocks, and what they are with a selector entered early, behind those that were there then: it has its place, and
the declarations that it has got since, if any -/
inductive Ahead (s : Key) (keys : List Key) : List (Key × Declarations) → List (Key × Declarations) → Prop
  | unwritten {old new : List (Key × Declarations)} : old.map Prod.fst = keys → ¬ Entered s new →
      Ahead s keys (old ++ new) (old ++ (s, []) :: new)
  | written {old before after : List (Key × Declarations)} {t : Key} {ds : Declarations} :
      old.map Prod.fst = keys → ¬ Entered s before → t.identity = s.identity →
      Ahead s keys (old ++ (before ++ (t, ds) :: after)) (old ++ (s, ds) :: (before ++ after))

/-- declarations changed under one selector on both sides -/
theorem Ahead.modify (h : Ahead s keys bs bs') (t : Key)
    (f : Declarations → Declarations) : Ahead s keys (modifyBlock t f bs) (modifyBlock t f bs') := by
  cases h with
  | @unwritten old new hkeys hnew =>
    by_cases hold : Entered t old
    · rw [modifyBlock_append hold, modifyBlock_append hold]
      exact .unwritten ((modifyBlock_keys hold).trans hkeys) hnew
    · rw [modifyBlock_append_new hold, modifyBlock_append_new hold, modifyBlock]
      by_cases ht : s.identity = t.identity
      · rw [if_pos ht, modifyBlock_new (mt (entered_congr ht).2 hnew)]
        have hwritten : Ahead s keys (old ++ (new ++ (t, f []) :: [])) (old ++ (s, f []) :: (new ++ [])) :=
          .written hkeys hnew ht.symm
        rwa [List.append_nil] at hwritten
      · rw [if_neg ht]
        exact .unwritten hkeys fun h => (entered_modifyBlock.1 h).elim hnew (Ne.symm ht)
  | @written old before after t' ds hkeys hbefore ht' =>
    by_cases hold : Entered t old
    · rw [modifyBlock_append hold, modifyBlock_append hold]
      exact .written ((modifyBlock_keys hold).trans hkeys) hbefore ht'
    · rw [modifyBlock_append_new hold, modifyBlock_append_new hold, modifyBlock]
      by_cases ht : s.identity = t.identity
      · rw [if_pos ht, modifyBlock_append_new (mt (entered_congr ht).2 hbefore), modifyBlock, if_pos (ht'.trans ht)]
        exact .written hkeys hbefore ht'
      · rw [if_neg ht]
        by_cases hmem : Entered t before
        · rw [modifyBlock_append hmem, modifyBlock_append hmem]
          exact .written hkeys (fun h => (entered_modifyBlock.1 h).elim hbefore (Ne.symm ht)) ht'
        · rw [modifyBlock_append_new hmem, modifyBlock_append_new hmem, modifyBlock,
            if_neg fun h => ht (ht'.symm.trans h)]
          exact .written hkeys hbefore ht'

/-- any calls on both sides -/
theorem ahead_afterAll (classPrefix spacing : String) (cs : List Call)
    (h : Ahead s keys bs bs') :
    Ahead s keys (afterAll ⟨classPrefix, spacing, bs⟩ cs).blocks (afterAll ⟨classPrefix, spacing, bs'⟩ cs).blocks := by
  induction cs generalizing bs bs' with
  | nil => exact h
  | cons c cs ih =>
    rw [afterAll, afterAll, List.foldl_cons, List.foldl_cons]
    rcases perform_blocks classPrefix spacing c with hnone | ⟨t, f, hsome⟩
    · rw [hnone, hnone]
      exact ih h
    · rw [hsome, hsome]
      exact ih (h.modify t f)

/-- there are declarations on both sides or on none -/
theorem Ahead.isEmpty (h : Ahead s keys bs bs') :
    (bs'.all fun b => b.2.isEmpty) = bs.all fun b => b.2.isEmpty := by
  cases h with
  | unwritten => simp
  | written => simp [Bool.and_left_comm]

/-- without declarations under it, a selector is in no style sheet -/
theorem Ahead.filter (h : Ahead s keys bs bs') (hnone : ∀ b ∈ bs, b.1.identity = s.identity → b.2 = []) :
    (bs'.filter fun b => !b.2.isEmpty) = bs.filter fun b => !b.2.isEmpty := by
  cases h with
  | unwritten => simp
  | @written old before after t ds _ _ ht =>
    obtain rfl : ds = [] := hnone (t, ds) (by simp) ht
    simp

/-! ## Calls that fail -/

variable {r r' : RuleSet} {c : Call} {fault : Fault}

/-- a call that fails has done nothing, or has entered a new selector before it came to its property -/
theorem perform_fails (h : r.perform c = ⟨r', some fault⟩) : r' = r ∨ ∃ s, c.selector r.classPrefix r.spacing = .ok s ∧
    c.propertyKey = .error fault ∧ ¬ Entered s r.blocks ∧ r' = { r with blocks := r.blocks ++ [(s, [])] } := by
  rw [perform_eq] at h
  cases hselector : c.selector r.classPrefix r.spacing with
  | error fault' =>
    rw [hselector] at h
    cases h
    exact .inl rfl
  | ok s =>
    cases hproperty : c.propertyKey with
    | error fault' =>
      rw [hselector, hproperty] at h
      cases h
      by_cases hs : Entered s r.blocks
      · exact .inl (by rw [modifyBlock_id hs])
      · exact .inr ⟨s, rfl, rfl, hs, by rw [modifyBlock_new hs]; rfl⟩
    | ok p =>
      rw [hselector, hproperty] at h
      cases h

/-- **A call that fails** leaves the style sheet as it is, and there are declarations after any further calls just when
there would have been some without it. At most it leaves a new selector behind, when it fails because of its property.
That is in its place whatever is called next, and no style sheet is another while there is no declaration under it. -/
theorem perform_refused (h : r.perform c = ⟨r', some fault⟩) :
    (∀ formatted, r'.build formatted = r.build formatted) ∧
      (∀ cs, (r'.afterAll cs).isEmpty = (r.afterAll cs).isEmpty) ∧
      (r' = r ∨ ∃ s, c.selector r.classPrefix r.spacing = .ok s ∧ c.propertyKey = .error fault ∧
        ¬ Entered s r.blocks ∧
        (∀ cs, Ahead s (r.blocks.map Prod.fst) (r.afterAll cs).blocks (r'.afterAll cs).blocks) ∧
        ∀ cs, (∀ b ∈ (r.afterAll cs).blocks, b.1.identity = s.identity → b.2 = []) →
          ∀ formatted, (r'.afterAll cs).build formatted = (r.afterAll cs).build formatted) := by
  rcases perform_fails h with rfl | ⟨s, hselector, hproperty, hnew, rfl⟩
  · exact ⟨fun _ => rfl, fun _ => rfl, .inl rfl⟩
  · have hahead (cs : List Call) : Ahead s (r.blocks.map Prod.fst) (r.afterAll cs).blocks
        (afterAll { r with blocks := r.blocks ++ [(s, [])] } cs).blocks := by
      refine ahead_afterAll r.classPrefix r.spacing cs ?_
      have hnone : Ahead s (r.blocks.map Prod.fst) (r.blocks ++ []) (r.blocks ++ (s, []) :: []) :=
        .unwritten rfl entered_nil
      rwa [List.append_nil] at hnone
    have hbuild (cs : List Call) (hnone : ∀ b ∈ (r.afterAll cs).blocks, b.1.identity = s.identity → b.2 = [])
        (formatted : Bool) : (afterAll { r with blocks := r.blocks ++ [(s, [])] } cs).build formatted =
          (r.afterAll cs).build formatted := by
      rw [build, build, (hahead cs).filter hnone]
    refine ⟨hbuild [] fun b hb heq => absurd ⟨b.1, List.mem_map_of_mem hb, heq⟩ hnew, fun cs => ?_, .inr ?_⟩
    · rw [isEmpty, isEmpty, (hahead cs).isEmpty]
    · exact ⟨s, hselector, hproperty, hnew, hahead, hbuild⟩

/-- a declaration under a new selector, for a property that is none -/
def listedProperty : Call := .property (.text "a") (.list []) (.text "1")

theorem perform_refused_listed : ∃ r' fault, (empty "x-").perform listedProperty = ⟨r', some fault⟩ ∧
    (∀ formatted, r'.build formatted = (empty "x-").build formatted) ∧
    ∀ cs, (r'.afterAll cs).isEmpty = ((empty "x-").afterAll cs).isEmpty := by
  have hfails : (empty "x-").perform listedProperty = ⟨_, some (.unhashable "list")⟩ := rfl
  obtain ⟨hbuild, hempty, -⟩ := perform_refused hfails
  exact ⟨_, _, hfails, hbuild, hempty⟩

/-- declarations under another selector and then under the same -/
def laterCalls : List Call :=
  [.property (.text "b") (.text "x") (.text "1"), .property (.text "a") (.text "y") (.text "2")]

/-- **A selector that is left behind** is seen by its place, once there are declarations under it and another. -/
theorem perform_refused_place : ¬ ∀ (r r' : RuleSet) (c : Call) (fault : Fault), r.perform c = ⟨r', some fault⟩ →
    ∀ cs formatted, (r'.afterAll cs).build formatted = (r.afterAll cs).build formatted := by
  intro h
  have hfails : (empty "x-").perform listedProperty = ⟨_, some (.unhashable "list")⟩ := rfl
  have hbuild := h _ _ _ _ hfails laterCalls false
  have hwith : (afterAll ⟨"x-", spacingClass, [(.ofText "a", [])]⟩ laterCalls).build false =
      "a \x7by: 2;\x7db \x7bx: 1;\x7d" := by decide +kernel
  have hwithout : ((empty "x-").afterAll laterCalls).build false = "b \x7bx: 1;\x7da \x7by: 2;\x7d" := by
    decide +kernel
  have habsurd := hwith.symm.trans (hbuild.trans hwithout)
  revert habsurd
  decide

end AmpArticle.Css.RuleSet
