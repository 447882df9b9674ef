import AmpArticle.Css.Draft
import Mathlib.Data.List.Basic

/-!
Rules made from declarations. A selector keeps the place of its first use and the last value of a property counts, so
in general rules are not made piece by piece. They are when the pieces share no selector, and the declarations under
one selector are when the pieces share no property. Both rest on the same fact about entries under keys.

Results:
- `updateAll_flatMap`: updates with keys of their own, for entries of any kind;
- `build_flatMap`: the style sheet of pieces with selectors of their own;
- `under_eq`, `settle_flatMap`: what the rules have under one selector.
-/

namespace AmpArticle.Css

/-! ## Entries under keys -/

section Updates

variable {α γ : Type}

/-- entries with the value under a key changed, a new key being entered with the value `fresh` -/
def update (key : Key) (f : α → α) (fresh : α) : List (Key × α) → List (Key × α)
  | [] => [(key, fresh)]
  | (k, v) :: rest => if k.identity = key.identity then (k, f v) :: rest else (k, v) :: update key f fresh rest

/-- a change of the value under a key -/
structure Change (α : Type) where
  key : String
  f : α → α
  fresh : α

/-- entries with changes made one after the other -/
def updateAll (change : γ → Change α) (xs : List γ) (es : List (Key × α)) : List (Key × α) :=
  xs.foldl (fun es x => update (.ofText (change x).key) (change x).f (change x).fresh es) es

variable {key : Key} {f : α → α} {fresh : α} {es : List (Key × α)} {change : γ → Change α} {xs : List γ}

theorem update_append (h : ∀ e ∈ es, e.1.identity ≠ key.identity) (es' : List (Key × α)) :
    update key f fresh (es ++ es') = es ++ update key f fresh es' := by
  induction es with
  | nil => rfl
  | cons e es ih =>
    have he := h e List.mem_cons_self
    rw [List.cons_append, update, if_neg he, ih fun e' he' => h e' (List.mem_cons_of_mem _ he')]
    rfl

theorem mem_update {e : Key × α} (h : e ∈ update key f fresh es) :
    e.1.identity = key.identity ∨ ∃ e' ∈ es, e'.1.identity = e.1.identity := by
  induction es with
  | nil => exact .inl (by rw [List.mem_singleton.1 h])
  | cons e' es ih =>
    rw [update] at h
    split_ifs at h with heq
    · rcases List.mem_cons.1 h with rfl | h
      · exact .inl heq
      · exact .inr ⟨e, List.mem_cons_of_mem _ h, rfl⟩
    · rcases List.mem_cons.1 h with rfl | h
      · exact .inr ⟨e', List.mem_cons_self, rfl⟩
      · rcases ih h with hkey | ⟨e'', he'', hkey⟩
        · exact .inl hkey
        · exact .inr ⟨e'', List.mem_cons_of_mem _ he'', hkey⟩

theorem updateAll_append (h : ∀ x ∈ xs, ∀ e ∈ es, e.1.identity ≠ .text (change x).key) (es' : List (Key × α)) :
    updateAll change xs (es ++ es') = es ++ updateAll change xs es' := by
  induction xs generalizing es' with
  | nil => rfl
  | cons x xs ih =>
    have hx : ∀ e ∈ es, e.1.identity ≠ (Key.ofText (change x).key).identity := h x List.mem_cons_self
    rw [updateAll, List.foldl_cons, update_append hx]
    exact ih (fun y hy => h y (List.mem_cons_of_mem _ hy)) _

/-- every entry was there before or belongs to a change -/
theorem mem_updateAll {e : Key × α} (h : e ∈ updateAll change xs es) :
    (∃ x ∈ xs, e.1.identity = .text (change x).key) ∨ ∃ e' ∈ es, e'.1.identity = e.1.identity := by
  induction xs generalizing es with
  | nil => exact .inr ⟨e, h, rfl⟩
  | cons x xs ih =>
    rcases ih h with ⟨y, hy, hkey⟩ | ⟨e', he', hkey⟩
    · exact .inl ⟨y, List.mem_cons_of_mem _ hy, hkey⟩
    · rcases mem_update he' with hupdate | ⟨e'', he'', hkey'⟩
      · exact .inl ⟨x, List.mem_cons_self, hkey.symm.trans hupdate⟩
      · exact .inr ⟨e'', he'', hkey'.trans hkey⟩

theorem updateAll_disjoint {xs' : List γ} (h : ∀ x ∈ xs, ∀ y ∈ xs', (change x).key ≠ (change y).key) :
    updateAll change (xs ++ xs') [] = updateAll change xs [] ++ updateAll change xs' [] := by
  have hapart : ∀ y ∈ xs', ∀ e ∈ updateAll change xs [], e.1.identity ≠ .text (change y).key := by
    intro y hy e he heq
    rcases mem_updateAll he with ⟨x, hx, hkey⟩ | ⟨e', he', -⟩
    · exact h x hx y hy (KeyIdentity.text.inj (hkey.symm.trans heq))
    · cases he'
  calc updateAll change (xs ++ xs') [] = updateAll change xs' (updateAll change xs [] ++ []) := by
        rw [updateAll, List.foldl_append, List.append_nil]
        rfl
    _ = updateAll change xs [] ++ updateAll change xs' [] := updateAll_append hapart []

/-- **Pieces with keys of their own** leave one after the other what each leaves alone. -/
theorem updateAll_flatMap {κ : Type} {ks : List κ} {piece : κ → List γ}
    (h : ks.Pairwise fun k k' => ∀ x ∈ piece k, ∀ y ∈ piece k', (change x).key ≠ (change y).key) :
    updateAll change (ks.flatMap piece) [] = ks.flatMap fun k => updateAll change (piece k) [] := by
  induction ks with
  | nil => rfl
  | cons k ks ih =>
    obtain ⟨hk, hks⟩ := List.pairwise_cons.1 h
    rw [List.flatMap_cons, updateAll_disjoint, ih hks, List.flatMap_cons]
    intro x hx y hy
    obtain ⟨k', hk', hy⟩ := List.mem_flatMap.1 hy
    exact hk k' hk' x hx y hy

end Updates

/-! ## Declarations as updates -/

/-- a declaration among those of its selector -/
def setValue (w : Declaration) : Change String := ⟨w.property, fun _ => w.value, w.value⟩

/-- a declaration among all blocks -/
def setBlock (w : Declaration) : Change Declarations :=
  ⟨w.selector, Declarations.set (.ofText w.property) w.value, [(.ofText w.property, w.value)]⟩

/-- what is left of declarations under one selector: each property in its first place with its last value -/
def settle (ws : List Declaration) : Declarations := updateAll setValue ws []

/-- the blocks of declarations -/
def blocks (ws : List Declaration) : List (Key × Declarations) := updateAll setBlock ws []

theorem set_eq_update (property : Key) (value : String) (ds : Declarations) :
    Declarations.set property value ds = update property (fun _ => value) value ds := by
  induction ds with
  | nil => rfl
  | cons d ds ih => rw [Declarations.set, update, ih]

theorem modifyBlock_eq_update (selector : Key) (f : Declarations → Declarations) (bs : List (Key × Declarations)) :
    RuleSet.modifyBlock selector f bs = update selector f (f []) bs := by
  induction bs with
  | nil => rfl
  | cons b bs ih => rw [RuleSet.modifyBlock, update, ih]

theorem set_eq_updateAll (rules : RuleSet) (w : Declaration) :
    rules.set w.selector w.property w.value = { rules with blocks := updateAll setBlock [w] rules.blocks } := by
  rw [RuleSet.set, RuleSet.setKey, modifyBlock_eq_update]
  rfl

theorem declareIn_eq (d : Draft) (rules : RuleSet) :
    d.declareIn rules = { rules with blocks := updateAll setBlock d.declarations rules.blocks } := by
  rw [Draft.declareIn]
  induction d.declarations generalizing rules with
  | nil => rfl
  | cons w ws ih =>
    rw [List.foldl_cons, set_eq_updateAll, ih]
    rfl

/-- **Declarations with properties of their own** under one selector, piece by piece. -/
theorem settle_flatMap {κ : Type} {ks : List κ} {piece : κ → List Declaration}
    (h : ks.Pairwise fun k k' => ∀ w ∈ piece k, ∀ w' ∈ piece k', w.property ≠ w'.property) :
    settle (ks.flatMap piece) = ks.flatMap fun k => settle (piece k) := updateAll_flatMap h

theorem mem_settle {ws : List Declaration} {d : Key × String} (h : d ∈ settle ws) :
    ∃ w ∈ ws, d.1.identity = .text w.property := by
  rcases mem_updateAll h with hw | ⟨d', hd', -⟩
  · exact hw
  · cases hd'

/-! ## One selector among others -/

/-- the declarations that blocks have under a selector -/
def underIn (selector : String) : List (Key × Declarations) → Declarations
  | [] => []
  | (k, ds) :: rest => if k.identity = .text selector then ds else underIn selector rest

/-- the rules of a draft alone -/
def Draft.rules (classPrefix : String) (d : Draft) : RuleSet := d.declareIn (RuleSet.empty classPrefix)

/-- the declarations of rules under a selector -/
def RuleSet.under (r : RuleSet) (selector : String) : Declarations := underIn selector r.blocks

theorem underIn_update (selector selector' : String) (f : Declarations → Declarations)
    (bs : List (Key × Declarations)) :
    underIn selector (update (.ofText selector') f (f []) bs) =
      if selector' = selector then f (underIn selector bs) else underIn selector bs := by
  induction bs with
  | nil => simp only [update, underIn, Key.ofText, KeyIdentity.text.injEq]
  | cons b bs ih =>
    by_cases hb : b.1.identity = .text selector'
    · rw [update, if_pos (show b.1.identity = (Key.ofText selector').identity from hb), underIn, underIn, hb]
      by_cases hs : selector' = selector
      · rw [if_pos hs, if_pos (by rw [hs]), if_pos (by rw [hs])]
      · rw [if_neg hs, if_neg (mt KeyIdentity.text.inj hs), if_neg (mt KeyIdentity.text.inj hs)]
    · rw [update, if_neg (show b.1.identity ≠ (Key.ofText selector').identity from hb), underIn, ih, underIn]
      by_cases hs : selector' = selector
      · rw [if_pos hs, if_pos hs, ← hs, if_neg hb, if_neg hb]
      · rw [if_neg hs, if_neg hs]

theorem underIn_updateAll (selector : String) (ws : List Declaration) (bs : List (Key × Declarations)) :
    underIn selector (updateAll setBlock ws bs) =
      updateAll setValue (ws.filter fun w => w.selector = selector) (underIn selector bs) := by
  induction ws generalizing bs with
  | nil => rfl
  | cons w ws ih =>
    have hstep : underIn selector (update (.ofText w.selector) (setBlock w).f (setBlock w).fresh bs) =
        if w.selector = selector then (setBlock w).f (underIn selector bs) else underIn selector bs :=
      underIn_update selector w.selector (setBlock w).f bs
    refine (ih _).trans ?_
    by_cases hw : w.selector = selector
    · rw [if_pos hw] at hstep
      rw [List.filter_cons_of_pos (by simpa using hw)]
      refine congrArg _ (hstep.trans ?_)
      exact set_eq_update _ _ _
    · rw [if_neg hw] at hstep
      rw [List.filter_cons_of_neg (by simpa using hw)]
      exact congrArg _ hstep

/-- the declarations of a block are those under its selector when no other block has it -/
theorem underIn_of_mem {selector : String} {bs : List (Key × Declarations)} {ds : Declarations}
    (hnodup : (bs.map fun b => b.1.identity).Nodup) (h : (Key.ofText selector, ds) ∈ bs) :
    underIn selector bs = ds := by
  induction bs with
  | nil => cases h
  | cons b bs ih =>
    obtain ⟨hb, hbs⟩ := List.nodup_cons.1 hnodup
    rcases List.mem_cons.1 h with rfl | h
    · exact if_pos rfl
    · have hne : b.1.identity ≠ .text selector := fun heq => hb (List.mem_map.2 ⟨_, h, heq.symm⟩)
      rw [underIn, if_neg hne, ih hbs h]

/-- **What rules have under a selector** is what is left of the declarations for it. -/
theorem under_eq (classPrefix selector : String) (d : Draft) :
    (d.rules classPrefix).under selector = settle (d.declarations.filter fun w => w.selector = selector) := by
  rw [Draft.rules, declareIn_eq]
  exact underIn_updateAll selector d.declarations []

/-! ## Style sheets -/

/-- the dense style sheet of blocks -/
def blocksText (bs : List (Key × Declarations)) : String :=
  Text.joinWith "" ((bs.filter fun b => !b.2.isEmpty).map (RuleSet.blockText false))

theorem build_eq (classPrefix : String) (d : Draft) :
    (d.rules classPrefix).build false = blocksText (blocks d.declarations) := by
  rw [Draft.rules, declareIn_eq]
  rfl

theorem joinWith_cons (s : String) (ss : List String) : Text.joinWith "" (s :: ss) = s ++ Text.joinWith "" ss := by
  cases ss with
  | nil => simp [Text.joinWith]
  | cons s' ss => simp [Text.joinWith]

theorem joinWith_append (ss ss' : List String) :
    Text.joinWith "" (ss ++ ss') = Text.joinWith "" ss ++ Text.joinWith "" ss' := by
  induction ss with
  | nil => simp [Text.joinWith]
  | cons s ss ih => rw [List.cons_append, joinWith_cons, ih, joinWith_cons, String.append_assoc]

theorem blocksText_flatMap {κ : Type} (ks : List κ) (piece : κ → List (Key × Declarations)) :
    blocksText (ks.flatMap piece) = Text.joinWith "" (ks.map fun k => blocksText (piece k)) := by
  induction ks with
  | nil => rfl
  | cons k ks ih =>
    rw [List.flatMap_cons, List.map_cons, joinWith_cons, ← ih]
    simp only [blocksText, List.filter_append, List.map_append, joinWith_append]

/-- **The style sheet of declarations with selectors of their own**, piece by piece. -/
theorem build_flatMap {κ : Type} {classPrefix : String} {d : Draft} {ks : List κ} {piece : κ → Draft}
    (hd : d.declarations = ks.flatMap fun k => (piece k).declarations)
    (h : ks.Pairwise fun k k' => ∀ w ∈ (piece k).declarations, ∀ w' ∈ (piece k').declarations,
      w.selector ≠ w'.selector) :
    (d.rules classPrefix).build false =
      Text.joinWith "" (ks.map fun k => ((piece k).rules classPrefix).build false) := by
  have hblocks : blocks d.declarations = ks.flatMap fun k => blocks (piece k).declarations := by
    rw [hd]
    exact updateAll_flatMap h
  simp only [build_eq, hblocks, blocksText_flatMap]

end AmpArticle.Css
