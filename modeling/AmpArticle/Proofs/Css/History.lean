import AmpArticle.Proofs.Css.Rules
import Mathlib.Data.List.Induction

/-!
Rules against the history of the writes that made them. Rules keep entries under keys inside entries under keys, and
overwrite in place; a history is a flat list of writes. Five kinds of calls write, and two of them may well arrive at
the same selector in different ways, but each call is one write whose selector does not depend on the rules so far.

Results:
- `updateAll_eq_map`: entries stand in the order of the first changes of their keys, once for settled declarations and
  once for blocks;
- `perform_write`, `performAll_writes`: what one call does, and from it a run of calls;
- `build_performAll`: the style sheet after a run of calls, and that only a run without calls leaves no rules.
-/

namespace AmpArticle.Css

/-! ## Entries in the order of their first changes -/

section FirstChanges

variable {α γ : Type}

theorem eraseDups_concat (ks : List String) (k : String) :
    (ks ++ [k]).eraseDups = if k ∈ ks then ks.eraseDups else ks.eraseDups ++ [k] := by
  rw [List.eraseDups_append]
  split_ifs with h
  · simp [List.removeAll, h]
  · simp [List.removeAll, h, List.eraseDups_cons]

theorem nodup_eraseDups (ks : List String) : ks.eraseDups.Nodup := by
  induction ks using List.reverseRecOn with
  | nil => exact List.nodup_nil
  | append_singleton ks k ih =>
    rw [eraseDups_concat]
    split_ifs with h
    · exact ih
    · refine List.nodup_append.2 ⟨ih, by simp, fun a ha b hb => ?_⟩
      rw [List.mem_singleton.1 hb]
      exact ne_of_mem_of_not_mem (List.mem_eraseDups.1 ha) h

/-- one of several entries under different keys changed, or a new one entered -/
theorem update_map {ks : List String} (hks : ks.Nodup) (key : String) (f : α → α) (fresh : α) (v : String → α) :
    update (.ofText key) f fresh (ks.map fun k => (Key.ofText k, v k)) =
      if key ∈ ks then ks.map fun k => (Key.ofText k, if k = key then f (v k) else v k)
      else ks.map (fun k => (Key.ofText k, v k)) ++ [(.ofText key, fresh)] := by
  induction ks with
  | nil => rfl
  | cons k ks ih =>
    obtain ⟨hk, hks⟩ := List.nodup_cons.1 hks
    rw [List.map_cons, update]
    by_cases hkey : k = key
    · subst hkey
      -- the other entries have other keys, so the change of the first one is the only one
      have hrest : ks.map (fun k' => (Key.ofText k', if k' = k then f (v k') else v k')) =
          ks.map fun k' => (Key.ofText k', v k') :=
        List.map_congr_left fun k' hk' => by rw [if_neg (ne_of_mem_of_not_mem hk' hk)]
      rw [if_pos rfl, if_pos List.mem_cons_self, List.map_cons, if_pos rfl, hrest]
    · have hne : (Key.ofText k).identity ≠ (Key.ofText key).identity := mt KeyIdentity.text.inj hkey
      rw [if_neg hne, ih hks]
      by_cases hmem : key ∈ ks
      · rw [if_pos hmem, if_pos (List.mem_cons_of_mem _ hmem), List.map_cons, if_neg hkey]
      · rw [if_neg hmem, if_neg (by simp [Ne.symm hkey, hmem]), List.cons_append]

/-- what the value under a key is after changes: a change of another key is no matter, and a change of the key itself
makes a fresh value or changes the value so far -/
structure Tracks (change : γ → Change α) (value : List γ → String → α) : Prop where
  first : ∀ xs x, (change x).key ∉ xs.map (fun y => (change y).key) →
    value (xs ++ [x]) (change x).key = (change x).fresh
  again : ∀ xs x, (change x).key ∈ xs.map (fun y => (change y).key) →
    value (xs ++ [x]) (change x).key = (change x).f (value xs (change x).key)
  other : ∀ xs x k, k ≠ (change x).key → value (xs ++ [x]) k = value xs k

/-- **Entries after changes** have the keys in the order of their first changes. -/
theorem updateAll_eq_map {change : γ → Change α} {value : List γ → String → α} (h : Tracks change value)
    (xs : List γ) :
    updateAll change xs [] =
      (xs.map fun x => (change x).key).eraseDups.map fun k => (Key.ofText k, value xs k) := by
  induction xs using List.reverseRecOn with
  | nil => rfl
  | append_singleton xs x ih =>
    have hstep : updateAll change (xs ++ [x]) [] =
        update (.ofText (change x).key) (change x).f (change x).fresh (updateAll change xs []) := by
      rw [updateAll, List.foldl_append]
      rfl
    rw [hstep, ih, update_map (nodup_eraseDups _), List.map_append, List.map_singleton, eraseDups_concat]
    simp only [List.mem_eraseDups]
    by_cases hmem : (change x).key ∈ xs.map fun y => (change y).key
    · rw [if_pos hmem, if_pos hmem]
      refine List.map_congr_left fun k _ => ?_
      by_cases hk : k = (change x).key
      · rw [if_pos hk, hk, h.again xs x hmem]
      · rw [if_neg hk, h.other xs x k hk]
    · rw [if_neg hmem, if_neg hmem, List.map_append, List.map_singleton, h.first xs x hmem]
      refine congrArg (· ++ _) (List.map_congr_left fun k hk => ?_)
      rw [h.other xs x k (ne_of_mem_of_not_mem (List.mem_eraseDups.1 hk) hmem)]

end FirstChanges

/-! ## The style sheet of a history -/

/-- writes in the order in which they were made -/
abbrev History := List Declaration

namespace History

/-- the selectors that were written to, in the order of their first writes -/
def selectors (ws : History) : List String := (ws.map Declaration.selector).eraseDups

/-- the writes under a selector -/
def under (ws : History) (selector : String) : History := ws.filter fun w => w.selector = selector

/-- the properties that were written, in the order of their first writes -/
def properties (ws : History) : List String := (ws.map Declaration.property).eraseDups

/-- the value that the last write gave to a property -/
def lastValue (ws : History) (property : String) : String :=
  ((ws.filter fun w => w.property = property).getLast?.map Declaration.value).getD ""

/-- a declaration: on an indented line of its own, or dense -/
def line (formatted : Bool) (property value : String) : String :=
  if formatted then "    " ++ property ++ ": " ++ value ++ ";\n" else property ++ ": " ++ value ++ ";"

/-- a block with its declarations -/
def block (formatted : Bool) (selector : String) (lines : List String) : String :=
  selector ++ (if formatted then " \x7b\n" else " \x7b") ++ String.join lines ++ "\x7d"

/-- the style sheet of a history: a block for each selector, with a declaration for each property under it -/
def sheet (formatted : Bool) (ws : History) : String :=
  Text.joinWith (if formatted then "\n\n" else "") <| ws.selectors.map fun s =>
    block formatted s <| (ws.under s).properties.map fun p => line formatted p ((ws.under s).lastValue p)

variable {ws : History}

theorem under_concat (w : Declaration) (selector : String) :
    (ws ++ [w]).under selector = if w.selector = selector then ws.under selector ++ [w] else ws.under selector := by
  split_ifs with h
  · simp [under, List.filter_append, h]
  · simp [under, List.filter_append, h]

theorem under_eq_nil {selector : String} (h : selector ∉ ws.map Declaration.selector) : ws.under selector = [] := by
  refine List.filter_eq_nil_iff.2 fun w hw => ?_
  rw [decide_eq_true_eq]
  rintro rfl
  exact h (List.mem_map_of_mem hw)

theorem under_ne_nil {selector : String} (h : selector ∈ ws.map Declaration.selector) : ws.under selector ≠ [] := by
  obtain ⟨w, hw, rfl⟩ := List.mem_map.1 h
  exact List.ne_nil_of_mem (List.mem_filter.2 ⟨hw, by simp⟩)

theorem lastValue_tracks : Tracks setValue lastValue where
  first ws w _ := by simp [lastValue, setValue, List.filter_append]
  again ws w _ := by simp [lastValue, setValue, List.filter_append]
  other ws w p hp := by
    have hne : ¬ w.property = p := Ne.symm hp
    simp [lastValue, List.filter_append, hne]

theorem settle_eq (ws : History) : settle ws = ws.properties.map fun p => (.ofText p, ws.lastValue p) :=
  updateAll_eq_map lastValue_tracks ws

theorem settle_under_tracks : Tracks setBlock fun ws s => settle (under ws s) where
  first ws w h := by
    have hnil : under ws w.selector = [] := under_eq_nil h
    rw [show (setBlock w).key = w.selector from rfl, under_concat, if_pos rfl, hnil]
    rfl
  again ws w _ := by
    rw [show (setBlock w).key = w.selector from rfl, under_concat, if_pos rfl, settle, updateAll, List.foldl_append]
    exact (set_eq_update _ _ _).symm
  other ws w s hs := by
    have hne : ¬ w.selector = s := Ne.symm hs
    rw [under_concat, if_neg hne]

theorem blocks_eq (ws : History) : blocks ws = ws.selectors.map fun s => (.ofText s, settle (ws.under s)) :=
  updateAll_eq_map settle_under_tracks ws

theorem settle_ne_nil (h : ws ≠ []) : settle ws ≠ [] := by
  obtain ⟨w, hw⟩ := List.exists_mem_of_ne_nil ws h
  have hproperty : w.property ∈ ws.properties := List.mem_eraseDups.2 (List.mem_map_of_mem hw)
  rw [settle_eq]
  exact List.ne_nil_of_mem (List.mem_map_of_mem hproperty)

/-- every selector of a history has a declaration -/
theorem settled_of_mem {b : Key × Declarations} (h : b ∈ blocks ws) : b.2.isEmpty = false := by
  rw [blocks_eq] at h
  obtain ⟨s, hs, rfl⟩ := List.mem_map.1 h
  rw [List.isEmpty_eq_false_iff]
  exact settle_ne_nil (under_ne_nil (List.mem_eraseDups.1 hs))

theorem declarationsText_eq (formatted : Bool) (ds : Declarations) :
    RuleSet.declarationsText formatted ds = String.join (ds.map fun d => line formatted d.1.spelling d.2) := by
  induction ds with
  | nil => rfl
  | cons d ds ih =>
    rw [RuleSet.declarationsText, ih, List.map_cons, String.join_cons]
    cases formatted with
    | false => simp [line]
    | true => simp [line, String.append_assoc]

theorem blockText_eq (formatted : Bool) (selector : String) (ws : History) :
    RuleSet.blockText formatted (.ofText selector, settle ws) =
      block formatted selector (ws.properties.map fun p => line formatted p (ws.lastValue p)) := by
  rw [RuleSet.blockText, declarationsText_eq, settle_eq, List.map_map]
  cases formatted with
  | false => simp [block, Key.ofText, Function.comp_def]
  | true => simp [block, Key.ofText, Function.comp_def, String.append_assoc]

/-- rules whose blocks are those of a history have its style sheet -/
theorem build_eq_sheet {r : RuleSet} (h : r.blocks = blocks ws) (formatted : Bool) :
    r.build formatted = ws.sheet formatted := by
  have hall : (blocks ws).filter (fun b => !b.2.isEmpty) = blocks ws :=
    List.filter_eq_self.2 fun b hb => by rw [settled_of_mem hb, Bool.not_false]
  rw [RuleSet.build, h, hall, blocks_eq, List.map_map, sheet]
  exact congrArg _ (List.map_congr_left fun s _ => blockText_eq formatted s (ws.under s))

end History

/-! ## Calls as writes -/

namespace RuleSet

/-- whether a value is a text -/
def IsText (v : Json) : Prop := ∃ s, v = .text s

/-- the selectors and properties that a call is given are texts -/
def Call.HasTextKeys : Call → Prop
  | .property s p _ => IsText s ∧ IsText p
  | .names _ p _ | .dimension _ p _ _ | .sides _ p _ _ _ _ _ => IsText p
  | .heightSpacing _ _ _ => True

/-- the write that a call makes, if its keys are texts and its names are class names -/
def Call.write? (classPrefix spacing : String) : Call → Option Declaration
  | .property (.text s) (.text p) value => some ⟨s, p, value.plain⟩
  | .names ns (.text p) value => (ns.selector classPrefix).toOption.map fun s => ⟨s, p, value.plain⟩
  | .dimension ns (.text p) value unit =>
    (ns.selector classPrefix).toOption.map fun s => ⟨s, p, Css.dimension value unit⟩
  | .sides ns (.text p) top right bottom left unit =>
    (ns.selector classPrefix).toOption.map fun s => ⟨s, p, Css.sides top right bottom left unit⟩
  | .heightSpacing ns height unit =>
    (ns.selector classPrefix).toOption.map fun s =>
      ⟨s ++ " + ." ++ classPrefix ++ spacing, "height", Css.dimension height unit⟩
  | _ => none

/-- the rules after calls one after the other, up to the first that fails -/
def performAll (r : RuleSet) : List Call → Except Fault RuleSet
  | [] => .ok r
  | c :: cs =>
    match r.perform c with
    | ⟨rules, none⟩ => rules.performAll cs
    | ⟨_, some fault⟩ => .error fault

variable {r r' : RuleSet} {c : Call} {cs : List Call}

theorem addToSelector_ok {names : ClassNames} {property : String} {value : Json}
    (h : r.addToSelector names (.text property) value = ⟨r', none⟩) :
    ∃ s, names.selector r.classPrefix = .ok s ∧ r' = r.set s property value.plain := by
  rw [addToSelector] at h
  cases hs : names.selector r.classPrefix with
  | error fault =>
    rw [hs] at h
    cases h
  | ok s =>
    rw [hs] at h
    cases h
    exact ⟨s, rfl, rfl⟩

/-- **A call that succeeds is one write**, and which one depends on nothing but the call and the names. -/
theorem perform_write (hkeys : c.HasTextKeys) (h : r.perform c = ⟨r', none⟩) :
    ∃ w, c.write? r.classPrefix r.spacing = some w ∧ r' = r.set w.selector w.property w.value := by
  cases c with
  | property selector property value =>
    obtain ⟨⟨s, rfl⟩, p, rfl⟩ := hkeys
    cases h
    exact ⟨⟨s, p, value.plain⟩, rfl, rfl⟩
  | names names property value =>
    obtain ⟨p, rfl⟩ := hkeys
    obtain ⟨s, hs, rfl⟩ := addToSelector_ok h
    exact ⟨⟨s, p, value.plain⟩, by simp [Call.write?, hs, Except.toOption], rfl⟩
  | dimension names property value unit =>
    obtain ⟨p, rfl⟩ := hkeys
    obtain ⟨s, hs, rfl⟩ := addToSelector_ok h
    exact ⟨⟨s, p, Css.dimension value unit⟩, by simp [Call.write?, hs, Except.toOption], rfl⟩
  | sides names property top right bottom left unit =>
    obtain ⟨p, rfl⟩ := hkeys
    obtain ⟨s, hs, rfl⟩ := addToSelector_ok h
    exact ⟨⟨s, p, Css.sides top right bottom left unit⟩, by simp [Call.write?, hs, Except.toOption], rfl⟩
  | heightSpacing names height unit =>
    rw [perform, addHeightSpacing] at h
    cases hs : names.selector r.classPrefix with
    | error fault =>
      rw [hs] at h
      cases h
    | ok s =>
      rw [hs] at h
      cases h
      exact ⟨⟨s ++ " + ." ++ r.classPrefix ++ r.spacing, "height", Css.dimension height unit⟩,
        by simp [Call.write?, hs, Except.toOption], rfl⟩

/-- **A run of calls that all succeed** makes its writes in turn. -/
theorem performAll_writes (hkeys : ∀ c ∈ cs, c.HasTextKeys) (h : r.performAll cs = .ok r') :
    ∃ ws : History, cs.map (Call.write? r.classPrefix r.spacing) = ws.map some ∧
      r' = { r with blocks := updateAll setBlock ws r.blocks } := by
  induction cs generalizing r with
  | nil =>
    cases h
    exact ⟨[], rfl, rfl⟩
  | cons c cs ih =>
    rw [performAll] at h
    split at h
    · rename_i rules hperform
      obtain ⟨w, hw, rfl⟩ := perform_write (hkeys c List.mem_cons_self) hperform
      obtain ⟨ws, hws, rfl⟩ := ih (fun c' hc' => hkeys c' (List.mem_cons_of_mem _ hc')) h
      refine ⟨w :: ws, ?_, ?_⟩
      · rw [List.map_cons, List.map_cons, hw]
        exact congrArg _ hws
      · rw [set_eq_updateAll]
        rfl
    · cases h

/-- **Rules refine the history of their writes.** After calls with texts for keys that all succeed, on rules that began
empty with any class prefix and any class of dividers, the style sheet is that of the writes, formatted or dense; and
there are no rules exactly when there was no call. -/
theorem build_performAll {classPrefix spacing : String} (hkeys : ∀ c ∈ cs, c.HasTextKeys)
    (h : performAll ⟨classPrefix, spacing, []⟩ cs = .ok r) :
    ∃ ws : History, cs.map (Call.write? classPrefix spacing) = ws.map some ∧
      (∀ formatted, r.build formatted = ws.sheet formatted) ∧ (r.isEmpty = true ↔ cs = []) := by
  obtain ⟨ws, hws, rfl⟩ := performAll_writes hkeys h
  refine ⟨ws, hws, History.build_eq_sheet rfl, ?_⟩
  rw [isEmpty, List.all_eq_true]
  constructor
  · intro hempty
    cases ws with
    | nil => exact List.map_eq_nil_iff.1 hws
    | cons w ws =>
      -- a write leaves a block behind, and no block is without declarations
      have hs : w.selector ∈ History.selectors (w :: ws) :=
        List.mem_eraseDups.2 (List.mem_map_of_mem List.mem_cons_self)
      have hmem : (Key.ofText w.selector, settle (History.under (w :: ws) w.selector)) ∈
          Css.blocks (w :: ws) := by
        rw [History.blocks_eq]
        exact List.mem_map_of_mem hs
      have hnone := hempty _ hmem
      rw [History.settled_of_mem hmem] at hnone
      cases hnone
  · rintro rfl
    obtain rfl : ws = [] := List.map_eq_nil_iff.1 hws.symm
    intro b hb
    cases hb

/-- calls of every kind; the first and the third arrive at the same selector in different ways -/
def sampleCalls : List Call :=
  [.names (.name "a") (.text "color") (.text "red"),
    .dimension (.many [.name "b", .many [.name "c"]]) (.text "width") (.int 0) "px",
    .property (.text ".x-a") (.text "color") (.text "blue"),
    .sides (.name "a") (.text "margin") (.int 1) .null .null (.int 2) "em",
    .heightSpacing (.name "a") (.int 4) "px"]

theorem build_performAll_sample : (∀ c ∈ sampleCalls, c.HasTextKeys) ∧ ∃ r,
    performAll ⟨"x-", "gap", []⟩ sampleCalls = .ok r ∧
    r.build false =
      ".x-a \x7bcolor: blue;margin: 1em 0 0 2em;\x7d.x-b, .x-c \x7bwidth: 0;\x7d.x-a + .x-gap \x7bheight: 4px;\x7d" ∧
    ∃ ws : History, sampleCalls.map (Call.write? "x-" "gap") = ws.map some ∧
      (∀ formatted, r.build formatted = ws.sheet formatted) ∧ (r.isEmpty = true ↔ sampleCalls = []) := by
  have hkeys : ∀ c ∈ sampleCalls, c.HasTextKeys := by simp [sampleCalls, Call.HasTextKeys, IsText]
  have hbuild : (performAll ⟨"x-", "gap", []⟩ sampleCalls).toOption.map (build · false) =
      some (".x-a \x7bcolor: blue;margin: 1em 0 0 2em;\x7d.x-b, .x-c \x7bwidth: 0;\x7d" ++
        ".x-a + .x-gap \x7bheight: 4px;\x7d") := by decide +kernel
  refine ⟨hkeys, ?_⟩
  rcases hrun : performAll ⟨"x-", "gap", []⟩ sampleCalls with _ | r
  · rw [hrun] at hbuild
    cases hbuild
  · rw [hrun] at hbuild
    exact ⟨r, rfl, Option.some.inj hbuild, build_performAll hkeys hrun⟩

end RuleSet

end AmpArticle.Css
