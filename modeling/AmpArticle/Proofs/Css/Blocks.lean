import AmpArticle.Proofs.Css.Parts
import AmpArticle.Proofs.Css.Quantities
import AmpArticle.Proofs.Entries
import AmpArticle.Proofs.Json.Written

/-!
Text styles that cannot be read. A value that is malformed should only lead to a warning. It fails when it is a list or
an object in the place of a name, when it is a number that is too large, and when it cannot be written into a
declaration or a warning.

Results:
- `number_fails_iff`: the values that fail where a number is expected;
- `spacingSides_fails_iff`: the spacings that fail;
- `draft_fails_iff`: the text styles that fail.
-/

namespace AmpArticle.Css

open Drafting

/-! ## Names -/

/-- a value that nothing can be looked up by -/
def Unhashable : Json → Prop
  | .list _ | .object _ => True
  | _ => False

theorem named_fails_iff {α : Type} (table : List (String × α)) (v : Json) :
    Fails (liftM (named? table v) : Drafting (Option α)) ↔ Unhashable v := by
  have hpure (a : Option α) : ¬ Fails (liftM (Except.ok a : Except Fault (Option α)) : Drafting (Option α)) :=
    not_fails_of_gives (liftM_gives rfl)
  cases v with
  | list items => simpa [named?, Unhashable] using liftM_fails rfl
  | object entries => simpa [named?, Unhashable] using liftM_fails rfl
  | _ => simpa [named?, Unhashable] using hpure _

/-- the size that a side of a spacing names -/
def sizeName (side : List (String × Json)) : Json := (lookup? "size" side).getD (.text "NONE")

/-- the factor of a side of a spacing -/
def sizeFactor (side : List (String × Json)) : Json := (lookup? "scaling_factor" side).getD (.real (Double.ofInt 1))

/-- a value that names a size -/
def IsSize (v : Json) : Prop := ∃ s, v = .text s ∧ (lookup? s spacingSizes).isSome = true

/-- the lengths of all sizes can be scaled -/
theorem size_scale {s : String} {length : Quantity} (h : lookup? s spacingSizes = some length) (x : Double) :
    ∃ y, length.scale x = .ok y := by
  have hint {n : Int} (hn : n.natAbs ≤ 1000) : ∃ y, (Quantity.int n).scale x = .ok y :=
    ⟨(Double.ofInt n).mul x, by rw [Quantity.scale, toDouble_int, if_neg (not_le.2 (limit_gt hn))]; rfl⟩
  have hmem := mem_of_lookup? h
  simp only [spacingSizes, List.mem_cons, Prod.mk.injEq, List.not_mem_nil, or_false] at hmem
  rcases hmem with ⟨-, rfl⟩ | ⟨-, rfl⟩ | ⟨-, rfl⟩ | ⟨-, rfl⟩ | ⟨-, rfl⟩ | ⟨-, rfl⟩ | ⟨-, rfl⟩
  · exact hint (by decide)
  · exact ⟨_, rfl⟩
  all_goals exact hint (by decide)

theorem named_size {v : Json} (h : IsSize v) : ∃ length, named? spacingSizes v = .ok (some length) := by
  obtain ⟨s, rfl, hs⟩ := h
  obtain ⟨length, hlength⟩ := Option.isSome_iff_exists.1 hs
  exact ⟨length, by rw [named?, hlength]⟩

theorem named_unknown {v : Json} (h : ¬ Unhashable v) (h' : ¬ IsSize v) : named? spacingSizes v = .ok none := by
  cases v with
  | text s =>
    cases hs : lookup? s spacingSizes with
    | none => rw [named?, hs]
    | some length => exact absurd ⟨s, rfl, by rw [hs]; rfl⟩ h'
  | list items => exact absurd trivial h
  | object entries => exact absurd trivial h
  | _ => rfl

theorem named_scale {v : Json} {length : Quantity} (h : named? spacingSizes v = .ok (some length)) (x : Double) :
    ∃ y, length.scale x = .ok y := by
  cases v with
  | text s =>
    rw [named?, Except.ok.injEq] at h
    exact size_scale h x
  | _ => simp [named?] at h

/-! ## Entries that need no room -/

theorem underline_works (t : TextStyle) : Works t.underline := by
  unfold TextStyle.underline
  split
  · exact works_pure
  · exact works_pure
  · exact declare_works _ _ _

theorem color_entry_works (t : TextStyle) (key property : String) : Works (t.color key property) := by
  refine works_bind (color_works _ _) fun rgb => ?_
  split
  · exact declare_works _ _ _
  · exact works_pure

theorem entry_object_iff {t : TextStyle} {key : String} {entries : List (String × Json)} :
    t.entry key = .object entries ↔ lookup? key t.block = some (.object entries) := by
  rw [TextStyle.entry]
  cases lookup? key t.block <;> simp

variable [Room]

/-! ## Numbers -/

/-- a value that cannot be read as a number: it is too large, or no warning can be given about it -/
def NumberBreaks (name : String) (v : Json) : Prop := TooLarge v ∨ v.Unwritable (.entry name)

/-- the number that a value stands for; truth values are none -/
def numberValue? : Json → Option Double
  | .int n => some (Double.ofInt n)
  | .real x => some x
  | .text s => Double.ofText? s
  | _ => none

theorem plainAt_yields {v : Json} {place : Place} (h : ¬ v.Unwritable place) :
    Yields (liftM (v.plainAt place) : Drafting String) v.plain :=
  liftM_yields (Json.writtenAt_of_not_unwritable h)

theorem writtenAt_fails {v : Json} {place : Place} {text : Json → String} (h : v.Unwritable place) :
    Fails (liftM (v.writtenAt place text) : Drafting String) := by
  obtain ⟨limit, hlimit⟩ := Json.writtenAt_of_unwritable text h
  exact liftM_fails hlimit

theorem plainAt_fails {v : Json} {place : Place} (h : v.Unwritable place) :
    Fails (liftM (v.plainAt place) : Drafting String) := writtenAt_fails h

theorem literalAt_fails {v : Json} {place : Place} (h : v.Unwritable place) :
    Fails (liftM (v.literalAt place) : Drafting String) := writtenAt_fails h

/-- a step that writes a value and then works fails when the value cannot be written -/
theorem written_fails_iff {α : Type} {v : Json} {place : Place} {f : String → Drafting α} (hf : ∀ s, Works (f s)) :
    Fails (liftM (v.plainAt place) >>= f) ↔ v.Unwritable place := by
  constructor
  · intro h
    by_contra hwritable
    obtain ⟨a, ha⟩ := hf v.plain
    exact not_fails_of_works (works_of_yields (yields_bind (plainAt_yields hwritable) ha)) h
  · exact fun h => fails_bind_left (plainAt_fails h)

/-- what is no number leads to a warning, if it can be written -/
theorem number_warning {v : Json} {name : String} (h : ¬ v.Unwritable (.entry name)) (fault : Fault) : Yields (do
    let shown ← liftM (v.literalAt (.entry name))
    warn s!"Invalid number for {name}: {shown}" v (some fault)
    return (none : Option Double)) none :=
  yields_bind (liftM_yields (Json.writtenAt_of_not_unwritable h)) (yields_bind (warn_yields _ _ _) yields_pure)

theorem number_fails {v : Json} {name : String} (h : NumberBreaks name v) : Fails (number v name) := by
  have htooLarge {n : Int} (h : TooLarge (.int n)) : Fails (number (.int n) name) := by
    simp only [TooLarge] at h
    simpa [number, Json.toDouble, toDouble_int, h, isMild] using fails_bind_left (throw_fails _)
  rcases h with hlarge | h
  · cases v with
    | int n => exact htooLarge hlarge
    | _ => exact False.elim hlarge
  · cases v with
    | int n => exact htooLarge (tooLarge_of_digits (Json.exceeds_int_iff.1 h))
    | list items => simpa [number, Json.toDouble, isMild] using fails_bind_left (literalAt_fails h)
    | object entries => simpa [number, Json.toDouble, isMild] using fails_bind_left (literalAt_fails h)
    | _ => simp [Json.Unwritable] at h

theorem number_yields {v : Json} {name : String} (h : ¬ NumberBreaks name v) :
    Yields (number v name) (numberValue? v) := by
  obtain ⟨hlarge, hwritable⟩ := not_or.1 h
  cases v with
  | int n =>
    simp only [TooLarge] at hlarge
    simpa [number, Json.toDouble, toDouble_int, hlarge, numberValue?] using yields_pure
  | real x => simpa [number, Json.toDouble, numberValue?] using yields_pure
  | text s =>
    simp only [number, Json.toDouble, numberValue?]
    cases Double.ofText? s with
    | none => simpa [isMild] using number_warning hwritable _
    | some x => simpa using yields_pure
  | null => simpa [number, Json.toDouble, numberValue?, isMild] using number_warning hwritable _
  | bool b =>
    have hnull : ¬ Json.null.Unwritable (.entry name) := Json.not_exceeds_null
    simpa [number, Json.toDouble, numberValue?, isMild] using number_warning hnull _
  | list items => simpa [number, Json.toDouble, numberValue?, isMild] using number_warning hwritable _
  | object entries => simpa [number, Json.toDouble, numberValue?, isMild] using number_warning hwritable _

theorem number_fails_iff (v : Json) (name : String) : Fails (number v name) ↔ NumberBreaks name v :=
  ⟨fun h => by_contra fun hbreaks => not_fails_of_works (works_of_yields (number_yields hbreaks)) h, number_fails⟩

/-! ## Spacing -/

/-- a side that cannot be read -/
def SideBreaks (name direction : String) (v : Json) : Prop :=
  ∃ side, v = .object side ∧ (Unhashable (sizeName side) ∨
    (sizeName side).Unwritable (.entry s!"{name}.{direction}.size") ∨
    IsSize (sizeName side) ∧ NumberBreaks s!"{name}.{direction}" (sizeFactor side))

/-- a side whose factor is no number: the whole spacing is given up -/
def SideGivesUp (name direction : String) (v : Json) : Prop :=
  ∃ side, v = .object side ∧ IsSize (sizeName side) ∧ ¬ NumberBreaks s!"{name}.{direction}" (sizeFactor side) ∧
    numberValue? (sizeFactor side) = none

/-- a spacing with a side that cannot be read, and none in front of it that gives the spacing up -/
def SpacingBreaks (name : String) (sides : List (String × Json)) (order : List String) : Prop :=
  ∃ before direction after, order = before ++ direction :: after ∧
    (∀ d ∈ before, ¬ SideGivesUp name d ((lookup? d sides).getD .null)) ∧
    SideBreaks name direction ((lookup? direction sides).getD .null)

theorem spacingSide_object (side : List (String × Json)) (name direction : String) :
    TextStyle.spacingSide (.object side) name direction = liftM (named? spacingSizes (sizeName side)) >>=
      fun found => match found with
        | none => do
          let shown ← liftM ((sizeName side).plainAt (.entry s!"{name}.{direction}.size"))
          warn s!"Unknown size {shown} in {name}.{direction}" (.object side) none
          return some (.int 0)
        | some length => number (sizeFactor side) s!"{name}.{direction}" >>= fun x => match x with
          | some x => liftM (length.scale x) >>= fun y => pure (some (.real y))
          | none => pure none := rfl

/-- a side that names a size has its length, unless its factor cannot be read or is no number -/
theorem spacingSide_sized (name direction : String) {side : List (String × Json)} (hsize : IsSize (sizeName side)) :
    (NumberBreaks s!"{name}.{direction}" (sizeFactor side) ∧
      Fails (TextStyle.spacingSide (.object side) name direction)) ∨
    (¬ NumberBreaks s!"{name}.{direction}" (sizeFactor side) ∧ numberValue? (sizeFactor side) = none ∧
      Yields (TextStyle.spacingSide (.object side) name direction) none) ∨
    (¬ NumberBreaks s!"{name}.{direction}" (sizeFactor side) ∧ numberValue? (sizeFactor side) ≠ none ∧
      ∃ x, Yields (TextStyle.spacingSide (.object side) name direction) (some x)) := by
  obtain ⟨length, hfound⟩ := named_size hsize
  rw [spacingSide_object]
  by_cases hfactor : NumberBreaks s!"{name}.{direction}" (sizeFactor side)
  · exact .inl ⟨hfactor, fails_bind_right (liftM_gives hfound) (fails_bind_left (number_fails hfactor))⟩
  · have hnumber := number_yields hfactor
    cases hvalue : numberValue? (sizeFactor side) with
    | none =>
      rw [hvalue] at hnumber
      exact .inr (.inl ⟨hfactor, rfl, yields_bind (liftM_yields hfound) (yields_bind hnumber yields_pure)⟩)
    | some x =>
      rw [hvalue] at hnumber
      obtain ⟨y, hy⟩ := named_scale hfound x
      exact .inr (.inr ⟨hfactor, by simp, _, yields_bind (liftM_yields hfound)
        (yields_bind hnumber (yields_bind (liftM_yields hy) yields_pure))⟩)

/-- a side with a size that is none has no length, if a warning can be given about it -/
theorem spacingSide_unsized (name direction : String) {side : List (String × Json)}
    (hname : ¬ Unhashable (sizeName side)) (hsize : ¬ IsSize (sizeName side)) :
    ((sizeName side).Unwritable (.entry s!"{name}.{direction}.size") ∧
      Fails (TextStyle.spacingSide (.object side) name direction)) ∨
    (¬ (sizeName side).Unwritable (.entry s!"{name}.{direction}.size") ∧
      ∃ x, Yields (TextStyle.spacingSide (.object side) name direction) (some x)) := by
  have hnamed := named_unknown hname hsize
  rw [spacingSide_object]
  by_cases hwritable : (sizeName side).Unwritable (.entry s!"{name}.{direction}.size")
  · exact .inl ⟨hwritable, fails_bind_right (liftM_gives hnamed) (fails_bind_left (plainAt_fails hwritable))⟩
  · refine .inr ⟨hwritable, .int 0, yields_bind (liftM_yields hnamed) (yields_bind (plainAt_yields hwritable) ?_)⟩
    exact yields_bind (warn_yields _ _ _) yields_pure

/-- a side of a spacing breaks the reading, gives the spacing up or has a length -/
theorem spacingSide_cases (v : Json) (name direction : String) :
    (SideBreaks name direction v ∧ Fails (TextStyle.spacingSide v name direction)) ∨
    (¬ SideBreaks name direction v ∧ SideGivesUp name direction v ∧
      Yields (TextStyle.spacingSide v name direction) none) ∨
    (¬ SideBreaks name direction v ∧ ¬ SideGivesUp name direction v ∧
      ∃ x, Yields (TextStyle.spacingSide v name direction) (some x)) := by
  by_cases hobject : ∃ side, v = .object side
  · obtain ⟨side, rfl⟩ := hobject
    by_cases hname : Unhashable (sizeName side)
    · refine .inl ⟨⟨side, rfl, .inl hname⟩, ?_⟩
      rw [spacingSide_object]
      exact fails_bind_left ((named_fails_iff _ _).2 hname)
    · by_cases hsize : IsSize (sizeName side)
      · have hwritable : ¬ (sizeName side).Unwritable (.entry s!"{name}.{direction}.size") := by
          obtain ⟨s, hs, -⟩ := hsize
          rw [hs]
          exact Json.not_exceeds_text
        rcases spacingSide_sized name direction hsize with
          ⟨hfactor, hfails⟩ | ⟨hfactor, hvalue, hyields⟩ | ⟨hfactor, hvalue, hyields⟩
        · exact .inl ⟨⟨side, rfl, .inr (.inr ⟨hsize, hfactor⟩)⟩, hfails⟩
        · exact .inr (.inl ⟨by simp [SideBreaks, hname, hwritable, hfactor], ⟨side, rfl, hsize, hfactor, hvalue⟩,
            hyields⟩)
        · exact .inr (.inr ⟨by simp [SideBreaks, hname, hwritable, hfactor], by simp [SideGivesUp, hvalue], hyields⟩)
      · rcases spacingSide_unsized name direction hname hsize with
          ⟨hwritable, hfails⟩ | ⟨hwritable, hyields⟩
        · exact .inl ⟨⟨side, rfl, .inr (.inl hwritable)⟩, hfails⟩
        · exact .inr (.inr ⟨by simp [SideBreaks, hname, hwritable, hsize], by simp [SideGivesUp, hsize], hyields⟩)
  · have hnot : ∀ side, v ≠ .object side := fun side h => hobject ⟨side, h⟩
    refine .inr (.inr ⟨?_, ?_, ?_⟩)
    · rintro ⟨side, h, -⟩
      exact hnot side h
    · rintro ⟨side, h, -⟩
      exact hnot side h
    unfold TextStyle.spacingSide
    split
    · exact absurd rfl (hnot _)
    · split
      · exact ⟨_, yields_bind (warn_yields _ _ _) yields_pure⟩
      · exact ⟨_, yields_pure⟩

theorem spacingSides_cons (sides : List (String × Json)) (name d : String) (order : List String) :
    TextStyle.spacingSides sides name (d :: order) =
      TextStyle.spacingSide ((lookup? d sides).getD .null) name d >>= fun first => match first with
        | none => pure none
        | some length => TextStyle.spacingSides sides name order >>= fun lengths => match lengths with
          | some lengths => pure (some (length :: lengths))
          | none => pure none := rfl

/-- a spacing that has one more side in front -/
theorem spacingBreaks_cons (name : String) (sides : List (String × Json)) (d : String) (order : List String) :
    SpacingBreaks name sides (d :: order) ↔ SideBreaks name d ((lookup? d sides).getD .null) ∨
      ¬ SideGivesUp name d ((lookup? d sides).getD .null) ∧ SpacingBreaks name sides order := by
  constructor
  · rintro ⟨before, direction, after, heq, hbefore, hbreaks⟩
    cases before with
    | nil =>
      obtain ⟨rfl, -⟩ := List.cons.inj heq
      exact .inl hbreaks
    | cons b before =>
      obtain ⟨rfl, rfl⟩ := List.cons.inj heq
      exact .inr ⟨hbefore d List.mem_cons_self, before, direction, after, rfl,
        fun d' hd' => hbefore d' (List.mem_cons_of_mem _ hd'), hbreaks⟩
  · rintro (hbreaks | ⟨hgivesUp, before, direction, after, rfl, hbefore, hbreaks⟩)
    · exact ⟨[], d, order, rfl, by simp, hbreaks⟩
    · refine ⟨d :: before, direction, after, rfl, fun d' hd' => ?_, hbreaks⟩
      rcases List.mem_cons.1 hd' with rfl | hd'
      · exact hgivesUp
      · exact hbefore d' hd'

theorem spacingSides_fails_iff (sides : List (String × Json)) (name : String) (order : List String) :
    Fails (TextStyle.spacingSides sides name order) ↔ SpacingBreaks name sides order := by
  induction order with
  | nil => simp [TextStyle.spacingSides, not_fails_pure, SpacingBreaks]
  | cons d order ih =>
    rw [spacingBreaks_cons, spacingSides_cons]
    rcases spacingSide_cases ((lookup? d sides).getD .null) name d with ⟨hbreaks, hfails⟩ |
      ⟨hbreaks, hgivesUp, hnone⟩ | ⟨hbreaks, hgivesUp, length, hsome⟩
    · exact iff_of_true (fails_bind_left hfails) (.inl hbreaks)
    · refine (fails_bind_of_yields (p := fun _ => True) hnone ?_).trans ?_
      · exact appends_pure
      · exact iff_of_false not_fails_pure (by simp [hbreaks, hgivesUp])
    · have hsides := TextStyle.spacingSides_appends (p := fun _ => True) sides name order
      refine (fails_bind_of_yields (p := fun _ => True) hsome (appends_bind hsides fun lengths => ?_)).trans ?_
      · cases lengths with
        | none => exact appends_pure
        | some lengths => exact appends_pure
      · refine (fails_bind_works hsides fun lengths => ?_).trans ?_
        · cases lengths with
          | none => exact works_pure
          | some lengths => exact works_pure
        · simp [ih, hbreaks, hgivesUp]

/-! ## Text styles -/

/-- a border with a width that cannot be read -/
def BorderBreaks (name : String) (sides : List (String × Json)) : Prop :=
  ∃ direction ∈ directions, ∃ side, lookup? direction sides = some (.object side) ∧
    NumberBreaks s!"{name}.border.{direction}.width" ((lookup? "width" side).getD (.int 0))

/-- a text style with an entry that cannot be read -/
inductive BlockBreaks (name : String) (block : List (String × Json)) : Prop where
  | written {key : String} {v : Json} : key ∈ ["font", "text_alignment", "display", "capitalization"] →
    lookup? key block = some v → v.Unwritable (.entry s!"{name}.{key}") → BlockBreaks name block
  | capitalization {v : Json} : lookup? "capitalization" block = some v → Unhashable v → BlockBreaks name block
  | scale {key : String} {v : Json} : key ∈ ["text_size_scale", "line_height_scale"] →
    lookup? key block = some v → NumberBreaks s!"{name}.{key}" v → BlockBreaks name block
  | spacing {key : String} {sides : List (String × Json)} : key ∈ ["margin", "padding"] →
    lookup? key block = some (.object sides) → SpacingBreaks s!"{name}.{key}" sides directions → BlockBreaks name block
  | border {sides : List (String × Json)} : lookup? "border" block = some (.object sides) → BorderBreaks name sides →
    BlockBreaks name block

section Blocks

variable {t : TextStyle}

theorem font_fails_iff : Fails t.font ↔ ∃ v, lookup? "font" t.block = some v ∧ v.Unwritable (t.place "font") := by
  unfold TextStyle.font
  split
  · rename_i v h
    refine (written_fails_iff fun _ => declare_works _ _ _).trans ?_
    simp [h]
  · rename_i h
    simp [h, not_fails_pure]

theorem lowerCased_fails_iff (key property : String) :
    Fails (t.lowerCased key property) ↔ ∃ v, lookup? key t.block = some v ∧ v.Unwritable (t.place key) := by
  unfold TextStyle.lowerCased
  split
  · rename_i v h
    refine (written_fails_iff fun _ => declare_works _ _ _).trans ?_
    simp [h]
  · rename_i h
    simp [h, not_fails_pure]

/-- a value that names no capitalization leads to a warning, if it can be written -/
theorem capitalization_fails_iff : Fails t.capitalization ↔ ∃ v, lookup? "capitalization" t.block = some v ∧
    (Unhashable v ∨ v.Unwritable (t.place "capitalization")) := by
  unfold TextStyle.capitalization
  split
  · rename_i h
    simp [h, not_fails_pure]
  · rename_i v h
    simp only [h, Option.some.injEq, exists_eq_left']
    by_cases hv : Unhashable v
    · exact iff_of_true (fails_bind_left ((named_fails_iff _ _).2 hv)) (.inl hv)
    · obtain ⟨found, hfound, hwritable⟩ : ∃ found, named? capitalizations v = .ok found ∧
          (found.isSome = true → ¬ v.Unwritable (t.place "capitalization")) := by
        cases v with
        | text s => exact ⟨_, rfl, fun _ => Json.not_exceeds_text⟩
        | list items => exact absurd trivial hv
        | object entries => exact absurd trivial hv
        | _ => exact ⟨none, rfl, by simp⟩
      rw [hfound]
      cases found with
      | none =>
        refine (fails_bind_of_yields (p := fun _ => True) (liftM_yields rfl) ?_).trans ?_
        · exact appends_bind (liftM_appends _) fun _ => warn_appends _ _ _
        · refine (written_fails_iff fun _ => warn_works _ _ _).trans ?_
          simp [hv]
      | some transform =>
        obtain ⟨a, ha⟩ := declare_works t.selector "text-transform" transform
        refine iff_of_false (not_fails_of_works (works_of_yields (yields_bind (liftM_yields rfl) ha))) ?_
        simp [hv, hwritable]

theorem scale_fails_iff (key property : String) :
    Fails (t.scale key property) ↔ ∃ v, lookup? key t.block = some v ∧ NumberBreaks s!"{t.name}.{key}" v := by
  unfold TextStyle.scale
  split
  · rename_i h
    simp [h, not_fails_pure]
  · rename_i v h
    refine (fails_bind_works (p := fun _ => True) (number_appends _ _) fun x => ?_).trans ?_
    · split
      · exact declare_works _ _ _
      · exact works_pure
    · simp [number_fails_iff, h]

theorem spacing_fails_iff (property : String) : Fails (t.spacing property) ↔
    ∃ sides, lookup? property t.block = some (.object sides) ∧
      SpacingBreaks s!"{t.name}.{property}" sides directions := by
  simp only [← entry_object_iff]
  unfold TextStyle.spacing
  split
  · rename_i h
    simp [h, not_fails_pure]
  · rename_i sides h
    refine (fails_bind_works (p := fun _ => True) (TextStyle.spacingSides_appends _ _ _) fun lengths => ?_).trans ?_
    · split
      · exact declare_works _ _ _
      · exact works_pure
    · simp [spacingSides_fails_iff, h]
  · rename_i h
    refine iff_of_false (not_fails_of_works (warn_works _ _ _)) ?_
    rintro ⟨sides, hsides, -⟩
    exact h sides hsides

theorem borderSide_fails_iff (sides : List (String × Json)) (direction : String) :
    Fails (t.borderSide sides direction) ↔
      ∃ side, lookup? direction sides = some (.object side) ∧
        NumberBreaks s!"{t.name}.border.{direction}.width" ((lookup? "width" side).getD (.int 0)) := by
  unfold TextStyle.borderSide
  split
  · rename_i side h
    refine (fails_bind_works (p := fun _ => True) (number_appends _ _) fun width => ?_).trans ?_
    · exact works_bind (color_works _ _) fun _ => works_pure
    · simp [number_fails_iff, h]
  · rename_i h
    refine iff_of_false not_fails_pure ?_
    rintro ⟨side, hside, -⟩
    exact h side hside

theorem border_fails_iff :
    Fails t.border ↔ ∃ sides, lookup? "border" t.block = some (.object sides) ∧ BorderBreaks t.name sides := by
  simp only [← entry_object_iff]
  unfold TextStyle.border
  split
  · rename_i h
    simp [h, not_fails_pure]
  · rename_i sides h
    have hside (direction : String) :
        Appends (fun _ => True) (do return (direction, ← t.borderSide sides direction)) :=
      appends_bind (TextStyle.borderSide_appends _ _) fun _ => appends_pure
    refine (fails_bind_works (appends_mapM fun direction _ => hside direction) fun found => ?_).trans ?_
    · refine works_bind (declare_works _ _ _) fun _ => works_bind (declare_works _ _ _) fun _ => ?_
      refine works_forM fun s _ => ?_
      split
      · exact declare_works _ _ _
      · exact works_pure
    · rw [mapM_fails_iff fun direction _ => hside direction]
      have hfails (direction : String) : Fails (do return (direction, ← t.borderSide sides direction)) ↔
          Fails (t.borderSide sides direction) :=
        fails_bind_works (p := fun _ => True) (TextStyle.borderSide_appends _ _) fun _ => works_pure
      simp only [hfails, borderSide_fails_iff, BorderBreaks, h, Json.object.injEq, exists_eq_left']
  · rename_i h
    refine iff_of_false (not_fails_of_works (warn_works _ _ _)) ?_
    rintro ⟨sides, hsides, -⟩
    exact h sides hsides

theorem blockKeys_fails_iff : (∃ k ∈ blockKeys, Fails (k.read t)) ↔ Fails t.font ∨
    Fails (t.lowerCased "text_alignment" "text-align") ∨ Fails (t.lowerCased "display" "display") ∨
    Fails t.capitalization ∨ Fails (t.scale "text_size_scale" "font-size") ∨
    Fails (t.scale "line_height_scale" "line-height") ∨ Fails (t.spacing "margin") ∨ Fails (t.spacing "padding") ∨
    Fails t.border := by
  have hcolor (key property : String) := not_fails_of_works (color_entry_works t key property)
  simp only [blockKeys, List.mem_cons, exists_eq_or_imp, List.not_mem_nil, exists_eq_left, or_false, false_or,
    not_fails_of_works (underline_works t), hcolor]

/-- **A text style fails** when one of its entries cannot be read. -/
theorem draft_fails_iff : Fails t.draft ↔ BlockBreaks t.name t.block := by
  rw [draft_eq, forM_fails_iff fun k hk => appends_mono (q := fun _ => True) (blockKey_appends hk t) fun _ _ => trivial,
    blockKeys_fails_iff]
  simp only [font_fails_iff, lowerCased_fails_iff, capitalization_fails_iff, scale_fails_iff, spacing_fails_iff,
    border_fails_iff]
  constructor
  · rintro (⟨v, hv, h⟩ | ⟨v, hv, h⟩ | ⟨v, hv, h⟩ | ⟨v, hv, h | h⟩ | ⟨v, hv, h⟩ | ⟨v, hv, h⟩ | ⟨sides, hsides, h⟩ |
      ⟨sides, hsides, h⟩ | ⟨sides, hsides, h⟩)
    · exact .written (by simp) hv h
    · exact .written (by simp) hv h
    · exact .written (by simp) hv h
    · exact .capitalization hv h
    · exact .written (by simp) hv h
    · exact .scale (by simp) hv h
    · exact .scale (by simp) hv h
    · exact .spacing (by simp) hsides h
    · exact .spacing (by simp) hsides h
    · exact .border hsides h
  · intro h
    cases h with
    | written hkey hv h =>
      simp only [List.mem_cons, List.not_mem_nil, or_false] at hkey
      rcases hkey with rfl | rfl | rfl | rfl
      · exact .inl ⟨_, hv, h⟩
      · exact .inr (.inl ⟨_, hv, h⟩)
      · exact .inr (.inr (.inl ⟨_, hv, h⟩))
      · exact .inr (.inr (.inr (.inl ⟨_, hv, .inr h⟩)))
    | capitalization hv h => exact .inr (.inr (.inr (.inl ⟨_, hv, .inl h⟩)))
    | scale hkey hv h =>
      simp only [List.mem_cons, List.not_mem_nil, or_false] at hkey
      rcases hkey with rfl | rfl
      · exact .inr (.inr (.inr (.inr (.inl ⟨_, hv, h⟩))))
      · exact .inr (.inr (.inr (.inr (.inr (.inl ⟨_, hv, h⟩)))))
    | spacing hkey hsides h =>
      simp only [List.mem_cons, List.not_mem_nil, or_false] at hkey
      rcases hkey with rfl | rfl
      · exact .inr (.inr (.inr (.inr (.inr (.inr (.inl ⟨_, hsides, h⟩))))))
      · exact .inr (.inr (.inr (.inr (.inr (.inr (.inr (.inl ⟨_, hsides, h⟩)))))))
    | border hsides h => exact .inr (.inr (.inr (.inr (.inr (.inr (.inr (.inr ⟨_, hsides, h⟩)))))))

end Blocks

end AmpArticle.Css
