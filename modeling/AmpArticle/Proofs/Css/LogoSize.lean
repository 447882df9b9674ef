import AmpArticle.Proofs.Css.Failure
import AmpArticle.Proofs.Number.Values

/-!
The size of a logo. It is an extent, given or found, times a scale; the scaled sides are rounded, and nothing keeps them
from being zero or negative.

Results:
- `Ends`: what the result of a step promises, promises of steps one after the other being put together;
- `compile_logo`: how the logo of a compiled style comes about, and when both of its sides are positive.
-/

namespace AmpArticle.Css

open Drafting

variable {α β : Type}

/-! ## Results of steps -/

/-- a step that comes to a result only with a property, whatever the draft holds -/
def Ends (x : Drafting α) (p : α → Prop) : Prop := ∀ d a e, x.run d = .ok (a, e) → p a

section Steps

variable {x : Drafting α} {f : α → Drafting β} {p : α → Prop} {q : β → Prop} {a : α}

theorem ends_of_yields (h : Yields x a) (ha : p a) : Ends x p := by
  obtain ⟨e, hgives⟩ := h
  intro d a' e' hrun
  rw [hgives d] at hrun
  cases hrun
  exact ha

theorem ends_of_fails (h : Fails x) : Ends x p := by
  obtain ⟨fault, hfails⟩ := h
  intro d a e hrun
  cases (hfails d).symm.trans hrun

theorem ends_trivial (x : Drafting α) : Ends x fun _ => True := fun _ _ _ _ => trivial

theorem ends_pure (ha : p a) : Ends (pure a) p := ends_of_yields yields_pure ha

theorem ends_liftM {r : Except Fault α} (h : ∀ a, r = .ok a → p a) : Ends (liftM r) p := by
  cases r with
  | error fault => exact ends_of_fails (liftM_fails rfl)
  | ok a => exact ends_of_yields (liftM_yields rfl) (h a rfl)

theorem ends_bind (hx : Ends x p) (hf : ∀ a, p a → Ends (f a) q) : Ends (x >>= f) q := by
  intro d b e hrun
  obtain ⟨⟨a, d'⟩, hxa, hfa⟩ := bind_ok_iff.1 (show (x.run d >>= fun r => (f r.1).run r.2) = .ok (b, e) from hrun)
  exact hf a (hx d a d' hxa) d' b e hfa

end Steps

theorem number_ends [Room] (v : Json) (name : String) : Ends (number v name) (· = numberValue? v) := by
  by_cases hbreaks : NumberBreaks name v
  · exact ends_of_fails (number_fails hbreaks)
  · exact ends_of_yields (number_yields hbreaks) rfl

/-! ## Logos -/

section Logos

variable {resolve? : Option (Json → Except Fault Media.Lookup)} {header block : List (String × Json)} {url : Json}

/-- the scale of an extent: what fits it into the bar, times what the header asks for -/
def fullScale (header : List (String × Json)) (extent : Logo.Extent) : Except Fault Double := do
  let fit := Double.smaller (← Logo.maxHeight.div extent.2) (← Logo.maxWidth.div extent.1)
  return ((numberValue? (logoScale header)).getD (Double.ofInt 1)).mul fit

/-- a logo is a known extent, scaled and rounded -/
structure Sized (resolve? : Option (Json → Except Fault Media.Lookup)) (header block : List (String × Json)) (url : Json)
    (extent : Logo.Extent) (scale : Double) (logo : Logo) : Prop where
  known : knownExtent? resolve? block url = some extent
  scaling : fullScale header extent = .ok scale
  width : (extent.1.scale scale >>= Double.toNearestInt) = .ok logo.width
  height : (extent.2.scale scale >>= Double.toNearestInt) = .ok logo.height

section Room

variable [Room]

theorem length_ends (key : String) : Ends (Logo.length block key) (· = givenLength? block key) := by
  unfold Logo.length givenLength?
  split
  · rename_i v hv
    rw [hv]
    exact number_ends v _
  · rename_i hv
    rw [hv]
    exact ends_pure rfl

theorem found_ends : Ends (Logo.found? resolve? block url) (· = foundExtent? resolve? url) := by
  cases resolve? with
  | none => exact ends_bind (ends_trivial _) fun _ _ => ends_bind (ends_trivial _) fun _ _ => ends_pure rfl
  | some resolve =>
    refine ends_bind (ends_liftM fun found hfound => hfound) fun found hfound => ?_
    have hvalue : foundExtent? (some resolve) url = if found.size.width = 0 ∨ found.size.height = 0 then none
        else some (.int found.size.width, .int found.size.height) := by
      simp [foundExtent?, hfound, Except.toOption]
    rw [hvalue]
    refine ends_bind (ends_trivial _) fun _ _ => ?_
    split
    · exact ends_bind (ends_trivial _) fun _ _ => ends_bind (ends_trivial _) fun _ _ => ends_pure rfl
    · exact ends_pure rfl

theorem extent_ends : Ends (Logo.extent? resolve? block url) (· = knownExtent? resolve? block url) := by
  refine ends_bind (length_ends "width") fun width hwidth => ends_bind (length_ends "height") fun height hheight => ?_
  rw [hwidth, hheight, knownExtent?]
  split
  · exact ends_pure rfl
  · exact found_ends

theorem sized_ends : Ends (Logo.sized resolve? header block url) fun r => ∀ logo, r = some logo →
    ∃ extent scale, Sized resolve? header block url extent scale logo := by
  rw [sized_eq]
  refine ends_bind extent_ends fun extent hextent => ?_
  cases extent with
  | none => exact ends_pure fun _ h => by cases h
  | some extent =>
    refine ends_bind (number_ends _ _) fun factor hfactor => ?_
    refine ends_bind (ends_liftM fun logo hlogo => hlogo) fun logo hlogo => ends_pure ?_
    rintro _ ⟨⟩
    obtain ⟨x, hx, hlogo⟩ := bind_ok_iff.1 hlogo
    obtain ⟨y, hy, hlogo⟩ := bind_ok_iff.1 hlogo
    obtain ⟨w, hw, hlogo⟩ := bind_ok_iff.1 hlogo
    obtain ⟨width, hwidth, hlogo⟩ := bind_ok_iff.1 hlogo
    obtain ⟨h, hh, hlogo⟩ := bind_ok_iff.1 hlogo
    obtain ⟨height, hheight, hlogo⟩ := bind_ok_iff.1 hlogo
    obtain rfl := pure_ok_iff.1 hlogo
    refine ⟨extent, _, hextent.symm, bind_ok_iff.2 ⟨x, hx, bind_ok_iff.2 ⟨y, hy, rfl⟩⟩, ?_, ?_⟩
    · rw [← hfactor]
      exact bind_ok_iff.2 ⟨w, hw, hwidth⟩
    · rw [← hfactor]
      exact bind_ok_iff.2 ⟨h, hh, hheight⟩

end Room

/-- the header block of a description with its logo block -/
structure HasLogo (style : Json) (header block : List (String × Json)) : Prop where
  given : ∃ entries, style = .object entries ∧ lookup? "header" entries = some (.object header)
  spelledOut : Logo.spelledOut ((lookup? "logo" header).getD .null) = .object block

theorem ofHeader_ends [Room] : Ends (Logo.ofHeader resolve? header) fun r => ∀ logo, r = some logo →
    ∃ block extent scale, Logo.spelledOut ((lookup? "logo" header).getD .null) = .object block ∧
      Sized resolve? header block ((lookup? "url" block).getD .null) extent scale logo := by
  have hnone {x : Drafting Unit} {p : Logo → Prop} :
      Ends (x >>= fun _ => (pure none : Drafting (Option Logo))) fun r => ∀ logo, r = some logo → p logo :=
    ends_bind (ends_trivial _) fun _ _ => ends_pure fun _ h => by cases h
  unfold Logo.ofHeader
  split
  · exact ends_pure fun _ h => by cases h
  · rename_i block hblock
    dsimp only
    split
    · intro d r e hrun logo hlogo
      obtain ⟨extent, scale, hsized⟩ := sized_ends d r e hrun logo hlogo
      exact ⟨block, extent, scale, hblock, hsized⟩
    · exact hnone
  · exact hnone

/-- a side that is scaled and rounded is positive when the product is more than a half -/
theorem scaledSide_positive_iff {side : Quantity} {scale : Double} {n : Int}
    (h : (side.scale scale >>= Double.toNearestInt) = .ok n) :
    1 ≤ n ↔ 1 / 2 < ((quantityValue side).mul scale).toRat := by
  obtain ⟨x, hx, hn⟩ := bind_ok_iff.1 h
  obtain ⟨y, hy, hend⟩ := bind_ok_iff.1 hx
  obtain rfl := pure_ok_iff.1 hend
  have hvalue : y = quantityValue side := by
    cases side with
    | real z => exact (Except.ok.inj hy).symm
    | int m =>
      rw [toDouble_int] at hy
      split_ifs at hy
      exact (Except.ok.inj hy).symm
  rw [Double.one_le_toNearestInt_iff hn, hvalue]

end Logos

/-- **The logo of a compiled style** is a known extent, scaled and rounded. Both sides are positive just when both
products are more than a half; neither the extent nor the scale needs to be so that they are. -/
theorem compile_logo [Room] {classPrefix : String} {resolve? : Option (Json → Except Fault Media.Lookup)} {style : Json}
    {result : Style} {logo : Logo} {d e : Draft}
    (h : (Style.compile classPrefix resolve? style).run d = .ok (result, e)) (hlogo : result.logo = some logo) :
    ∃ header block extent scale, HasLogo style header block ∧
      Sized resolve? header block ((lookup? "url" block).getD .null) extent scale logo ∧
      (1 ≤ logo.width ∧ 1 ≤ logo.height ↔
        ∀ side ∈ [extent.1, extent.2], 1 / 2 < ((quantityValue side).mul scale).toRat) := by
  have hends : Ends (Style.compile classPrefix resolve? style) fun r => ∀ logo, r.logo = some logo →
      ∃ header block extent scale, HasLogo style header block ∧
        Sized resolve? header block ((lookup? "url" block).getD .null) extent scale logo := by
    cases style with
    | object entries =>
      refine ends_bind (ends_trivial _) fun _ _ => ends_bind (ends_trivial _) fun _ _ => ?_
      refine ends_bind (p := fun r => ∀ logo, r = some logo → ∃ header block extent scale,
        HasLogo (.object entries) header block ∧
          Sized resolve? header block ((lookup? "url" block).getD .null) extent scale logo) ?_ fun logo hlogo =>
        ends_bind (ends_trivial _) fun _ _ => ends_bind (ends_trivial _) fun _ _ => ends_pure hlogo
      unfold Style.headerBlock
      split
      · rename_i header hheader
        refine ends_bind (ends_trivial _) fun _ _ => ?_
        intro d r e hrun logo hlogo
        obtain ⟨block, extent, scale, hblock, hsized⟩ := ofHeader_ends d r e hrun logo hlogo
        exact ⟨header, block, extent, scale, ⟨⟨entries, rfl, hheader⟩, hblock⟩, hsized⟩
      · exact ends_pure fun _ h => by cases h
    | _ => exact ends_bind (ends_trivial _) fun _ _ => ends_pure fun _ h => by cases h
  obtain ⟨header, block, extent, scale, hhas, hsized⟩ := hends d result e h logo hlogo
  refine ⟨header, block, extent, scale, hhas, hsized, ?_⟩
  rw [scaledSide_positive_iff hsized.width, scaledSide_positive_iff hsized.height]
  simp

end AmpArticle.Css
