import AmpArticle.Proofs.Css.Blocks

/-!
Logos that cannot be read. The lengths and the scale of a logo are numbers like any other, and its address is written
into a warning when its extent is not known. What is left is an extent that has no whole numbers near it.

Results:
- `extent_cases`: the extent of a logo is the known one, unless the reading fails;
- `scaled_fails_iff`: an extent that cannot be scaled to whole numbers;
- `logo_fails_iff`: the logos that fail.
-/

namespace AmpArticle.Css

open Drafting

/-- the length that a description gives -/
def givenLength? (block : List (String × Json)) (key : String) : Option Double :=
  (lookup? key block).bind numberValue?

/-- the extent that a resolver finds at an address -/
def foundExtent? (resolve? : Option (Json → Except Fault Media.Lookup)) (url : Json) : Option Logo.Extent := do
  let resolve ← resolve?
  let found ← (resolve url).toOption
  if found.size.width = 0 ∨ found.size.height = 0 then none
  else some (.int found.size.width, .int found.size.height)

/-- the extent of a logo, when it is known: the one given, or the one found at the address -/
def knownExtent? (resolve? : Option (Json → Except Fault Media.Lookup)) (block : List (String × Json)) (url : Json) :
    Option Logo.Extent :=
  let width := givenLength? block "width"
  let height := givenLength? block "height"
  if Logo.isLength width && Logo.isLength height then some (.real (width.getD .nan), .real (height.getD .nan))
  else foundExtent? resolve? url

/-- an extent that has no whole numbers near it once it is scaled to fit the bar -/
def Unfit (extent : Logo.Extent) (factor : Double) : Prop :=
  ∃ x y, Logo.maxHeight.div extent.2 = .ok x ∧ Logo.maxWidth.div extent.1 = .ok y ∧
    ∃ side ∈ [extent.1, extent.2], ((quantityValue side).mul (factor.mul (x.smaller y))).isFinite = false

/-- the scale that a header asks for -/
def logoScale (header : List (String × Json)) : Json := (lookup? "logo_scale" header).getD (.real (Double.ofInt 1))

/-- a resolver that finds a size at every address -/
def Finds (resolve? : Option (Json → Except Fault Media.Lookup)) : Prop :=
  ∀ resolve, resolve? = some resolve → ∀ url, ∃ found, resolve url = .ok found

variable {resolve? : Option (Json → Except Fault Media.Lookup)} {header block : List (String × Json)} {url : Json}

/-! ## Extents that can be scaled -/

theorem isLength_iff {x : Option Double} : Logo.isLength x = true ↔ ∃ y, x = some y ∧ y.isZero = false := by
  cases x with
  | none => simp [Logo.isLength]
  | some y => simp [Logo.isLength]

theorem knownExtent_div {extent : Logo.Extent} (h : knownExtent? resolve? block url = some extent) :
    (∃ x, Logo.maxHeight.div extent.2 = .ok x) ∧ ∃ y, Logo.maxWidth.div extent.1 = .ok y := by
  by_cases hknown : (Logo.isLength (givenLength? block "width") && Logo.isLength (givenLength? block "height")) = true
  · simp only [knownExtent?, if_pos hknown, Option.some.injEq] at h
    subst h
    rw [Bool.and_eq_true, isLength_iff, isLength_iff] at hknown
    obtain ⟨⟨w, hw, hwidth⟩, ⟨z, hz, hheight⟩⟩ := hknown
    rw [hw, hz]
    exact ⟨div_real_ok (by decide) hheight, div_real_ok (by decide) hwidth⟩
  · simp only [knownExtent?, if_neg hknown, foundExtent?] at h
    obtain ⟨resolve, -, h⟩ := Option.bind_eq_some_iff.1 h
    obtain ⟨found, -, h⟩ := Option.bind_eq_some_iff.1 h
    split_ifs at h with hzero
    obtain ⟨hwidth, hheight⟩ := not_or.1 hzero
    simp only [Option.some.injEq] at h
    subst h
    exact ⟨div_int_ok (by decide) hheight, div_int_ok (by decide) hwidth⟩

theorem scaled_fails_iff {extent : Logo.Extent} {factor : Double}
    (hextent : knownExtent? resolve? block url = some extent) :
    Fails (liftM (Logo.scaled url extent factor) : Drafting Logo) ↔ Unfit extent factor := by
  obtain ⟨⟨x, hx⟩, ⟨y, hy⟩⟩ := knownExtent_div hextent
  have hread : Logo.scaled url extent factor = (do
      let width ← extent.1.scale (factor.mul (x.smaller y)) >>= Double.toNearestInt
      let height ← extent.2.scale (factor.mul (x.smaller y)) >>= Double.toNearestInt
      return ⟨url, width, height⟩) := by
    simp only [Logo.scaled, hx, hy, bind_assoc]
    rfl
  have hok : (∃ logo, Logo.scaled url extent factor = .ok logo) ↔
      ∀ side ∈ [extent.1, extent.2], ((quantityValue side).mul (factor.mul (x.smaller y))).isFinite = true := by
    simp only [hread, List.forall_mem_cons, List.not_mem_nil, false_imp_iff, implies_true, and_true,
      ← scaledSide_ok_iff]
    constructor
    · rintro ⟨logo, hlogo⟩
      obtain ⟨width, hwidth, hlogo⟩ := bind_ok_iff.1 hlogo
      obtain ⟨height, hheight, -⟩ := bind_ok_iff.1 hlogo
      exact ⟨⟨width, hwidth⟩, ⟨height, hheight⟩⟩
    · rintro ⟨⟨width, hwidth⟩, ⟨height, hheight⟩⟩
      exact ⟨_, bind_ok_iff.2 ⟨width, hwidth, bind_ok_iff.2 ⟨height, hheight, rfl⟩⟩⟩
  rw [liftM_fails_iff, hok]
  constructor
  · intro h
    push Not at h
    obtain ⟨side, hside, hnot⟩ := h
    exact ⟨x, y, hx, hy, side, hside, Bool.not_eq_true _ ▸ hnot⟩
  · rintro ⟨x', y', hx', hy', side, hside, hnot⟩ h
    cases hx.symm.trans hx'
    cases hy.symm.trans hy'
    rw [h side hside] at hnot
    cases hnot

variable [Room]

/-! ## Extents -/

/-- a logo with a length that cannot be read, or with an address that is not found and cannot be written -/
inductive ExtentBreaks (resolve? : Option (Json → Except Fault Media.Lookup)) (block : List (String × Json))
    (url : Json) : Prop where
  | length {key : String} {v : Json} : key ∈ ["width", "height"] → lookup? key block = some v →
    NumberBreaks s!"header.logo.{key}" v → ExtentBreaks resolve? block url
  | address : knownExtent? resolve? block url = none → url.Unwritable Logo.addressPlace →
    ExtentBreaks resolve? block url

theorem length_fails {key : String} {v : Json} (hv : lookup? key block = some v)
    (h : NumberBreaks s!"header.logo.{key}" v) : Fails (Logo.length block key) := by
  unfold Logo.length
  rw [hv]
  exact number_fails h

theorem length_yields {key : String}
    (h : ∀ v, lookup? key block = some v → ¬ NumberBreaks s!"header.logo.{key}" v) :
    Yields (Logo.length block key) (givenLength? block key) := by
  unfold Logo.length givenLength?
  split
  · rename_i v hv
    rw [hv]
    exact number_yields (h v hv)
  · rename_i hv
    rw [hv]
    exact yields_pure

/-- a warning about the address, and no extent -/
theorem addressWarning_yields (h : ¬ url.Unwritable Logo.addressPlace) (message : String → String) (subject : Json) :
    Yields (do
      let shown ← liftM (url.plainAt Logo.addressPlace)
      warn (message shown) subject none
      return (none : Option Logo.Extent)) none :=
  yields_bind (plainAt_yields h) (yields_bind (warn_yields _ _ _) yields_pure)

theorem found_yields (hfinds : Finds resolve?)
    (h : foundExtent? resolve? url = none → ¬ url.Unwritable Logo.addressPlace) :
    Yields (Logo.found? resolve? block url) (foundExtent? resolve? url) := by
  cases resolve? with
  | none => exact addressWarning_yields (h rfl) _ _
  | some resolve =>
    obtain ⟨found, hfound⟩ := hfinds resolve rfl url
    have hvalue : foundExtent? (some resolve) url = if found.size.width = 0 ∨ found.size.height = 0 then none
        else some (.int found.size.width, .int found.size.height) := by
      simp [foundExtent?, hfound, Except.toOption]
    rw [hvalue] at h ⊢
    refine yields_bind (liftM_yields hfound) (yields_bind (note_yields _) ?_)
    split_ifs at h ⊢
    · exact addressWarning_yields (h rfl) _ _
    · exact yields_pure

theorem found_fails (hfinds : Finds resolve?) (hnone : foundExtent? resolve? url = none)
    (h : url.Unwritable Logo.addressPlace) : Fails (Logo.found? resolve? block url) := by
  cases resolve? with
  | none => exact fails_bind_left (plainAt_fails h)
  | some resolve =>
    obtain ⟨found, hfound⟩ := hfinds resolve rfl url
    have hzero : found.size.width = 0 ∨ found.size.height = 0 := by
      simpa [foundExtent?, hfound, Except.toOption, ← or_iff_not_imp_left] using hnone
    refine fails_bind_right (liftM_gives hfound) (fails_bind_right (note_gives _) ?_)
    rw [if_pos hzero]
    exact fails_bind_left (plainAt_fails h)

/-- the extent of a logo is the known one, unless the reading fails -/
theorem extent_cases (block : List (String × Json)) (url : Json) (hfinds : Finds resolve?) :
    (ExtentBreaks resolve? block url ∧ Fails (Logo.extent? resolve? block url)) ∨
    (¬ ExtentBreaks resolve? block url ∧
      Yields (Logo.extent? resolve? block url) (knownExtent? resolve? block url)) := by
  by_cases hwidth : ∃ v, lookup? "width" block = some v ∧ NumberBreaks "header.logo.width" v
  · obtain ⟨v, hv, hbreaks⟩ := hwidth
    exact .inl ⟨.length (by simp) hv hbreaks, fails_bind_left (length_fails hv hbreaks)⟩
  obtain ⟨e, hgives⟩ : Yields (Logo.length block "width") (givenLength? block "width") :=
    length_yields fun v hv hbreaks => hwidth ⟨v, hv, hbreaks⟩
  by_cases hheight : ∃ v, lookup? "height" block = some v ∧ NumberBreaks "header.logo.height" v
  · obtain ⟨v, hv, hbreaks⟩ := hheight
    exact .inl ⟨.length (by simp) hv hbreaks, fails_bind_right hgives (fails_bind_left (length_fails hv hbreaks))⟩
  obtain ⟨e', hgives'⟩ : Yields (Logo.length block "height") (givenLength? block "height") :=
    length_yields fun v hv hbreaks => hheight ⟨v, hv, hbreaks⟩
  have hlengths (key : String) (hkey : key ∈ ["width", "height"]) (v : Json) (hv : lookup? key block = some v) :
      ¬ NumberBreaks s!"header.logo.{key}" v := by
    intro hbreaks
    simp only [List.mem_cons, List.not_mem_nil, or_false] at hkey
    rcases hkey with rfl | rfl
    · exact hwidth ⟨v, hv, hbreaks⟩
    · exact hheight ⟨v, hv, hbreaks⟩
  by_cases hknown : (Logo.isLength (givenLength? block "width") && Logo.isLength (givenLength? block "height")) = true
  · refine .inr ⟨?_, yields_bind ⟨e, hgives⟩ (yields_bind ⟨e', hgives'⟩ ?_)⟩
    · rintro (⟨hkey, hv, hbreaks⟩ | ⟨hnone, -⟩)
      · exact hlengths _ hkey _ hv hbreaks
      · simp only [knownExtent?, if_pos hknown, reduceCtorEq] at hnone
    · simp only [knownExtent?, if_pos hknown]
      exact yields_pure
  · have hextent : knownExtent? resolve? block url = foundExtent? resolve? url := by
      simp only [knownExtent?, if_neg hknown]
    by_cases haddress : foundExtent? resolve? url = none ∧ url.Unwritable Logo.addressPlace
    · refine .inl ⟨.address (hextent.trans haddress.1) haddress.2,
        fails_bind_right hgives (fails_bind_right hgives' ?_)⟩
      rw [if_neg hknown]
      exact found_fails hfinds haddress.1 haddress.2
    · refine .inr ⟨?_, yields_bind ⟨e, hgives⟩ (yields_bind ⟨e', hgives'⟩ ?_)⟩
      · rintro (⟨hkey, hv, hbreaks⟩ | ⟨hnone, hwritable⟩)
        · exact hlengths _ hkey _ hv hbreaks
        · exact haddress ⟨hextent.symm.trans hnone, hwritable⟩
      · rw [if_neg hknown, hextent]
        exact found_yields hfinds fun hnone hwritable => haddress ⟨hnone, hwritable⟩

/-! ## Logos -/

/-- a logo that cannot be scaled -/
inductive SizeBreaks (resolve? : Option (Json → Except Fault Media.Lookup)) (header block : List (String × Json))
    (url : Json) : Prop where
  | unknown : ExtentBreaks resolve? block url → SizeBreaks resolve? header block url
  | scale {extent : Logo.Extent} : knownExtent? resolve? block url = some extent →
    NumberBreaks "header.logo_scale" (logoScale header) → SizeBreaks resolve? header block url
  | extent {extent : Logo.Extent} : knownExtent? resolve? block url = some extent →
    Unfit extent ((numberValue? (logoScale header)).getD (Double.ofInt 1)) → SizeBreaks resolve? header block url

/-- a header with a logo that has an address and cannot be scaled -/
def LogoBreaks (resolve? : Option (Json → Except Fault Media.Lookup)) (header : List (String × Json)) : Prop :=
  ∃ block, Logo.spelledOut ((lookup? "logo" header).getD .null) = .object block ∧
    ((lookup? "url" block).getD .null).isTruthy = true ∧
    SizeBreaks resolve? header block ((lookup? "url" block).getD .null)

theorem sized_eq : Logo.sized resolve? header block url = Logo.extent? resolve? block url >>= fun extent =>
    match extent with
    | none => pure none
    | some extent => number (logoScale header) "header.logo_scale" >>= fun scale =>
      liftM (Logo.scaled url extent (scale.getD (Double.ofInt 1))) >>= fun logo => pure (some logo) := rfl

/-- a logo whose extent can be read is scaled unless its scale or its size prevent it -/
theorem sizeBreaks_iff (hextent : ¬ ExtentBreaks resolve? block url) :
    SizeBreaks resolve? header block url ↔ ∃ extent, knownExtent? resolve? block url = some extent ∧
      (NumberBreaks "header.logo_scale" (logoScale header) ∨
        Unfit extent ((numberValue? (logoScale header)).getD (Double.ofInt 1))) := by
  constructor
  · intro h
    cases h with
    | unknown h => exact absurd h hextent
    | scale hextent hscale => exact ⟨_, hextent, .inl hscale⟩
    | extent hextent hunfit => exact ⟨_, hextent, .inr hunfit⟩
  · rintro ⟨extent, hextent, hscale | hunfit⟩
    · exact .scale hextent hscale
    · exact .extent hextent hunfit

theorem sized_fails_iff (hfinds : Finds resolve?) :
    Fails (Logo.sized resolve? header block url) ↔ SizeBreaks resolve? header block url := by
  have hend (extent : Logo.Extent) (factor : Double) : Appends (fun _ => True) (do
      return some (← liftM (Logo.scaled url extent factor)) : Drafting (Option Logo)) :=
    appends_bind (liftM_appends _) fun _ => appends_pure
  have hlogo (extent : Logo.Extent) (factor : Double) : Fails (liftM (Logo.scaled url extent factor) >>= fun logo =>
      (pure (some logo) : Drafting (Option Logo))) ↔ Fails (liftM (Logo.scaled url extent factor) : Drafting Logo) :=
    fails_bind_works (p := fun _ => True) (liftM_appends _) fun _ => works_pure
  rw [sized_eq]
  rcases extent_cases block url hfinds with ⟨hbreaks, hfails⟩ | ⟨hbreaks, hyields⟩
  · exact iff_of_true (fails_bind_left hfails) (.unknown hbreaks)
  · rw [sizeBreaks_iff hbreaks]
    cases hextent : knownExtent? resolve? block url with
    | none =>
      rw [hextent] at hyields
      refine (fails_bind_of_yields (p := fun _ => True) hyields ?_).trans ?_
      · exact appends_pure
      · simp [not_fails_pure]
    | some extent =>
      rw [hextent] at hyields
      refine (fails_bind_of_yields (p := fun _ => True) hyields ?_).trans ?_
      · exact appends_bind (number_appends _ _) fun _ => hend _ _
      · by_cases hscale : NumberBreaks "header.logo_scale" (logoScale header)
        · exact iff_of_true (fails_bind_left (number_fails hscale)) ⟨extent, rfl, .inl hscale⟩
        · refine (fails_bind_of_yields (number_yields hscale) (hend _ _)).trans ?_
          rw [hlogo, scaled_fails_iff hextent]
          simp [hscale]

/-- **The logo of a header fails** when it cannot be scaled. -/
theorem logo_fails_iff (hfinds : Finds resolve?) :
    Fails (Logo.ofHeader resolve? header) ↔ LogoBreaks resolve? header := by
  unfold Logo.ofHeader LogoBreaks
  split
  · rename_i h
    exact iff_of_false not_fails_pure (by rw [h]; rintro ⟨block, hblock, -⟩; cases hblock)
  · rename_i block h
    simp only [h, Json.object.injEq, exists_eq_left']
    split_ifs with hurl
    · rw [sized_fails_iff hfinds]
      exact (and_iff_right hurl).symm
    · exact iff_of_false (not_fails_of_works (works_bind (warn_works _ _ _) fun _ => works_pure)) fun h => hurl h.1
  · rename_i h
    refine iff_of_false (not_fails_of_works (works_bind (warn_works _ _ _) fun _ => works_pure)) ?_
    rintro ⟨block, hblock, -⟩
    exact h block hblock

end AmpArticle.Css
