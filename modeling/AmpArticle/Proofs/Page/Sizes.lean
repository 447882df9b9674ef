import AmpArticle.Proofs.Css.LogoSize
import AmpArticle.Proofs.Json.Scalars
import AmpArticle.Proofs.Media.Fitting
import AmpArticle.Proofs.Page.Elements

/-!
The sizes that custom elements say. What is found for media is replaced when it is not positive, and most elements say
what is left, or cover a box with it. A slide is made as wide as the usual box instead, and its height is rounded; so is
the size of a logo, whose sides may also be negative.

Results:
- `usedSize_positive`, `dimensions_runs`: the size that media are taken to have is positive;
- `mediaSizes_item`, `mediaSizes_cover`: each element says a size in whole numbers, and all are positive unless a picture
  of a slideshow is too flat;
- `sizes_positive_iff`: the same with the logos of compiled styles;
- `slideshow_flat`: a picture a thousand times as wide as high makes a slideshow without height.
-/

namespace AmpArticle.Page

open Markup (Element Node Start customsOf)
open Markup.Node (customsIn)

variable {c : Setting} {s t u : State} {start : Start} {size : Media.Size}

/-! ## Sizes in start tags -/

/-- a start tag that says a positive size in whole numbers -/
def IsPositive (start : Start) : Prop := ∃ size, Measures start size ∧ 1 ≤ size.width ∧ 1 ≤ size.height

/-- a whole number can be read back from its text -/
theorem intText_injective : Function.Injective intText := by
  intro n m h
  have hstops : Json.StopsNumber [] := ⟨by rintro c ⟨⟩, by simp, by rintro c ⟨⟩⟩
  have hread (k : Int) : Json.readScalar .unbounded ((toString k).toList ++ []) = .ok (.int k, []) :=
    Json.readScalar_int hstops k rfl
  have hn := hread n
  rw [show toString n = toString m from h, hread m] at hn
  cases hn
  rfl

/-- a start tag says one size only -/
theorem Measures.unique {size' : Media.Size} (h : Measures start size) (h' : Measures start size') : size = size' := by
  have hwidth : intText size.width = intText size'.width := Option.some.inj (h.width.symm.trans h'.width)
  have hheight : intText size.height = intText size'.height := Option.some.inj (h.height.symm.trans h'.height)
  obtain ⟨width, height⟩ := size
  obtain ⟨width', height'⟩ := size'
  rw [show width = width' from intText_injective hwidth, show height = height' from intText_injective hheight]

theorem isPositive_iff (h : Measures start size) : IsPositive start ↔ 1 ≤ size.width ∧ 1 ≤ size.height := by
  constructor
  · rintro ⟨size', h', hpositive⟩
    rwa [h.unique h']
  · exact fun hpositive => ⟨size, h, hpositive⟩

/-! ## Sizes that are found -/

/-- the size that media are taken to have: the usual one when what is found is not positive -/
def usedSize (found : Media.Size) : Media.Size :=
  if found.width ≤ 0 ∨ found.height ≤ 0 then ⟨Media.defaultWidth, Media.defaultHeight⟩ else found

theorem usedSize_positive (found : Media.Size) : 1 ≤ (usedSize found).width ∧ 1 ≤ (usedSize found).height := by
  unfold usedSize
  split
  · decide
  · rename_i h
    omega

theorem dimensions_runs {url : String} {kind : Media.Kind} (h : Runs (Rendering.dimensions c url kind) s size t) :
    ∃ found, c.resolver.resolve url kind = .ok found ∧ size = usedSize found.size := by
  obtain ⟨given, _, hresolve, hrest⟩ := runs_bind.1 h
  obtain ⟨found, hfound, hend⟩ := runs_liftM_bind.1 hresolve
  obtain ⟨_, -, rfl⟩ := runs_map.1 hend
  refine ⟨found, hfound, ?_⟩
  unfold usedSize
  split at hrest
  · rename_i hnone
    obtain ⟨_, _, -, hend⟩ := runs_bind.1 hrest
    rw [if_pos hnone, (runs_pure.1 hend).1]
  · rename_i hsome
    rw [if_neg hsome, (runs_pure.1 hrest).1]

theorem dimensions_positive {url : String} {kind : Media.Kind} (h : Runs (Rendering.dimensions c url kind) s size t) :
    1 ≤ size.width ∧ 1 ≤ size.height := by
  obtain ⟨found, -, rfl⟩ := dimensions_runs h
  exact usedSize_positive found.size

/-! ## Slides -/

/-- a picture so flat that it has no height left when it is as wide as the usual box -/
def IsFlat (c : Setting) (p : Picture) : Prop :=
  ∃ found, c.resolver.resolve p.url .image = .ok found ∧
    ((usedSize found.size).height * 380 / (usedSize found.size).width : Rat) ≤ 1 / 2 + 1 / 2 ^ 54

theorem isSlide_positive_iff {p : Picture} {slide : Element × Media.Size} (h : IsSlide c p slide) :
    IsPositive slide.1.start ↔ ¬ IsFlat c p := by
  obtain ⟨⟨size, s, t, hsize, hslide⟩, hshows⟩ := h
  obtain ⟨hwidth, hheight⟩ := dimensions_positive hsize
  obtain ⟨found, hfound, rfl⟩ := dimensions_runs hsize
  obtain ⟨height, hscaled, hend⟩ := bind_ok_iff.1 hslide
  have hsize' : slide.2 = ⟨Media.defaultWidth, height⟩ := (pure_ok_iff.1 hend).symm
  have hpositive := Media.scaledHeight_positive_iff (by omega) (by omega) (by decide) hscaled
  have hflat : IsFlat c p ↔ ¬ (1 : Rat) / 2 + 1 / 2 ^ 54 <
      (usedSize found.size).height * (Media.defaultWidth : Int) / (usedSize found.size).width := by
    rw [not_lt]
    constructor
    · rintro ⟨found', hfound', hle⟩
      obtain rfl := Except.ok.inj (hfound.symm.trans hfound')
      exact hle
    · exact fun hle => ⟨found, hfound, hle⟩
  rw [isPositive_iff hshows.toMeasures, hsize', hflat, not_not, ← hpositive]
  exact and_iff_right (show 1 ≤ Media.defaultWidth by decide)

/-- the pictures that are made slides for an item -/
def slidePictures : Item → List Picture
  | .slideshow s => s.images
  | _ => []

/-- **Slideshows**: every element says a size, and all are positive when no picture is too flat. -/
theorem isShow_positive_iff {images : List Picture} {own : List Start} (h : IsShow c images own) :
    (∀ start ∈ own, ∃ size, Measures start size) ∧ ((∀ start ∈ own, IsPositive start) ↔ ∀ p ∈ images, ¬ IsFlat c p) := by
  cases h with
  | empty => simp
  | carousel hslides htag hmeasures =>
    rename_i p ps first slides carousel
    have hall {ps : List Picture} {slides : List (Element × Media.Size)} (h : List.Forall₂ (IsSlide c) ps slides) :
        (∀ slide ∈ slides, ∃ size, Measures slide.1.start size) ∧
          ((∀ slide ∈ slides, IsPositive slide.1.start) ↔ ∀ p ∈ ps, ¬ IsFlat c p) := by
      induction h with
      | nil => simp
      | cons hslide _ ih =>
        refine ⟨?_, by rw [List.forall_mem_cons, List.forall_mem_cons, ih.2, isSlide_positive_iff hslide]⟩
        exact List.forall_mem_cons.2 ⟨⟨_, hslide.2.toMeasures⟩, ih.1⟩
    obtain ⟨hmeasured, hpositive⟩ := hall hslides
    -- the carousel has the size of its first slide
    have hcarousel : IsPositive carousel ↔ IsPositive first.1.start := by
      cases hslides with
      | cons hfirst _ => rw [isPositive_iff hmeasures, isPositive_iff hfirst.2.toMeasures]
    simp only [List.forall_mem_cons, List.forall_mem_map] at hmeasured hpositive ⊢
    refine ⟨⟨⟨_, hmeasures⟩, hmeasured⟩, ?_⟩
    rw [hcarousel, ← hpositive]
    exact ⟨fun h => h.2, fun h => ⟨h.1, h⟩⟩

/-! ## Elements of media -/

/-- whether an item is shown by elements that have a size -/
def isMedia : Item → Bool
  | .image _ | .animatedImage _ | .video _ | .slideshow _ => true
  | _ => false

/-- nodes for an item: the custom elements among them that its builder makes say sizes in whole numbers, all of which
are positive just when no picture of a slideshow is too flat -/
def MediaSizes [Room] (c : Setting) (i : Item) (nodes : List Node) : Prop :=
  ∃ own, own.map Start.tag = itemTags c i ∧
    (customsIn nodes).Perm (own ++ (itemMarkups c i).flatMap customsOf) ∧
    (∀ start ∈ own, ∃ size, Measures start size) ∧
    ((∀ start ∈ own, IsPositive start) ↔ ∀ p ∈ slidePictures i, ¬ IsFlat c p)

section Builders

variable [Room] {nodes : List Node}

/-- an element in a positive size -/
theorem mediaSizes_single {i : Item} {tag url : String} (htags : itemTags c i = [tag]) (hslides : slidePictures i = [])
    (hshows : Shows start tag url size) (hpositive : 1 ≤ size.width ∧ 1 ≤ size.height)
    (hweaves : Weaves s nodes [start] (itemMarkups c i) t) : MediaSizes c i nodes := by
  refine ⟨[start], by rw [htags, List.map_singleton, hshows.tag], hweaves.customs, ?_, ?_⟩
  · exact List.forall_mem_singleton.2 ⟨size, hshows.toMeasures⟩
  · rw [List.forall_mem_singleton, hslides]
    exact iff_of_true ((isPositive_iff hshows.toMeasures).2 hpositive) (List.forall_mem_nil _)

theorem mediaSizes_image {p : Picture} {style : ImageStyle} {b : Built} (hstyle : style.sizing ≠ .scaled)
    (hbox : style.box = Box.usual) (h : Runs (image c p style) s b t) : MediaSizes c (.image p) b.nodes := by
  obtain ⟨size, shown, start, _, hsize, hfitted, hshows, hweaves⟩ := image_weaves hstyle h
  obtain ⟨hwidth, hheight⟩ := dimensions_positive hsize
  refine mediaSizes_single rfl rfl hshows ?_ hweaves
  unfold fittedSize at hfitted
  split at hfitted
  · obtain ⟨view, hview, hend⟩ := bind_ok_iff.1 hfitted
    obtain rfl := pure_ok_iff.1 hend
    rw [hbox] at hview
    exact Media.cover_positive (by omega) (by omega) (by decide) (by decide) hview
  · obtain rfl := Except.ok.inj hfitted
    exact ⟨hwidth, hheight⟩

theorem mediaSizes_video {p : Picture} {name : String} {b : Built} (h : Runs (video c p name) s b t) :
    MediaSizes c (.video p) b.nodes := by
  obtain ⟨size, start, _, hsize, hshows, hweaves⟩ := video_weaves h
  exact mediaSizes_single rfl rfl hshows (dimensions_positive hsize) hweaves

theorem mediaSizes_slideshow {shown : Slideshow} {name : String} {b : Built}
    (h : Runs (slideshow c shown name) s b t) : MediaSizes c (.slideshow shown) b.nodes := by
  obtain ⟨own, hshow, hweaves⟩ := slideshow_weaves h
  obtain ⟨hmeasured, hpositive⟩ := isShow_positive_iff hshow
  exact ⟨own, isShow_tags hshow, hweaves.customs, hmeasured, hpositive⟩

/-- **Media in the content.** -/
theorem mediaSizes_item {i : Item} {r : Option Built} (hmedia : isMedia i = true) (h : Runs (item c i) s r t) :
    MediaSizes c i (partNodes r) := by
  cases i with
  | image p =>
    obtain ⟨b, hb, rfl⟩ := runs_map.1 h
    exact mediaSizes_image (by decide) rfl hb
  | animatedImage p =>
    obtain ⟨b, hb, rfl⟩ := runs_map.1 h
    obtain ⟨size, start, _, hsize, hshows, hweaves⟩ := animatedImage_weaves hb
    exact mediaSizes_single rfl rfl hshows (dimensions_positive hsize) hweaves
  | video p =>
    obtain ⟨b, hb, rfl⟩ := runs_map.1 h
    exact mediaSizes_video hb
  | slideshow shown =>
    obtain ⟨b, hb, rfl⟩ := runs_map.1 h
    exact mediaSizes_slideshow hb
  | _ => cases hmedia

/-- **Media as a cover.** -/
theorem mediaSizes_cover {given : Cover} {b : Built} (h : Runs (cover c given) s b t) :
    MediaSizes c given.toItem b.nodes := by
  cases given with
  | image p => exact mediaSizes_image (by decide) rfl (show Runs (image c p ImageStyle.cover) s b t from h)
  | video p => exact mediaSizes_video h
  | slideshow shown => exact mediaSizes_slideshow h

end Builders

/-! ## Media and logos -/

/-- **Which sizes are positive.** Media in the content or as a cover say positive sizes unless a picture of a slideshow
is too flat. The logo of a compiled style has positive sides just when both are more than a half once they are
scaled. -/
theorem sizes_positive_iff [Room] (c : Setting) (classPrefix : String)
    (resolve? : Option (Json → Except Fault Media.Lookup)) (style : Json) (d : Css.Draft) :
    (∀ (i : Item) (s t : State) (r : Option Built), isMedia i = true → Runs (item c i) s r t →
      MediaSizes c i (partNodes r)) ∧
    (∀ (given : Cover) (s t : State) (b : Built), Runs (cover c given) s b t → MediaSizes c given.toItem b.nodes) ∧
    ∀ (result : Css.Style) (e : Css.Draft) (logo : Css.Logo),
      (Css.Style.compile classPrefix resolve? style).run d = .ok (result, e) → result.logo = some logo →
      ∃ header block extent scale, Css.HasLogo style header block ∧
        Css.Sized resolve? header block ((lookup? "url" block).getD .null) extent scale logo ∧
        (1 ≤ logo.width ∧ 1 ≤ logo.height ↔
          ∀ side ∈ [extent.1, extent.2], 1 / 2 < ((Css.quantityValue side).mul scale).toRat) :=
  ⟨fun _ _ _ _ hmedia h => mediaSizes_item hmedia h, fun _ _ _ _ h => mediaSizes_cover h,
    fun _ _ _ h hlogo => Css.compile_logo h hlogo⟩

/-- a setting in which one picture has a size -/
def measured (size : Media.Size) : Setting where
  article :=
    { canonicalUrl := "", charset := "utf-8", style := "", rightToLeft := false, header := Header.empty, items := []
      footer := none, extras := [] }
  properties := .usual
  resolver := ⟨{ Media.SizeConfig.usual with sizes := [("a", size)] }, default, default, false⟩

/-- a slideshow of that picture alone -/
def lonePicture : Slideshow := ⟨[⟨"a", none⟩], none⟩

theorem exists_slideshow (size : Media.Size) (heights : List (Option String))
    (h : ((slideshow (measured size) lonePicture "slideshow").run.run (State.start "" .empty)).1.toOption.map
      (fun b => (customsIn b.nodes).map (·.attribute? "height")) = some heights) :
    ∃ b t, Runs (slideshow (measured size) lonePicture "slideshow") (State.start "" .empty) b t ∧
      (customsIn b.nodes).map (·.attribute? "height") = heights := by
  rcases hrun : (slideshow (measured size) lonePicture "slideshow").run.run (State.start "" .empty) with ⟨_ | b, t⟩
  · rw [hrun] at h
    cases h
  · rw [hrun] at h
    exact ⟨b, t, hrun, Option.some.inj h⟩

/-- a style with that picture as its logo -/
def logoStyle : Json := .object [("header", .object [("logo", .text "a")])]

/-- the size of that picture wherever it is -/
def sizeAnywhere (size : Media.Size) : Option (Json → Except Fault Media.Lookup) := some fun _ => .ok ⟨size, [], []⟩

theorem exists_logo [Room] (size : Media.Size) (width : Int)
    (h : ((Css.Style.compile "" (sizeAnywhere size) logoStyle).run (default : Css.Draft)).toOption.map
      (fun r => r.1.logo.map Css.Logo.width) = some (some width)) :
    ∃ result e logo, (Css.Style.compile "" (sizeAnywhere size) logoStyle).run (default : Css.Draft) = .ok (result, e) ∧
      result.logo = some logo ∧ logo.width = width := by
  rcases hrun : (Css.Style.compile "" (sizeAnywhere size) logoStyle).run (default : Css.Draft) with _ | ⟨result, e⟩
  · rw [hrun] at h
    cases h
  · rw [hrun] at h
    obtain ⟨logo, hlogo, hwidth⟩ := Option.map_eq_some_iff.1 (Option.some.inj h)
    exact ⟨result, e, logo, rfl, hlogo, hwidth⟩

section Sample

attribute [local instance] Room.usual

theorem sizes_positive_iff_sample :
    (isMedia (.slideshow lonePicture) = true ∧ ∃ b t,
      Runs (item (measured ⟨640, 480⟩) (.slideshow lonePicture)) (State.start "" .empty) (some b) t ∧
        ∃ own, own.map Start.tag = ["amp-carousel", "amp-img"] ∧ (customsIn b.nodes).Perm own ∧
          ∀ start ∈ own, IsPositive start) ∧
    ∃ result e logo,
      (Css.Style.compile "" (sizeAnywhere ⟨640, 480⟩) logoStyle).run (default : Css.Draft) = .ok (result, e) ∧
        result.logo = some logo ∧ ∃ header block extent scale, Css.HasLogo logoStyle header block ∧
          Css.Sized (sizeAnywhere ⟨640, 480⟩) header block ((lookup? "url" block).getD .null) extent scale logo := by
  obtain ⟨b, t, hrun, -⟩ := exists_slideshow ⟨640, 480⟩ [some "285", some "285"] (by decide +kernel)
  have hitem : Runs (item (measured ⟨640, 480⟩) (.slideshow lonePicture)) (State.start "" .empty) (some b) t :=
    runs_bind.2 ⟨b, t, hrun, runs_pure.2 ⟨rfl, rfl⟩⟩
  obtain ⟨result, e, logo, hcompile, hlogo, -⟩ := exists_logo ⟨640, 480⟩ 35 (by decide +kernel)
  obtain ⟨hitems, -, hlogos⟩ :=
    sizes_positive_iff (measured ⟨640, 480⟩) "" (sizeAnywhere ⟨640, 480⟩) logoStyle (default : Css.Draft)
  obtain ⟨header, block, extent, scale, hhas, hsized, -⟩ := hlogos result e logo hcompile hlogo
  obtain ⟨own, htags, hcustoms, -, hpositive⟩ := hitems _ _ _ _ rfl hitem
  refine ⟨⟨rfl, b, t, hitem, own, htags, ?_, hpositive.2 ?_⟩, result, e, logo, hcompile, hlogo, header, block, extent,
    scale, hhas, hsized⟩
  · simpa [itemMarkups, lonePicture, captionMarkups, partNodes] using hcustoms
  intro p hp
  obtain rfl := List.mem_singleton.1 hp
  rintro ⟨found, hfound, hle⟩
  cases hfound
  norm_num [usedSize] at hle

end Sample

/-- **A slideshow without height**: that of a picture a thousand times as wide as high. -/
theorem slideshow_flat : ∃ b t,
    Runs (slideshow (measured ⟨1000, 1⟩) lonePicture "slideshow") (State.start "" .empty) b t ∧
      ∃ start ∈ customsIn b.nodes, start.attribute? "height" = some "0" ∧ ¬ IsPositive start := by
  obtain ⟨b, t, hrun, hheights⟩ := exists_slideshow ⟨1000, 1⟩ [some "0", some "0"] (by decide +kernel)
  have hmem : some "0" ∈ (customsIn b.nodes).map (·.attribute? "height") := by
    rw [hheights]
    exact List.mem_cons_self
  obtain ⟨start, hstart, hheight⟩ := List.mem_map.1 hmem
  refine ⟨b, t, hrun, start, hstart, hheight, ?_⟩
  rintro ⟨size, hmeasures, -, hpositive⟩
  have hzero : intText size.height = intText 0 := Option.some.inj (hmeasures.height.symm.trans hheight)
  rw [intText_injective hzero] at hpositive
  exact absurd hpositive (by decide)

end AmpArticle.Page
