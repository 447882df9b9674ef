import AmpArticle.Proofs.Page.Clipping

/-!
Heights in proportion. A picture that takes the width of a box gets the whole number that is nearest to the exact
proportion as its height. So do the slides of a slideshow, which are all as wide as the usual box, and the carousel
around them has the size of the first.

Results:
- `plainImage_scaled`: an image as wide as its box;
- `IsSlide.exact`: a slide whose picture is not too long;
- `slideshow_carousel`: a slideshow is a carousel around its slides, or a figure with it;
- `scaled_exact`: the heights of all of them.
-/

namespace AmpArticle.Page

open Markup (Element Node)

variable {c : Setting} {s t : State}

/-- an image as wide as its box shows the box's width and the height in proportion -/
theorem plainImage_scaled {url : String} {size : Media.Size} {style : ImageStyle} {width n : Int} {e : Element}
    (hsizing : style.sizing = .scaled) (hwidth : style.box.width = .int width)
    (hn : Media.scaledHeight (.int size.width) (.int size.height) (.int width) = .ok n)
    (h : Runs (plainImage url size style) s e t) : Shows e.start "amp-img" url ⟨width, n⟩ := by
  unfold plainImage at h
  rw [hsizing, hwidth] at h
  obtain ⟨height, hscaled, himage⟩ := runs_liftM_bind.1 h
  obtain rfl := Except.ok.inj (hn.symm.trans hscaled)
  rw [pure_bind] at himage
  exact (create_shows [] (by decide) himage).1

/-- a picture that is not too long to be scaled exactly, if its size is known -/
def IsModest (c : Setting) (p : Picture) : Prop :=
  ∀ found, c.resolver.resolve p.url .image = .ok found → (usedSize found.size).height * 380 < 2 ^ 52

/-- a slide with its size, as wide as the usual box and as high as the size of the picture has it in proportion -/
structure IsExact (c : Setting) (p : Picture) (slide : Element × Media.Size) : Prop where
  shows : Shows slide.1.start "amp-img" p.url slide.2
  width : slide.2.width = 380
  height : ∃ found, c.resolver.resolve p.url .image = .ok found ∧
    IsNearest slide.2.height ((usedSize found.size).height * 380 / (usedSize found.size).width)

theorem IsSlide.exact {p : Picture} {slide : Element × Media.Size} (h : IsSlide c p slide) (hmodest : IsModest c p) :
    IsExact c p slide := by
  obtain ⟨⟨size, s, t, hsize, hslide⟩, hshows⟩ := h
  obtain ⟨hwidth, hheight⟩ := dimensions_positive hsize
  obtain ⟨found, hfound, rfl⟩ := dimensions_runs hsize
  obtain ⟨height, hscaled, hend⟩ := bind_ok_iff.1 hslide
  obtain ⟨n, hn, hnearest⟩ := Media.scaledHeight_isNearest (show 0 < (usedSize found.size).width by omega) (by omega)
    (by decide) (hmodest found hfound)
  obtain rfl := Except.ok.inj (hn.symm.trans hscaled)
  have hsize' : slide.2 = ⟨Media.defaultWidth, n⟩ := (pure_ok_iff.1 hend).symm
  refine ⟨hshows, by rw [hsize']; rfl, found, hfound, ?_⟩
  rw [hsize']
  exact hnearest

/-- **A slideshow** is a carousel in the size of its first slide, alone or in a figure with the caption. -/
theorem slideshow_carousel {shown : Slideshow} {name : String} {b : Built} (himages : shown.images ≠ [])
    (h : Runs (slideshow c shown name) s b t) : ∃ (carousel : Element) (first : Element × Media.Size)
      (slides : List (Element × Media.Size)), Captioned carousel shown.caption b ∧ carousel.tag = "amp-carousel" ∧
        carousel.children = (first :: slides).map (fun r => r.1.toNode) ∧ Measures carousel.start first.2 ∧
        List.Forall₂ (IsSlide c) shown.images (first :: slides) := by
  obtain ⟨p, ps, himages⟩ := List.exists_cons_of_ne_nil himages
  obtain ⟨first, slides, t₁, t₂, t₃, hfirst, hslides, -, hfigure⟩ := slideshow_runs himages h
  obtain ⟨htag, hchildren, hmeasures⟩ := carouselElement_measures s.classPrefix name first.2
  refine ⟨_, first, slides, figure_captioned hfigure, htag, ?_, hmeasures, ?_⟩
  · rw [Element.append, hchildren, List.nil_append]
  · rw [himages]
    exact .cons (slide_weaves hfirst).1 (runs_mapM_forall₂ (fun _ _ _ _ h => (slide_weaves h).1) hslides)

/-- **Heights in proportion are rounded exactly.** The height that belongs to a new width is always there, and it is
the whole number nearest to the exact proportion, while the height times the width is below 2 ^ 52. An image as wide as
its box says that width and this height. All slides of a slideshow are as wide as the usual box and have this height,
and the carousel around them has the size of the first. -/
theorem scaled_exact :
    (∀ w h t : Int, 0 < w → 0 < h → 0 < t → h * t < 2 ^ 52 → ∃ n,
      Media.scaledHeight (.int w) (.int h) (.int t) = .ok n ∧ IsNearest n (h * t / w) ∧
      ∀ (url : String) (style : ImageStyle) (s u : State) (e : Element), style.sizing = .scaled →
        style.box.width = .int t → Runs (plainImage url ⟨w, h⟩ style) s e u → Shows e.start "amp-img" url ⟨t, n⟩) ∧
    ∀ (c : Setting) (shown : Slideshow) (name : String) (s t : State) (b : Built), shown.images ≠ [] →
      (∀ p ∈ shown.images, IsModest c p) → Runs (slideshow c shown name) s b t →
      ∃ (carousel : Element) (first : Element × Media.Size) (slides : List (Element × Media.Size)),
        Captioned carousel shown.caption b ∧ carousel.tag = "amp-carousel" ∧
        carousel.children = (first :: slides).map (fun r => r.1.toNode) ∧ Measures carousel.start first.2 ∧
        List.Forall₂ (IsExact c) shown.images (first :: slides) := by
  constructor
  · intro w h t hw hh ht hsmall
    obtain ⟨n, hn, hnearest⟩ := Media.scaledHeight_isNearest hw hh ht hsmall
    exact ⟨n, hn, hnearest, fun url style s u e hsizing hwidth himage => plainImage_scaled hsizing hwidth hn himage⟩
  · intro c shown name s t b himages hmodest hrun
    obtain ⟨carousel, first, slides, hcaptioned, htag, hchildren, hmeasures, hslides⟩ :=
      slideshow_carousel himages hrun
    refine ⟨carousel, first, slides, hcaptioned, htag, hchildren, hmeasures, ?_⟩
    exact ((List.forall₂_and_left _ _).2 ⟨hmodest, hslides⟩).imp fun _ _ h => h.2.exact h.1

/-- an image as wide as a box of four pixels -/
def narrowStyle : ImageStyle := ⟨.scaled, .name "image", ⟨.int 4, .int 4⟩, .name "viewport-box"⟩

theorem scaled_exact_samples :
    (∃ e u, Runs (plainImage "a" ⟨8, 5⟩ narrowStyle) (State.start "" .empty) e u ∧
      IsNearest 2 ((5 : Int) * (4 : Int) / (8 : Int)) ∧ Shows e.start "amp-img" "a" ⟨4, 2⟩) ∧
    ∃ b t, lonePicture.images ≠ [] ∧ (∀ p ∈ lonePicture.images, IsModest (measured ⟨640, 480⟩) p) ∧
      Runs (slideshow (measured ⟨640, 480⟩) lonePicture "slideshow") (State.start "" .empty) b t ∧
      ∃ (carousel : Element) (slide : Element × Media.Size), b = .ofElement carousel ∧
        carousel.children = [slide.1.toNode] ∧ Measures carousel.start slide.2 ∧
        IsExact (measured ⟨640, 480⟩) ⟨"a", none⟩ slide := by
  obtain ⟨hscaled, hslides⟩ := scaled_exact
  constructor
  · have hmade : ((plainImage "a" ⟨8, 5⟩ narrowStyle).run.run (State.start "" .empty)).1.toBool = true := by
      decide +kernel
    obtain ⟨n, hn, hnearest, hshows⟩ := hscaled 8 5 4 (by decide) (by decide) (by decide) (by decide)
    have htwo : roundHalfEven ((5 : Int) * (4 : Int) / (8 : Int)) = 2 := by decide +kernel
    obtain rfl := (isNearest_iff.1 hnearest).trans htwo
    rcases hrun : (plainImage "a" ⟨8, 5⟩ narrowStyle).run.run (State.start "" .empty) with ⟨_ | e, u⟩
    · rw [hrun] at hmade
      cases hmade
    · exact ⟨e, u, hrun, hnearest, hshows "a" narrowStyle _ u e rfl rfl hrun⟩
  · obtain ⟨b, t, hrun, -⟩ := exists_slideshow ⟨640, 480⟩ [some "285", some "285"] (by decide +kernel)
    have hmodest : ∀ p ∈ lonePicture.images, IsModest (measured ⟨640, 480⟩) p := by
      intro p hp found hfound
      obtain rfl := List.mem_singleton.1 hp
      cases hfound
      decide
    obtain ⟨carousel, first, slides, hcaptioned, -, hchildren, hmeasures, hall⟩ :=
      hslides _ lonePicture "slideshow" _ t b (by decide) hmodest hrun
    cases hcaptioned
    cases hall with
    | cons hfirst hrest =>
      cases hrest
      exact ⟨_, t, by decide, hmodest, hrun, carousel, first, rfl, hchildren, hmeasures, hfirst⟩

end AmpArticle.Page
