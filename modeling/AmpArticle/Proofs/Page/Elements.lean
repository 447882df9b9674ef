import AmpArticle.Page.Content
import AmpArticle.Page.Header
import AmpArticle.Proofs.Page.Unfiltered
import AmpArticle.Proofs.Page.Weaving

/-!
The custom elements of an article, kind by kind: what the builder of an item makes, and which markup it takes over.

Results:
- `Shows`: a start tag for an address with a size; the pictures, videos and slides that are made are of this form;
- `image_weaves`, `animatedImage_weaves`, `video_weaves`, `slideshow_weaves`: the builders of media;
- `item_weaves`: what is made for an item of any kind is `itemTags`, and the markup that it brings is `itemMarkups`.
-/

namespace AmpArticle.Page

open Markup (Element Node Start isCustomTag customsOf)
open Markup.Node (customsIn)

variable {c : Setting} {s t u : State}

/-! ## Start tags of new elements -/

theorem withClass_append (p : String) (names : Option Css.ClassNames) (xs ys : List (String × String)) :
    withClass p names (xs ++ ys) = withClass p names xs ++ ys := (List.append_assoc _ _ _).symm

theorem withClass_names (p : String) (names : Option Css.ClassNames) (attributes : List (String × String)) :
    List.Sublist ((withClass p names attributes).map Prod.fst) ("class" :: attributes.map Prod.fst) := by
  unfold withClass
  cases (names.filter Css.ClassNames.isPresent).bind fun names => (names.classAttribute p).toOption with
  | none => exact List.sublist_cons_self _ _
  | some text => exact List.Sublist.refl _

section Created

variable {tag p : String} {names : Option Css.ClassNames} {attributes : List (String × String)}

/-- the attributes of a new element, when all have different names -/
theorem created_attributes (hnodup : ("class" :: attributes.map Prod.fst).Nodup) :
    ((Element.bare tag).putAll (withClass p names attributes)).attributes =
      Markup.valued (withClass p names attributes) :=
  Element.putAll_attributes (Element.bare tag) (hnodup.sublist (withClass_names p names attributes))

/-- a new element bears an attribute that it is given, when no other has its name -/
theorem putAll_attribute? {name value : String} (hnodup : ("class" :: attributes.map Prod.fst).Nodup)
    (hmem : (name, value) ∈ attributes) :
    ((Element.bare tag).putAll (withClass p names attributes)).start.attribute? name = some value := by
  rw [Start.attribute?, Element.start, created_attributes hnodup]
  exact Markup.valued_find (hnodup.sublist (withClass_names p names attributes)) (List.mem_append_right _ hmem)

/-- a new element that is given class names bears them -/
theorem created_class {text : String} {names : Css.ClassNames} {e : Element} (hpresent : names.isPresent = true)
    (hclass : names.classAttribute s.classPrefix = .ok text) (hnodup : ("class" :: attributes.map Prod.fst).Nodup)
    (h : Runs (Rendering.create tag (some names) attributes) s e t) : e.attribute? "class" = some text := by
  obtain ⟨rfl, -⟩ := create_eq h
  rw [Element.attribute?, created_attributes hnodup]
  refine Markup.valued_find (hnodup.sublist (withClass_names s.classPrefix (some names) attributes)) ?_
  rw [withClass, Option.filter_some_pos hpresent, Option.bind_some, hclass]
  exact List.mem_cons_self

/-- without class names it has no class -/
theorem created_unclassed {names : Css.ClassNames} {e : Element} (habsent : names.isPresent = false)
    (hnodup : ("class" :: attributes.map Prod.fst).Nodup)
    (h : Runs (Rendering.create tag (some names) attributes) s e t) : e.attribute? "class" = none := by
  obtain ⟨rfl, -⟩ := create_eq h
  have hnames : withClass s.classPrefix (some names) attributes = attributes := by
    rw [withClass, Option.filter_some_neg (by simp [habsent])]
    rfl
  rw [Element.attribute?, created_attributes hnodup, hnames, List.find?_eq_none.2, Option.bind_none]
  intro a ha
  obtain ⟨given, hgiven, rfl⟩ := List.mem_map.1 ha
  have hne : given.1 ≠ "class" := fun heq => (List.nodup_cons.1 hnodup).1 (heq ▸ List.mem_map_of_mem hgiven)
  simpa using hne

end Created

/-- a start tag that says a size -/
structure Measures (start : Start) (size : Media.Size) : Prop where
  width : start.attribute? "width" = some (intText size.width)
  height : start.attribute? "height" = some (intText size.height)

/-- a start tag of a custom element that shows what is at an address, in a size -/
structure Shows (start : Start) (tag url : String) (size : Media.Size) : Prop extends Measures start size where
  tag : start.tag = tag
  source : start.attribute? "src" = some url

/-- a new element for media at an address, with further attributes -/
theorem create_shows {tag url layout : String} {size : Media.Size} {names : Option Css.ClassNames}
    (more : List (String × String)) {e : Element}
    (hnodup : (["class", "src", "width", "height", "layout"] ++ more.map Prod.fst).Nodup)
    (h : Runs (Rendering.create tag names (mediaAttributes url size layout ++ more)) s e t) :
    Shows e.start tag url size ∧ e.tag = tag ∧ e.children = [] := by
  obtain ⟨htag, -, hchildren⟩ := create_new h
  obtain ⟨rfl, -⟩ := create_eq h
  have hnames : ("class" :: (mediaAttributes url size layout ++ more).map Prod.fst).Nodup := by
    simpa [mediaAttributes] using hnodup
  refine ⟨⟨⟨?_, ?_⟩, htag, ?_⟩, htag, hchildren⟩
  all_goals exact putAll_attribute? hnames (List.mem_append_left _ (by simp [mediaAttributes]))

/-! ## Captions -/

/-- the markup of a caption in its order -/
def captionMarkups (caption : Option Caption) : List String :=
  match caption with
  | some c => c.title.toList ++ c.subtitle.toList ++ [c.text] ++ c.credit.toList
  | none => []

section Captions

variable {e f : Element} {own : List Start} {texts : List String}

theorem customsOf_isEmpty {text : String} (h : text.isEmpty = true) : customsOf text = [] := by
  rw [customsOf, Markup.taken, if_pos h, Markup.Node.customsIn_nil]

/-- markup without custom elements makes no difference -/
theorem Weaves.idle {ns : List Node} {text : String} (h : Weaves s ns own texts t) (htext : text.isEmpty = true) :
    Weaves s ns own (texts ++ [text]) t :=
  ⟨by simpa [customsOf_isEmpty htext] using h.customs, h.features⟩

theorem captionPart_weaves {tag : String} {markup : Option String} (htag : isCustomTag tag = false)
    (he : Weaves s [e.toNode] own texts t) (h : Runs (captionPart e tag markup) t f u) :
    Weaves s [f.toNode] own (texts ++ markup.toList) u := by
  unfold captionPart at h
  cases markup with
  | none =>
    obtain ⟨rfl, rfl⟩ := runs_pure.1 h
    simpa using he
  | some text =>
    dsimp only at h
    split at h
    · rename_i hempty
      obtain ⟨rfl, rfl⟩ := runs_pure.1 h
      exact he.idle hempty
    · obtain ⟨part, _, hpart, hrest⟩ := runs_bind.1 h
      obtain ⟨full, hfull, rfl⟩ := runs_map.1 hrest
      simpa using he.adopt ((weaves_plain htag hpart).markup hfull)

theorem caption_weaves {caption : Caption} (h : Runs (Page.caption caption) s e t) :
    Weaves s [e.toNode] [] (captionMarkups (some caption)) t := by
  obtain ⟨e₀, _, h₀, hrest⟩ := runs_bind.1 h
  obtain ⟨e₁, _, h₁, hrest⟩ := runs_bind.1 hrest
  obtain ⟨e₂, _, h₂, hrest⟩ := runs_bind.1 hrest
  obtain ⟨e₃, _, h₃, h₄⟩ := runs_bind.1 hrest
  have htitle := captionPart_weaves (by decide) (weaves_plain (by decide) h₀) h₁
  exact captionPart_weaves (by decide) ((captionPart_weaves (by decide) htitle h₂).markup h₃) h₄

section Keeping

variable {γ : Type} {part : State → γ}

theorem captionPart_keeps (e : Element) (tag : String) (markup : Option String) :
    Keeps part (captionPart e tag markup) := by
  unfold captionPart
  split
  · exact keeps_pure _
  · split
    · exact keeps_pure _
    · refine keeps_bind (Rendering.create_keeps _ _ _) fun _ => keeps_bind (keeps_liftM _) fun _ => ?_
      exact keeps_pure _

theorem caption_keeps (c : Caption) : Keeps part (caption c) := by
  refine keeps_bind (Rendering.create_keeps _ _ _) fun _ => keeps_bind (captionPart_keeps _ _ _) fun _ => ?_
  refine keeps_bind (captionPart_keeps _ _ _) fun _ => keeps_bind (keeps_liftM _) fun _ => ?_
  exact captionPart_keeps _ _ _

/-- a caption leaves all but the log -/
theorem figure_keeps (h : ∀ s log, part { s with log := log } = part s) (e : Element) (caption : Option Caption) :
    Keeps part (figure e caption) := by
  unfold figure
  split
  · exact keeps_pure _
  · refine keeps_bind (Rendering.create_keeps _ _ _) fun _ => keeps_bind (caption_keeps _) fun _ => ?_
    exact keeps_bind (keeps_modify fun s => h s _) fun _ => keeps_pure _

end Keeping

theorem figure_weaves {caption : Option Caption} {b : Built} (he : Weaves s [e.toNode] own texts t)
    (h : Runs (figure e caption) t b u) : Weaves s b.nodes own (texts ++ captionMarkups caption) u := by
  unfold figure at h
  cases caption with
  | none =>
    obtain ⟨rfl, rfl⟩ := runs_pure.1 h
    simpa [captionMarkups, Built.nodes, Built.ofElement] using he
  | some caption =>
    obtain ⟨holder, t₁, hholder, hrest⟩ := runs_bind.1 h
    obtain ⟨below, t₂, hbelow, hrest⟩ := runs_bind.1 hrest
    obtain ⟨_, hnote, rfl⟩ := runs_map.1 hrest
    have hparts := (he.behind (Rendering.create_quiet _ _ _ _ _ _ hholder)).append (caption_weaves hbelow)
    have hinside := hparts.behind (Rendering.note_quiet _ _ _ _ hnote)
    rw [List.append_nil] at hinside
    -- the holder is empty before it takes up both, in one order or the other
    obtain ⟨htag, -, hchildren⟩ := create_new hholder
    refine hinside.perm ?_
    rw [Built.nodes, Built.ofElement, Markup.Node.customsIn_frame (by rw [Element.append, htag]; decide), Element.append,
      hchildren, List.nil_append]
    split
    · rw [Markup.Node.customsIn_cons below.toNode, Markup.Node.customsIn_append [e.toNode]]
      exact List.perm_append_comm
    · exact List.Perm.refl _

end Captions

/-! ## Media -/

/-- what a step promises of each entry of a list -/
theorem runs_mapM_forall₂ {α β : Type} {step : α → Rendering β} {p : α → β → Prop}
    (h : ∀ a s b t, Runs (step a) s b t → p a b) {as : List α} {bs : List β} (hrun : Runs (as.mapM step) s bs t) :
    List.Forall₂ p as bs := by
  induction as generalizing s t bs with
  | nil =>
    obtain ⟨rfl, -⟩ := runs_pure.1 hrun
    exact .nil
  | cons a as ih =>
    rw [List.mapM_cons] at hrun
    obtain ⟨b, _, hb, hrest⟩ := runs_bind.1 hrun
    obtain ⟨bs, hbs, rfl⟩ := runs_map.1 hrest
    exact .cons (h a _ b _ hb) (ih hbs)

theorem securedAddress_runs {url kind secured : String} (h : Runs (securedAddress url kind) s secured t) :
    secured = Url.secure url ∧ t.features = s.features := by
  unfold securedAddress at h
  simp only at h
  split at h
  · obtain ⟨_, hwarn, rfl⟩ := runs_map.1 h
    exact ⟨rfl, Rendering.warnText_quiet _ _ _ _ _ _ hwarn⟩
  · obtain ⟨rfl, rfl⟩ := runs_pure.1 h
    exact ⟨rfl, rfl⟩

theorem not_feature_image (f : Feature) : f.tag ≠ "amp-img" := by cases f <;> decide

/-- the size of an image that is fitted, from its own size; the width of one that is as wide as its box is no number -/
def fittedSize (style : ImageStyle) (size : Media.Size) : Except Fault Media.Size :=
  if style.sizing = .viewport then do
    let view ← Media.cover (.int size.width) (.int size.height) style.box.width style.box.height
    return ⟨view.width, view.height⟩
  else .ok size

theorem clippedImage_weaves {url : String} {size : Media.Size} {style : ImageStyle} {e : Element}
    (h : Runs (clippedImage url size style) s e t) :
    ∃ view start, Media.cover (.int size.width) (.int size.height) style.box.width style.box.height = .ok view ∧
      Shows start "amp-img" url ⟨view.width, view.height⟩ ∧ Weaves s [e.toNode] [start] [] t := by
  obtain ⟨own, t₁, h₁, hrest⟩ := runs_bind.1 h
  obtain ⟨holder, t₂, hholder, hrest⟩ := runs_bind.1 hrest
  obtain ⟨ownClass, t₃, h₃, hrest⟩ := runs_bind.1 hrest
  obtain ⟨_, t₄, h₄, hrest⟩ := runs_bind.1 hrest
  obtain ⟨_, t₅, h₅, hrest⟩ := runs_bind.1 hrest
  obtain ⟨_, t₆, h₆, hrest⟩ := runs_bind.1 hrest
  obtain ⟨view, hcover, hrest⟩ := runs_liftM_bind.1 hrest
  obtain ⟨_, t₇, h₇, hrest⟩ := runs_bind.1 hrest
  obtain ⟨image, himage, rfl⟩ := runs_map.1 hrest
  have hquiet : t₇.features = t₂.features := by
    rw [Rendering.declare_quiet _ _ _ _ _ _ h₇, Rendering.declare_quiet _ _ _ _ _ _ h₆,
      Rendering.declare_quiet _ _ _ _ _ _ h₅, Rendering.declare_quiet _ _ _ _ _ _ h₄,
      Rendering.classAttribute_quiet _ _ _ _ h₃]
  have hbox := ((weaves_plain (by decide) hholder).before (Rendering.uniqueClass_quiet _ _ _ _ h₁)).behind hquiet
  obtain ⟨hshows, htag, hchildren⟩ := create_shows [] (by decide) himage
  have hpicture : Weaves t₇ [image.toNode] [image.start] [] t :=
    weaves_featureless (by rw [htag]; decide) (by rw [htag]; exact not_feature_image) hchildren
      (Rendering.create_quiet _ _ _ _ _ _ himage)
  exact ⟨view, image.start, hcover, hshows, hbox.adopt hpicture⟩

theorem plainImage_weaves {url : String} {size : Media.Size} {style : ImageStyle} {e : Element}
    (hstyle : style.sizing ≠ .scaled) (h : Runs (plainImage url size style) s e t) :
    ∃ start, Shows start "amp-img" url size ∧ Weaves s [e.toNode] [start] [] t := by
  unfold plainImage at h
  split at h
  · rename_i hscaled
    exact absurd hscaled hstyle
  · obtain ⟨_, _, hsides, himage⟩ := runs_bind.1 h
    obtain ⟨rfl, rfl⟩ := runs_pure.1 hsides
    obtain ⟨hshows, htag, hchildren⟩ := create_shows [] (by decide) himage
    exact ⟨e.start, hshows, weaves_featureless (by rw [htag]; decide) (by rw [htag]; exact not_feature_image) hchildren
      (Rendering.create_quiet _ _ _ _ _ _ himage)⟩

/-- **An image** in the size that its own size is fitted to. -/
theorem image_weaves {p : Picture} {style : ImageStyle} {b : Built} (hstyle : style.sizing ≠ .scaled)
    (h : Runs (image c p style) s b t) :
    ∃ size shown start u, Runs (Rendering.dimensions c p.url .image) s size u ∧ fittedSize style size = .ok shown ∧
      Shows start "amp-img" p.url shown ∧ Weaves s b.nodes [start] (captionMarkups p.caption) t := by
  obtain ⟨size, u, hsize, hrest⟩ := runs_bind.1 h
  have hquiet := Rendering.dimensions_quiet _ _ _ _ _ _ hsize
  split at hrest
  · rename_i hviewport
    obtain ⟨e, v, himage, hfigure⟩ := runs_bind.1 hrest
    obtain ⟨view, start, hview, hshows, hweaves⟩ := clippedImage_weaves himage
    refine ⟨size, ⟨view.width, view.height⟩, start, u, hsize, ?_, hshows, figure_weaves (hweaves.before hquiet) hfigure⟩
    rw [fittedSize, if_pos hviewport, hview]
    rfl
  · rename_i hplain
    obtain ⟨e, v, himage, hfigure⟩ := runs_bind.1 hrest
    obtain ⟨start, hshows, hweaves⟩ := plainImage_weaves hstyle himage
    exact ⟨size, size, start, u, hsize, if_neg hplain, hshows, figure_weaves (hweaves.before hquiet) hfigure⟩

/-- **A moving image** in its own size. -/
theorem animatedImage_weaves {p : Picture} {b : Built} (h : Runs (animatedImage c p) s b t) :
    ∃ size start u, Runs (Rendering.dimensions c p.url .image) s size u ∧ Shows start "amp-anim" p.url size ∧
      Weaves s b.nodes [start] (captionMarkups p.caption) t := by
  obtain ⟨size, u, hsize, hrest⟩ := runs_bind.1 h
  obtain ⟨e, v, himage, hrest⟩ := runs_bind.1 hrest
  obtain ⟨_, w, huse, hfigure⟩ := runs_bind.1 hrest
  obtain ⟨hshows, htag, hchildren⟩ := create_shows [] (by decide) himage
  have hweaves : Weaves s [e.toNode] [e.start] [] w :=
    weaves_featured (f := .anim) htag hchildren (by
      rw [useFeature_features huse, Rendering.create_quiet _ _ _ _ _ _ himage,
        Rendering.dimensions_quiet _ _ _ _ _ _ hsize])
  exact ⟨size, e.start, u, hsize, hshows, figure_weaves hweaves hfigure⟩

/-- **A video** in its own size, from an address that is secured. -/
theorem video_weaves {p : Picture} {name : String} {b : Built} (h : Runs (video c p name) s b t) :
    ∃ size start u, Runs (Rendering.dimensions c p.url .video) s size u ∧
      Shows start "amp-video" (Url.secure p.url) size ∧ Weaves s b.nodes [start] (captionMarkups p.caption) t := by
  obtain ⟨size, u, hsize, hrest⟩ := runs_bind.1 h
  obtain ⟨url, v, hurl, hrest⟩ := runs_bind.1 hrest
  obtain ⟨rfl, hquiet⟩ := securedAddress_runs hurl
  obtain ⟨e, w, hvideo, hrest⟩ := runs_bind.1 hrest
  obtain ⟨_, x, huse, hfigure⟩ := runs_bind.1 hrest
  obtain ⟨hshows, htag, hchildren⟩ := create_shows _ (by decide) hvideo
  have hweaves : Weaves s [e.toNode] [e.start] [] x :=
    weaves_featured (f := .video) htag hchildren (by
      rw [useFeature_features huse, Rendering.create_quiet _ _ _ _ _ _ hvideo, hquiet,
        Rendering.dimensions_quiet _ _ _ _ _ _ hsize])
  exact ⟨size, e.start, u, hsize, hshows, figure_weaves hweaves hfigure⟩

/-- the size of a slide, from the size of its picture -/
def slideSize (size : Media.Size) : Except Fault Media.Size := do
  return ⟨Media.defaultWidth, ← Media.scaledHeight (.int size.width) (.int size.height) Box.usual.width⟩

/-- a slide with its size, for a picture -/
def IsSlide (c : Setting) (p : Picture) (slide : Element × Media.Size) : Prop :=
  (∃ size s t, Runs (Rendering.dimensions c p.url .image) s size t ∧ slideSize size = .ok slide.2) ∧
    Shows slide.1.start "amp-img" p.url slide.2

theorem slide_weaves {p : Picture} {r : Element × Media.Size} (h : Runs (slide c p) s r t) :
    IsSlide c p r ∧ Weaves s [r.1.toNode] [r.1.start] [] t := by
  obtain ⟨size, u, hsize, hrest⟩ := runs_bind.1 h
  obtain ⟨height, hscaled, hrest⟩ := runs_liftM_bind.1 hrest
  obtain ⟨e, hslide, rfl⟩ := runs_map.1 hrest
  obtain ⟨hshows, htag, hchildren⟩ := create_shows [] (by decide) hslide
  refine ⟨⟨⟨size, s, u, hsize, by rw [slideSize, hscaled]; rfl⟩, hshows⟩, ?_⟩
  exact weaves_featureless (by rw [htag]; decide) (by rw [htag]; exact not_feature_image) hchildren (by
    rw [Rendering.create_quiet _ _ _ _ _ _ hslide, Rendering.dimensions_quiet _ _ _ _ _ _ hsize])

/-- the custom elements of a slideshow are a carousel in the size of its first slide, and the slides -/
inductive IsShow (c : Setting) : List Picture → List Start → Prop where
  | empty : IsShow c [] []
  | carousel {p : Picture} {ps : List Picture} {first : Element × Media.Size} {slides : List (Element × Media.Size)}
      {carousel : Start} : List.Forall₂ (IsSlide c) (p :: ps) (first :: slides) → carousel.tag = "amp-carousel" →
      Measures carousel first.2 → IsShow c (p :: ps) (carousel :: (first :: slides).map fun r => r.1.start)

/-- the element of a carousel without slides, once it has a size -/
def carouselElement (p name : String) (size : Media.Size) : Element :=
  ((((Element.bare "amp-carousel").putAll (withClass p (some (.name name)) [("type", "slides")])).put "width"
    (intText size.width)).put "height" (intText size.height)).put "layout" "responsive"

theorem carouselElement_measures (p name : String) (size : Media.Size) :
    (carouselElement p name size).tag = "amp-carousel" ∧ (carouselElement p name size).children = [] ∧
      Measures (carouselElement p name size).start size := by
  -- the attributes that are set later stand behind those that are there at first
  let sides := [("width", intText size.width), ("height", intText size.height), ("layout", "responsive")]
  have hall : carouselElement p name size =
      (Element.bare "amp-carousel").putAll (withClass p (some (.name name)) ([("type", "slides")] ++ sides)) := by
    rw [withClass_append, Element.putAll, List.foldl_append]
    rfl
  have hnodup : ("class" :: ([("type", "slides")] ++ sides).map Prod.fst).Nodup :=
    (by decide : ["class", "type", "width", "height", "layout"].Nodup)
  rw [hall]
  obtain ⟨htag, -, hchildren⟩ := Element.putAll_children (Element.bare "amp-carousel")
    (withClass p (some (.name name)) ([("type", "slides")] ++ sides))
  exact ⟨htag, hchildren, putAll_attribute? hnodup (by simp [sides]), putAll_attribute? hnodup (by simp [sides])⟩

/-- a slideshow with pictures is built in this order: the slides, and a carousel around them in the size of the first,
which a figure may hold -/
theorem slideshow_runs {shown : Slideshow} {name : String} {b : Built} {p : Picture} {ps : List Picture}
    (himages : shown.images = p :: ps) (h : Runs (slideshow c shown name) s b t) :
    ∃ first slides t₁ t₂ t₃, Runs (slide c p) s first t₁ ∧ Runs (ps.mapM (slide c)) t₁ slides t₂ ∧
      Runs (Rendering.useFeature .carousel) t₂ () t₃ ∧
      Runs (figure ((carouselElement s.classPrefix name first.2).append
        ((first :: slides).map fun r => r.1.toNode)) shown.caption) t₃ b t := by
  unfold slideshow at h
  rw [himages] at h
  obtain ⟨e, t₀, hcarousel, hrest⟩ := runs_bind.1 h
  obtain ⟨first, t₁, hfirst, hrest⟩ := runs_bind.1 hrest
  obtain ⟨slides, t₂, hslides, hrest⟩ := runs_bind.1 hrest
  obtain ⟨_, t₃, huse, hfigure⟩ := runs_bind.1 hrest
  obtain ⟨rfl, rfl⟩ := create_eq hcarousel
  have hnodes : (first :: slides).map (fun r => r.1.toNode) =
      (first.1 :: slides.map Prod.fst).map Element.toNode := by
    rw [List.map_cons, List.map_cons, List.map_map]
    rfl
  refine ⟨first, slides, t₁, t₂, t₃, hfirst, hslides, huse, ?_⟩
  rw [hnodes]
  exact hfigure

/-- **A slideshow**: a carousel around its slides, or an empty box when there are none. -/
theorem slideshow_weaves {shown : Slideshow} {name : String} {b : Built} (h : Runs (slideshow c shown name) s b t) :
    ∃ own, IsShow c shown.images own ∧
      Weaves s b.nodes own (if shown.images.isEmpty then [] else captionMarkups shown.caption) t := by
  cases himages : shown.images with
  | nil =>
    unfold slideshow at h
    rw [himages] at h
    obtain ⟨_, u, hwarn, hrest⟩ := runs_bind.1 h
    obtain ⟨e, hbox, rfl⟩ := runs_map.1 hrest
    exact ⟨[], .empty, (weaves_plain (by decide) hbox).before (Rendering.warnItem_quiet _ _ _ _ _ _ hwarn)⟩
  | cons p ps =>
    obtain ⟨first, slides, t₁, t₂, t₃, hfirst, hslides, huse, hfigure⟩ := slideshow_runs himages h
    obtain ⟨hisFirst, hfirstWeaves⟩ := slide_weaves hfirst
    have hslidesWeave := weaves_mapM (fun _ _ _ _ h => (slide_weaves h).2) hslides
    have hareSlides := runs_mapM_forall₂ (fun _ _ _ _ h => (slide_weaves h).1) hslides
    have hnone : ps.flatMap (fun _ => ([] : List String)) = [] := List.flatMap_eq_nil_iff.2 fun _ _ => rfl
    rw [hnone, ← List.map_eq_flatMap, ← List.map_eq_flatMap] at hslidesWeave
    have hinside := hfirstWeaves.append hslidesWeave
    obtain ⟨htag, hchildren, hmeasures⟩ := carouselElement_measures s.classPrefix name first.2
    have hcarouselWeaves : Weaves t₂ [(carouselElement s.classPrefix name first.2).toNode] _ [] t₃ :=
      weaves_featured (f := .carousel) htag hchildren (useFeature_features huse)
    -- it takes up its slides when they are made
    have hwhole : Weaves s [((carouselElement s.classPrefix name first.2).append
        ((first :: slides).map fun r => r.1.toNode)).toNode] _ _ t₃ :=
      (hinside.append hcarouselWeaves).perm (by
        rw [Markup.Node.customsIn_adopt, List.map_cons, ← List.singleton_append, Markup.Node.customsIn_append (_ ++ _)]
        exact List.perm_append_comm)
    refine ⟨_, .carousel (.cons hisFirst hareSlides) htag hmeasures, ?_⟩
    have hfigured := figure_weaves (hwhole.reorder List.perm_append_comm) hfigure
    simpa using hfigured

/-! ## Texts -/

section Texts

variable {e : Element}

theorem textElement_weaves {tag name text : String} (htag : isCustomTag tag = false)
    (h : Runs (textElement tag name text) s e t) : Weaves s [e.toNode] [] [text] t := by
  obtain ⟨e₀, _, hnew, hmarkup⟩ := runs_bind.1 h
  exact (weaves_plain htag hnew).markup hmarkup

theorem pullquote_weaves {text : String} {attribution : Option String}
    (h : Runs (pullquote text attribution) s e t) : Weaves s [e.toNode] [] (text :: attribution.toList) t := by
  obtain ⟨e₀, _, htext, hrest⟩ := runs_bind.1 h
  have hweaves := textElement_weaves (by decide) htext
  split at hrest
  · rename_i habsent
    obtain ⟨rfl, rfl⟩ := runs_pure.1 hrest
    cases attribution with
    | none => exact hweaves
    | some who =>
      have hempty : who.isEmpty = true := by simpa [present?, Option.filter] using habsent
      exact hweaves.idle hempty
  · rename_i who hwho
    obtain ⟨hattribution, -⟩ := Option.filter_eq_some_iff.1 hwho
    obtain ⟨cite₀, _, hnew, hrest⟩ := runs_bind.1 hrest
    obtain ⟨cite, hmarkup, rfl⟩ := runs_map.1 hrest
    rw [hattribution]
    exact hweaves.adopt ((weaves_plain (by decide) hnew).markup hmarkup)

/-- elements that are made for texts, one each -/
theorem lines_weave {tag : String} (htag : isCustomTag tag = false) {texts : List String} {nodes : List Node}
    (h : Runs (texts.mapM fun text => do
      return (← Rendering.withMarkup (← Rendering.create tag none []) text).toNode) s nodes t) :
    Weaves s nodes [] texts t := by
  have hline (text : String) (s : State) (n : Node) (t : State)
      (h : Runs (do return (← Rendering.withMarkup (← Rendering.create tag none []) text).toNode) s n t) :
      Weaves s [n] [] [text] t := by
    obtain ⟨e₀, _, hnew, hrest⟩ := runs_bind.1 h
    obtain ⟨e, hmarkup, rfl⟩ := runs_map.1 hrest
    exact (weaves_plain htag hnew).markup hmarkup
  have hall : Weaves s _ (nodes.flatMap fun _ => []) _ t := weaves_mapM hline h
  have hnone : nodes.flatMap (fun _ => ([] : List Start)) = [] := List.flatMap_eq_nil_iff.2 fun _ _ => rfl
  rwa [hnone, List.flatMap_singleton', List.flatMap_singleton'] at hall

theorem listing_weaves {ordered : Bool} {items : List String} (h : Runs (listing ordered items) s e t) :
    Weaves s [e.toNode] [] items t := by
  obtain ⟨e₀, _, hnew, hrest⟩ := runs_bind.1 h
  obtain ⟨entries, hentries, rfl⟩ := runs_map.1 hrest
  have htag : isCustomTag (if ordered then "ol" else "ul") = false := by cases ordered <;> decide
  exact (weaves_plain htag hnew).adopt (lines_weave (by decide) hentries)

end Texts

/-! ## Embedded content -/

/-- the names of the attributes of a frame that do not depend on what it shows -/
def commonNames : List String := ["class", "width", "height", "layout", "frameborder"]

/-- a start tag of a frame: what its content may do, and where it comes from, stands behind its other attributes -/
structure Frames (start : Start) (content : FrameContent) : Prop where
  tag : start.tag = "amp-iframe"
  attributes : ∃ before, start.attributes = before ++ Markup.valued content.attributes ∧
    ∀ a ∈ before, a.name ∈ commonNames

theorem frame_weaves {name : String} {width height : Option Int} {content : FrameContent} {e : Element}
    (h : Runs (frame name width height content) s e t) :
    ∃ start, Frames start content ∧ Weaves s [e.toNode] [start] [] t := by
  obtain ⟨_, u, huse, hnew⟩ := runs_bind.1 h
  have hquiet := Rendering.create_quiet _ _ _ _ _ _ hnew
  obtain ⟨htag, -, hchildren⟩ := create_new hnew
  refine ⟨e.start, ⟨htag, ?_⟩,
    weaves_featured (f := .iframe) htag hchildren (by rw [hquiet, useFeature_features huse])⟩
  obtain ⟨rfl, -⟩ := create_eq hnew
  rw [Element.start, created_attributes (by cases content <;> simp [FrameContent.attributes]), withClass_append,
    Markup.valued, List.map_append]
  refine ⟨_, rfl, fun a ha => ?_⟩
  obtain ⟨given, hgiven, rfl⟩ := List.mem_map.1 ha
  exact (withClass_names _ _ _).subset (List.mem_map_of_mem hgiven)

/-- the tags of frames, one for each content -/
theorem frames_tags {own : List Start} {contents : List FrameContent} (h : List.Forall₂ Frames own contents) :
    own.map Start.tag = contents.map fun _ => "amp-iframe" := by
  induction h with
  | nil => rfl
  | cons hframe _ ih => rw [List.map_cons, List.map_cons, hframe.tag, ih]

theorem imported_weaves {name markup : String} {b : Built} (hmarkup : markup.isEmpty = false)
    (h : Runs (imported name markup) s b t) : Weaves s b.nodes [] [markup] t := by
  have hwrapped {s : State} (h : Runs
      (do return .ofElement (← Rendering.withMarkup (← Rendering.createNamed "div" name) markup)) s b t) :
      Weaves s b.nodes [] [markup] t := by
    obtain ⟨e₀, _, hnew, hrest⟩ := runs_bind.1 h
    obtain ⟨e, hfull, rfl⟩ := runs_map.1 hrest
    exact (weaves_plain (by decide) hnew).markup hfull
  obtain ⟨nodes, hnodes, hrest⟩ := runs_liftM_bind.1 h
  have htaken := Markup.taken_eq hmarkup hnodes
  cases nodes with
  | nil => exact hwrapped hrest
  | cons first rest =>
    dsimp only at hrest
    split at hrest
    · obtain ⟨rfl, rfl⟩ := runs_pure.1 hrest
      refine ⟨?_, fun f => by rw [List.map_nil, or_iff_left List.not_mem_nil]⟩
      rw [Built.nodes, List.nil_append, List.flatMap_singleton, customsOf, htaken]
    · exact hwrapped hrest

/-- the frame that stands for an address, where there is one -/
def frameTags (isFramed : Bool) : List String := if isFramed then ["amp-iframe"] else []

/-- what the frame for a source shows, when there is one -/
def sourceContents (source : Option String) : List FrameContent :=
  (present? source).toList.map fun url => .address (Url.secure url)

theorem sourceContents_tags (source : Option String) :
    (sourceContents source).map (fun _ => "amp-iframe") = frameTags (present? source).isSome := by
  unfold sourceContents
  cases present? source <;> rfl

theorem embed_weaves {i : Item} {content : Embed} {name label : String} {r : Option Built}
    (h : Runs (embed i content name label) s r t) :
    ∃ own, List.Forall₂ Frames own (sourceContents content.source) ∧
      Weaves s (partNodes r) own
        (if (present? content.source).isSome then captionMarkups content.caption else content.html.toList) t := by
  unfold sourceContents
  unfold embed at h
  split at h
  · rename_i source _ hsource
    obtain ⟨url, u, hurl, hrest⟩ := runs_bind.1 h
    obtain ⟨e, v, hframe, hrest⟩ := runs_bind.1 hrest
    obtain ⟨b, hfigure, rfl⟩ := runs_map.1 hrest
    obtain ⟨rfl, hquiet⟩ := securedAddress_runs hurl
    obtain ⟨start, hframes, hweaves⟩ := frame_weaves hframe
    rw [hsource]
    exact ⟨[start], .cons hframes .nil, figure_weaves (hweaves.before hquiet) hfigure⟩
  · rename_i markup hsource hhtml
    obtain ⟨b, himported, rfl⟩ := runs_map.1 h
    obtain ⟨hhtml, hmarkup⟩ := Option.filter_eq_some_iff.1 hhtml
    rw [hsource, hhtml]
    exact ⟨[], .nil, imported_weaves (by simpa using hmarkup) himported⟩
  · rename_i hsource hhtml
    obtain ⟨_, hwarn, rfl⟩ := runs_map.1 h
    have hnone := weaves_none (Rendering.warnItem_quiet _ _ _ _ _ _ hwarn)
    rw [hsource]
    refine ⟨[], .nil, ?_⟩
    cases hmarkup : content.html with
    | none => exact hnone
    | some markup =>
      have hempty : markup.isEmpty = true := by simpa [present?, hmarkup, Option.filter] using hhtml
      exact hnone.idle hempty

/-- what the frame for an advertisement shows -/
def advertContents (ad : Advert) : List FrameContent :=
  match present? ad.source, present? ad.html with
  | some source, _ => [.address (Url.secure source)]
  | none, some markup => [.document markup]
  | none, none => []

theorem advertContents_tags (ad : Advert) : (advertContents ad).map (fun _ => "amp-iframe") =
    frameTags ((present? ad.source).isSome || (present? ad.html).isSome) := by
  unfold advertContents
  cases present? ad.source <;> cases present? ad.html <;> rfl

theorem advert_weaves {ad : Advert} {r : Option Built} (h : Runs (advert ad) s r t) :
    ∃ own, List.Forall₂ Frames own (advertContents ad) ∧ Weaves s (partNodes r) own [] t := by
  unfold advert at h
  split at h
  · rename_i source hsource
    have hcontents : advertContents ad = [.address (Url.secure source)] := by simp only [advertContents, hsource]
    obtain ⟨url, u, hurl, hrest⟩ := runs_bind.1 h
    obtain ⟨e, hframe, rfl⟩ := runs_map.1 hrest
    obtain ⟨rfl, hquiet⟩ := securedAddress_runs hurl
    obtain ⟨start, hframes, hweaves⟩ := frame_weaves hframe
    rw [hcontents]
    exact ⟨[start], .cons hframes .nil, hweaves.before hquiet⟩
  · rename_i markup hsource hhtml
    have hcontents : advertContents ad = [.document markup] := by simp only [advertContents, hsource, hhtml]
    obtain ⟨e, hframe, rfl⟩ := runs_map.1 h
    obtain ⟨start, hframes, hweaves⟩ := frame_weaves hframe
    rw [hcontents]
    exact ⟨[start], .cons hframes .nil, hweaves⟩
  · rename_i hsource hhtml
    have hcontents : advertContents ad = [] := by simp only [advertContents, hsource, hhtml]
    obtain ⟨_, hwarn, rfl⟩ := runs_map.1 h
    rw [hcontents]
    exact ⟨[], .nil, weaves_none (Rendering.warnItem_quiet _ _ _ _ _ _ hwarn)⟩

/-! ## Maps -/

/-- whether a map is shown in a frame: there is a key, and the geotag has a position -/
def isPlaced [Room] (c : Setting) (pin : MapPin) : Bool :=
  (present? c.properties.mapsKey).isSome &&
    match Geo.ofGeotag pin.geotag with
    | .ok (some _) => true
    | _ => false

theorem mapsKey?_unfiltered {key : Option String} (hs : Unfiltered s.observer) (h : Runs (mapsKey? c) s key t) :
    key = present? c.properties.mapsKey ∧ t.features = s.features := by
  obtain ⟨v, u, hfilter, hend⟩ := runs_bind.1 h
  have hquiet := Rendering.filter_quiet _ _ _ _ _ _ hfilter
  obtain ⟨rfl, -⟩ := filter_unregistered (hs .mapsApiKey) hfilter
  obtain ⟨rfl, rfl⟩ := runs_pure.1 hend
  refine ⟨?_, hquiet⟩
  cases c.properties.mapsKey with
  | none => rfl
  | some key =>
    simp only [present?, Option.filter, Json.isTruthy, Json.plain]
    split <;> simp_all

theorem emptyMap_weaves {pin : MapPin} {message : String} {cause : Option Fault} {b : Built}
    (h : Runs (emptyMap pin message cause) s b t) : Weaves s b.nodes [] [] t := by
  obtain ⟨_, u, hwarn, hrest⟩ := runs_bind.1 h
  obtain ⟨e, hbox, rfl⟩ := runs_map.1 hrest
  exact (weaves_plain (by decide) hbox).before (Rendering.warnItem_quiet _ _ _ _ _ _ hwarn)

/-- what the frame for a map shows: there is none without a key or without a position -/
def mapContents [Room] (key : Option String) (pin : MapPin) : List FrameContent :=
  match key, Geo.ofGeotag pin.geotag with
  | some key, .ok (some position) => [.address (mapAddress key position)]
  | _, _ => []

theorem mapContents_tags [Room] (c : Setting) (pin : MapPin) :
    (mapContents (present? c.properties.mapsKey) pin).map (fun _ => "amp-iframe") = frameTags (isPlaced c pin) := by
  unfold mapContents isPlaced
  cases present? c.properties.mapsKey with
  | none => rfl
  | some key => split <;> simp_all [frameTags]

theorem mapsKey?_quiet (c : Setting) : Quiet (mapsKey? c) := by
  refine keeps_bind (Rendering.filter_quiet _ _ _) fun v => ?_
  split <;> exact keeps_pure _

/-- **A map** with the key that the filters leave. -/
theorem map_weaves [Room] {pin : MapPin} {b : Built} (h : Runs (map c pin) s b t) :
    ∃ key u, Runs (mapsKey? c) s key u ∧ ∃ own, List.Forall₂ Frames own (mapContents key pin) ∧
      Weaves s b.nodes own (if own.isEmpty then [] else captionMarkups pin.caption) t := by
  obtain ⟨key, u, hkey, hrest⟩ := runs_bind.1 h
  have hquiet := mapsKey?_quiet _ _ _ _ hkey
  refine ⟨key, u, hkey, ?_⟩
  have hempty {message : String} {cause : Option Fault} (hnone : mapContents key pin = [])
      (h : Runs (emptyMap pin message cause) u b t) :
      ∃ own, List.Forall₂ Frames own (mapContents key pin) ∧
        Weaves s b.nodes own (if own.isEmpty then [] else captionMarkups pin.caption) t := by
    rw [hnone]
    exact ⟨[], .nil, (emptyMap_weaves h).before hquiet⟩
  split at hrest
  · exact hempty rfl hrest
  · rename_i key
    split at hrest
    · rename_i hgeotag
      refine hempty ?_ hrest
      unfold mapContents
      rw [Option.isNone_iff_eq_none.1 hgeotag]
      rfl
    · split at hrest
      · rename_i hgeo
        exact hempty (by unfold mapContents; rw [hgeo]) hrest
      · rename_i position hgeo
        obtain ⟨e, v, hframe, hfigure⟩ := runs_bind.1 hrest
        obtain ⟨start, hframes, hweaves⟩ := frame_weaves hframe
        unfold mapContents
        rw [hgeo]
        exact ⟨[start], .cons hframes .nil, figure_weaves (hweaves.before hquiet) hfigure⟩
      · rename_i fault hgeo
        split at hrest
        · exact hempty (by unfold mapContents; rw [hgeo]) hrest
        · exact absurd hrest runs_throw

/-! ## Items -/

/-- the tags of the custom elements that the builder of an item makes -/
def itemTags [Room] (c : Setting) : Item → List String
  | .image _ => ["amp-img"]
  | .animatedImage _ => ["amp-anim"]
  | .video _ => ["amp-video"]
  | .slideshow s => if s.images.isEmpty then [] else "amp-carousel" :: s.images.map fun _ => "amp-img"
  | .interactive content | .socialEmbed content => frameTags (present? content.source).isSome
  | .map pin => frameTags (isPlaced c pin)
  | .ad advert => frameTags ((present? advert.source).isSome || (present? advert.html).isSome)
  | _ => []

/-- the markup that the builder of an item takes over -/
def itemMarkups [Room] (c : Setting) : Item → List String
  | .paragraph text | .heading1 text | .heading2 text | .blockquote text => [text]
  | .pullquote text attribution => text :: attribution.toList
  | .list _ items => items
  | .image p | .animatedImage p | .video p => captionMarkups p.caption
  | .slideshow s => if s.images.isEmpty then [] else captionMarkups s.caption
  | .interactive content | .socialEmbed content =>
    if (present? content.source).isSome then captionMarkups content.caption else content.html.toList
  | .map pin => if isPlaced c pin then captionMarkups pin.caption else []
  | _ => []

theorem isShow_tags {images : List Picture} {own : List Start} (h : IsShow c images own) :
    own.map Start.tag = if images.isEmpty then [] else "amp-carousel" :: images.map fun _ => "amp-img" := by
  cases h with
  | empty => rfl
  | carousel hslides htag hmeasures =>
    have htags {ps : List Picture} {slides : List (Element × Media.Size)} (h : List.Forall₂ (IsSlide c) ps slides) :
        slides.map (fun r => r.1.start.tag) = ps.map fun _ => "amp-img" := by
      induction h with
      | nil => rfl
      | cons hslide _ ih => rw [List.map_cons, List.map_cons, hslide.2.tag, ih]
    rw [List.map_cons, htag, List.map_map]
    exact congrArg _ (htags hslides)

/-- what the frames show that the builder of an item makes, with a key for maps -/
def itemContents [Room] (key : Option String) : Item → List FrameContent
  | .interactive content | .socialEmbed content => sourceContents content.source
  | .map pin => mapContents key pin
  | .ad advert => advertContents advert
  | _ => []

/-- the custom elements that the builder of an item makes, with a key for maps -/
def Makes [Room] (c : Setting) (key : Option String) (i : Item) (own : List Start) : Prop :=
  match i with
  | .image p => ∃ start size, own = [start] ∧ Shows start "amp-img" p.url size
  | .animatedImage p => ∃ start size, own = [start] ∧ Shows start "amp-anim" p.url size
  | .video p => ∃ start size, own = [start] ∧ Shows start "amp-video" (Url.secure p.url) size
  | .slideshow s => IsShow c s.images own
  | i => List.Forall₂ Frames own (itemContents key i)

/-- the markup that the builder of an item takes over; that of a map is its caption, and only when it has a frame -/
def takenMarkups [Room] (c : Setting) (isFramed : Bool) : Item → List String
  | .map pin => if isFramed then captionMarkups pin.caption else []
  | i => itemMarkups c i

/-- the key that the filters leave for a map; no other item needs one -/
def Keyed (c : Setting) (s : State) (i : Item) (key : Option String) : Prop :=
  match i with
  | .map _ => ∃ u, Runs (mapsKey? c) s key u
  | _ => True

/-- **What the builder of an item makes**, whatever its kind, and which markup it takes over. -/
theorem item_makes [Room] {i : Item} {r : Option Built} (h : Runs (item c i) s r t) :
    ∃ key own, Keyed c s i key ∧ Makes c key i own ∧
      Weaves s (partNodes r) own (takenMarkups c (!own.isEmpty) i) t := by
  have helement {x : Rendering Element} {texts : List String}
      (hx : ∀ e t, Runs x s e t → Weaves s [e.toNode] [] texts t)
      (h : Runs (do return some (.ofElement (← x))) s r t) : Weaves s (partNodes r) [] texts t := by
    obtain ⟨e, he, rfl⟩ := runs_map.1 h
    exact hx e _ he
  cases i with
  | paragraph text => exact ⟨none, [], trivial, .nil, helement (fun _ _ => textElement_weaves (by decide)) h⟩
  | heading1 text => exact ⟨none, [], trivial, .nil, helement (fun _ _ => textElement_weaves (by decide)) h⟩
  | heading2 text => exact ⟨none, [], trivial, .nil, helement (fun _ _ => textElement_weaves (by decide)) h⟩
  | list ordered items =>
    have hweaves : Weaves s (partNodes r) [] items t := helement (fun _ _ => listing_weaves) h
    exact ⟨none, [], trivial, .nil, hweaves⟩
  | blockquote text => exact ⟨none, [], trivial, .nil, helement (fun _ _ => textElement_weaves (by decide)) h⟩
  | pullquote text attribution =>
    have hweaves : Weaves s (partNodes r) [] (text :: attribution.toList) t := helement (fun _ _ => pullquote_weaves) h
    exact ⟨none, [], trivial, .nil, hweaves⟩
  | image p =>
    obtain ⟨b, hb, rfl⟩ := runs_map.1 h
    obtain ⟨_, size, start, _, -, -, hshows, hweaves⟩ := image_weaves (by decide) hb
    exact ⟨none, [start], trivial, ⟨start, size, rfl, hshows⟩, hweaves⟩
  | animatedImage p =>
    obtain ⟨b, hb, rfl⟩ := runs_map.1 h
    obtain ⟨size, start, _, -, hshows, hweaves⟩ := animatedImage_weaves hb
    exact ⟨none, [start], trivial, ⟨start, size, rfl, hshows⟩, hweaves⟩
  | video p =>
    obtain ⟨b, hb, rfl⟩ := runs_map.1 h
    obtain ⟨size, start, _, -, hshows, hweaves⟩ := video_weaves hb
    exact ⟨none, [start], trivial, ⟨start, size, rfl, hshows⟩, hweaves⟩
  | audio url title => exact ⟨none, [], trivial, .nil, helement (fun _ _ => weaves_plain (by decide)) h⟩
  | slideshow shown =>
    obtain ⟨b, hb, rfl⟩ := runs_map.1 h
    obtain ⟨own, hshow, hweaves⟩ := slideshow_weaves hb
    exact ⟨none, own, trivial, hshow, hweaves⟩
  | interactive content =>
    obtain ⟨own, hframes, hweaves⟩ := embed_weaves h
    exact ⟨none, own, trivial, hframes, hweaves⟩
  | socialEmbed content =>
    obtain ⟨own, hframes, hweaves⟩ := embed_weaves h
    exact ⟨none, own, trivial, hframes, hweaves⟩
  | map pin =>
    obtain ⟨b, hb, rfl⟩ := runs_map.1 h
    obtain ⟨key, u, hkey, own, hframes, hweaves⟩ := map_weaves hb
    refine ⟨key, own, ⟨u, hkey⟩, hframes, ?_⟩
    cases own <;> exact hweaves
  | relatedArticles title urls =>
    exact ⟨none, [], trivial, .nil, helement (fun _ _ => weaves_plain (by decide)) h⟩
  | analytics source html =>
    obtain ⟨_, htracking, rfl⟩ := runs_map.1 h
    refine ⟨none, [], trivial, .nil, weaves_none ?_⟩
    unfold tracking at htracking
    split at htracking
    · exact Rendering.warnItem_quiet _ _ _ _ _ _ htracking
    · rw [(runs_pure.1 htracking).2]
  | ad advert =>
    obtain ⟨own, hframes, hweaves⟩ := advert_weaves h
    exact ⟨none, own, trivial, hframes, hweaves⟩
  | other kind =>
    obtain ⟨rfl, rfl⟩ := runs_pure.1 h
    exact ⟨none, [], trivial, .nil, weaves_none rfl⟩

/-- the same of a cover -/
theorem cover_makes [Room] {given : Cover} {b : Built} (h : Runs (cover c given) s b t) :
    ∃ own, Makes c none given.toItem own ∧ Weaves s b.nodes own (itemMarkups c given.toItem) t := by
  cases given with
  | image p =>
    have himage : Runs (image c p ImageStyle.cover) s b t := h
    obtain ⟨_, size, start, _, -, -, hshows, hweaves⟩ := image_weaves (by decide) himage
    exact ⟨[start], ⟨start, size, rfl, hshows⟩, hweaves⟩
  | video p =>
    obtain ⟨size, start, _, -, hshows, hweaves⟩ := video_weaves h
    exact ⟨[start], ⟨start, size, rfl, hshows⟩, hweaves⟩
  | slideshow shown =>
    obtain ⟨own, hshow, hweaves⟩ := slideshow_weaves h
    exact ⟨own, hshow, hweaves⟩

/-- the tags of what is made, when the key for maps is the one that is set -/
theorem makes_tags [Room] {i : Item} {key : Option String} {own : List Start} (h : Makes c key i own)
    (hkey : itemContents key i = itemContents (present? c.properties.mapsKey) i) :
    own.map Start.tag = itemTags c i := by
  cases i with
  | image p =>
    obtain ⟨start, size, rfl, hshows⟩ := h
    exact congrArg (· :: []) hshows.tag
  | animatedImage p =>
    obtain ⟨start, size, rfl, hshows⟩ := h
    exact congrArg (· :: []) hshows.tag
  | video p =>
    obtain ⟨start, size, rfl, hshows⟩ := h
    exact congrArg (· :: []) hshows.tag
  | slideshow shown => exact isShow_tags h
  | interactive content => exact (frames_tags h).trans (sourceContents_tags _)
  | socialEmbed content => exact (frames_tags h).trans (sourceContents_tags _)
  | map pin =>
    have hcontents : mapContents key pin = mapContents (present? c.properties.mapsKey) pin := hkey
    rw [frames_tags h, itemContents, hcontents]
    exact mapContents_tags c pin
  | ad advert => exact (frames_tags h).trans (advertContents_tags advert)
  | _ => exact frames_tags h

/-- without filters a map has a frame just when it is placed -/
theorem item_weaves [Room] {i : Item} {r : Option Built} (hs : Unfiltered s.observer) (h : Runs (item c i) s r t) :
    ∃ own, own.map Start.tag = itemTags c i ∧ Weaves s (partNodes r) own (itemMarkups c i) t := by
  obtain ⟨key, own, hkey, hmakes, hweaves⟩ := item_makes h
  have hset : itemContents key i = itemContents (present? c.properties.mapsKey) i := by
    cases i with
    | map pin =>
      obtain ⟨u, hrun⟩ := hkey
      rw [(mapsKey?_unfiltered hs hrun).1]
    | _ => rfl
  have htags := makes_tags hmakes hset
  refine ⟨own, htags, ?_⟩
  cases i with
  | map pin =>
    have hframed : (!own.isEmpty) = isPlaced c pin := by
      rw [← List.isEmpty_map (f := Start.tag), htags, itemTags]
      cases isPlaced c pin <;> rfl
    rw [hframed] at hweaves
    exact hweaves
  | _ => exact hweaves

theorem cover_weaves [Room] {given : Cover} {b : Built} (h : Runs (cover c given) s b t) :
    ∃ own, own.map Start.tag = itemTags c given.toItem ∧ Weaves s b.nodes own (itemMarkups c given.toItem) t := by
  obtain ⟨own, hmakes, hweaves⟩ := cover_makes h
  exact ⟨own, makes_tags hmakes (by cases given <;> rfl), hweaves⟩

end AmpArticle.Page
