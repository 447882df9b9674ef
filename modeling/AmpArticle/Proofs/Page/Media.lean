import AmpArticle.Proofs.Page.Captions

/-!
Media with captions and without. A builder makes the element of its medium before it looks at the caption, and then it
puts a figure around the element when there is one. So captions never decide whether the element is made, nor which one
it is; and a caption can only make a builder fail when a part of it has no plain text.

Results:
- `MakesFirst`, `first_bind`: builders of this kind, and which elements they make;
- `item_outcome`, `image_outcome`, `cover_outcome`: items, images in any style and covers are built in this way;
- `media_captioned`: what becomes of a medium, for each caption and for none;
- `media_refused`: an address that must not stand in a document keeps an image from being made.
-/

namespace AmpArticle.Page

open Markup (Element Node isAllowedText plainText valued)

variable {α : Type} {c : Setting} {s t : State} {container e : Element} {build : Option Caption → Rendering Built}
  {post post' : String → Element → Prop}

/-! ## Builders that make an element first -/

/-- what becomes of an element that was made when the state was `t`, and gets a caption then -/
inductive FigureOutcome (container e : Element) (cap : Caption) (t : State) :
    Except Fault (Element × Option Built) × State → Prop where
  /-- a figure holds both; the caption has the plain texts of its parts -/
  | figure {texts : List String} : isAllowedText t.classPrefix = true →
    (captionMarkups (some cap)).mapM plainText = .ok texts →
    Node.textContents (captionElement t.classPrefix cap).children = String.join texts →
    FigureOutcome container e cap t (.ok (container.append [(captionFigure t.classPrefix e cap).toNode],
      some (.ofElement (captionFigure t.classPrefix e cap))), noteFigure e t)
  /-- a part of the caption has no plain text -/
  | unreadable {fault : Fault} : isAllowedText t.classPrefix = true →
    (captionMarkups (some cap)).mapM plainText = .error fault → FigureOutcome container e cap t (.error fault, t)
  /-- the class prefix must not stand in a document -/
  | forbidden : isAllowedText t.classPrefix = false → FigureOutcome container e cap t (.error .forbiddenCharacter, t)

theorem figure_outcome (cap : Caption) : FigureOutcome container e cap t
    (placedIn container ((figure e (some cap)).run.run t)) := by
  by_cases hallowed : isAllowedText t.classPrefix = true
  · rw [figure_run e cap hallowed]
    cases htexts : (captionMarkups (some cap)).mapM plainText with
    | ok texts => exact .figure hallowed htexts (captionElement_text htexts)
    | error fault => exact .unreadable hallowed htexts
  · rw [Bool.not_eq_true] at hallowed
    rw [figure_forbidden e cap hallowed]
    exact .forbidden hallowed

/-- what becomes of a medium, for each caption and for none: it fails whatever the caption is, or an element is made
that is put into the container as it is without a caption -/
inductive CaptionOutcome (container : Element) (p : String)
    (outcome : Option Caption → Except Fault (Element × Option Built) × State) : Prop where
  | failed {fault : Fault} {t : State} : (∀ o, outcome o = (.error fault, t)) → CaptionOutcome container p outcome
  | made {e : Element} {t : State} : t.classPrefix = p →
    outcome none = (.ok (container.append [e.toNode], some (.ofElement e)), t) →
    (∀ cap, FigureOutcome container e cap t (outcome (some cap))) → CaptionOutcome container p outcome

/-- the same of what a builder makes -/
def BuilderOutcome (container : Element) (s : State) (build : Option Caption → Rendering Built) : Prop :=
  CaptionOutcome container s.classPrefix fun o => placedIn container ((build o).run.run s)

/-- a step that makes an element, and then a figure around it when there is a caption -/
theorem builderOutcome_of_step {x : Rendering Element} (hx : Keeps State.classPrefix x) :
    BuilderOutcome container s fun o => x >>= (figure · o) := by
  rcases hrun : x.run.run s with ⟨fault | e, t⟩
  · have hfailed (o : Option Caption) : placedIn container ((x >>= (figure · o)).run.run s) = (.error fault, t) := by
      rw [run_bind, hrun]
      rfl
    exact .failed hfailed
  · have hbare : placedIn container ((x >>= (figure · none)).run.run s) =
        (.ok (container.append [e.toNode], some (.ofElement e)), t) := by
      rw [run_bind, hrun]
      rfl
    refine .made (hx s e t hrun) hbare fun cap => ?_
    rw [run_bind, hrun]
    exact figure_outcome cap

/-- a builder that looks at the caption only when it has made its element; this is one with a property that the class
prefix decides -/
def MakesFirst (build : Option Caption → Rendering Built) (post : String → Element → Prop) : Prop :=
  ∃ x : Rendering Element, Answers x post ∧ ∀ o, build o = x >>= (figure · o)

theorem MakesFirst.congr (h : MakesFirst build post) (hpost : ∀ p e, post p e ↔ post' p e) :
    MakesFirst build post' := by
  obtain ⟨x, hx, hbuild⟩ := h
  exact ⟨x, hx.congr hpost, hbuild⟩

theorem first_figure (e : Element) : MakesFirst (figure e) fun _ f => e = f :=
  ⟨pure e, answers_pure e, fun _ => (pure_bind _ _).symm⟩

theorem first_bind {x : Rendering α} {build : α → Option Caption → Rendering Built} {post : String → α → Prop}
    {rest : α → String → Element → Prop} (hx : Answers x post) (hbuild : ∀ a, MakesFirst (build a) (rest a)) :
    MakesFirst (fun o => x >>= (build · o)) fun p e => ∃ a, post p a ∧ rest a p e := by
  choose make hmake hall using hbuild
  refine ⟨x >>= make, answers_bind hx hmake, fun o => ?_⟩
  rw [bind_assoc]
  exact congrArg _ (funext fun a => hall a o)

/-! ## Sizes and addresses -/

theorem note_answers (lines : List Media.LogLine) : Answers (Rendering.note lines) fun _ _ => True :=
  answers_modify fun _ => rfl

theorem warnText_answers (message text : String) (cause : Option Fault) :
    Answers (Rendering.warnText message text cause) fun _ _ => True :=
  answers_modify fun _ => rfl

theorem useFeature_answers (f : Feature) : Answers (Rendering.useFeature f) fun _ _ => True :=
  answers_modify fun _ => rfl

theorem resolve_answers (c : Setting) (url : String) (kind : Media.Kind) :
    Answers (Rendering.resolve c url kind) fun _ size =>
      ∃ found, c.resolver.resolve url kind = .ok found ∧ found.size = size := by
  refine (answers_bind (answers_liftM (c.resolver.resolve url kind)) fun found =>
    answers_bind (note_answers _) fun _ => answers_pure _).congr fun p size => ?_
  simp

/-- media are taken to have the size that is found, or the usual one -/
theorem dimensions_answers (c : Setting) (url : String) (kind : Media.Kind) :
    Answers (Rendering.dimensions c url kind) fun _ size =>
      ∃ found, c.resolver.resolve url kind = .ok found ∧ usedSize found.size = size := by
  refine (answers_bind (resolve_answers c url kind) fun found =>
    (?_ : Answers _ fun _ size => usedSize found = size)).congr fun p size => ?_
  · unfold usedSize
    split_ifs
    · refine (answers_bind (warnText_answers _ _ _) fun _ => answers_pure _).congr fun p size => ?_
      simp
    · exact answers_pure found
  · simp

/-- an address is secured, with a warning when that changes it -/
theorem securedAddress_answers (url kind : String) :
    Answers (securedAddress url kind) fun _ secured => Url.secure url = secured := by
  unfold securedAddress
  dsimp only
  split_ifs
  · refine (answers_bind (warnText_answers _ _ _) fun _ => answers_pure _).congr fun p secured => ?_
    simp
  · exact answers_pure _

/-! ## Elements of media -/

theorem putAll_bare (tag : String) {attributes : List (String × String)} (h : (attributes.map Prod.fst).Nodup) :
    (Element.bare tag).putAll attributes = ⟨tag, none, valued attributes, []⟩ := by
  obtain ⟨htag, hmark, hchildren⟩ := Element.putAll_children (Element.bare tag) attributes
  have hattributes : ((Element.bare tag).putAll attributes).attributes = valued attributes :=
    Element.putAll_attributes (Element.bare tag) h
  generalize (Element.bare tag).putAll attributes = e at *
  obtain ⟨_, _, _, _⟩ := e
  simp_all [Element.bare]

/-- an element with one class and other attributes -/
def mediaElement (tag classNames : String) (attributes : List (String × String)) : Element :=
  ⟨tag, none, valued (("class", classNames) :: attributes), []⟩

theorem areAllowed_cons (name value : String) (attributes : List (String × String)) :
    areAllowed ((name, value) :: attributes) = (isAllowedText value && areAllowed attributes) := rfl

theorem areAllowed_append (xs ys : List (String × String)) : areAllowed (xs ++ ys) = (areAllowed xs && areAllowed ys) :=
  List.all_append

theorem named_answers {tag name : String} {attributes : List (String × String)}
    (htag : Element.create tag = .ok (Element.bare tag)) (hname : name.isEmpty = false)
    (hallowed : isAllowedText name = true) (hplain : ArePlain attributes)
    (hnodup : ("class" :: attributes.map Prod.fst).Nodup) :
    Answers (Rendering.create tag (some (.name name)) attributes) fun p e =>
      (isAllowedText p = true ∧ areAllowed attributes = true) ∧ mediaElement tag (p ++ name) attributes = e := by
  refine (create_answers htag (readable_name name) hplain).congr fun p e => ?_
  have hclassed : ((("class", p ++ name) :: attributes).map Prod.fst).Nodup := hnodup
  rw [withClass_name hname, putAll_bare tag hclassed, areAllowed_cons, Markup.isAllowedText_append, hallowed,
    Bool.and_true, Bool.and_eq_true]
  rfl

theorem mediaAttributes_allowed (url : String) (size : Media.Size) :
    areAllowed (mediaAttributes url size "responsive") = isAllowedText url := by
  have hlayout : isAllowedText "responsive" = true := by decide
  simp [mediaAttributes, areAllowed, intText_allowed, hlayout]

/-- the names of the attributes of media -/
theorem mediaAttributes_plain (url : String) (size : Media.Size) (layout : String) :
    ArePlain (mediaAttributes url size layout) :=
  arePlain_of_names (rfl : _ = ["src", "width", "height", "layout"]) (by decide)

/-- the element that shows what is at an address, in the size that media are taken to have at their source -/
def IsSized (c : Setting) (source : String) (kind : Media.Kind) (tag classNames url : String)
    (more : List (String × String)) (e : Element) : Prop :=
  ∃ found, c.resolver.resolve source kind = .ok found ∧ isAllowedText url = true ∧
    mediaElement tag classNames (mediaAttributes url (usedSize found.size) "responsive" ++ more) = e

theorem sized_answers (tag name url : String) (size : Media.Size) (htag : Element.create tag = .ok (Element.bare tag))
    (hname : name.isEmpty = false) (hallowed : isAllowedText name = true) :
    Answers (Rendering.create tag (some (.name name)) (mediaAttributes url size "responsive")) fun p e =>
      (isAllowedText p = true ∧ isAllowedText url = true) ∧
        mediaElement tag (p ++ name) (mediaAttributes url size "responsive") = e := by
  rw [← mediaAttributes_allowed url size]
  exact named_answers htag hname hallowed (mediaAttributes_plain _ _ _) (by simp [mediaAttributes])

theorem image_first (c : Setting) (url : String) : MakesFirst (fun o => image c ⟨url, o⟩ ImageStyle.inText) fun p e =>
    isAllowedText p = true ∧ IsSized c url .image "amp-img" (p ++ "image") url [] e := by
  refine (first_bind (dimensions_answers c url .image) fun size =>
    first_bind (sized_answers "amp-img" "image" url size rfl rfl (by decide)) first_figure).congr fun p e => ?_
  simp [IsSized, and_assoc, and_left_comm]

theorem animatedImage_first (c : Setting) (url : String) : MakesFirst (fun o => animatedImage c ⟨url, o⟩) fun p e =>
    isAllowedText p = true ∧ IsSized c url .image "amp-anim" (p ++ "gif") url [] e := by
  refine (first_bind (dimensions_answers c url .image) fun size =>
    first_bind (sized_answers "amp-anim" "gif" url size rfl rfl (by decide)) fun e =>
    first_bind (useFeature_answers .anim) fun _ => first_figure e).congr fun p e => ?_
  simp [IsSized, and_assoc, and_left_comm]

theorem video_first (c : Setting) (url : String) {name : String} (hname : name.isEmpty = false)
    (hallowed : isAllowedText name = true) : MakesFirst (fun o => video c ⟨url, o⟩ name) fun p e =>
      isAllowedText p = true ∧
        IsSized c url .video "amp-video" (p ++ name) (Url.secure url) [("controls", "")] e := by
  have hvideo (url : String) (size : Media.Size) : Answers (Rendering.create "amp-video" (some (.name name))
      (mediaAttributes url size "responsive" ++ [("controls", "")])) _ :=
    named_answers rfl hname hallowed
      (arePlain_of_names (rfl : _ = ["src", "width", "height", "layout", "controls"]) (by decide))
      (by simp [mediaAttributes])
  have hcontrols : areAllowed [("controls", "")] = true := rfl
  refine (first_bind (dimensions_answers c url .video) fun size =>
    first_bind (securedAddress_answers url "Video") fun url => first_bind (hvideo url size) fun e =>
    first_bind (useFeature_answers .video) fun _ => first_figure e).congr fun p e => ?_
  simp [areAllowed_append, mediaAttributes_allowed, hcontrols, IsSized, and_assoc, and_left_comm]

/-! ## Slideshows -/

/-- a slide with its size: as wide as the usual box, with a height in proportion -/
def IsScaled (c : Setting) (p : Picture) (slide : Element × Media.Size) : Prop :=
  ∃ found, c.resolver.resolve p.url .image = .ok found ∧ slideSize (usedSize found.size) = .ok slide.2 ∧
    isAllowedText p.url = true ∧ ⟨"amp-img", none, valued (mediaAttributes p.url slide.2 "responsive"), []⟩ = slide.1

theorem slide_answers (c : Setting) (p : Picture) : Answers (slide c p) fun _ r => IsScaled c p r := by
  have hslide (size : Media.Size) : Answers (Rendering.create "amp-img" none (mediaAttributes p.url size "responsive"))
      fun _ e => isAllowedText p.url = true ∧
        ⟨"amp-img", none, valued (mediaAttributes p.url size "responsive"), []⟩ = e := by
    refine (create_answers rfl readable_none (mediaAttributes_plain _ _ _)).congr fun _ e => ?_
    rw [← mediaAttributes_allowed p.url size, ← putAll_bare "amp-img" (by simp [mediaAttributes])]
    rfl
  refine (answers_bind (dimensions_answers c p.url .image) fun size => answers_bind (answers_liftM _) fun height =>
    answers_bind (hslide ⟨Media.defaultWidth, height⟩) fun e => answers_pure (e, _)).congr fun _ r => ?_
  obtain ⟨e, size⟩ := r
  simp only [IsScaled, slideSize, bind_ok_iff, pure_ok_iff, Prod.mk.injEq]
  constructor
  · rintro ⟨_, ⟨found, hfound, rfl⟩, height, hheight, _, ⟨hurl, rfl⟩, rfl, rfl⟩
    exact ⟨found, hfound, ⟨height, hheight, rfl⟩, hurl, rfl⟩
  · rintro ⟨found, hfound, ⟨height, hheight, rfl⟩, hurl, rfl⟩
    exact ⟨_, ⟨found, hfound, rfl⟩, height, hheight, _, ⟨hurl, rfl⟩, rfl, rfl⟩

/-- a carousel around its slides, in the size of the first one -/
def carouselAround (classNames : String) (size : Media.Size) (slides : List Element) : Element :=
  ⟨"amp-carousel", none, valued [("class", classNames), ("type", "slides"), ("width", intText size.width),
    ("height", intText size.height), ("layout", "responsive")], slides.map Element.toNode⟩

theorem slideshow_first (c : Setting) (first : Picture) (rest : List Picture) {name : String}
    (hname : name.isEmpty = false) (hallowed : isAllowedText name = true) :
    MakesFirst (fun o => slideshow c ⟨first :: rest, o⟩ name) fun p e => isAllowedText p = true ∧
      ∃ slide slides, List.Forall₂ (IsScaled c) (first :: rest) (slide :: slides) ∧
        carouselAround (p ++ name) slide.2 ((slide :: slides).map Prod.fst) = e := by
  have hcarousel : Answers (Rendering.create "amp-carousel" (some (.name name)) [("type", "slides")]) _ :=
    named_answers rfl hname hallowed (arePlain_of_names (rfl : _ = ["type"]) (by decide)) (by decide)
  refine (first_bind hcarousel fun carousel => first_bind (slide_answers c first) fun slide =>
    first_bind (answers_mapM (slide_answers c) rest) fun slides => first_bind (useFeature_answers .carousel) fun _ =>
    first_figure _).congr fun p e => ?_
  have htype : areAllowed [("type", "slides")] = true := by decide
  simp only [List.forall₂_cons, htype, and_true]
  constructor
  · rintro ⟨_, ⟨hp, rfl⟩, slide, hslide, slides, hslides, -, -, rfl⟩
    exact ⟨hp, slide, slides, ⟨hslide, hslides⟩, rfl⟩
  · rintro ⟨hp, slide, slides, ⟨hslide, hslides⟩, rfl⟩
    exact ⟨_, ⟨hp, rfl⟩, slide, hslide, slides, hslides, ⟨⟩, trivial, rfl⟩

/-! ## Frames -/

theorem frame_answers (name : String) (hname : name.isEmpty = false) (hallowed : isAllowedText name = true)
    (width height : Option Int) (url : String) : Answers (frame name width height (.address url)) fun p e =>
      (isAllowedText p = true ∧ isAllowedText url = true) ∧ addressFrame p name width height url = e := by
  let r (p : String) : Except Fault Element :=
    if isAllowedText p && isAllowedText url then .ok (addressFrame p name width height url)
    else .error .forbiddenCharacter
  refine (answers_of_run (r := r) (fun _ => frame_run hname hallowed width height url) fun _ => rfl).congr fun p e => ?_
  dsimp only [r]
  split_ifs with h
  · simp_all
  · simp_all

theorem embed_eq {i : Item} (content : Embed) {source : String} (name label : String)
    (hsource : present? content.source = some source) : embed i content name label = do
      return some (← (securedAddress source label >>= fun url =>
        frame name content.width content.height (.address url) >>= (figure · content.caption))) := by
  simp only [embed, hsource, bind_assoc]

theorem embed_first (source label name : String) (width height : Option Int) (hname : name.isEmpty = false)
    (hallowed : isAllowedText name = true) :
    MakesFirst (fun o => securedAddress source label >>= fun url =>
      frame name width height (.address url) >>= (figure · o)) fun p e =>
      isAllowedText p = true ∧ isAllowedText (Url.secure source) = true ∧
        addressFrame p name width height (Url.secure source) = e := by
  refine (first_bind (securedAddress_answers source label) fun url =>
    first_bind (frame_answers name hname hallowed width height url) first_figure).congr fun p e => ?_
  simp [and_assoc]

/-- with a key and a position a map is the frame for its address -/
theorem map_run [Room] {geotag : Option Json} {key : String} {position : Geo.Position}
    (hkey : Runs (mapsKey? c) s (some key) t) (hposition : Geo.ofGeotag geotag = .ok (some position))
    (o : Option Caption) : (map c ⟨geotag, o⟩).run.run s =
      (frame "map" none none (.address (mapAddress key position)) >>= (figure · o)).run.run t := by
  have hgeotag : geotag.isNone = false := by
    cases geotag with
    | none => cases hposition
    | some v => rfl
  unfold map
  rw [run_bind, hkey]
  simp only [hgeotag, Bool.false_eq_true, if_false, hposition]

/-! ## Items -/

/-- an item with another caption, if it is one that may have a caption -/
def withCaption (o : Option Caption) : Item → Item
  | .image p => .image { p with caption := o }
  | .animatedImage p => .animatedImage { p with caption := o }
  | .video p => .video { p with caption := o }
  | .slideshow shown => .slideshow { shown with caption := o }
  | .interactive content => .interactive { content with caption := o }
  | .socialEmbed content => .socialEmbed { content with caption := o }
  | .map pin => .map { pin with caption := o }
  | i => i

/-- a cover with another caption -/
def coverWithCaption (o : Option Caption) : Cover → Cover
  | .image p => .image { p with caption := o }
  | .video p => .video { p with caption := o }
  | .slideshow shown => .slideshow { shown with caption := o }

/-- whether an item is a medium that has something to show; a map needs a key and a position -/
def IsMedium [Room] (c : Setting) (s : State) : Item → Prop
  | .image _ | .animatedImage _ | .video _ => True
  | .slideshow shown => shown.images ≠ []
  | .interactive content | .socialEmbed content => (present? content.source).isSome = true
  | .map pin => ∃ key position t, Runs (mapsKey? c) s (some key) t ∧ Geo.ofGeotag pin.geotag = .ok (some position)
  | _ => False

/-- the element that is made of a medium: the addresses in it may stand in a document, sizes are found for what has a
size, and the slides of a slideshow have heights in proportion -/
def IsMade [Room] (c : Setting) (s : State) : Item → Element → Prop
  | .image p, e => IsSized c p.url .image "amp-img" (s.classPrefix ++ "image") p.url [] e
  | .animatedImage p, e => IsSized c p.url .image "amp-anim" (s.classPrefix ++ "gif") p.url [] e
  | .video p, e =>
    IsSized c p.url .video "amp-video" (s.classPrefix ++ "video") (Url.secure p.url) [("controls", "")] e
  | .slideshow shown, e => ∃ slide slides, List.Forall₂ (IsScaled c) shown.images (slide :: slides) ∧
    carouselAround (s.classPrefix ++ "slideshow") slide.2 ((slide :: slides).map Prod.fst) = e
  | .interactive content, e => ∃ source, present? content.source = some source ∧
    isAllowedText (Url.secure source) = true ∧
    addressFrame s.classPrefix "interactive" content.width content.height (Url.secure source) = e
  | .socialEmbed content, e => ∃ source, present? content.source = some source ∧
    isAllowedText (Url.secure source) = true ∧
    addressFrame s.classPrefix "social-embed" content.width content.height (Url.secure source) = e
  | .map pin, e => ∃ key position t, Runs (mapsKey? c) s (some key) t ∧
    Geo.ofGeotag pin.geotag = .ok (some position) ∧ mapFrame s.classPrefix key position = e
  | _, _ => False

/-- what becomes of an item with captions and without, and the element that is made when it has none -/
def MediumOutcome [Room] (c : Setting) (s : State) (container : Element) (i : Item) : Prop :=
  CaptionOutcome container s.classPrefix (fun o => (itemInto c container (withCaption o i)).run.run s) ∧
  ∀ e, (∃ t, Runs (itemInto c container (withCaption none i)) s
      (container.append [e.toNode], some (.ofElement e)) t) ↔
    isAllowedText s.classPrefix = true ∧ IsMade c s i e

theorem MakesFirst.outcome (h : MakesFirst build post) : BuilderOutcome container s build := by
  obtain ⟨x, hx, hbuild⟩ := h
  rw [funext hbuild]
  exact builderOutcome_of_step hx.keeps

theorem ofElement_injective : Function.Injective Built.ofElement := by
  rintro ⟨_, _, _, _⟩ ⟨_, _, _, _⟩ h
  cases h
  rfl

theorem MakesFirst.made_iff (h : MakesFirst build post) (container e : Element) :
    (∃ t, placedIn container ((build none).run.run s) =
      (.ok (container.append [e.toNode], some (.ofElement e)), t)) ↔ post s.classPrefix e := by
  obtain ⟨x, hx, hbuild⟩ := h
  rw [hbuild, ← hx.answers s e, run_bind]
  unfold Runs
  rcases x.run.run s with ⟨fault | f, t⟩
  · refine ⟨?_, ?_⟩ <;> rintro ⟨_, ⟨⟩⟩
  · have hplaced : placedIn container ((figure f none).run.run t) =
        (.ok (container.append [f.toNode], some (.ofElement f)), t) := rfl
    dsimp only
    rw [hplaced]
    constructor
    · rintro ⟨t', h⟩
      have hsame : Built.ofElement f = Built.ofElement e := by
        simp only [Prod.mk.injEq, Except.ok.injEq, Option.some.injEq] at h
        exact h.1.2
      exact ⟨t, by rw [ofElement_injective hsame]⟩
    · rintro ⟨t', ⟨⟩⟩
      exact ⟨t, rfl⟩

theorem mediumOutcome_of_first [Room] {i : Item} (hfirst : MakesFirst build post) (hkept : t.classPrefix = s.classPrefix)
    (hrun : ∀ o, (itemInto c container (withCaption o i)).run.run s = placedIn container ((build o).run.run t))
    (hmade : ∀ e, post s.classPrefix e ↔ isAllowedText s.classPrefix = true ∧ IsMade c s i e) :
    MediumOutcome c s container i := by
  constructor
  · simp only [hrun, ← hkept]
    exact hfirst.outcome
  · intro e
    rw [← hmade e, ← hkept, ← hfirst.made_iff container, ← hrun]
    rfl

theorem item_outcome [Room] {i : Item} (h : IsMedium c s i) : MediumOutcome c s container i := by
  cases i with
  | image p => exact mediumOutcome_of_first (image_first c p.url) rfl (fun o => itemInto_run rfl) fun e => Iff.rfl
  | animatedImage p =>
    exact mediumOutcome_of_first (animatedImage_first c p.url) rfl (fun o => itemInto_run rfl) fun e => Iff.rfl
  | video p =>
    exact mediumOutcome_of_first (video_first c p.url rfl (by decide)) rfl (fun o => itemInto_run rfl) fun e => Iff.rfl
  | slideshow shown =>
    obtain ⟨images, caption⟩ := shown
    obtain ⟨first, rest, rfl⟩ := List.exists_cons_of_ne_nil h
    exact mediumOutcome_of_first (slideshow_first c first rest rfl (by decide)) rfl (fun o => itemInto_run rfl)
      fun e => Iff.rfl
  | interactive content =>
    obtain ⟨source, hsource⟩ := Option.isSome_iff_exists.1 h
    refine mediumOutcome_of_first (embed_first source "Interactive" "interactive" content.width content.height rfl
      (by decide)) rfl (fun o => ?_) fun e => ?_
    · exact itemInto_run (embed_eq { content with caption := o } _ _ hsource)
    · simp [IsMade, hsource]
  | socialEmbed content =>
    obtain ⟨source, hsource⟩ := Option.isSome_iff_exists.1 h
    refine mediumOutcome_of_first (embed_first source "Social embed" "social-embed" content.width content.height rfl
      (by decide)) rfl (fun o => ?_) fun e => ?_
    · exact itemInto_run (embed_eq { content with caption := o } _ _ hsource)
    · simp [IsMade, hsource]
  | map pin =>
    obtain ⟨key, position, t, hkey, hposition⟩ := h
    have hkept : t.classPrefix = s.classPrefix := by rw [← mapsKey?_runs hkey]
    refine mediumOutcome_of_first (first_bind (frame_answers "map" rfl (by decide) none none (mapAddress key position))
      first_figure) hkept (fun o => ?_) fun e => ?_
    · rw [← map_run hkey hposition o]
      exact itemInto_run rfl
    · -- the filters leave one key only, and a geotag has one position
      simp only [mapAddress_allowed, and_true, exists_eq_right]
      refine and_congr_right fun _ => ⟨?_, ?_⟩
      · rintro rfl
        exact ⟨key, position, t, hkey, hposition, rfl⟩
      · rintro ⟨key', position', t', hkey', hposition', rfl⟩
        cases hkey.symm.trans hkey'
        cases hposition.symm.trans hposition'
        rfl
  | _ => exact h.elim

/-! ## Images in any style, and covers -/

theorem keeps_of_steady {x : Rendering α} {post : α → Prop} (h : Steady x post) : Keeps State.classPrefix x :=
  fun s a t hrun => (h s a t hrun).1.classPrefix

/-- an image gets its figure last, in whichever way it is fitted -/
theorem image_outcome (c : Setting) (url : String) (style : ImageStyle) :
    BuilderOutcome container s fun o => image c ⟨url, o⟩ style := by
  let fitted (size : Media.Size) : Rendering Element :=
    if style.sizing = .viewport then clippedImage url size style else plainImage url size style
  have hfitted (size : Media.Size) : Keeps State.classPrefix (fitted size) := by
    dsimp only [fitted]
    split_ifs
    · exact keeps_of_steady (clippedImage_steady url size style)
    · exact keeps_of_steady (plainImage_steady url size style)
  have himage (o : Option Caption) :
      image c ⟨url, o⟩ style = (Rendering.dimensions c url .image >>= fitted) >>= (figure · o) := by
    rw [bind_assoc]
    refine congrArg _ (funext fun size => ?_)
    dsimp only [fitted]
    cases style.sizing <;> rfl
  rw [funext himage]
  exact builderOutcome_of_step (keeps_bind (dimensions_answers c url .image).keeps hfitted)

theorem cover_outcome {given : Cover} (h : ∀ shown, given = .slideshow shown → shown.images ≠ []) :
    BuilderOutcome container s fun o => cover c (coverWithCaption o given) := by
  cases given with
  | image p => exact image_outcome c p.url .cover
  | video p => exact (video_first c p.url rfl (by decide)).outcome
  | slideshow shown =>
    obtain ⟨images, caption⟩ := shown
    obtain ⟨first, rest, rfl⟩ := List.exists_cons_of_ne_nil (h _ rfl)
    exact (slideshow_first c first rest rfl (by decide)).outcome

/-! ## Media -/

/-- **Media with captions and without.** An element is made of a medium when the class prefix and what is inside may
stand in a document, and without a caption it is what is built. With one it stands in a figure beside its caption,
unless a part of the caption has no plain text; and when no element is made, the caption makes no difference. So it is
for covers, and for images in whichever way they are fitted. -/
theorem media_captioned [Room] (c : Setting) (s : State) (container : Element) :
    (∀ i, IsMedium c s i → MediumOutcome c s container i) ∧
    (∀ url style, BuilderOutcome container s fun o => image c ⟨url, o⟩ style) ∧
    ∀ given : Cover, (∀ shown, given = .slideshow shown → shown.images ≠ []) →
      BuilderOutcome container s fun o => cover c (coverWithCaption o given) :=
  ⟨fun _ => item_outcome, image_outcome c, fun _ => cover_outcome⟩

/-- a caption with title, text and credit, above what it belongs to -/
def aboveCaption : Caption :=
  ⟨"<i>te</i>xt", some "Title: ", none, some " by <b>me</b>", none, some .above, none, none⟩

section Sample

attribute [local instance] Room.usual

theorem media_captioned_above : ∃ e t,
    e = mediaElement "amp-img" "p-image" (mediaAttributes "a" ⟨640, 480⟩ "responsive") ∧
    Runs (itemInto (measured ⟨640, 480⟩) (Element.bare "article") (.image ⟨"a", none⟩)) (.start "p-" .empty)
      ((Element.bare "article").append [e.toNode], some (.ofElement e)) t ∧
    Runs (itemInto (measured ⟨640, 480⟩) (Element.bare "article") (.image ⟨"a", some aboveCaption⟩))
      (.start "p-" .empty) ((Element.bare "article").append [(captionFigure "p-" e aboveCaption).toNode],
        some (.ofElement (captionFigure "p-" e aboveCaption))) (noteFigure e t) ∧
    Node.textContents (captionElement "p-" aboveCaption).children = "Title: text by me" := by
  obtain ⟨hitems, -, -⟩ := media_captioned (measured ⟨640, 480⟩) (.start "p-" .empty) (Element.bare "article")
  obtain ⟨hcaption, hmade⟩ := hitems (.image ⟨"a", none⟩) trivial
  obtain ⟨t, hbare⟩ := (hmade _).2 ⟨by decide, ⟨⟨640, 480⟩, [], []⟩, rfl, by decide, rfl⟩
  have htexts : ((captionMarkups (some aboveCaption)).mapM plainText).toOption =
      some ["Title: ", "text", " by me"] := by decide +kernel
  refine ⟨_, t, rfl, hbare, ?_⟩
  cases hcaption with
  | failed hfailed => cases (hfailed none).symm.trans hbare
  | made hkept hnone hcaptions =>
    have hsame := hnone.symm.trans hbare
    simp only [Prod.mk.injEq, Except.ok.injEq, Option.some.injEq] at hsame
    obtain ⟨⟨-, helement⟩, rfl⟩ := hsame
    obtain rfl := ofElement_injective helement
    have hcaption := hcaptions aboveCaption
    generalize houtcome : (itemInto _ _ (withCaption (some aboveCaption) _)).run.run _ = outcome at hcaption
    cases hcaption with
    | figure hallowed hread htext =>
      rw [hkept] at houtcome htext
      rw [hread] at htexts
      refine ⟨houtcome, htext.trans ?_⟩
      rw [Option.some.inj htexts]
      rfl
    | unreadable hallowed hfault =>
      rw [hfault] at htexts
      cases htexts
    | forbidden hforbidden =>
      rw [hkept] at hforbidden
      exact absurd hforbidden (by decide)

end Sample

section Sample

attribute [local instance] Room.usual

/-- **An image that is refused**, since its address must not stand in a document. -/
theorem media_refused : ¬ ∀ (c : Setting) (s : State) (container : Element) (i : Item), IsMedium c s i → ∃ e t,
    Runs (itemInto c container (withCaption none i)) s (container.append [e.toNode], some (.ofElement e)) t := by
  intro h
  obtain ⟨e, t, hrun⟩ := h default (.start "" .empty) (Element.bare "article") (.image ⟨"\x01", none⟩) trivial
  obtain ⟨-, hmade⟩ : MediumOutcome default (.start "" .empty) (Element.bare "article") (.image ⟨"\x01", none⟩) :=
    item_outcome trivial
  obtain ⟨-, found, -, hallowed, -⟩ := (hmade e).1 ⟨t, hrun⟩
  exact absurd hallowed (by decide)

end Sample

end AmpArticle.Page
