import AmpArticle.Proofs.Page.Lockstep

/-!
The builders of a page in lockstep. Whatever an item is, both conversions build it or neither does, and what they build
is alike.

Results:
- `clippedImage_inStep`: the numbered class of a clipped image is one of its names and stands in its selectors;
- `item_inStep`, `cover_inStep`: the builders of all items and covers;
- `header_inStep`, `content_inStep`, `footer_inStep`: the parts of a body.
-/

namespace AmpArticle.Page

open Markup (Element Node)

variable {c : Setting} {taken : Node → Prop} {p q : String}

/-! ## Figures -/

section Figures

variable {e e' : Element}

theorem captionPart_inStep (tag : String) {markup : Option String} (h : Made taken p q e e')
    (hmarkup : Brings taken markup.toList) :
    InStep p q (captionPart e tag markup) (captionPart e' tag markup) (Made taken p q) := by
  cases markup with
  | none => exact inStep_pure h
  | some text =>
    simp only [captionPart]
    split
    · exact inStep_pure h
    · refine inStep_bind (Rendering.createPlain_inStep taken tag (by simp)) fun part part' hpart => ?_
      refine inStep_bind (Rendering.withMarkup_inStep hpart hmarkup) fun part part' hpart => ?_
      exact inStep_pure (h.adopt hpart)

theorem captionClasses_ne_nil (caption : Caption) : captionClasses caption ≠ [] := by
  simp [captionClasses]

theorem caption_inStep {given : Caption} (h : Brings taken (captionMarkups (some given))) :
    InStep p q (caption given) (caption given) (Made taken p q) := by
  have hcredit := h.append_right
  have htext := h.append_left.append_right
  have hsubtitle := h.append_left.append_left.append_right
  have htitle := h.append_left.append_left.append_left
  have hnames := isNames_many _ (captionClasses_ne_nil given)
  refine inStep_bind (Rendering.create_inStep taken "figcaption" hnames (by simp)) fun e e' he => ?_
  refine inStep_bind (captionPart_inStep "h1" he htitle) fun e e' he => ?_
  refine inStep_bind (captionPart_inStep "h2" he hsubtitle) fun e e' he => ?_
  refine inStep_bind (Rendering.withMarkup_inStep he htext) fun e e' he => ?_
  exact captionPart_inStep "cite" he hcredit

theorem figure_inStep {given : Option Caption} (he : Made taken p q e e') (h : Brings taken (captionMarkups given)) :
    InStep p q (figure e given) (figure e' given) (BuiltAlike taken p q) := by
  cases given with
  | none => exact inStep_pure he.built
  | some given =>
    simp only [figure, he.tag]
    refine inStep_bind (Rendering.createNamed_inStep taken "figure" rfl) fun holder holder' hholder => ?_
    refine inStep_bind (caption_inStep h) fun below below' hbelow => ?_
    refine inStep_bind (Rendering.note_inStep _) fun _ _ _ => inStep_pure ?_
    refine (hholder.append ?_).built
    split
    · exact .cons hbelow.alike (.cons he.alike .nil)
    · exact .cons he.alike (.cons hbelow.alike .nil)

end Figures

/-! ## Media -/

theorem mediaAttributes_classless (url : String) (size : Media.Size) (layout : String) :
    ∀ a ∈ mediaAttributes url size layout, a.1 ≠ "class" := by
  simp [mediaAttributes]

/-- how an image is built when its classes are single names -/
structure PlainStyle (style : ImageStyle) : Prop where
  names : ∃ name, style.names = .name name ∧ name.isEmpty = false
  boxNames : ∃ name, style.boxNames = .name name

theorem isNames_pair (given own : String) : IsNames (.many [.name given, .name own]) [given, own] :=
  isNames_many [given, own] (List.cons_ne_nil _ _)

theorem plainStyle_inText : PlainStyle ImageStyle.inText := ⟨⟨"image", rfl, rfl⟩, ⟨"viewport-box", rfl⟩⟩

theorem plainStyle_cover : PlainStyle ImageStyle.cover := ⟨⟨"header-cover-img", rfl, rfl⟩, ⟨"cover-image", rfl⟩⟩

/-- **A clipped image.** Its own class is numbered alike; it is one of the names of the box and of the picture, and the
selectors of their rules are made from it. -/
theorem clippedImage_inStep (taken : Node → Prop) (url : String) (size : Media.Size) {style : ImageStyle} (hstyle : PlainStyle style) :
    InStep p q (clippedImage url size style) (clippedImage url size style) (Made taken p q) := by
  obtain ⟨⟨name, hname, -⟩, boxName, hboxName⟩ := hstyle
  simp only [clippedImage, hname, hboxName]
  refine inStep_bind (Rendering.uniqueClass_inStep "viewport") ?_
  rintro own _ ⟨rfl, number, rfl⟩
  refine inStep_bind (Rendering.create_inStep taken "div" (isNames_pair _ _) (by simp)) fun holder holder' hholder => ?_
  refine inStep_bind (Rendering.classAttribute_inStep _) ?_
  rintro _ _ ⟨rfl, rfl⟩
  have hbox (property value : String) :=
    Rendering.declare_inStep (p := p) (q := q) (.box number) property value
  have hpicture (property value : String) :=
    Rendering.declare_inStep (p := p) (q := q) (.picture number) property value
  simp only [Css.Template.fill, Text.joinWith, String.append_assoc] at hbox hpicture
  simp only [String.append_assoc] at hholder ⊢
  refine inStep_bind (hbox _ _) fun _ _ _ => inStep_bind (hbox _ _) fun _ _ _ => ?_
  refine inStep_bind (hbox _ _) fun _ _ _ => inStep_bind (inStep_same _) ?_
  rintro view _ rfl
  refine inStep_bind (hpicture _ _) fun _ _ _ => ?_
  refine inStep_bind (Rendering.create_inStep taken "amp-img" (isNames_pair _ _) (mediaAttributes_classless _ _ _)) ?_
  exact fun image image' himage => inStep_pure (hholder.adopt himage)

theorem plainImage_inStep (taken : Node → Prop) (url : String) (size : Media.Size) {style : ImageStyle} (hstyle : PlainStyle style) :
    InStep p q (plainImage url size style) (plainImage url size style) (Made taken p q) := by
  obtain ⟨⟨name, hname, hsome⟩, -⟩ := hstyle
  have hcreate (width height : String) : InStep p q
      (Rendering.create "amp-img" (some style.names)
        [("src", url), ("width", width), ("height", height), ("layout", "responsive")])
      (Rendering.create "amp-img" (some style.names)
        [("src", url), ("width", width), ("height", height), ("layout", "responsive")]) (Made taken p q) := by
    rw [hname]
    exact Rendering.create_inStep taken "amp-img" (isNames_name hsome) (by simp)
  unfold plainImage
  cases style.sizing with
  | scaled =>
    refine inStep_bind (inStep_same _) ?_
    rintro height _ rfl
    exact hcreate _ _
  | _ => exact hcreate _ _

theorem image_inStep {pic : Picture} {style : ImageStyle} (hstyle : PlainStyle style)
    (h : Brings taken (captionMarkups pic.caption)) :
    InStep p q (image c pic style) (image c pic style) (BuiltAlike taken p q) := by
  refine inStep_bind (Rendering.dimensions_inStep _ _ _) ?_
  rintro size _ rfl
  cases style.sizing with
  | viewport => exact inStep_bind (clippedImage_inStep taken _ _ hstyle) fun e e' he => figure_inStep he h
  | _ => exact inStep_bind (plainImage_inStep taken _ _ hstyle) fun e e' he => figure_inStep he h

theorem animatedImage_inStep {pic : Picture} (h : Brings taken (captionMarkups pic.caption)) :
    InStep p q (animatedImage c pic) (animatedImage c pic) (BuiltAlike taken p q) := by
  refine inStep_bind (Rendering.dimensions_inStep _ _ _) ?_
  rintro size _ rfl
  refine inStep_bind (Rendering.create_inStep taken "amp-anim" (isNames_name rfl) (mediaAttributes_classless _ _ _)) ?_
  intro e e' he
  exact inStep_bind (Rendering.useFeature_inStep _) fun _ _ _ => figure_inStep he h

theorem securedAddress_inStep (url kind : String) : InStep p q (securedAddress url kind) (securedAddress url kind) Eq := by
  unfold securedAddress
  dsimp only
  split
  · exact inStep_bind (Rendering.warnText_inStep _ _ _) fun _ _ _ => inStep_pure rfl
  · exact inStep_pure rfl

theorem video_inStep {pic : Picture} {name : String} (hname : name.isEmpty = false)
    (h : Brings taken (captionMarkups pic.caption)) :
    InStep p q (video c pic name) (video c pic name) (BuiltAlike taken p q) := by
  refine inStep_bind (Rendering.dimensions_inStep _ _ _) ?_
  rintro size _ rfl
  refine inStep_bind (securedAddress_inStep _ _) ?_
  rintro url _ rfl
  have hattributes : ∀ a ∈ mediaAttributes url size "responsive" ++ [("controls", "")], a.1 ≠ "class" := by
    simp [mediaAttributes]
  refine inStep_bind (Rendering.create_inStep taken "amp-video" (isNames_name hname) hattributes) fun e e' he => ?_
  exact inStep_bind (Rendering.useFeature_inStep _) fun _ _ _ => figure_inStep he h

theorem slide_inStep (taken : Node → Prop) (pic : Picture) :
    InStep p q (slide c pic) (slide c pic) fun r r' => Made taken p q r.1 r'.1 ∧ r.2 = r'.2 := by
  refine inStep_bind (Rendering.dimensions_inStep _ _ _) ?_
  rintro size _ rfl
  refine inStep_bind (inStep_same _) ?_
  rintro height _ rfl
  refine inStep_bind (Rendering.createPlain_inStep taken "amp-img" (mediaAttributes_classless _ _ _)) fun e e' he => ?_
  exact inStep_pure ⟨he, rfl⟩

theorem slideshow_inStep {shown : Slideshow} {name : String} (hname : name.isEmpty = false)
    (h : Brings taken (if shown.images.isEmpty then [] else captionMarkups shown.caption)) :
    InStep p q (slideshow c shown name) (slideshow c shown name) (BuiltAlike taken p q) := by
  unfold slideshow
  cases himages : shown.images with
  | nil =>
    refine inStep_bind (Rendering.warnItem_inStep _ _ _) fun _ _ _ => ?_
    exact inStep_bind (Rendering.createNamed_inStep taken "div" hname) fun e e' he => inStep_pure he.built
  | cons first rest =>
    rw [himages] at h
    refine inStep_bind (Rendering.create_inStep taken "amp-carousel" (isNames_name hname) (by simp)) fun e e' he => ?_
    refine inStep_bind (slide_inStep taken first) ?_
    rintro ⟨firstSlide, size⟩ ⟨firstSlide', _⟩ ⟨hfirst, rfl⟩
    refine inStep_bind (inStep_mapM fun pic _ => slide_inStep taken pic) fun slides slides' hslides => ?_
    refine inStep_bind (Rendering.useFeature_inStep _) fun _ _ _ => ?_
    have hsized := ((he.put "width" (by decide) (intText size.width)).put "height" (by decide)
      (intText size.height)).put "layout" (by decide) "responsive"
    refine figure_inStep (hsized.append ?_) h
    rw [List.map_cons, List.map_cons, List.map_map, List.map_map]
    refine .cons hfirst.alike ?_
    rw [List.forall₂_map_left_iff, List.forall₂_map_right_iff]
    exact hslides.imp fun r r' hr => hr.1.alike

/-! ## Embedded content -/

theorem frame_inStep (taken : Node → Prop) {name : String} (hname : name.isEmpty = false) (width height : Option Int)
    (content : FrameContent) :
    InStep p q (frame name width height content) (frame name width height content) (Made taken p q) := by
  refine inStep_bind (Rendering.useFeature_inStep _) fun _ _ _ => ?_
  refine Rendering.create_inStep taken "amp-iframe" (isNames_name hname) ?_
  cases content <;> simp [FrameContent.attributes]

theorem imported_inStep {name markup : String} (hname : name.isEmpty = false) (hmarkup : markup.isEmpty = false)
    (h : Brings taken [markup]) :
    InStep p q (imported name markup) (imported name markup) (BuiltAlike taken p q) := by
  have hwrapped : InStep p q
      (do return .ofElement (← Rendering.withMarkup (← Rendering.createNamed "div" name) markup))
      (do return .ofElement (← Rendering.withMarkup (← Rendering.createNamed "div" name) markup))
      (BuiltAlike taken p q) := by
    refine inStep_bind (Rendering.createNamed_inStep taken "div" hname) fun e e' he => ?_
    exact inStep_bind (Rendering.withMarkup_inStep he h) fun e e' he => inStep_pure he.built
  refine inStep_bind (R := fun nodes nodes' => nodes = nodes' ∧ Markup.taken markup = nodes)
    (inStep_liftM fun nodes nodes' hnodes hnodes' => ?_) ?_
  · rw [hnodes] at hnodes'
    exact ⟨Except.ok.inj hnodes', Markup.taken_eq hmarkup hnodes⟩
  · rintro nodes _ ⟨rfl, htaken⟩
    cases nodes with
    | nil => exact hwrapped
    | cons first rest =>
      dsimp only
      split
      · refine inStep_pure (allAlike_taken fun n hn => h markup (List.mem_singleton_self _) n ?_)
        rw [htaken]
        exact hn
      · exact hwrapped

theorem embed_inStep {i : Item} {content : Embed} {name label : String} (hname : name.isEmpty = false)
    (h : Brings taken
      (if (present? content.source).isSome then captionMarkups content.caption else content.html.toList)) :
    InStep p q (embed i content name label) (embed i content name label) (PartAlike taken p q) := by
  unfold embed
  cases hsource : present? content.source with
  | some source =>
    rw [hsource] at h
    refine inStep_bind (securedAddress_inStep _ _) ?_
    rintro url _ rfl
    refine inStep_bind (frame_inStep taken hname _ _ _) fun e e' he => ?_
    exact inStep_bind (figure_inStep he h) fun b b' hb => inStep_pure (.some hb)
  | none =>
    rw [hsource] at h
    cases hhtml : present? content.html with
    | some markup =>
      obtain ⟨hgiven, hmarkup⟩ := Option.filter_eq_some_iff.1 hhtml
      rw [hgiven] at h
      exact inStep_bind (imported_inStep hname (by simpa using hmarkup) h) fun b b' hb => inStep_pure (.some hb)
    | none => exact inStep_bind (Rendering.warnItem_inStep _ _ _) fun _ _ _ => inStep_pure .none

theorem advert_inStep (ad : Advert) : InStep p q (advert ad) (advert ad) (PartAlike taken p q) := by
  have hframe (content : FrameContent) :
      InStep p q (do return some (.ofElement (← frame "ad" ad.width ad.height content)))
        (do return some (.ofElement (← frame "ad" ad.width ad.height content))) (PartAlike taken p q) :=
    inStep_bind (frame_inStep taken rfl _ _ _) fun e e' he => inStep_pure (.some he.built)
  unfold advert
  cases present? ad.source with
  | some source =>
    refine inStep_bind (securedAddress_inStep _ _) ?_
    rintro url _ rfl
    exact hframe _
  | none =>
    cases present? ad.html with
    | some markup => exact hframe _
    | none => exact inStep_bind (Rendering.warnItem_inStep _ _ _) fun _ _ _ => inStep_pure .none

theorem emptyMap_inStep (pin : MapPin) (message : String) (cause : Option Fault) :
    InStep p q (emptyMap pin message cause) (emptyMap pin message cause) (BuiltAlike taken p q) := by
  refine inStep_bind (Rendering.warnItem_inStep _ _ _) fun _ _ _ => ?_
  exact inStep_bind (Rendering.createNamed_inStep taken "div" rfl) fun e e' he => inStep_pure he.built

theorem mapsKey?_inStep (c : Setting) : InStep p q (mapsKey? c) (mapsKey? c)
    fun key key' => key = key' ∧ key = present? c.properties.mapsKey := by
  have hsame : InStep p q (mapsKey? c) (mapsKey? c) Eq := by
    refine inStep_bind (Rendering.filter_inStep _ _ _ _) ?_
    rintro _ _ ⟨rfl, rfl⟩
    exact inStep_pure rfl
  intro s t key key' s' t' htwin hx hy
  obtain ⟨htwin', hkey⟩ := hsame _ _ _ _ _ _ htwin hx hy
  exact ⟨htwin', hkey, (mapsKey?_unfiltered htwin.unfiltered hx).1⟩

theorem map_inStep [Room] {pin : MapPin} (h : Brings taken (if isPlaced c pin then captionMarkups pin.caption else [])) :
    InStep p q (map c pin) (map c pin) (BuiltAlike taken p q) := by
  refine inStep_bind (mapsKey?_inStep c) ?_
  rintro key _ ⟨rfl, hkey⟩
  cases key with
  | none => exact emptyMap_inStep _ _ _
  | some key =>
    dsimp only
    split
    · exact emptyMap_inStep _ _ _
    · cases hgeo : Geo.ofGeotag pin.geotag with
      | error fault =>
        dsimp only
        split
        · exact emptyMap_inStep _ _ _
        · exact inStep_throw
      | ok found =>
        cases found with
        | none => exact emptyMap_inStep _ _ _
        | some position =>
          have hplaced : isPlaced c pin = true := by rw [isPlaced, ← hkey, hgeo]; rfl
          rw [hplaced] at h
          exact inStep_bind (frame_inStep taken rfl _ _ _) fun e e' he => figure_inStep he h

/-! ## Texts -/

theorem textElement_inStep (tag : String) {name text : String} (hname : name.isEmpty = false)
    (h : Brings taken [text]) :
    InStep p q (textElement tag name text) (textElement tag name text) (Made taken p q) :=
  inStep_bind (Rendering.createNamed_inStep taken tag hname) fun _ _ he => Rendering.withMarkup_inStep he h

/-- markup in an element without classes, as an entry of a row -/
theorem entry_inStep (tag : String) {text : String} (h : Brings taken [text]) :
    InStep p q (do return (← Rendering.withMarkup (← Rendering.create tag none []) text).toNode)
      (do return (← Rendering.withMarkup (← Rendering.create tag none []) text).toNode) (Alike taken p q) := by
  refine inStep_bind (Rendering.createPlain_inStep taken tag (by simp)) fun e e' he => ?_
  exact inStep_bind (Rendering.withMarkup_inStep he h) fun e e' he => inStep_pure he.alike

theorem entries_inStep (tag : String) {texts : List String} (h : Brings taken texts) :
    InStep p q
      (texts.mapM fun text => do
        return (← Rendering.withMarkup (← Rendering.create tag none []) text).toNode)
      (texts.mapM fun text => do
        return (← Rendering.withMarkup (← Rendering.create tag none []) text).toNode) (AllAlike taken p q) :=
  inStep_mapM fun _ htext => entry_inStep tag fun text' htext' => h text' (List.mem_singleton.1 htext' ▸ htext)

theorem pullquote_inStep {text : String} {attribution : Option String}
    (h : Brings taken ([text] ++ attribution.toList)) :
    InStep p q (pullquote text attribution) (pullquote text attribution) (Made taken p q) := by
  refine inStep_bind (textElement_inStep "aside" rfl h.append_left) fun e e' he => ?_
  cases hwho : present? attribution with
  | none => exact inStep_pure he
  | some who =>
    have hgiven := (Option.filter_eq_some_iff.1 hwho).1
    have hbrings : Brings taken [who] := by
      rw [hgiven] at h
      exact h.append_right
    refine inStep_bind (Rendering.createPlain_inStep taken "cite" (by simp)) fun cite cite' hcite => ?_
    refine inStep_bind (Rendering.withMarkup_inStep hcite hbrings) fun cite cite' hcite => ?_
    exact inStep_pure (he.adopt hcite)

theorem listing_inStep {ordered : Bool} {items : List String} (h : Brings taken items) :
    InStep p q (listing ordered items) (listing ordered items) (Made taken p q) := by
  refine inStep_bind (Rendering.createNamed_inStep taken _ rfl) fun e e' he => ?_
  exact inStep_bind (entries_inStep "li" h) fun nodes nodes' hnodes => inStep_pure (he.append hnodes)

/-! ## Items and covers -/

theorem tracking_inStep (i : Item) : InStep p q (tracking c i) (tracking c i) fun _ _ => True := by
  unfold tracking
  split
  · exact Rendering.warnItem_inStep _ _ _
  · exact inStep_pure trivial

/-- **The builder of an item** in lockstep, whatever its kind. -/
theorem item_inStep [Room] {i : Item} (h : Brings taken (itemMarkups c i)) :
    InStep p q (item c i) (item c i) (PartAlike taken p q) := by
  have helement {x : Rendering Element} (hx : InStep p q x x (Made taken p q)) :
      InStep p q (do return some (.ofElement (← x))) (do return some (.ofElement (← x))) (PartAlike taken p q) :=
    inStep_bind hx fun e e' he => inStep_pure (.some he.built)
  have hpart {x : Rendering Built} (hx : InStep p q x x (BuiltAlike taken p q)) :
      InStep p q (do return some (← x)) (do return some (← x)) (PartAlike taken p q) :=
    inStep_bind hx fun b b' hb => inStep_pure (.some hb)
  cases i with
  | paragraph text => exact helement (textElement_inStep "p" rfl h)
  | heading1 text => exact helement (textElement_inStep "h1" rfl h)
  | heading2 text => exact helement (textElement_inStep "h2" rfl h)
  | list ordered items => exact helement (listing_inStep h)
  | blockquote text => exact helement (textElement_inStep "blockquote" rfl h)
  | pullquote text attribution => exact helement (pullquote_inStep h)
  | image pic => exact hpart (image_inStep plainStyle_inText h)
  | animatedImage pic => exact hpart (animatedImage_inStep h)
  | video pic => exact hpart (video_inStep rfl h)
  | audio url title => exact helement (Rendering.createNamed_inStep taken "div" rfl)
  | slideshow shown => exact hpart (slideshow_inStep rfl h)
  | interactive content => exact embed_inStep rfl h
  | socialEmbed content => exact embed_inStep rfl h
  | map pin => exact hpart (map_inStep h)
  | relatedArticles title urls => exact helement (Rendering.createNamed_inStep taken "div" rfl)
  | analytics source html => exact inStep_bind (tracking_inStep _) fun _ _ _ => inStep_pure .none
  | ad advert => exact advert_inStep advert
  | other kind => exact inStep_pure .none

theorem cover_inStep [Room] {given : Cover} (h : Brings taken (itemMarkups c given.toItem)) :
    InStep p q (cover c given) (cover c given) (BuiltAlike taken p q) := by
  cases given with
  | image pic =>
    -- the statement first: to find it from the goal is slow
    have himage : InStep p q (image c pic .cover) (image c pic .cover) (BuiltAlike taken p q) :=
      image_inStep plainStyle_cover h
    exact himage
  | video pic => exact video_inStep rfl h
  | slideshow shown => exact slideshow_inStep rfl h

/-! ## Header -/

/-- a part that passes a point, with its divider -/
theorem passed_inStep {b b' : Built} (point : Extension.Point) (extras : List Extension.Extra) (kind : String)
    (h : BuiltAlike taken p q b b') :
    InStep p q
      (do
        match ← b.filter point extras with
        | none => return []
        | some built => return built.nodes ++ [← Rendering.divider kind])
      (do
        match ← b'.filter point extras with
        | none => return []
        | some built => return built.nodes ++ [← Rendering.divider kind]) (AllAlike taken p q) := by
  refine inStep_bind (builtFilter_inStep point extras h) fun r r' hr => ?_
  cases hr with
  | none => exact inStep_pure .nil
  | some hb =>
    exact inStep_bind (Rendering.divider_inStep taken kind) fun d d' hd =>
      inStep_pure (AllAlike.append hb (.cons hd .nil))

theorem coverPart_inStep [Room] {given : Option Cover} (h : Brings taken ((coverItems given).flatMap (itemMarkups c))) :
    InStep p q (coverPart c given) (coverPart c given) (AllAlike taken p q) := by
  cases given with
  | none => exact inStep_pure .nil
  | some given =>
    rw [coverItems, Option.map_some, Option.toList_some, List.flatMap_singleton] at h
    exact inStep_bind (cover_inStep h) fun b b' hb => passed_inStep .cover _ _ hb

theorem withDivider_inStep {e e' : Element} (kind : String) (h : Made taken p q e e') :
    InStep p q (withDivider e kind) (withDivider e' kind) (AllAlike taken p q) :=
  inStep_bind (Rendering.divider_inStep taken kind) fun _ _ hd => inStep_pure (.cons h.alike (.cons hd .nil))

theorem barPart_inStep (taken : Node → Prop) : InStep p q barPart barPart (AllAlike taken p q) :=
  inStep_bind (Rendering.createNamed_inStep taken "div" rfl) fun _ _ he => withDivider_inStep _ (he.withMark rfl)

theorem linePart_inStep (tag : String) {kind : String} {markup : Option String} (hkind : kind.isEmpty = false)
    (h : Brings taken markup.toList) :
    InStep p q (linePart tag kind markup) (linePart tag kind markup) (AllAlike taken p q) := by
  unfold linePart
  cases hpresent : markup.filter fun s => !s.isEmpty with
  | none => exact inStep_pure .nil
  | some text =>
    rw [(Option.filter_eq_some_iff.1 hpresent).1] at h
    refine inStep_bind (Rendering.createNamed_inStep taken tag hkind) fun e e' he => ?_
    exact inStep_bind (Rendering.withMarkup_inStep he h) fun e e' he => withDivider_inStep _ he

theorem setText_inStep {e e' : Element} (text : String) (h : Made taken p q e e') :
    InStep p q (liftM (e.setText text)) (liftM (e'.setText text)) (Made taken p q) := by
  refine inStep_liftM fun f f' hf hf' => ?_
  obtain ⟨_, -, hset⟩ := bind_ok_iff.1 hf
  obtain ⟨_, -, hset'⟩ := bind_ok_iff.1 hf'
  obtain rfl := pure_ok_iff.1 hset
  obtain rfl := pure_ok_iff.1 hset'
  cases text.isEmpty with
  | true => exact h.leading []
  | false => exact h.leading [text]

theorem bylinePart_inStep (taken : Node → Prop) (authors : List Author) :
    InStep p q (bylinePart authors) (bylinePart authors) (AllAlike taken p q) := by
  unfold bylinePart
  dsimp only
  split
  · exact inStep_pure .nil
  · refine inStep_bind (Rendering.createNamed_inStep taken "h3" rfl) fun e e' he => ?_
    exact inStep_bind (setText_inStep _ he) fun e e' he => withDivider_inStep _ he

theorem datePart_inStep (taken : Node → Prop) (published : Option Moment) :
    InStep p q (datePart published) (datePart published) (AllAlike taken p q) := by
  unfold datePart
  split
  · exact inStep_pure .nil
  · refine inStep_bind (Rendering.createNamed_inStep taken "h3" rfl) fun e e' he => ?_
    exact withDivider_inStep _ (he.withMark rfl)

theorem headerParts_inStep [Room] {given : Header}
    (h : Brings taken ((coverItems given.cover).flatMap (itemMarkups c) ++ lineMarkups given)) :
    InStep p q (headerParts c given) (headerParts c given) (AllAlike taken p q) := by
  have hkicker := h.append_right.append_left.append_left
  have htitle := h.append_right.append_left.append_right
  refine inStep_bind (coverPart_inStep h.append_left) fun cover cover' hcover => ?_
  refine inStep_bind (barPart_inStep taken) fun bar bar' hbar => ?_
  refine inStep_bind (linePart_inStep "h2" rfl hkicker) fun first first' hfirst => ?_
  refine inStep_bind (linePart_inStep "h1" rfl htitle) fun second second' hsecond => ?_
  refine inStep_bind (linePart_inStep "h2" rfl h.append_right.append_right) fun third third' hthird => ?_
  refine inStep_bind (bylinePart_inStep taken _) fun authors authors' hauthors => ?_
  refine inStep_bind (datePart_inStep taken _) fun date date' hdate => inStep_pure ?_
  exact (((((AllAlike.append hcover hbar).append hfirst).append hsecond).append hthird).append hauthors).append hdate

theorem header_inStep [Room] {given : Header}
    (h : Brings taken ((coverItems given.cover).flatMap (itemMarkups c) ++ lineMarkups given)) :
    InStep p q (header c given) (header c given) (PartAlike taken p q) := by
  refine inStep_bind (Rendering.createNamed_inStep taken "header" rfl) fun e e' he => ?_
  refine inStep_bind (headerParts_inStep h) fun nodes nodes' hnodes => ?_
  exact builtFilter_inStep _ _ (he.append hnodes).built

/-! ## Content and footer -/

theorem contentPart_inStep [Room] {i : Item} (h : i.isBlank = false → Brings taken (itemMarkups c i)) :
    InStep p q (contentPart c i) (contentPart c i) (AllAlike taken p q) := by
  unfold contentPart
  split
  · exact inStep_bind (Rendering.note_inStep _) fun _ _ _ => inStep_pure .nil
  · rename_i hshown
    have hitem := item_inStep (p := p) (q := q) (h (by simpa using hshown))
    split
    · exact inStep_bind (Rendering.note_inStep _) fun _ _ _ => inStep_pure .nil
    · refine inStep_bind hitem fun r r' hr => ?_
      cases hr with
      | none => exact inStep_pure .nil
      | some hb => exact passed_inStep .articleItem _ _ hb

theorem contentParts_inStep [Room] {items : List Item} (h : Brings taken ((shownItems items).flatMap (itemMarkups c))) :
    InStep p q (contentParts c items) (contentParts c items) (AllAlike taken p q) := by
  induction items with
  | nil => exact inStep_pure .nil
  | cons i rest ih =>
    have hfirst (hshown : i.isBlank = false) : Brings taken (itemMarkups c i) := by
      intro text htext
      exact h text (List.mem_flatMap.2 ⟨i, List.mem_filter.2 ⟨List.mem_cons_self, by simp [hshown]⟩, htext⟩)
    have hrest : Brings taken ((shownItems rest).flatMap (itemMarkups c)) := by
      intro text htext
      obtain ⟨j, hj, htext⟩ := List.mem_flatMap.1 htext
      obtain ⟨hj, hshown⟩ := List.mem_filter.1 hj
      exact h text (List.mem_flatMap.2 ⟨j, List.mem_filter.2 ⟨List.mem_cons_of_mem _ hj, hshown⟩, htext⟩)
    refine inStep_bind (contentPart_inStep hfirst) fun nodes nodes' hnodes => ?_
    exact inStep_bind (ih hrest) fun others others' hothers => inStep_pure (hnodes.append hothers)

theorem content_inStep [Room] {items : List Item} (h : Brings taken ((shownItems items).flatMap (itemMarkups c))) :
    InStep p q (content c items) (content c items) (Made taken p q) := by
  refine inStep_bind (Rendering.createNamed_inStep taken "article" rfl) fun e e' he => ?_
  exact inStep_bind (contentParts_inStep h) fun nodes nodes' hnodes => inStep_pure (he.append hnodes)

theorem creditsPart_inStep {credits : Option Credits} (h : Brings taken (creditsMarkups credits)) :
    InStep p q (creditsPart credits) (creditsPart credits) (AllAlike taken p q) := by
  unfold creditsPart
  cases hpresent : credits.filter Credits.isPresent with
  | none => exact inStep_pure .nil
  | some given =>
    rw [(Option.filter_eq_some_iff.1 hpresent).1] at h
    refine inStep_bind (Rendering.createNamed_inStep taken "aside" rfl) fun e e' he => ?_
    cases given with
    | single text => exact inStep_bind (Rendering.withMarkup_inStep he h) fun e e' he => inStep_pure (.cons he.alike .nil)
    | paragraphs texts =>
      refine inStep_bind (entries_inStep "p" h) fun lines lines' hlines => inStep_pure ?_
      exact .cons (he.append hlines).alike .nil

theorem copyrightPart_inStep {copyright : Option String} (h : Brings taken copyright.toList) :
    InStep p q (copyrightPart copyright) (copyrightPart copyright) (AllAlike taken p q) := by
  unfold copyrightPart
  cases hpresent : copyright.filter fun s => !s.isEmpty with
  | none => exact inStep_pure .nil
  | some text =>
    rw [(Option.filter_eq_some_iff.1 hpresent).1] at h
    refine inStep_bind (Rendering.createNamed_inStep taken "small" rfl) fun e e' he => ?_
    exact inStep_bind (Rendering.withMarkup_inStep he h) fun e e' he => inStep_pure (.cons he.alike .nil)

theorem footer_inStep {given : Option Footer} (h : Brings taken (footerMarkups given)) :
    InStep p q (footer given) (footer given) (PartAlike taken p q) := by
  unfold footer
  cases hpresent : given.filter Footer.isPresent with
  | none => exact inStep_pure .none
  | some f =>
    rw [(Option.filter_eq_some_iff.1 hpresent).1] at h
    refine inStep_bind (Rendering.createNamed_inStep taken "footer" rfl) fun e e' he => ?_
    refine inStep_bind (creditsPart_inStep h.append_left) fun credits credits' hcredits => ?_
    refine inStep_bind (copyrightPart_inStep h.append_right) fun line line' hline => ?_
    exact builtFilter_inStep _ _ (he.append (hcredits.append hline)).built

end AmpArticle.Page
