import AmpArticle.Page.Content
import AmpArticle.Page.Header
import AmpArticle.Proofs.Page.Steps

/-!
What the builders of a page's parts have in common. Whatever an item is, building it only adds to what a conversion
has gathered, and what it becomes is one node, no text, with nothing but text behind it and without a mark inside.

Results:
- `item_clean`: this holds of the items of every kind;
- `cover_steady`: and of the covers, which have nothing behind them.
-/

namespace AmpArticle.Page

open Markup (Element Node)

/-- a part of a page: one node that is no text, free of dividers, and only text behind it -/
structure Built.Sound (b : Built) : Prop where
  free : b.node.isFree = true
  shown : b.node.isText = false
  text : ∀ n ∈ b.tail, n.isText = true

/-- a part as the builders make it: nothing in it is marked yet -/
structure Built.Clean (b : Built) : Prop where
  unmarked : b.node.isUnmarked = true
  shown : b.node.isText = false
  text : ∀ n ∈ b.tail, n.isText = true

theorem Built.Clean.toSound {b : Built} (h : b.Clean) : b.Sound := ⟨Node.isFree_of_unmarked h.unmarked, h.shown, h.text⟩

theorem ofElement_sound {e : Element} (h : e.isFree = true) : (Built.ofElement e).Sound :=
  ⟨h, rfl, by simp [Built.ofElement]⟩

/-- a part with nothing behind it -/
structure Built.Single (b : Built) : Prop extends Built.Clean b where
  alone : b.tail = []

theorem ofElement_single {e : Element} (h : e.isUnmarked = true) : (Built.ofElement e).Single :=
  ⟨⟨h, rfl, by simp [Built.ofElement]⟩, rfl⟩

theorem steady_ofElement {x : Rendering Element} (h : Steady x fun e => e.isUnmarked = true) :
    Steady (do return .ofElement (← x)) Built.Single :=
  steady_bind h fun _ he => steady_pure (ofElement_single he)

/-- an option is none or holds what has the property -/
def Holds {α : Type} (p : α → Prop) (o : Option α) : Prop := ∀ a, o = some a → p a

theorem holds_none {α : Type} {p : α → Prop} : Holds p none := fun _ h => nomatch h

theorem holds_some {α : Type} {p : α → Prop} {a : α} (h : p a) : Holds p (some a) := by
  rintro _ ⟨⟩
  exact h

theorem steady_some {α : Type} {p : α → Prop} {x : Rendering α} (h : Steady x p) :
    Steady (do return some (← x)) (Holds p) :=
  steady_bind h fun _ ha => steady_pure (holds_some ha)

theorem append_one_unmarked {e f : Element} (he : e.isUnmarked = true) (hf : f.isUnmarked = true) :
    (e.append [f.toNode]).isUnmarked = true :=
  Element.append_unmarked he (by simp only [Node.areUnmarked, Bool.and_true]; exact hf)

/-! ## Texts -/

theorem textElement_steady (tag name text : String) : Steady (textElement tag name text) fun e => e.isUnmarked = true :=
  steady_bind (Rendering.createNamed_steady tag name) fun _ he => Rendering.withMarkup_steady text he

theorem pullquote_steady (text : String) (attribution : Option String) :
    Steady (pullquote text attribution) fun e => e.isUnmarked = true := by
  refine steady_bind (textElement_steady _ _ _) fun e he => ?_
  split
  · exact steady_pure he
  · refine steady_bind (Rendering.create_steady _ _ _) fun cite hcite => ?_
    refine steady_bind (Rendering.withMarkup_steady _ hcite) fun cite hcite => ?_
    exact steady_pure (append_one_unmarked he hcite)

theorem listing_steady (ordered : Bool) (items : List String) :
    Steady (listing ordered items) fun e => e.isUnmarked = true := by
  have hentry (text : String) :
      Steady (do return (← Rendering.withMarkup (← Rendering.create "li" none []) text).toNode)
        fun n => n.isUnmarked = true :=
    steady_bind (Rendering.create_steady _ _ _) fun _ he =>
      steady_bind (Rendering.withMarkup_steady _ he) fun _ hf => steady_pure hf
  refine steady_bind (Rendering.createNamed_steady _ _) fun e he => ?_
  refine steady_bind (steady_mapM hentry items) fun entries hentries => steady_pure ?_
  exact Element.append_unmarked he ((Node.areUnmarked_iff entries).2 hentries)

/-! ## Figures -/

theorem captionPart_steady {e : Element} (tag : String) (markup : Option String) (he : e.isUnmarked = true) :
    Steady (captionPart e tag markup) fun e => e.isUnmarked = true := by
  unfold captionPart
  split
  · exact steady_pure he
  · split
    · exact steady_pure he
    · refine steady_bind (Rendering.create_steady _ _ _) fun part hpart => ?_
      refine steady_bind (Rendering.withMarkup_steady _ hpart) fun part hpart => ?_
      exact steady_pure (append_one_unmarked he hpart)

theorem caption_steady (c : Caption) : Steady (caption c) fun e => e.isUnmarked = true := by
  refine steady_bind (Rendering.create_steady _ _ _) fun e he => ?_
  refine steady_bind (captionPart_steady _ _ he) fun e he => ?_
  refine steady_bind (captionPart_steady _ _ he) fun e he => ?_
  exact steady_bind (Rendering.withMarkup_steady _ he) fun e he => captionPart_steady _ _ he

theorem figure_steady {e : Element} (c : Option Caption) (he : e.isUnmarked = true) : Steady (figure e c) Built.Single := by
  unfold figure
  split
  · exact steady_pure (ofElement_single he)
  · refine steady_bind (Rendering.createNamed_steady _ _) fun holder hholder => ?_
    refine steady_bind (caption_steady _) fun below hbelow => ?_
    refine steady_bind (Rendering.note_steady _) fun _ _ => steady_pure (ofElement_single ?_)
    refine Element.append_unmarked hholder ?_
    split
    · simp only [Node.areUnmarked, Bool.and_true, Bool.and_eq_true]
      exact ⟨hbelow, he⟩
    · simp only [Node.areUnmarked, Bool.and_true, Bool.and_eq_true]
      exact ⟨he, hbelow⟩

/-! ## Media -/

theorem clippedImage_steady (url : String) (size : Media.Size) (style : ImageStyle) :
    Steady (clippedImage url size style) fun e => e.isUnmarked = true := by
  refine steady_bind (Rendering.uniqueClass_steady _) fun own _ => ?_
  refine steady_bind (Rendering.create_steady _ _ _) fun holder hholder => ?_
  refine steady_bind (Rendering.classAttribute_steady _) fun ownClass _ => ?_
  refine steady_bind (Rendering.declare_steady _ _ _) fun _ _ => ?_
  refine steady_bind (Rendering.declare_steady _ _ _) fun _ _ => ?_
  refine steady_bind (Rendering.declare_steady _ _ _) fun _ _ => ?_
  refine steady_bind (steady_liftM (p := fun _ => True) fun _ _ => trivial) fun view _ => ?_
  refine steady_bind (Rendering.declare_steady _ _ _) fun _ _ => ?_
  refine steady_bind (Rendering.create_steady _ _ _) fun image himage => ?_
  exact steady_pure (append_one_unmarked hholder himage)

theorem plainImage_steady (url : String) (size : Media.Size) (style : ImageStyle) :
    Steady (plainImage url size style) fun e => e.isUnmarked = true := by
  unfold plainImage
  split
  · refine steady_bind (steady_liftM (p := fun _ => True) fun _ _ => trivial) fun height _ => ?_
    exact steady_bind (p := fun _ => True) (steady_pure trivial) fun _ _ => Rendering.create_steady _ _ _
  · exact steady_bind (p := fun _ => True) (steady_pure trivial) fun _ _ => Rendering.create_steady _ _ _

theorem image_steady (c : Setting) (p : Picture) (style : ImageStyle) : Steady (image c p style) Built.Single := by
  refine steady_bind (Rendering.dimensions_steady _ _ _) fun size _ => ?_
  split
  · exact steady_bind (clippedImage_steady _ _ _) fun e he => figure_steady _ he
  · exact steady_bind (plainImage_steady _ _ _) fun e he => figure_steady _ he

theorem animatedImage_steady (c : Setting) (p : Picture) : Steady (animatedImage c p) Built.Single := by
  refine steady_bind (Rendering.dimensions_steady _ _ _) fun size _ => ?_
  refine steady_bind (Rendering.create_steady _ _ _) fun e he => ?_
  exact steady_bind (Rendering.useFeature_steady _) fun _ _ => figure_steady _ he

theorem securedAddress_steady (url kind : String) : Steady (securedAddress url kind) fun _ => True := by
  unfold securedAddress
  simp only
  split
  · exact steady_bind (Rendering.warnText_steady _ _ _) fun _ _ => steady_pure trivial
  · exact steady_pure trivial

theorem video_steady (c : Setting) (p : Picture) (name : String) : Steady (video c p name) Built.Single := by
  refine steady_bind (Rendering.dimensions_steady _ _ _) fun size _ => ?_
  refine steady_bind (securedAddress_steady _ _) fun url _ => ?_
  refine steady_bind (Rendering.create_steady _ _ _) fun e he => ?_
  exact steady_bind (Rendering.useFeature_steady _) fun _ _ => figure_steady _ he

theorem slide_steady (c : Setting) (p : Picture) : Steady (slide c p) fun r => r.1.isUnmarked = true := by
  refine steady_bind (Rendering.dimensions_steady _ _ _) fun size _ => ?_
  refine steady_bind (steady_liftM (p := fun _ => True) fun _ _ => trivial) fun height _ => ?_
  exact steady_bind (Rendering.create_steady _ _ _) fun e he => steady_pure he

theorem slideshow_steady (c : Setting) (s : Slideshow) (name : String) :
    Steady (slideshow c s name) Built.Single := by
  unfold slideshow
  split
  · refine steady_bind (Rendering.warnItem_steady _ _ _) fun _ _ => ?_
    exact steady_ofElement (Rendering.createNamed_steady _ _)
  · refine steady_bind (Rendering.create_steady _ _ _) fun carousel hcarousel => ?_
    refine steady_bind (slide_steady c _) fun first hfirst => ?_
    refine steady_bind (steady_mapM (slide_steady c) _) fun slides hslides => ?_
    refine steady_bind (Rendering.useFeature_steady _) fun _ _ => figure_steady _ ?_
    refine Element.append_unmarked (by simp only [Element.put_unmarked]; exact hcarousel) ((Node.areUnmarked_iff _).2 ?_)
    intro n hn
    obtain ⟨e, he, rfl⟩ := List.mem_map.1 hn
    rcases List.mem_cons.1 he with rfl | he
    · exact hfirst
    · obtain ⟨r, hr, rfl⟩ := List.mem_map.1 he
      exact hslides r hr

/-! ## Embedded content -/

theorem frame_steady (name : String) (width height : Option Int) (content : FrameContent) :
    Steady (frame name width height content) fun e => e.isUnmarked = true :=
  steady_bind (Rendering.useFeature_steady _) fun _ _ => Rendering.create_steady _ _ _

theorem imported_steady (name markup : String) : Steady (imported name markup) Built.Clean := by
  have hwrapped : Steady
      (do return .ofElement (← Rendering.withMarkup (← Rendering.createNamed "div" name) markup)) Built.Clean := by
    refine steady_bind (Rendering.createNamed_steady _ _) fun e he => ?_
    refine steady_bind (Rendering.withMarkup_steady _ he) fun e he => steady_pure ?_
    exact (ofElement_single he).toClean
  refine steady_bind (steady_liftM fun nodes hnodes => Markup.fragments_unmarked hnodes) fun nodes hunmarked => ?_
  split
  · rename_i first rest
    split
    · rename_i hone
      simp only [Bool.and_eq_true, decide_eq_true_eq, Bool.not_eq_true'] at hone
      simp only [Node.areUnmarked, Bool.and_eq_true] at hunmarked
      exact steady_pure ⟨hunmarked.1, hone.2, (Markup.pieceCount_eq_one_iff hone.2).1 hone.1⟩
    · exact hwrapped
  · exact hwrapped

theorem embed_steady (i : Item) (content : Embed) (name label : String) :
    Steady (embed i content name label) (Holds Built.Clean) := by
  unfold embed
  split
  · refine steady_bind (securedAddress_steady _ _) fun url _ => ?_
    refine steady_bind (frame_steady _ _ _ _) fun e he => ?_
    refine steady_bind (figure_steady _ he) fun b hb => steady_pure (holds_some hb.toClean)
  · exact steady_some (imported_steady _ _)
  · exact steady_bind (Rendering.warnItem_steady _ _ _) fun _ _ => steady_pure holds_none

theorem advert_steady (ad : Advert) : Steady (advert ad) (Holds Built.Clean) := by
  have hframe (content : FrameContent) : Steady (do return some (.ofElement (← frame "ad" ad.width ad.height content)))
      (Holds Built.Clean) :=
    steady_bind (frame_steady _ _ _ _) fun e he => steady_pure (holds_some (ofElement_single he).toClean)
  unfold advert
  split
  · exact steady_bind (securedAddress_steady _ _) fun url _ => hframe _
  · exact hframe _
  · exact steady_bind (Rendering.warnItem_steady _ _ _) fun _ _ => steady_pure holds_none

theorem emptyMap_steady (pin : MapPin) (message : String) (cause : Option Fault) :
    Steady (emptyMap pin message cause) Built.Single :=
  steady_bind (Rendering.warnItem_steady _ _ _) fun _ _ => steady_ofElement (Rendering.createNamed_steady _ _)

theorem mapsKey?_steady (c : Setting) : Steady (mapsKey? c) fun _ => True := by
  refine steady_bind (mapsFilter_steady _ _) fun v _ => ?_
  split
  · exact steady_pure trivial
  · exact steady_pure trivial

theorem map_steady [Room] (c : Setting) (pin : MapPin) : Steady (map c pin) Built.Single := by
  refine steady_bind (mapsKey?_steady c) fun key _ => ?_
  split
  · exact emptyMap_steady _ _ _
  · split
    · exact emptyMap_steady _ _ _
    · split
      · exact emptyMap_steady _ _ _
      · exact steady_bind (frame_steady _ _ _ _) fun e he => figure_steady _ he
      · split
        · exact emptyMap_steady _ _ _
        · exact steady_throw

/-! ## Items and covers -/

theorem tracking_steady (c : Setting) (i : Item) : Steady (tracking c i) fun _ => True := by
  unfold tracking
  split
  · exact Rendering.warnItem_steady _ _ _
  · exact steady_pure trivial

/-- **Building an item only adds.** It becomes nothing or one clean part, whatever its kind. -/
theorem item_clean [Room] (c : Setting) (i : Item) : Steady (item c i) (Holds Built.Clean) := by
  have hsingle {x : Rendering Built} (h : Steady x Built.Single) :
      Steady (do return some (← x)) (Holds Built.Clean) :=
    steady_bind h fun _ hb => steady_pure (holds_some hb.toClean)
  have helement {x : Rendering Element} (h : Steady x fun e => e.isUnmarked = true) :
      Steady (do return some (.ofElement (← x))) (Holds Built.Clean) :=
    steady_bind h fun _ he => steady_pure (holds_some (ofElement_single he).toClean)
  cases i with
  | paragraph text => exact helement (textElement_steady _ _ _)
  | heading1 text => exact helement (textElement_steady _ _ _)
  | heading2 text => exact helement (textElement_steady _ _ _)
  | list ordered items => exact helement (listing_steady _ _)
  | blockquote text => exact helement (textElement_steady _ _ _)
  | pullquote text attribution => exact helement (pullquote_steady _ _)
  | image p => exact hsingle (image_steady _ _ _)
  | animatedImage p => exact hsingle (animatedImage_steady _ _)
  | video p => exact hsingle (video_steady _ _ _)
  | audio url title => exact helement (Rendering.createNamed_steady _ _)
  | slideshow s => exact hsingle (slideshow_steady _ _ _)
  | interactive content => exact embed_steady _ _ _ _
  | socialEmbed content => exact embed_steady _ _ _ _
  | map pin => exact hsingle (map_steady _ _)
  | relatedArticles title urls => exact helement (Rendering.createNamed_steady _ _)
  | analytics source html => exact steady_bind (tracking_steady _ _) fun _ _ => steady_pure holds_none
  | ad advert => exact advert_steady _
  | other kind => exact steady_pure holds_none

theorem item_steady [Room] (c : Setting) (i : Item) : Steady (item c i) (Holds Built.Sound) := by
  intro s r t hrun
  obtain ⟨hextends, hclean⟩ := item_clean c i s r t hrun
  exact ⟨hextends, fun b hb => (hclean b hb).toSound⟩

theorem cover_steady (c : Setting) (given : Cover) : Steady (cover c given) Built.Single := by
  cases given with
  | image p => exact image_steady c p ImageStyle.cover
  | video p => exact video_steady _ _ _
  | slideshow s => exact slideshow_steady _ _ _

end AmpArticle.Page
