import AmpArticle.Proofs.Page.Elements
import AmpArticle.Proofs.Url.Secure
import Mathlib.Data.List.Infix

/-!
Notices of insecure addresses among the warnings of a conversion. A builder that embeds what is at an address gives one
when the address is insecure; no other step gives any, whatever the texts are that it warns about.

Results:
- `isNotice_notice`, `isNotice_other`: notices are told from other warnings by how they begin;
- `Silent`: a step that gives no notice;
- `item_notices`, `cover_notices`: what the builders of items and covers give.
-/

namespace AmpArticle.Page

open Markup (Element Node)

variable {α : Type} {s t : State}

/-! ## Notices -/

/-- the words for what is at an address -/
def addressKinds : List String := ["Video", "Interactive", "Social embed", "Ad"]

/-- the warning about an insecure address -/
def notice (kind url : String) : Warning :=
  .about (kind ++ " URL " ++ url ++ " is not HTTPS, rewritten to " ++ Url.secure url ++ ".") (.text url) none

/-- whether a warning says that an address is not secure. It begins with the kind of the address: what it says could
also stand in an address that another warning is about -/
def isNotice (w : Warning) : Bool :=
  addressKinds.any (fun kind => (kind ++ " URL ").toList.isPrefixOf w.message.toList) &&
    decide (" is not HTTPS, rewritten to ".toList <:+: w.message.toList)

theorem isNotice_notice {kind : String} (hkind : kind ∈ addressKinds) (url : String) :
    isNotice (notice kind url) = true := by
  rw [isNotice, Bool.and_eq_true, List.any_eq_true, decide_eq_true_eq]
  refine ⟨⟨kind, hkind, List.isPrefixOf_iff_prefix.2 ?_⟩, ?_⟩
  · exact ⟨(url ++ " is not HTTPS, rewritten to " ++ Url.secure url ++ ".").toList, by
      simp [notice, Warning.about, String.append_assoc]⟩
  · exact ⟨(kind ++ " URL " ++ url).toList, (Url.secure url ++ ".").toList, by
      simp [notice, Warning.about, String.append_assoc]⟩

/-- texts neither of which is the beginning of the other -/
def Apart (s t : String) : Prop := ¬ s.toList <+: t.toList ∧ ¬ t.toList <+: s.toList

instance (s t : String) : Decidable (Apart s t) := by
  unfold Apart
  infer_instance

/-- a warning that begins in another way is no notice -/
theorem isNotice_other {w : Warning} (start : String) (hw : start.toList <+: w.message.toList)
    (hapart : ∀ kind ∈ addressKinds, Apart (kind ++ " URL ") start) : isNotice w = false := by
  rw [isNotice, Bool.and_eq_false_iff]
  left
  rw [List.any_eq_false]
  intro kind hkind hbegins
  obtain ⟨hshort, hlong⟩ := hapart kind hkind
  exact (List.prefix_or_prefix_of_prefix (List.isPrefixOf_iff_prefix.1 hbegins) hw).elim hshort hlong

/-- the notices that were given -/
def notices (s : State) : List Warning := s.warnings.filter isNotice

/-! ## Steps that give no notice -/

/-- a step that gives no notice -/
def Silent (x : Rendering α) : Prop := Keeps notices x

namespace Rendering

theorem warn_notices {w : Warning} {r : Unit} (h : Runs (warn w) s r t) :
    notices t = notices s ++ [w].filter isNotice := by
  rw [← runs_modify.1 h, notices, List.filter_append, notices]

theorem warn_silent {w : Warning} (hw : isNotice w = false) : Silent (warn w) := by
  intro s r t hrun
  rw [warn_notices hrun]
  simp [hw]

theorem useFeature_silent (f : Feature) : Silent (useFeature f) := keeps_modify fun _ => rfl

theorem declare_silent (selector property value : String) : Silent (declare selector property value) :=
  keeps_modify fun _ => rfl

theorem classAttribute_silent (names : Css.ClassNames) : Silent (classAttribute names) := by
  refine keeps_bind keeps_get fun s => ?_
  split
  · exact keeps_pure _
  · exact keeps_throw _

theorem uniqueClass_silent (name : String) : Silent (uniqueClass name) :=
  keeps_bind keeps_get fun _ => keeps_bind (keeps_modify fun _ => rfl) fun _ => keeps_pure _

theorem create_silent (tag : String) (names : Option Css.ClassNames) (attributes : List (String × String)) :
    Silent (create tag names attributes) := create_keeps tag names attributes

theorem withMarkup_silent (e : Element) (markup : String) : Silent (withMarkup e markup) := keeps_liftM _

/-- a warning about a size holds the address, but does not begin with it -/
theorem dimensions_silent (c : Setting) (url : String) (kind : Media.Kind) : Silent (dimensions c url kind) := by
  refine keeps_bind (resolve_keeps (fun _ _ => rfl) c url kind) fun size => ?_
  split
  · refine keeps_bind (warn_silent (isNotice_other "Invalid dimensions " ?_ (by decide))) fun _ => keeps_pure _
    simp [Warning.about, toString]
  · exact keeps_pure _

theorem filter_silent (p : Extension.Point) (v : Extension.Value) (extras : List Extension.Extra) :
    Silent (filter p v extras) := by
  intro s w t hrun
  rw [← (filter_runs hrun).2.2]
  rfl

end Rendering

open Rendering

/-! ## Texts and captions -/

theorem textElement_silent (tag name text : String) : Silent (textElement tag name text) :=
  keeps_bind (create_silent _ _ _) fun _ => withMarkup_silent _ _

theorem pullquote_silent (text : String) (attribution : Option String) : Silent (pullquote text attribution) := by
  refine keeps_bind (textElement_silent _ _ _) fun e => ?_
  split
  · exact keeps_pure _
  · exact keeps_bind (create_silent _ _ _) fun _ => keeps_bind (withMarkup_silent _ _) fun _ => keeps_pure _

theorem listing_silent (ordered : Bool) (items : List String) : Silent (listing ordered items) := by
  refine keeps_bind (create_silent _ _ _) fun e => ?_
  refine keeps_bind (keeps_mapM (fun text => ?_) items) fun _ => keeps_pure _
  exact keeps_bind (create_silent _ _ _) fun _ => keeps_bind (withMarkup_silent _ _) fun _ => keeps_pure _

theorem figure_silent (e : Element) (caption : Option Caption) : Silent (figure e caption) :=
  figure_keeps (fun _ _ => rfl) e caption

/-! ## Media -/

theorem clippedImage_silent (url : String) (size : Media.Size) (style : ImageStyle) :
    Silent (clippedImage url size style) := by
  refine keeps_bind (uniqueClass_silent _) fun own => keeps_bind (create_silent _ _ _) fun holder => ?_
  refine keeps_bind (classAttribute_silent _) fun ownClass => keeps_bind (declare_silent _ _ _) fun _ => ?_
  refine keeps_bind (declare_silent _ _ _) fun _ => keeps_bind (declare_silent _ _ _) fun _ => ?_
  refine keeps_bind (keeps_liftM _) fun view => keeps_bind (declare_silent _ _ _) fun _ => ?_
  exact keeps_bind (create_silent _ _ _) fun _ => keeps_pure _

theorem plainImage_silent (url : String) (size : Media.Size) (style : ImageStyle) :
    Silent (plainImage url size style) := by
  unfold plainImage
  split
  · refine keeps_bind (keeps_liftM _) fun height => ?_
    exact keeps_bind (keeps_pure _) fun _ => create_silent _ _ _
  · exact keeps_bind (keeps_pure _) fun _ => create_silent _ _ _

theorem image_silent (c : Setting) (p : Picture) (style : ImageStyle) : Silent (image c p style) := by
  refine keeps_bind (dimensions_silent _ _ _) fun size => ?_
  split
  · exact keeps_bind (clippedImage_silent _ _ _) fun _ => figure_silent _ _
  · exact keeps_bind (plainImage_silent _ _ _) fun _ => figure_silent _ _

theorem animatedImage_silent (c : Setting) (p : Picture) : Silent (animatedImage c p) :=
  keeps_bind (dimensions_silent _ _ _) fun _ => keeps_bind (create_silent _ _ _) fun _ =>
    keeps_bind (useFeature_silent _) fun _ => figure_silent _ _

theorem slide_silent (c : Setting) (p : Picture) : Silent (slide c p) :=
  keeps_bind (dimensions_silent _ _ _) fun _ => keeps_bind (keeps_liftM _) fun _ =>
    keeps_bind (create_silent _ _ _) fun _ => keeps_pure _

theorem slideshow_silent (c : Setting) (s : Slideshow) (name : String) : Silent (slideshow c s name) := by
  unfold slideshow
  split
  · refine keeps_bind (warn_silent (isNotice_other "Slideshow without" (by simp) (by decide))) fun _ => ?_
    exact keeps_bind (create_silent _ _ _) fun _ => keeps_pure _
  · refine keeps_bind (create_silent _ _ _) fun carousel => keeps_bind (slide_silent c _) fun first => ?_
    refine keeps_bind (keeps_mapM (slide_silent c) _) fun slides => ?_
    exact keeps_bind (useFeature_silent _) fun _ => figure_silent _ _

/-- the notices of an address that something is embedded from, of a kind -/
def addressNotices : Option (String × String) → List Warning
  | some (kind, url) => if Url.isInsecure url then [notice kind url] else []
  | none => []

theorem securedAddress_notices {kind url secured : String} (hkind : kind ∈ addressKinds)
    (h : Runs (securedAddress url kind) s secured t) : notices t = notices s ++ addressNotices (some (kind, url)) := by
  unfold securedAddress at h
  simp only [ne_eq, Url.secure_ne_iff] at h
  split at h
  · rename_i hinsecure
    obtain ⟨_, hwarn, rfl⟩ := runs_map.1 h
    have hnotice : Runs (warn (notice kind url)) s () t := by
      simpa [warnText, notice, toString] using hwarn
    have hgiven : addressNotices (some (kind, url)) = [notice kind url] := if_pos hinsecure
    rw [warn_notices hnotice, hgiven, List.filter_cons_of_pos (isNotice_notice hkind url), List.filter_nil]
  · rename_i hsecure
    obtain ⟨rfl, rfl⟩ := runs_pure.1 h
    have hnone : addressNotices (some (kind, url)) = [] := if_neg hsecure
    rw [hnone, List.append_nil]

theorem video_notices {c : Setting} {p : Picture} {name : String} {b : Built} (h : Runs (video c p name) s b t) :
    notices t = notices s ++ addressNotices (some ("Video", p.url)) := by
  obtain ⟨size, u, hsize, hrest⟩ := runs_bind.1 h
  obtain ⟨url, v, hurl, hrest⟩ := runs_bind.1 hrest
  have hend : Silent (do
      let e ← create "amp-video" (some (.name name)) (mediaAttributes url size "responsive" ++ [("controls", "")])
      useFeature .video
      figure e p.caption) :=
    keeps_bind (create_silent _ _ _) fun _ => keeps_bind (useFeature_silent _) fun _ => figure_silent _ _
  rw [hend _ _ _ hrest, securedAddress_notices (by decide) hurl, dimensions_silent _ _ _ _ _ _ hsize]

/-! ## Embedded content -/

theorem frame_silent (name : String) (width height : Option Int) (content : FrameContent) :
    Silent (frame name width height content) :=
  keeps_bind (useFeature_silent _) fun _ => create_silent _ _ _

theorem imported_silent (name markup : String) : Silent (imported name markup) := by
  have hwrapped : Silent (do return Built.ofElement (← withMarkup (← createNamed "div" name) markup)) :=
    keeps_bind (create_silent _ _ _) fun _ => keeps_bind (withMarkup_silent _ _) fun _ => keeps_pure _
  refine keeps_bind (keeps_liftM _) fun nodes => ?_
  split
  · split
    · exact keeps_pure _
    · exact hwrapped
  · exact hwrapped

/-- the address of a source, when there is one -/
def sourceAddress? (kind : String) (source : Option String) : Option (String × String) :=
  (present? source).map fun url => (kind, url)

theorem embed_notices {i : Item} {content : Embed} {name label : String} {r : Option Built}
    (hlabel : label ∈ addressKinds) (h : Runs (embed i content name label) s r t) :
    notices t = notices s ++ addressNotices (sourceAddress? label content.source) := by
  unfold sourceAddress?
  unfold embed at h
  split at h
  · rename_i source _ hsource
    obtain ⟨url, u, hurl, hrest⟩ := runs_bind.1 h
    have hend : Silent (do
        return some (← figure (← frame name content.width content.height (.address url)) content.caption)) :=
      keeps_bind (frame_silent _ _ _ _) fun _ => keeps_bind (figure_silent _ _) fun _ => keeps_pure _
    rw [hsource, hend _ _ _ hrest, securedAddress_notices hlabel hurl]
    rfl
  · rename_i markup hsource _
    have hall : Silent (do return some (← imported name markup)) :=
      keeps_bind (imported_silent _ _) fun _ => keeps_pure _
    rw [hsource, hall _ _ _ h]
    exact (List.append_nil _).symm
  · rename_i hsource _
    have hapart : ∀ label ∈ addressKinds, ∀ kind ∈ addressKinds, Apart (kind ++ " URL ") (label ++ " without") := by
      decide
    have hall : Silent (do
        warnItem s!"{label} without source nor markup, skipping it." i none
        return (none : Option Built)) := by
      refine keeps_bind (warn_silent (isNotice_other (label ++ " without") ?_ (hapart label hlabel))) fun _ => ?_
      · simp [toString]
      · exact keeps_pure _
    rw [hsource, hall _ _ _ h]
    exact (List.append_nil _).symm

theorem advert_notices {ad : Advert} {r : Option Built} (h : Runs (advert ad) s r t) :
    notices t = notices s ++ addressNotices (sourceAddress? "Ad" ad.source) := by
  have hframe (content : FrameContent) :
      Silent (do return some (Built.ofElement (← frame "ad" ad.width ad.height content))) :=
    keeps_bind (frame_silent _ _ _ _) fun _ => keeps_pure _
  unfold sourceAddress?
  unfold advert at h
  split at h
  · rename_i source _ hsource
    obtain ⟨url, u, hurl, hrest⟩ := runs_bind.1 h
    rw [hsource, hframe _ _ _ _ hrest, securedAddress_notices (by decide) hurl]
    rfl
  · rename_i markup hsource _
    rw [hsource, hframe _ _ _ _ h]
    exact (List.append_nil _).symm
  · rename_i hsource _
    have hall : Silent (do
        warnItem "Ad without source nor markup, skipping it." (.ad ad) none
        return (none : Option Built)) :=
      keeps_bind (warn_silent (isNotice_other "Ad without" (by simp) (by decide))) fun _ => keeps_pure _
    rw [hsource, hall _ _ _ h]
    exact (List.append_nil _).symm

/-! ## Maps -/

theorem emptyMap_silent (pin : MapPin) {message : String} (start : String) (cause : Option Fault)
    (hstart : start.toList <+: message.toList) (hapart : ∀ kind ∈ addressKinds, Apart (kind ++ " URL ") start) :
    Silent (emptyMap pin message cause) :=
  keeps_bind (warn_silent (isNotice_other start hstart hapart)) fun _ =>
    keeps_bind (create_silent _ _ _) fun _ => keeps_pure _

theorem map_silent [Room] (c : Setting) (pin : MapPin) : Silent (map c pin) := by
  refine keeps_bind (keeps_bind (filter_silent _ _ _) fun v => ?_) fun key => ?_
  · split <;> exact keeps_pure _
  · split
    · exact emptyMap_silent _ "Google Maps" _ (by simp) (by decide)
    · split
      · exact emptyMap_silent _ "Map without" _ (by simp) (by decide)
      · split
        · exact emptyMap_silent _ "Map geotag" _ (by simp) (by decide)
        · exact keeps_bind (frame_silent _ _ _ _) fun _ => figure_silent _ _
        · split
          · exact emptyMap_silent _ "Invalid map" _ (by simp [toString]) (by decide)
          · exact keeps_throw _

/-! ## Items and covers -/

/-- the address that an item is embedded from, as it is configured, with its kind -/
def itemAddress? : Item → Option (String × String)
  | .video p => some ("Video", p.url)
  | .interactive content => sourceAddress? "Interactive" content.source
  | .socialEmbed content => sourceAddress? "Social embed" content.source
  | .ad advert => sourceAddress? "Ad" advert.source
  | _ => none

/-- **The builder of an item gives the notices of its address**, and no others. -/
theorem item_notices [Room] {c : Setting} {i : Item} {r : Option Built} (h : Runs (item c i) s r t) :
    notices t = notices s ++ addressNotices (itemAddress? i) := by
  have hsilent {x : Rendering (Option Built)} (hx : Silent x) (h : Runs x s r t) : notices t = notices s ++ [] :=
    (hx s r t h).trans (List.append_nil _).symm
  have helement {x : Rendering Element} (hx : Silent x) : Silent (do return some (Built.ofElement (← x))) :=
    keeps_bind hx fun _ => keeps_pure _
  have hpart {x : Rendering Built} (hx : Silent x) : Silent (do return some (← x)) :=
    keeps_bind hx fun _ => keeps_pure _
  cases i with
  | paragraph text => exact hsilent (helement (textElement_silent _ _ _)) h
  | heading1 text => exact hsilent (helement (textElement_silent _ _ _)) h
  | heading2 text => exact hsilent (helement (textElement_silent _ _ _)) h
  | list ordered items => exact hsilent (helement (listing_silent _ _)) h
  | blockquote text => exact hsilent (helement (textElement_silent _ _ _)) h
  | pullquote text attribution => exact hsilent (helement (pullquote_silent _ _)) h
  | image p => exact hsilent (hpart (image_silent _ _ _)) h
  | animatedImage p => exact hsilent (hpart (animatedImage_silent _ _)) h
  | video p =>
    obtain ⟨b, hvideo, rfl⟩ := runs_map.1 h
    exact video_notices hvideo
  | audio url title => exact hsilent (helement (create_silent _ _ _)) h
  | slideshow shown => exact hsilent (hpart (slideshow_silent _ _ _)) h
  | interactive content => exact embed_notices (by decide) h
  | socialEmbed content => exact embed_notices (by decide) h
  | map pin => exact hsilent (hpart (map_silent _ _)) h
  | relatedArticles title urls => exact hsilent (helement (create_silent _ _ _)) h
  | analytics source html =>
    refine hsilent (keeps_bind ?_ fun _ => keeps_pure _) h
    unfold tracking
    split
    · exact warn_silent (isNotice_other "Article has analytics" (by simp) (by decide))
    · exact keeps_pure _
  | ad advert => exact advert_notices h
  | other kind => exact hsilent (keeps_pure _) h

/-- the same of a cover -/
theorem cover_notices {c : Setting} {given : Cover} {b : Built} (h : Runs (cover c given) s b t) :
    notices t = notices s ++ addressNotices (itemAddress? given.toItem) := by
  cases given with
  | image p => exact (image_silent c p ImageStyle.cover s b t h).trans (List.append_nil _).symm
  | video p => exact video_notices h
  | slideshow shown => exact (slideshow_silent c shown _ s b t h).trans (List.append_nil _).symm

end AmpArticle.Page
