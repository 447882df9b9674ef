import AmpArticle.Proofs.Page.Builders
import AmpArticle.Proofs.Page.Notices

/-!
Sources of videos and frames. Videos, covers, interactive content, social embeds, advertisements and maps come from
addresses that an article is configured with, or from a fixed one. Whatever stands in these, no source is insecure, and
each address that was changed has one notice.

Results:
- `frames_attribute?`, `frames_sandboxed`: the attributes of a frame are those of its content;
- `makes_secured`, `makes_sandboxed`: the sources of what the builder of an item makes, and what its frames may do;
- `builds_secured`: the builders of items and covers, in any setting and any state.
-/

namespace AmpArticle.Page

open Markup (Element Node Start customsOf)
open Markup.Node (customsIn)

variable {c : Setting} {s t : State} {i : Item}

/-! ## Sources -/

/-- whether a start tag is that of a video or a frame -/
def isEmbedded (start : Start) : Bool := start.tag == "amp-video" || start.tag == "amp-iframe"

/-- the sources of the videos and frames among start tags -/
def embeddedSources (own : List Start) : List String := (own.filter isEmbedded).filterMap (·.attribute? "src")

/-- whether a start tag has an attribute -/
def bears (start : Start) (name : String) : Prop := name ∈ start.attributes.map Markup.Attribute.name

/-- a frame that comes either from an address or from a document of its own, and may act in the name of the address -/
structure Sandboxed (start : Start) : Prop where
  source : bears start "src" ↔ ¬ bears start "srcdoc"
  sandbox : ∃ words, start.attribute? "sandbox" = some words ∧
    ("allow-same-origin".toList ∈ Text.splitOnChar ' ' words.toList ↔ bears start "src")

/-- the sources of what is embedded for an item, and the notices that are given -/
inductive Secured (i : Item) : List String → List Warning → Prop where
  /-- an insecure address is changed at its start, with one notice -/
  | changed {kind url rest : String} : itemAddress? i = some (kind, url) → Url.Insecure url rest →
    Secured i ["https://" ++ rest] [notice kind url]
  /-- any other address is kept -/
  | kept {kind url : String} : itemAddress? i = some (kind, url) → (∀ rest, ¬ Url.Insecure url rest) →
    Secured i [url] []
  /-- a map comes from a fixed address -/
  | placed {pin : MapPin} {key : String} {p : Geo.Position} : i = .map pin → Secured i [mapAddress key p] []
  /-- there may be no source -/
  | none : itemAddress? i = none → Secured i [] []

/-- **No source is insecure.** -/
theorem Secured.not_insecure {sources : List String} {given : List Warning} (h : Secured i sources given) :
    ∀ src ∈ sources, ∀ rest, ¬ Url.Insecure src rest := by
  intro src hsrc rest
  cases h with
  | changed _ _ =>
    obtain rfl := List.mem_singleton.1 hsrc
    exact Url.not_insecure_https _ _
  | kept _ hkept =>
    obtain rfl := List.mem_singleton.1 hsrc
    exact hkept rest
  | placed _ =>
    obtain rfl := List.mem_singleton.1 hsrc
    have hstart : mapsAddress = "https://" ++ "www.google.com/maps/embed/v1/place" := by decide
    rw [mapAddress, hstart, String.append_assoc, String.append_assoc]
    exact Url.not_insecure_https _ _
  | none _ => cases hsrc

theorem secured_address {kind url : String} (h : itemAddress? i = some (kind, url)) :
    Secured i [Url.secure url] (addressNotices (itemAddress? i)) := by
  rw [h]
  by_cases hinsecure : Url.isInsecure url = true
  · obtain ⟨rest, hrest⟩ := Url.isInsecure_iff.1 hinsecure
    rw [Url.secure_insecure hrest, addressNotices, if_pos hinsecure]
    exact .changed h hrest
  · have hkept (rest : String) : ¬ Url.Insecure url rest := fun hrest => hinsecure (Url.isInsecure_iff.2 ⟨rest, hrest⟩)
    rw [Url.secure_kept hkept, addressNotices, if_neg hinsecure]
    exact .kept h hkept

/-! ## Frames -/

section Frames

variable {start : Start} {own : List Start} {content : FrameContent} {contents : List FrameContent}

theorem frames_attribute? {name : String} (h : Frames start content) (hname : name ∉ commonNames) :
    start.attribute? name = ((Markup.valued content.attributes).find? (·.name == name)).bind (·.value) := by
  obtain ⟨before, hattributes, hbefore⟩ := h.attributes
  have hnone : before.find? (·.name == name) = none := by
    rw [List.find?_eq_none]
    intro a ha heq
    exact hname (eq_of_beq heq ▸ hbefore a ha)
  rw [Start.attribute?, hattributes, List.find?_append, hnone, Option.none_or]

theorem frames_bears {name : String} (h : Frames start content) (hname : name ∉ commonNames) :
    bears start name ↔ name ∈ content.attributes.map Prod.fst := by
  obtain ⟨before, hattributes, hbefore⟩ := h.attributes
  have hvalued : (Markup.valued content.attributes).map Markup.Attribute.name = content.attributes.map Prod.fst := by
    rw [Markup.valued, List.map_map]
    rfl
  rw [bears, hattributes, List.map_append, List.mem_append, hvalued, or_iff_right]
  intro hmem
  obtain ⟨a, ha, rfl⟩ := List.mem_map.1 hmem
  exact hname (hbefore a ha)

/-- the address that a frame shows -/
def FrameContent.address? : FrameContent → Option String
  | .address url => some url
  | .document _ => none

theorem frames_source (h : Frames start content) : start.attribute? "src" = content.address? := by
  rw [frames_attribute? h (by decide)]
  cases content <;> rfl

/-- **A frame may act in the name of its address**, when it has one. -/
theorem frames_sandboxed (h : Frames start content) : Sandboxed start where
  source := by
    rw [frames_bears h (by decide), frames_bears h (by decide)]
    cases content <;> simp [FrameContent.attributes]
  sandbox := by
    rw [frames_attribute? h (by decide), frames_bears h (by decide)]
    cases content with
    | address url =>
      refine ⟨_, rfl, iff_of_true ?_ ?_⟩
      · decide
      · exact List.mem_cons_of_mem _ List.mem_cons_self
    | document markup =>
      refine ⟨_, rfl, iff_of_false ?_ ?_⟩
      · decide
      · exact show "src" ∉ ["sandbox", "srcdoc"] by decide

theorem frames_sources (h : List.Forall₂ Frames own contents) :
    embeddedSources own = contents.filterMap FrameContent.address? := by
  induction h with
  | nil => rfl
  | @cons start content own contents hframe _ ih =>
    have hembedded : isEmbedded start = true := by simp [isEmbedded, hframe.tag]
    rw [embeddedSources, List.filter_cons_of_pos hembedded, List.filterMap_cons, List.filterMap_cons,
      frames_source hframe]
    cases content.address? with
    | none => exact ih
    | some url => exact congrArg _ ih

theorem frames_mem (h : List.Forall₂ Frames own contents) (hstart : start ∈ own) : Sandboxed start := by
  induction h with
  | nil => cases hstart
  | cons hframe _ ih =>
    rcases List.mem_cons.1 hstart with rfl | hstart
    · exact frames_sandboxed hframe
    · exact ih hstart

end Frames

/-! ## What is made for an item -/

section Makes

variable {key : Option String} {own : List Start}

theorem embeddedSources_none (h : ∀ tag ∈ own.map Start.tag, tag ≠ "amp-video" ∧ tag ≠ "amp-iframe") :
    embeddedSources own = [] := by
  rw [embeddedSources, List.filter_eq_nil_iff.2, List.filterMap_nil]
  intro start hstart
  simpa [isEmbedded] using h start.tag (List.mem_map_of_mem hstart)

/-- slides and carousels are no frames -/
theorem isShow_plain {images : List Picture} (h : IsShow c images own) :
    ∀ tag ∈ own.map Start.tag, tag ≠ "amp-video" ∧ tag ≠ "amp-iframe" := by
  rw [isShow_tags h]
  split
  · intro tag htag
    cases htag
  · intro tag htag
    rcases List.mem_cons.1 htag with rfl | htag
    · decide
    · obtain ⟨_, -, rfl⟩ := List.mem_map.1 htag
      decide

/-- the only source of an embed -/
theorem sourceContents_secured {kind : String} {source : Option String}
    (h : itemAddress? i = sourceAddress? kind source) :
    Secured i ((sourceContents source).filterMap FrameContent.address?) (addressNotices (itemAddress? i)) := by
  unfold sourceContents
  unfold sourceAddress? at h
  cases hsource : present? source with
  | none =>
    rw [hsource] at h
    rw [show itemAddress? i = none from h]
    exact .none h
  | some url =>
    rw [hsource] at h
    exact secured_address h

/-- **The sources of what is made for an item**, with its notices. -/
theorem makes_secured [Room] (h : Makes c key i own) : Secured i (embeddedSources own) (addressNotices (itemAddress? i)) := by
  have hshown {start : Start} {tag url : String} {size : Media.Size} (hshows : Shows start tag url size)
      (htag : tag ≠ "amp-video" ∧ tag ≠ "amp-iframe") : embeddedSources [start] = [] :=
    embeddedSources_none (by simpa [hshows.tag] using htag)
  cases i with
  | image p =>
    obtain ⟨start, size, rfl, hshows⟩ := h
    rw [hshown hshows (by decide)]
    exact .none rfl
  | animatedImage p =>
    obtain ⟨start, size, rfl, hshows⟩ := h
    rw [hshown hshows (by decide)]
    exact .none rfl
  | video p =>
    obtain ⟨start, size, rfl, hshows⟩ := h
    have hsources : embeddedSources [start] = [Url.secure p.url] := by
      simp [embeddedSources, isEmbedded, hshows.tag, hshows.source]
    rw [hsources]
    exact secured_address rfl
  | slideshow shown =>
    rw [embeddedSources_none (isShow_plain h)]
    exact .none rfl
  | interactive content =>
    rw [frames_sources h]
    exact sourceContents_secured rfl
  | socialEmbed content =>
    rw [frames_sources h]
    exact sourceContents_secured rfl
  | map pin =>
    rw [frames_sources h]
    show Secured (.map pin) ((mapContents key pin).filterMap FrameContent.address?) []
    unfold mapContents
    split
    · exact .placed rfl
    · exact .none rfl
  | ad advert =>
    rw [frames_sources h, itemContents, advertContents]
    cases hsource : present? advert.source with
    | some url =>
      have haddress : itemAddress? (.ad advert) = some ("Ad", url) := by
        rw [itemAddress?, sourceAddress?, hsource, Option.map_some]
      exact secured_address haddress
    | none =>
      have hnone : itemAddress? (.ad advert) = none := by
        rw [itemAddress?, sourceAddress?, hsource, Option.map_none]
      rw [hnone]
      cases present? advert.html <;> exact .none hnone
  | _ =>
    rw [frames_sources h]
    exact .none rfl

theorem makes_sandboxed [Room] (h : Makes c key i own) : ∀ start ∈ own, start.tag = "amp-iframe" → Sandboxed start := by
  intro start hstart htag
  cases i with
  | image p =>
    obtain ⟨_, _, rfl, hshows⟩ := h
    rw [List.mem_singleton.1 hstart, hshows.tag] at htag
    exact absurd htag (by decide)
  | animatedImage p =>
    obtain ⟨_, _, rfl, hshows⟩ := h
    rw [List.mem_singleton.1 hstart, hshows.tag] at htag
    exact absurd htag (by decide)
  | video p =>
    obtain ⟨_, _, rfl, hshows⟩ := h
    rw [List.mem_singleton.1 hstart, hshows.tag] at htag
    exact absurd htag (by decide)
  | slideshow shown => exact absurd htag (isShow_plain h _ (List.mem_map_of_mem hstart)).2
  | _ => exact frames_mem h hstart

end Makes

/-! ## Builders -/

/-- an item is built, or a cover as one -/
inductive Builds [Room] (c : Setting) (s : State) : Item → Option Built → State → Prop where
  | item {i : Item} {r : Option Built} {t : State} : Runs (item c i) s r t → Builds c s i r t
  | cover {given : Cover} {b : Built} {t : State} : Runs (cover c given) s b t → Builds c s given.toItem (some b) t

theorem Builds.makes [Room] {r : Option Built} (h : Builds c s i r t) : ∃ key own, Makes c key i own ∧
    Weaves s (partNodes r) own (takenMarkups c (!own.isEmpty) i) t := by
  cases h with
  | item hitem =>
    obtain ⟨key, own, -, hmakes, hweaves⟩ := item_makes hitem
    exact ⟨key, own, hmakes, hweaves⟩
  | @cover given _ _ hcover =>
    obtain ⟨own, hmakes, hweaves⟩ := cover_makes hcover
    exact ⟨none, own, hmakes, by cases given <;> exact hweaves⟩

theorem Builds.warnings [Room] {r : Option Built} (h : Builds c s i r t) :
    ∃ new, t.warnings = s.warnings ++ new ∧ new.filter isNotice = addressNotices (itemAddress? i) := by
  obtain ⟨hkept, hnotices⟩ : s.warnings <+: t.warnings ∧
      notices t = notices s ++ addressNotices (itemAddress? i) := by
    cases h with
    | item hitem => exact ⟨(item_steady c i s r t hitem).1.warnings, item_notices hitem⟩
    | @cover given _ _ hcover => exact ⟨(cover_steady c given s _ t hcover).1.warnings, cover_notices hcover⟩
  obtain ⟨new, hnew⟩ := hkept
  have hall : notices t = notices s ++ new.filter isNotice := by
    rw [notices, notices, ← List.filter_append, hnew]
  exact ⟨new, hnew.symm, List.append_cancel_left (hall.symm.trans hnotices)⟩

/-- **Embedded sources are secured and sandboxed.** Whenever the builder of an item or a cover comes to a result, in any
setting and any state, the custom elements in it are its own and those that markup brings along. Of its own, no video
or frame has an insecure source, a frame comes from an address or from a document, but not from both, and may act in
the name of its origin just when it has an address. The source is the address that the item is configured with, changed
at its start when it is insecure, or that of maps; and one notice is given when it is changed, and none otherwise. -/
theorem builds_secured [Room] {r : Option Built} (h : Builds c s i r t) : ∃ own new,
    (customsIn (partNodes r)).Perm (own ++ (takenMarkups c (!own.isEmpty) i).flatMap customsOf) ∧
    (∀ src ∈ embeddedSources own, ∀ rest, ¬ Url.Insecure src rest) ∧
    (∀ start ∈ own, start.tag = "amp-iframe" → Sandboxed start) ∧
    t.warnings = s.warnings ++ new ∧ Secured i (embeddedSources own) (new.filter isNotice) := by
  obtain ⟨key, own, hmakes, hweaves⟩ := h.makes
  obtain ⟨new, hnew, hnotices⟩ := h.warnings
  have hsecured := makes_secured hmakes
  exact ⟨own, new, hweaves.customs, hsecured.not_insecure, makes_sandboxed hmakes, hnew, hnotices ▸ hsecured⟩

/-- interactive content at an insecure address, which holds another one -/
def insecureEmbed : Item := .interactive ⟨some "HTTP://a/b?c=http://d", none, none, none, none⟩

/-- whether something was built -/
def hasBuilt : Except Fault (Option Built) × State → Bool
  | (.ok (some _), _) => true
  | _ => false

section Sample

attribute [local instance] Room.usual

theorem builds_secured_interactive : ∃ b t own new, Builds default (.start "" .empty) insecureEmbed (some b) t ∧
    (customsIn b.nodes).Perm (own ++ (takenMarkups default (!own.isEmpty) insecureEmbed).flatMap customsOf) ∧
    (∀ start ∈ own, start.tag = "amp-iframe" → Sandboxed start) ∧ t.warnings = new ∧
    embeddedSources own = ["https://a/b?c=http://d"] ∧
    new.filter isNotice = [notice "Interactive" "HTTP://a/b?c=http://d"] := by
  have hends : hasBuilt ((item default insecureEmbed).run.run (.start "" .empty)) = true := by decide +kernel
  rcases hrun : (item default insecureEmbed).run.run (.start "" .empty) with ⟨_ | _ | b, t⟩ <;> rw [hrun] at hends
  · cases hends
  · cases hends
  · have hbuilds : Builds default (.start "" .empty) insecureEmbed (some b) t := .item hrun
    obtain ⟨own, new, hcustoms, -, hsandboxed, hnew, hsecured⟩ := builds_secured hbuilds
    refine ⟨b, t, own, new, hbuilds, hcustoms, hsandboxed, hnew, ?_⟩
    generalize embeddedSources own = sources at hsecured
    generalize new.filter isNotice = given at hsecured
    cases hsecured with
    | changed haddress hinsecure =>
      obtain ⟨rfl, rfl⟩ := Prod.mk.inj (Option.some.inj haddress)
      rw [← Url.secure_insecure hinsecure]
      exact ⟨by decide, rfl⟩
    | kept haddress hkept =>
      obtain ⟨rfl, rfl⟩ := Prod.mk.inj (Option.some.inj haddress)
      obtain ⟨rest, hrest⟩ := Url.isInsecure_iff.1 (by decide : Url.isInsecure "HTTP://a/b?c=http://d" = true)
      exact absurd hrest (hkept rest)
    | placed hmap => cases hmap
    | none hnone => cases hnone

end Sample

end AmpArticle.Page
