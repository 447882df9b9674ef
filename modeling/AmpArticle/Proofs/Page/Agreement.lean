import AmpArticle.Proofs.Entries
import AmpArticle.Proofs.Page.Anatomy

/-!
What a page says of its article to machines agrees with what it shows. The description is made before the page, from the
article alone: it takes the text of the title, looks for the first paragraph that is not blank and for the picture that
stands for the article. The page comes to the same texts, the same paragraph and the same picture on its own way.

Results:
- `descriptionEntries_lookup`: what a description says under the keys in question;
- `Anatomy.paragraphRow`, `Anatomy.imageRow`, `Anatomy.coverImage`: what a page shows of paragraphs and pictures;
- `convert_agrees`: both agree on every page that a conversion without filters comes to.
-/

namespace AmpArticle.Page

open Markup (Element Node Start customsOf)
open Markup.Node (customsIn)
open Extension (Observer)

variable {c : Setting} {s t : State}

/-! ## What a description says -/

theorem lookup?_entry (key other : String) (value : Option Json) :
    lookup? key (entry other value) = if other = key then value else none := by
  cases value with
  | none => split <;> rfl
  | some v => rfl

theorem descriptionEntries_lookup (c : Setting) (headline summary picture : Option Json) :
    lookup? "headline" (descriptionEntries c headline summary picture) = headline ∧
      lookup? "description" (descriptionEntries c headline summary picture) = summary ∧
      lookup? "image" (descriptionEntries c headline summary picture) = picture := by
  simp [descriptionEntries, momentEntry, lookup?_append, lookup?_entry, lookup?]

/-- the text that is said of markup: that of what the markup brings, when it is not empty -/
theorem textOfMarkup_eq {markup : Option String} {value : Option Json} (h : textOfMarkup markup = .ok value) :
    value = (markup.filter fun text => !text.isEmpty).map fun text => .text (Node.textContents (Markup.taken text)) := by
  unfold textOfMarkup at h
  split at h
  · rename_i hnone
    rw [hnone, ← Except.ok.inj h]
    rfl
  · rename_i text hsome
    cases hplain : Markup.plainText text with
    | error fault =>
      rw [hplain] at h
      cases h
    | ok plain =>
      rw [hplain] at h
      rw [hsome, ← Except.ok.inj h, Markup.plainText_eq hplain]
      rfl

/-- the text of a paragraph that is not blank -/
def shownText? (i : Item) : Option String :=
  match i with
  | .paragraph text => if i.isBlank then none else some text
  | _ => none

/-- the picture of an image -/
def imageOf? (i : Item) : Option Picture :=
  match i with
  | .image p => some p
  | _ => none

theorem shownText?_eq_some {i : Item} {text : String} (h : shownText? i = some text) :
    i = .paragraph text ∧ i.isBlank = false := by
  unfold shownText? at h
  split at h
  · split at h
    · cases h
    · rename_i hshown
      obtain rfl := Option.some.inj h
      exact ⟨rfl, by simpa using hshown⟩
  · cases h

theorem imageOf?_eq_some {i : Item} {p : Picture} (h : imageOf? i = some p) : i = .image p := by
  unfold imageOf? at h
  split at h
  · rw [Option.some.inj h]
  · cases h

/-- the text of an item that is not blank is not empty -/
theorem isEmpty_of_shown {i : Item} {text : String} (h : shownText? i = some text) : text.isEmpty = false := by
  obtain ⟨rfl, hshown⟩ := shownText?_eq_some h
  rw [Bool.eq_false_iff]
  intro hempty
  obtain rfl := String.isEmpty_iff.1 hempty
  exact absurd hshown (by decide)

/-! ## What a page shows -/

section Rows

variable {nodes : List Node} {row : Item × List Node} {body : Element}

/-- nodes with a picture: besides what the markup of its caption brings, the only custom element is an image from its
address -/
def HoldsPicture (p : Picture) (nodes : List Node) : Prop :=
  ∃ start : Start, start.tag = "amp-img" ∧ start.attribute? "src" = some p.url ∧
    (customsIn nodes).Perm (start :: (captionMarkups p.caption).flatMap customsOf)

/-- an image holds its picture, also when it is finished -/
theorem image_holds {p : Picture} {style : ImageStyle} {b : Built} {d : Node} {g : Node → Node} (hg : Finishing g)
    (hstyle : style.sizing ≠ .scaled) (hrun : Runs (image c p style) s b t) (hd : IsDivider d) :
    HoldsPicture p ((b.nodes ++ [d]).map g) := by
  obtain ⟨_, _, start, _, -, -, hshows, hweaves⟩ := image_weaves hstyle hrun
  have hsingle := (image_steady c p style _ _ _ hrun).2
  have hnodes : b.nodes.map g = b.nodes := by
    rw [Built.nodes, hsingle.alone, List.map_singleton, hg.unmarked _ hsingle.unmarked]
  refine ⟨start, hshows.tag, hshows.source, ?_⟩
  rw [List.map_append, hnodes, List.map_singleton, Markup.Node.customsIn_append, (hg.divider _ hd).customsIn,
    List.append_nil]
  exact hweaves.customs

/-- what a page shows of an image -/
theorem Anatomy.imageRow [Room] (a : Anatomy c body) {p : Picture} (hrow : row ∈ a.rows) (hitem : row.1 = .image p) :
    HoldsPicture p row.2 := by
  obtain ⟨u, nodes, v, hu, hrun, hnodes⟩ := a.row hrow
  rw [hitem] at hrun
  obtain ⟨r, w, hbuilt, hshown⟩ := contentPart_nodes hu rfl (fun _ h => by cases h) hrun
  obtain ⟨b, himage, rfl⟩ := runs_map.1 hbuilt
  obtain ⟨-, d, hd, rfl⟩ := hshown b rfl
  rw [hnodes]
  exact image_holds a.finishing (by decide) himage hd

/-- what a page shows of a cover that is an image -/
theorem Anatomy.coverImage [Room] (a : Anatomy c body) {p : Picture} (hcover : c.article.header.cover = some (.image p)) :
    HoldsPicture p a.cover := by
  obtain ⟨u, nodes, v, hu, hrun, hnodes⟩ := a.coverMade
  rw [hcover] at hrun
  obtain ⟨b, w, d, himage, hsingle, hd, rfl⟩ := coverPart_nodes hu hrun
  have hholds := image_holds a.finishing (by decide) (show Runs (image c p ImageStyle.cover) _ b w from himage) hd
  rw [Built.nodes, hsingle.alone] at hholds
  rw [hnodes]
  exact hholds

/-- what a page shows of a paragraph: itself, unless it is blank -/
theorem Anatomy.paragraphRow [Room] (a : Anatomy c body) {text : String} (hrow : row ∈ a.rows)
    (hitem : row.1 = .paragraph text) : IsLine "p" (shownText? row.1) row.2 := by
  obtain ⟨u, nodes, v, hu, hrun, hnodes⟩ := a.row hrow
  rw [hnodes]
  refine IsLine.map a.finishing ?_
  rw [hitem] at hrun ⊢
  cases hblank : (Item.paragraph text).isBlank with
  | true =>
    rw [shownText?, if_pos hblank]
    unfold contentPart at hrun
    rw [if_pos hblank] at hrun
    obtain ⟨_, _, -, hend⟩ := runs_bind.1 hrun
    rw [← (runs_pure.1 hend).1]
    exact .absent
  | false =>
    rw [shownText?, if_neg (Bool.eq_false_iff.1 hblank)]
    obtain ⟨r, w, hbuilt, hnodes⟩ := contentPart_nodes hu hblank (fun _ h => by cases h) hrun
    obtain ⟨e, htext, rfl⟩ := runs_map.1 hbuilt
    obtain ⟨e₀, _, hnew, hfull⟩ := runs_bind.1 htext
    obtain ⟨htag, hunmarked, hchildren⟩ := filled_runs hnew hfull
    obtain ⟨-, d, hd, rfl⟩ := hnodes _ rfl
    exact .present htag hunmarked hchildren hd

/-- whether a row is that of a paragraph that is shown -/
def IsParagraph (row : Item × List Node) : Prop := (∃ text, row.1 = .paragraph text) ∧ row.2 ≠ []

/-- **A paragraph is shown** just when it is not blank. -/
theorem Anatomy.isParagraph_iff [Room] (a : Anatomy c body) (hrow : row ∈ a.rows) :
    IsParagraph row ↔ ∃ text, shownText? row.1 = some text := by
  constructor
  · rintro ⟨⟨text, hitem⟩, hnodes⟩
    exact Option.ne_none_iff_exists'.1 fun hnone => hnodes ((a.paragraphRow hrow hitem).eq_nil_iff.2 hnone)
  · rintro ⟨text, hshown⟩
    have hitem := (shownText?_eq_some hshown).1
    refine ⟨⟨text, hitem⟩, fun hnodes => ?_⟩
    rw [(a.paragraphRow hrow hitem).eq_nil_iff, hshown] at hnodes
    cases hnodes

end Rows

/-! ## Agreement -/

section Agreement

variable {body : Element}

/-- the first entry of a list with a property -/
def IsFirst {α : Type} (p : α → Prop) (xs : List α) (x : α) : Prop :=
  ∃ before after, xs = before ++ x :: after ∧ p x ∧ ∀ y ∈ before, ¬ p y

section Search

variable {α β : Type} {f : α → Option β} {p : α → Prop} {xs : List α} {x : α} {b : β}

theorem IsFirst.mem (h : IsFirst p xs x) : x ∈ xs := by
  obtain ⟨before, after, rfl, -, -⟩ := h
  exact List.mem_append_right _ List.mem_cons_self

theorem IsFirst.holds (h : IsFirst p xs x) : p x := by
  obtain ⟨_, _, -, hx, -⟩ := h
  exact hx

/-- what is found in a list comes from the first entry that has something to offer -/
theorem IsFirst.findSome? (hp : ∀ y ∈ xs, p y ↔ ∃ b, f y = some b) (h : IsFirst p xs x) (hb : f x = some b) :
    xs.findSome? f = some b := by
  obtain ⟨before, after, rfl, -, hbefore⟩ := h
  refine List.findSome?_eq_some_iff.2 ⟨before, x, after, rfl, hb, fun y hy => ?_⟩
  rw [Option.eq_none_iff_forall_ne_some]
  exact fun b hb => hbefore y hy ((hp y (List.mem_append_left _ hy)).2 ⟨b, hb⟩)

/-- something is found just when an entry has something to offer -/
theorem exists_findSome?_iff : (∃ b, xs.findSome? f = some b) ↔ ∃ x ∈ xs, ∃ b, f x = some b := by
  simp only [← Option.isSome_iff_exists, List.findSome?_isSome_iff]

end Search

/-- an entry about a picture that nodes hold -/
def SaysPicture (entries : List (String × Json)) (p : Picture) (nodes : List Node) : Prop :=
  (∃ fields, lookup? "image" entries = some (.object fields) ∧ lookup? "url" fields = some (.text p.url)) ∧
    HoldsPicture p nodes

/-- a description agrees with the head and the body of a page -/
structure Agrees [Room] (entries : List (String × Json)) (head : Element) (a : Anatomy c body) : Prop where
  /-- the title of the page, the headline and the heading are one text -/
  title : ∃ text, (tagged "title" head.children).map Node.textContent = [text] ∧
    ∀ given, c.article.header.title = some given → given.isEmpty = false →
      lookup? "headline" entries = some (.text text) ∧ (tagged "h1" a.header.children).map Node.textContent = [text]
  /-- something is said when a paragraph is shown -/
  described_iff : (∃ v, lookup? "description" entries = some v) ↔ ∃ row ∈ a.rows, IsParagraph row
  /-- what is said is the text of the first paragraph that is shown -/
  described : ∀ row, IsFirst IsParagraph a.rows row → ∃ (e : Element) (d : Node), row.2 = [e.toNode, d] ∧
    e.tag = "p" ∧ IsDivider d ∧ lookup? "description" entries = some (.text e.toNode.textContent)
  /-- a picture is spoken of when the cover or an item is an image -/
  pictured_iff : (∃ v, lookup? "image" entries = some v) ↔
    (∃ p, c.article.header.cover = some (.image p)) ∨ ∃ p, .image p ∈ c.article.items
  /-- it is that of the cover -/
  coverPicture : ∀ p, c.article.header.cover = some (.image p) → SaysPicture entries p a.cover
  /-- or else that of the first image in the article -/
  firstPicture : (∀ p, c.article.header.cover ≠ some (.image p)) → ∀ row,
    IsFirst (fun row => ∃ p, row.1 = .image p) a.rows row → ∃ p, row.1 = .image p ∧ SaysPicture entries p row.2

theorem firstParagraph?_eq (items : List Item) : firstParagraph? items = items.findSome? shownText? := rfl

theorem leadPicture?_cover {a : Article} {p : Picture} (h : a.header.cover = some (.image p)) :
    leadPicture? a = some p := by
  rw [leadPicture?, h]

theorem leadPicture?_items {a : Article} (h : ∀ p, a.header.cover ≠ some (.image p)) :
    leadPicture? a = a.items.findSome? imageOf? := by
  unfold leadPicture?
  split
  · rename_i hcover
    exact absurd hcover (h _)
  · rfl

theorem leadPicture?_iff (a : Article) : (∃ p, leadPicture? a = some p) ↔
    (∃ p, a.header.cover = some (.image p)) ∨ ∃ p, .image p ∈ a.items := by
  by_cases hcover : ∃ p, a.header.cover = some (.image p)
  · obtain ⟨p, hp⟩ := hcover
    exact iff_of_true ⟨p, leadPicture?_cover hp⟩ (.inl ⟨p, hp⟩)
  · rw [leadPicture?_items fun p hp => hcover ⟨p, hp⟩, exists_findSome?_iff, or_iff_right hcover]
    constructor
    · rintro ⟨i, hi, p, hp⟩
      exact ⟨p, imageOf?_eq_some hp ▸ hi⟩
    · rintro ⟨p, hp⟩
      exact ⟨_, hp, p, rfl⟩

/-! ### The title -/

theorem sheetElement_tag (css : Option String) : (sheetElement css).tag = "style" := by
  unfold sheetElement
  cases css <;> exact plainElement_tag _ _

/-- nothing in front of the description is a title -/
theorem front_tag (v : Json) (title : String) (features : List Feature) (css : Option String) :
    ∀ n ∈ (headOf c v title).front features css, n.tag? ≠ some "title" := by
  intro n hn
  obtain ⟨e, he, rfl⟩ := List.mem_map.1 hn
  have htag : e.tag ∈ ["meta", "script", "style", "noscript", "link"] := by
    simp only [List.mem_append, List.mem_cons, List.not_mem_nil, or_false, List.mem_map] at he
    rcases he with ((rfl | rfl | rfl) | ⟨f, -, rfl⟩) | rfl | rfl | rfl | rfl
    all_goals simp [headOf, featureScript, holding, Element.append, Element.bare, plainElement_tag, sheetElement_tag]
  rintro h
  rw [Option.some.inj (h : some e.tag = some "title")] at htag
  exact absurd htag (by decide)

/-- a head has a single title -/
theorem tagged_title (v : Json) (title : String) (features : List Feature) (css : Option String) :
    (tagged "title" ((headOf c v title).front features css ++
      [(metadataElement v).toNode, (titleElement title).toNode])).map Node.textContent = [title] := by
  have hmetadata : (metadataElement v).toNode.tag? = some "script" := rfl
  have htitle : (titleElement title).toNode.tag? = some "title" := rfl
  have htext : (titleElement title).toNode.textContent = title := by
    simp only [titleElement, Element.toNode, Node.textContent]
    split
    · rename_i hempty
      rw [String.isEmpty_iff.1 hempty, Node.textContents]
    · simp [Node.textContents, Node.textContent]
  rw [tagged_append, tagged_eq_nil (front_tag v title features css), List.nil_append, tagged, List.filter_cons,
    List.filter_singleton, hmetadata, htitle]
  simp [htext]

/-! ### The summary and the picture -/

/-- **The summary** is the text of the first paragraph that is shown. -/
theorem Anatomy.summary [Room] (a : Anatomy c body) {summary : Option Json}
    (h : textOfMarkup (firstParagraph? c.article.items) = .ok summary) :
    ((∃ v, summary = some v) ↔ ∃ row ∈ a.rows, IsParagraph row) ∧
      ∀ row, IsFirst IsParagraph a.rows row → ∃ (e : Element) (d : Node), row.2 = [e.toNode, d] ∧ e.tag = "p" ∧
        IsDivider d ∧ summary = some (.text e.toNode.textContent) := by
  have hfirst : firstParagraph? c.article.items = a.rows.findSome? fun row => shownText? row.1 := by
    rw [firstParagraph?_eq, ← a.items, List.findSome?_map]
    rfl
  -- a text that is found is not empty
  have hkept : (firstParagraph? c.article.items).filter (fun text => !text.isEmpty) =
      firstParagraph? c.article.items := by
    cases hfound : firstParagraph? c.article.items with
    | none => rfl
    | some text =>
      obtain ⟨row, -, hshown⟩ := List.exists_of_findSome?_eq_some (hfirst ▸ hfound)
      rw [Option.filter_some, isEmpty_of_shown hshown]
      rfl
  have hsummary := textOfMarkup_eq h
  rw [hkept, hfirst] at hsummary
  have hrows (row) (hrow : row ∈ a.rows) := a.isParagraph_iff hrow
  constructor
  · calc (∃ v, summary = some v)
      _ ↔ ∃ text, (a.rows.findSome? fun row => shownText? row.1) = some text := by
        simp only [hsummary, ← Option.isSome_iff_exists, Option.isSome_map]
      _ ↔ ∃ row ∈ a.rows, ∃ text, shownText? row.1 = some text := exists_findSome?_iff
      _ ↔ ∃ row ∈ a.rows, IsParagraph row := exists_congr fun row => and_congr_right fun hrow => (hrows row hrow).symm
  · intro row hfirst
    obtain ⟨text, hshown⟩ := (hrows row hfirst.mem).1 hfirst.holds
    have hline := a.paragraphRow hfirst.mem (shownText?_eq_some hshown).1
    rw [hfirst.findSome? hrows hshown] at hsummary
    obtain ⟨i, nodes⟩ := row
    dsimp only at hshown hline
    rw [hshown] at hline
    cases hline with
    | present htag _ hchildren hd =>
      refine ⟨_, _, rfl, htag, hd, ?_⟩
      rw [hsummary, Element.toNode, Node.textContent, hchildren]
      rfl

/-- a description speaks of the picture that stands for the article -/
theorem Pictured.iff {picture : Option Json} (h : Pictured c picture) :
    ((∃ v, picture = some v) ↔ ∃ p, leadPicture? c.article = some p) ∧
      ∀ p, leadPicture? c.article = some p →
        ∃ fields, picture = some (.object fields) ∧ lookup? "url" fields = some (.text p.url) := by
  cases h with
  | absent hnone => simp [hnone]
  | present hsome _ =>
    rw [hsome]
    refine ⟨iff_of_true ⟨_, rfl⟩ ⟨_, rfl⟩, ?_⟩
    rintro p ⟨⟩
    exact ⟨_, rfl, rfl⟩

/-! ### Whole pages -/

theorem Stages.agrees [Room] {f : Folders} (d : Stages c f s) : ∃ entries, ∃ a : Anatomy c d.finishedBody,
    Always (description c) (.object entries) ∧ (metadataElement (.object entries)).toNode ∈ d.top.children ∧
      Agrees entries d.top a := by
  obtain ⟨v, _, _, title, hdescription, htitle, hhead, -, htop⟩ := d.top_front
  obtain ⟨a, line, hline, hheading⟩ := d.anatomy
  have halways := description_uniform c _ _ _ hdescription
  obtain ⟨headline, summary, picture, hheadline, hsummary, hpicture, rfl⟩ := description_runs hdescription
  obtain ⟨hkeyHeadline, hkeySummary, hkeyPicture⟩ := descriptionEntries_lookup c headline summary picture
  have hchildren : d.top.children =
      d.head.front d.tracked.features d.css ++ [d.head.metadata.toNode, d.head.title.toNode] := by
    rw [htop]
    rfl
  rw [hhead] at hchildren
  obtain ⟨hdescribedIff, hdescribed⟩ := a.summary hsummary
  obtain ⟨hpicturedIff, hpictured⟩ := hpicture.iff
  refine ⟨_, a, halways, ?_, {
    title := ⟨title, ?_, fun given hgiven hempty => ?_⟩
    described_iff := by rwa [hkeySummary]
    described := by rwa [hkeySummary]
    pictured_iff := ?_
    coverPicture := fun p hcover => ⟨?_, a.coverImage hcover⟩
    firstPicture := fun hcover row hrow => ?_ }⟩
  · rw [hchildren]
    exact List.mem_append_right _ List.mem_cons_self
  · rw [hchildren]
    exact tagged_title _ _ _ _
  · have hfilter : (some given).filter (fun text => !text.isEmpty) = some given := by simp [Option.filter, hempty]
    rw [hgiven] at htitle hheadline hline
    rw [hfilter] at hline
    rw [hkeyHeadline, textOfMarkup_eq hheadline, hfilter, hheading, hline.text (by decide), Markup.plainText_eq htitle]
    exact ⟨rfl, rfl⟩
  · rw [hkeyPicture, hpicturedIff, leadPicture?_iff]
  · rw [hkeyPicture]
    exact hpictured p (leadPicture?_cover hcover)
  · obtain ⟨p, hp⟩ := hrow.holds
    refine ⟨p, hp, ?_, a.imageRow hrow.mem hp⟩
    rw [hkeyPicture]
    refine hpictured p ?_
    rw [leadPicture?_items hcover, ← a.items, List.findSome?_map]
    refine hrow.findSome? (fun row _ => ?_) (by rw [Function.comp_apply, hp, imageOf?])
    exact ⟨fun ⟨p, hp⟩ => ⟨p, by rw [Function.comp_apply, hp, imageOf?]⟩, fun ⟨p, hp⟩ => ⟨p, imageOf?_eq_some hp⟩⟩

/-- **A page agrees with its description.** The title of the page, the headline and the heading of a page without
filters are one text; its summary is the text of the first paragraph that is shown, if there is one; and its picture is
that of the cover, or else that of the first image, if there is one. -/
theorem convert_agrees [Room] (c : Setting) (f : Folders) {o : Observer} (ho : Unfiltered o) {r : Result} {s : State}
    (h : convert c f o = (.ok r, s)) :
    ∃ (root head body : Element) (entries : List (String × Json)) (a : Anatomy c body),
      r.html = serialize root ∧ root.children = [head.toNode, body.toNode] ∧ Always (description c) (.object entries) ∧
      (metadataElement (.object entries)).toNode ∈ head.children ∧ Agrees entries head a := by
  obtain ⟨d, hhtml, -, -⟩ := convert_stages ho h
  obtain ⟨entries, a, halways, hmetadata, hagrees⟩ := d.agrees
  exact ⟨d.finished, d.top, d.finishedBody, entries, a, hhtml, d.finished_children, halways, hmetadata, hagrees⟩

/-- an article with a title, a paragraph behind a blank one, and an image -/
def illustratedArticle : Article :=
  { titledArticle with items := [.paragraph " ", .paragraph "<b>x</b>y", .image ⟨"a", none⟩] }

section Sample

attribute [local instance] Room.usual

set_option maxRecDepth 100000 in
theorem convert_agrees_sample : Unfiltered Observer.empty ∧
    ∃ r s, convert (trackedBy illustratedArticle []) noFolders .empty = (.ok r, s) ∧
      ∃ (root head body : Element) (entries : List (String × Json)) (text : String),
        r.html = serialize root ∧ root.children = [head.toNode, body.toNode] ∧
        (metadataElement (.object entries)).toNode ∈ head.children ∧
        (tagged "title" head.children).map Node.textContent = [text] ∧
        lookup? "headline" entries = some (.text text) ∧ (∃ v, lookup? "description" entries = some v) ∧
        ∃ v, lookup? "image" entries = some v := by
  have hconverted : isConverted (convert (trackedBy illustratedArticle []) noFolders .empty) = true := by decide +kernel
  obtain ⟨r, s, hrun⟩ := exists_of_isConverted hconverted
  obtain ⟨root, head, body, entries, a, hhtml, hchildren, -, hmetadata, hagrees⟩ :=
    convert_agrees _ noFolders (fun _ => rfl) hrun
  obtain ⟨text, htitle, hheadline⟩ := hagrees.title
  refine ⟨fun _ => rfl, r, s, hrun, root, head, body, entries, text, hhtml, hchildren, hmetadata, htitle,
    (hheadline "T" rfl (by decide)).1, hagrees.described_iff.2 ?_, hagrees.pictured_iff.2 (.inr ⟨⟨"a", none⟩, ?_⟩)⟩
  · have hitem : .paragraph "<b>x</b>y" ∈ a.rows.map Prod.fst := by
      rw [a.items]
      exact List.mem_cons_of_mem _ List.mem_cons_self
    obtain ⟨row, hrow, hparagraph⟩ := List.mem_map.1 hitem
    exact ⟨row, hrow, (a.isParagraph_iff hrow).2 ⟨"<b>x</b>y", by rw [hparagraph]; decide⟩⟩
  · exact List.mem_cons_of_mem _ (List.mem_cons_of_mem _ List.mem_cons_self)

end Sample

end Agreement

end AmpArticle.Page
