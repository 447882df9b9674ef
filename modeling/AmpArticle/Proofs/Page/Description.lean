import AmpArticle.Page.Metadata
import AmpArticle.Proofs.Json.RoundTrip
import AmpArticle.Proofs.Page.Steps

/-!
The description of an article. It is a proper value with one entry per key, and it says the same of an article whatever
a conversion has gathered before.

Results:
- `description_runs`: what it says, entry by entry;
- `description_wellFormed`: the description is a proper value;
- `description_uniform`: it does not depend on the state it is made in.
-/

namespace AmpArticle.Page

open Json (WellFormed EntriesWellFormed)

variable {c : Setting} {s t : State}

/-! ## A proper value -/

section Entries

variable {key : String} {value : Option Json}

theorem entry_keys (key : String) (value : Option Json) : ((entry key value).map Prod.fst).Sublist [key] := by
  cases value with
  | none => exact List.nil_sublist _
  | some v => exact List.Sublist.refl _

theorem entry_wellFormed (h : ∀ v, value = some v → v.WellFormed) : EntriesWellFormed (entry key value) := by
  cases value with
  | none => trivial
  | some v => exact ⟨h v rfl, trivial⟩

theorem entriesWellFormed_append {xs ys : List (String × Json)} (hxs : EntriesWellFormed xs) (hys : EntriesWellFormed ys) :
    EntriesWellFormed (xs ++ ys) := by
  induction xs with
  | nil => exact hys
  | cons x xs ih => exact ⟨hxs.1, ih hxs.2⟩

end Entries

theorem textOfMarkup_wellFormed {markup : Option String} {value : Option Json} (h : textOfMarkup markup = .ok value) :
    ∀ v, value = some v → v.WellFormed := by
  unfold textOfMarkup at h
  split at h
  · cases h
    rintro v ⟨⟩
  · rename_i markup _
    cases hplain : Markup.plainText markup with
    | error fault =>
      rw [hplain] at h
      cases h
    | ok text =>
      rw [hplain] at h
      cases h
      rintro v ⟨⟩
      trivial

theorem publisherObject?_wellFormed {publisher : Option Json} (h : ∀ v, publisher = some v → v.WellFormed) :
    ∀ v, publisherObject? publisher = some v → v.WellFormed := by
  unfold publisherObject?
  split
  · split_ifs
    · rintro v ⟨⟩
    · rintro v ⟨⟩
      exact ⟨(by decide : ["@type", "name"].Nodup), trivial, trivial, trivial⟩
  · split_ifs
    · rintro v ⟨⟩
      exact h _ rfl
    · rintro v ⟨⟩
  · rintro v ⟨⟩

theorem pictureObject_wellFormed (p : Picture) (size : Media.Size) : (pictureObject p size).WellFormed :=
  ⟨(by decide : ["@type", "url", "width", "height"].Nodup), trivial, trivial, trivial, trivial, trivial⟩

/-- the keys of a description in their order -/
def descriptionKeys : List String :=
  ["@context", "@type", "mainEntityOfPage", "headline", "datePublished", "description", "dateModified", "author",
    "image", "publisher"]

/-- the entries of a description, from what the article says of itself and what was found out -/
def descriptionEntries (c : Setting) (headline summary picture : Option Json) : List (String × Json) :=
  [("@context", .text "http://schema.org"), ("@type", .text "NewsArticle"),
    ("mainEntityOfPage", .text c.article.canonicalUrl)]
    ++ entry "headline" headline
    ++ momentEntry "datePublished" c.article.header.published
    ++ entry "description" summary
    ++ momentEntry "dateModified" c.article.header.modified
    ++ entry "author" (c.article.header.authors.head?.map fun author =>
      Json.object [("@type", .text "Person"), ("name", .text author.name)])
    ++ entry "image" picture
    ++ entry "publisher" (publisherObject? c.properties.publisher)

theorem descriptionEntries_keys (c : Setting) (headline summary picture : Option Json) :
    ((descriptionEntries c headline summary picture).map Prod.fst).Nodup := by
  have hall : descriptionKeys.Nodup := by decide
  refine List.Sublist.nodup ?_ hall
  have hmoment (key : String) (moment : Option Moment) : ((momentEntry key moment).map Prod.fst).Sublist [key] :=
    entry_keys key _
  simp only [descriptionEntries, List.map_append]
  exact (((((((List.Sublist.refl _).append (entry_keys _ _)).append (hmoment _ _)).append (entry_keys _ _)).append
    (hmoment _ _)).append (entry_keys _ _)).append (entry_keys _ _)).append (entry_keys _ _)

theorem descriptionEntries_wellFormed {headline summary picture : Option Json}
    (hheadline : ∀ v, headline = some v → v.WellFormed) (hsummary : ∀ v, summary = some v → v.WellFormed)
    (hpicture : ∀ v, picture = some v → v.WellFormed) (hpublisher : ∀ v, c.properties.publisher = some v → v.WellFormed) :
    EntriesWellFormed (descriptionEntries c headline summary picture) := by
  have hmoment (key : String) (moment : Option Moment) : EntriesWellFormed (momentEntry key moment) := by
    refine entry_wellFormed fun v hv => ?_
    obtain ⟨m, -, rfl⟩ := Option.map_eq_some_iff.1 hv
    trivial
  have hauthor : EntriesWellFormed (entry "author" (c.article.header.authors.head?.map fun author =>
      Json.object [("@type", .text "Person"), ("name", .text author.name)])) := by
    refine entry_wellFormed fun v hv => ?_
    obtain ⟨author, -, rfl⟩ := Option.map_eq_some_iff.1 hv
    exact ⟨(by decide : ["@type", "name"].Nodup), trivial, trivial, trivial⟩
  unfold descriptionEntries
  refine entriesWellFormed_append ?_ (entry_wellFormed (publisherObject?_wellFormed hpublisher))
  refine entriesWellFormed_append ?_ (entry_wellFormed hpicture)
  refine entriesWellFormed_append ?_ hauthor
  refine entriesWellFormed_append ?_ (hmoment _ _)
  refine entriesWellFormed_append ?_ (entry_wellFormed hsummary)
  refine entriesWellFormed_append ?_ (hmoment _ _)
  refine entriesWellFormed_append ?_ (entry_wellFormed hheadline)
  exact ⟨trivial, trivial, trivial, trivial⟩

/-- what a description says about pictures: the one that stands for the article, with the size that it is found to
have -/
inductive Pictured (c : Setting) : Option Json → Prop where
  | absent : leadPicture? c.article = none → Pictured c none
  | present {p : Picture} {found : Media.Lookup} : leadPicture? c.article = some p →
      c.resolver.resolve p.url .image = .ok found → Pictured c (some (pictureObject p found.size))

/-- **What a description says**: the texts of the title and of the first paragraph, and the picture of the article. -/
theorem description_runs {v : Json} (h : Runs (description c) s v t) :
    ∃ headline summary picture, textOfMarkup c.article.header.title = .ok headline ∧
      textOfMarkup (firstParagraph? c.article.items) = .ok summary ∧ Pictured c picture ∧
      v = .object (descriptionEntries c headline summary picture) := by
  obtain ⟨headline, hheadline, hrest⟩ := runs_liftM_bind.1 h
  obtain ⟨summary, hsummary, hrest⟩ := runs_liftM_bind.1 hrest
  dsimp only at hrest
  split at hrest
  · rename_i hnone
    obtain ⟨picture, _, hpicture, hend⟩ := runs_bind.1 hrest
    obtain ⟨rfl, -⟩ := runs_pure.1 hpicture
    obtain ⟨rfl, -⟩ := runs_pure.1 hend
    exact ⟨headline, summary, none, hheadline, hsummary, .absent hnone, rfl⟩
  · rename_i p hp
    obtain ⟨size, _, hresolve, hrest⟩ := runs_bind.1 hrest
    obtain ⟨found, hfound, hnote⟩ := runs_liftM_bind.1 hresolve
    obtain ⟨_, -, rfl⟩ := runs_map.1 hnote
    obtain ⟨picture, _, hpicture, hend⟩ := runs_bind.1 hrest
    obtain ⟨rfl, -⟩ := runs_pure.1 hpicture
    obtain ⟨rfl, -⟩ := runs_pure.1 hend
    exact ⟨headline, summary, some _, hheadline, hsummary, .present hp hfound, rfl⟩

theorem description_wellFormed {v : Json} (hpublisher : ∀ v, c.properties.publisher = some v → v.WellFormed)
    (h : Runs (description c) s v t) : v.WellFormed := by
  obtain ⟨headline, summary, picture, hheadline, hsummary, hpicture, rfl⟩ := description_runs h
  refine ⟨descriptionEntries_keys c headline summary picture,
    descriptionEntries_wellFormed (textOfMarkup_wellFormed hheadline) (textOfMarkup_wellFormed hsummary) ?_ hpublisher⟩
  rintro v rfl
  cases hpicture with
  | present => exact pictureObject_wellFormed _ _

theorem description_write {v : Json} (h : Runs (description c) s v t) : v.write.isEmpty = false := by
  obtain ⟨headline, summary, picture, -, -, -, rfl⟩ := description_runs h
  rw [Json.write, Bool.eq_false_iff]
  intro hempty
  have hlength := congrArg (·.toList.length) (String.isEmpty_iff.1 hempty)
  simp [String.toList_append] at hlength

/-! ## The same from any state -/

section Uniform

variable {α β : Type}

/-- a step comes to a result from any state -/
def Always (x : Rendering α) (a : α) : Prop := ∀ s, ∃ t, Runs x s a t

/-- a step whose result does not depend on the state -/
def Uniform (x : Rendering α) : Prop := ∀ s a t, Runs x s a t → Always x a

theorem always_unique {x : Rendering α} {a b : α} (ha : Always x a) (hb : Always x b) : a = b := by
  obtain ⟨t, ha⟩ := ha default
  obtain ⟨u, hb⟩ := hb default
  exact Except.ok.inj (Prod.mk.inj (ha.symm.trans hb)).1

theorem uniform_pure (a : α) : Uniform (pure a) := by
  intro s a' t hrun u
  obtain ⟨rfl, -⟩ := runs_pure.1 hrun
  exact ⟨u, runs_pure.2 ⟨rfl, rfl⟩⟩

theorem uniform_liftM (x : Except Fault α) : Uniform (liftM x) := by
  intro s a t hrun u
  exact ⟨u, runs_liftM.2 ⟨(runs_liftM.1 hrun).1, rfl⟩⟩

theorem uniform_note (lines : List Media.LogLine) : Uniform (Rendering.note lines) :=
  fun _ _ _ _ _ => ⟨_, runs_modify.2 rfl⟩

theorem uniform_bind {x : Rendering α} {f : α → Rendering β} (hx : Uniform x) (hf : ∀ a, Uniform (f a)) :
    Uniform (x >>= f) := by
  intro s b u hrun s'
  obtain ⟨a, t, hxa, hfa⟩ := runs_bind.1 hrun
  obtain ⟨t', hxa'⟩ := hx s a t hxa s'
  obtain ⟨u', hfa'⟩ := hf a t b u hfa t'
  exact ⟨u', runs_bind.2 ⟨a, t', hxa', hfa'⟩⟩

theorem uniform_resolve (c : Setting) (url : String) (kind : Media.Kind) : Uniform (Rendering.resolve c url kind) :=
  uniform_bind (uniform_liftM _) fun _ => uniform_bind (uniform_note _) fun _ => uniform_pure _

end Uniform

/-- **The description of an article** does not depend on what a conversion has gathered. -/
theorem description_uniform (c : Setting) : Uniform (description c) := by
  refine uniform_bind (uniform_liftM _) fun headline => uniform_bind (uniform_liftM _) fun summary => ?_
  dsimp only
  split
  · exact uniform_bind (uniform_pure _) fun picture => uniform_pure _
  · exact uniform_bind (uniform_resolve _ _ _) fun size => uniform_bind (uniform_pure _) fun picture => uniform_pure _

/-- the description of an article without pictures -/
theorem description_always {headline summary : Option Json} (hheadline : textOfMarkup c.article.header.title = .ok headline)
    (hsummary : textOfMarkup (firstParagraph? c.article.items) = .ok summary) (hpicture : leadPicture? c.article = none) :
    Always (description c) (.object (descriptionEntries c headline summary none)) := by
  intro s
  refine ⟨s, runs_bind.2 ⟨headline, s, runs_liftM.2 ⟨hheadline, rfl⟩, ?_⟩⟩
  refine runs_bind.2 ⟨summary, s, runs_liftM.2 ⟨hsummary, rfl⟩, ?_⟩
  dsimp only
  rw [hpicture]
  exact runs_bind.2 ⟨none, s, runs_pure.2 ⟨rfl, rfl⟩, runs_pure.2 ⟨rfl, rfl⟩⟩

end AmpArticle.Page
