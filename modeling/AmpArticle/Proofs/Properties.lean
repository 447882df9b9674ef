import AmpArticle.Proofs.Json.Reading
import AmpArticle.Proofs.Media.Paths
import AmpArticle.Properties
import AmpArticle.Room

/-!
Options as they are read. What a decoder takes as it is keeps the form it has been read in, so that options that are
written out are read as what they are.

Results:
- `Properties.publisher_wellFormed`, `Properties.publisher_of_load`: the publisher of options that are read from a
  proper value, or from a text, is a proper value;
- `Properties.settled_decoder`: options that are read have the form in which they are written;
- `Properties.ofEntries_styled`: options that are written out, with a style put over theirs, are read again as they were
  but for the style.
-/

namespace AmpArticle

/-! ## Checked parts -/

namespace Checked

variable {α β : Type}

/-- what is good has a property -/
def Holds (p : α → Prop) (x : Checked α) : Prop := ∀ a, x = good a → p a

theorem holds_map {p : β → Prop} {f : α → β} {x : Checked α} (h : Holds (fun a => p (f a)) x) : Holds p (f <$> x) := by
  intro b hb
  cases x with
  | good a => exact good.inj hb ▸ h a rfl
  | bad issues => cases hb

theorem holds_seq {p : β → Prop} {f : Checked (α → β)} {x : Checked α}
    (h : Holds (fun g => Holds (fun a => p (g a)) x) f) : Holds p (f <*> x) := by
  intro b hb
  cases f with
  | good g =>
    cases x with
    | good a => exact good.inj hb ▸ h g rfl a rfl
    | bad issues => cases hb
  | bad issues => cases x <;> cases hb

theorem holds_under {p : α → Prop} {x : Checked α} (step : String) (h : Holds p x) : Holds p (under step x) := by
  intro a ha
  cases x with
  | good b => exact h a ha
  | bad issues => cases ha

theorem holds_good {p : α → Prop} {a : α} (h : p a) : Holds p (good a) := fun _ hb => good.inj hb ▸ h

theorem holds_bad (p : α → Prop) (issues : List Issue) : Holds p (bad issues) := fun _ hb => by cases hb

end Checked

open Checked (Holds)

/-! ## Fields -/

/-- an optional field has a property that its default has and that its decoder gives to what is there -/
theorem Entries.holds_optional {α : Type} {p : α → Prop} {e : Entries} (o : Origin) {name : String}
    {decode : Decoder α} {default : α} (hdefault : p default)
    (hgiven : ∀ v, lookup? name e = some v → Holds p (decode o v)) : Holds p (e.optional o name decode default) := by
  unfold Entries.optional
  split
  · rename_i v hv
    exact Checked.holds_under name (hgiven v hv)
  · exact Checked.holds_good hdefault

/-- a name or an object is taken as it is -/
theorem Decoder.holds_textOrObject (o : Origin) (v : Json) :
    Holds (fun u => ∀ w, u = some w → w = v) (nullable textOrObject o v) := by
  unfold nullable
  split
  · exact Checked.holds_good (by rintro w ⟨⟩)
  · refine Checked.holds_map ?_
    unfold textOrObject
    split
    · exact Checked.holds_good (by rintro w ⟨⟩; rfl)
    · exact Checked.holds_good (by rintro w ⟨⟩; rfl)
    · exact Checked.holds_bad _ _

/-- **The publisher that is read** is a proper value when the options are read from one. -/
theorem Properties.publisher_wellFormed {v : Json} (hv : v.WellFormed) (o : Origin) :
    Holds (fun p => ∀ u, p.publisher = some u → u.WellFormed) (Properties.decoder o v) := by
  cases v with
  | object entries =>
    have hpublisher : Holds (fun publisher : Option Json => ∀ u, publisher = some u → u.WellFormed)
        (Entries.optional entries o "publisher" (.nullable .textOrObject) none) := by
      refine Entries.holds_optional o (by rintro u ⟨⟩) fun w hw a ha u hu => ?_
      rw [Decoder.holds_textOrObject o w a ha u hu]
      exact hv.2.of_mem (mem_of_lookup? hw)
    show Holds _ (Properties.ofEntries entries o)
    unfold Properties.ofEntries
    iterate 12 refine Checked.holds_seq ?_
    refine Checked.holds_map ?_
    intro _ _ _ _ _ _ _ _ _ _ _ _ _ _ _ _ _ _ publisher hread _ _ _ _ _ _
    exact hpublisher publisher hread
  | _ => exact Checked.holds_bad _ _

/-- the publisher of options that are read from a text is a proper value, whatever the text is -/
theorem Properties.publisher_of_load [Room] {place : Place} {s : String} {v : Json} {o : Origin} {p : Properties}
    (hv : Json.load place s = .ok v) (hp : Properties.decoder o v = .good p) :
    ∀ u, p.publisher = some u → u.WellFormed :=
  Properties.publisher_wellFormed (Json.readWithin_wellFormed hv) o p hp

/-! ## Options written out -/

/-- a value is read as `a`, wherever it comes from -/
def Decoder.Reads {α : Type} (decode : Decoder α) (v : Json) (a : α) : Prop := ∀ o, decode o v = .good a

namespace Decoder

theorem reads_optionalText (s : Option String) : Reads (nullable text) (Datum.optionalText s).toJson s := by
  cases s <;> exact fun _ => rfl

theorem reads_path (path : String) :
    Reads (nullable Decoder.path) (Datum.optional .path (some (Disk.normalize path))).toJson
      (some (Disk.normalize path)) := by
  intro o
  show Checked.good (some (Disk.normalize (Disk.normalize path))) = _
  rw [Disk.normalize_normalize]

theorem reads_object (style : Option (List (String × Json))) :
    Reads (nullable object) ((style.map Json.object).getD .null) style := by
  cases style <;> exact fun _ => rfl

theorem reads_texts (texts : List String) : Reads (list text) (Datum.list (texts.map .text)).toJson texts := by
  intro o
  show Checked.each (text o) 0 (Datum.toJsons (texts.map .text)) = _
  generalize 0 = i
  induction texts generalizing i with
  | nil => rfl
  | cons s texts ih =>
    rw [List.map_cons, Datum.toJsons, Checked.each, ih]
    rfl

theorem reads_sizes (sizes : List (String × Media.Size)) :
    Reads (table (pair int)) (Media.SizeConfig.sizesDatum sizes).toJson
      (sizes.map fun s => (s.1, (s.2.width, s.2.height))) := by
  intro o
  show Checked.eachEntry (pair int o) (Datum.entriesToJson (sizes.map fun s => (s.1, .pair s.2.width s.2.height))) = _
  induction sizes with
  | nil => rfl
  | cons s sizes ih =>
    rw [List.map_cons, Datum.entriesToJson, Checked.eachEntry, ih]
    rfl

end Decoder

open Decoder (Reads)

namespace Entries

variable {α : Type} {e : Entries} {name other : String} {decode : Decoder α} {v : Json} {a : α}

theorem optional_reads (o : Origin) (default : α) (hv : lookup? name e = some v) (h : Reads decode v a) :
    e.optional o name decode default = .good a := by
  rw [optional, hv]
  show Checked.under name (decode o v) = _
  rw [h o]
  rfl

theorem either_reads (o : Origin) (default : α) (hname : lookup? name e = none) (hv : lookup? other e = some v)
    (h : Reads decode v a) : e.either o name other decode default = .good a := by
  rw [either, hname, if_neg (by simp), optional_reads o default hv h]

end Entries

namespace Properties

variable {p : Properties}

/-- options in the form in which they are written: what is not written as it is at all events is read as it is -/
structure Settled (p : Properties) : Prop where
  stylesFolder : Reads (.nullable .path) (Datum.optional .path p.stylesFolder).toJson p.stylesFolder
  mediaCacheFolder : Reads (.nullable .path) (Datum.optional .path p.mediaCacheFolder).toJson p.mediaCacheFolder
  publisher : Reads (.nullable .textOrObject) (p.publisher.getD .null) p.publisher

theorem holds_path (o : Origin) (v : Json) :
    Holds (fun path : Option String => Reads (.nullable .path) (Datum.optional .path path).toJson path)
      (Decoder.nullable .path o v) := by
  cases v with
  | null => exact Checked.holds_good fun _ => rfl
  | text path => exact Checked.holds_good (Decoder.reads_path path)
  | _ => exact Checked.holds_bad _ _

theorem holds_publisher (o : Origin) (v : Json) :
    Holds (fun publisher : Option Json => Reads (.nullable .textOrObject) (publisher.getD .null) publisher)
      (Decoder.nullable .textOrObject o v) := by
  cases v with
  | null => exact Checked.holds_good fun _ => rfl
  | text s => exact Checked.holds_good fun _ => rfl
  | object e => exact Checked.holds_good fun _ => rfl
  | _ => exact Checked.holds_bad _ _

/-- **Options that are read** have the form in which they are written. -/
theorem settled_decoder (o : Origin) (v : Json) : Holds Settled (decoder o v) := by
  cases v with
  | object e =>
    have hpath (name other : String) : Holds (fun path : Option String =>
        Reads (.nullable .path) (Datum.optional .path path).toJson path)
        (Entries.either e o name other (.nullable .path) none) := by
      unfold Entries.either
      split <;> exact Entries.holds_optional o (fun _ => rfl) fun w _ => holds_path o w
    have hpublisher : Holds (fun publisher : Option Json =>
        Reads (.nullable .textOrObject) (publisher.getD .null) publisher)
        (Entries.optional e o "publisher" (.nullable .textOrObject) none) :=
      Entries.holds_optional o (fun _ => rfl) fun w _ => holds_publisher o w
    show Holds _ (ofEntries e o)
    unfold ofEntries
    iterate 12 refine Checked.holds_seq ?_
    refine Checked.holds_map ?_
    intro _ _ _ _ folder hfolder _ _ cache hcache _ _ _ _ _ _ _ _ publisher hread _ _ _ _ _ _
    exact ⟨hpath _ _ folder hfolder, hpath _ _ cache hcache, hpublisher publisher hread⟩
  | _ => exact Checked.holds_bad _ _

/-- **Options that are written out**, with a style put over theirs, are read again as they were but for the style. -/
theorem ofEntries_styled (h : p.Settled) (o : Origin) (v : Json) :
    ofEntries (insertEntry "override_styles" v p.toEntries) o =
      (fun style => { p with overrideStyles := style }) <$>
        Checked.under "override_styles" (Decoder.nullable Decoder.object o v) := by
  have hstyle : Entries.either (insertEntry "override_styles" v p.toEntries) o "override-styles" "override_styles"
      (.nullable .object) none = Checked.under "override_styles" (Decoder.nullable Decoder.object o v) := rfl
  have hsizes : (p.mediaSizes.map fun s => (s.1, (s.2.width, s.2.height))).map
      (fun s => (s.1, Media.SizeConfig.sizeOfPair s.2)) = p.mediaSizes := by
    rw [List.map_map]
    exact List.map_id _
  rw [ofEntries, hstyle,
    Entries.optional_reads o none rfl (Decoder.reads_optionalText p.language),
    Entries.either_reads o _ rfl rfl (fun _ => rfl : Reads .text (.text p.classPrefix) p.classPrefix),
    Entries.either_reads o none rfl rfl h.stylesFolder,
    Entries.either_reads o none rfl rfl h.mediaCacheFolder,
    Entries.either_reads o false rfl rfl (fun _ => rfl : Reads .switch (.bool p.download) p.download),
    Entries.either_reads o _ rfl rfl (fun _ => rfl : Reads .int (.int p.defaultWidth) p.defaultWidth),
    Entries.either_reads o _ rfl rfl (fun _ => rfl : Reads .int (.int p.defaultHeight) p.defaultHeight),
    Entries.either_reads o [] rfl rfl (Decoder.reads_sizes p.mediaSizes),
    Entries.optional_reads o none rfl h.publisher,
    Entries.either_reads o none rfl rfl (Decoder.reads_optionalText p.mapsKey),
    Entries.optional_reads o [] rfl (Decoder.reads_texts p.analytics),
    Entries.either_reads o _ rfl rfl (fun _ => rfl : Reads .text (.text p.dateFormat) p.dateFormat)]
  cases Checked.under "override_styles" (Decoder.nullable Decoder.object o v) with
  | good style =>
    exact congrArg (fun sizes => Checked.good { p with overrideStyles := style, mediaSizes := sizes }) hsizes
  | bad issues => rfl

/-- **Options that are written out** are read as what they are. -/
theorem ofEntries_toEntries (h : p.Settled) (o : Origin) : ofEntries p.toEntries o = .good p := by
  have hinsert : insertEntry "override_styles" ((p.overrideStyles.map Json.object).getD .null) p.toEntries =
      p.toEntries := rfl
  rw [← hinsert, ofEntries_styled h, Decoder.reads_object p.overrideStyles o]
  rfl

end Properties

end AmpArticle
