import AmpArticle.Command.Run
import AmpArticle.Proofs.Json.Characters
import AmpArticle.Proofs.Json.Depth
import AmpArticle.Proofs.Media.Files
import AmpArticle.Proofs.Properties

/-!
The options of a run. Those of a file are checked, written out under their own names, and read again with what the
command line and a style file put over them. What is written out is read as what it was, so that nothing of the file
stands against the command line, under whatever name it is given there.

Results:
- `overriding_toEntries`, `propertiesOf_given`: written out and read again, options are changed in no other way;
- `propertiesOf_overriding`: every option is the one of the command line, or else the one of the file, and nothing but a
  style file can fail when the options of a file are valid;
- `propertiesOf_nested`: a style file fails also with a style that is nested too deep.
-/

namespace AmpArticle.Command

variable {d : Disk} {o : Order} {fault : Fault}

/-! ## Values -/

section Values

variable {path : String}

theorem textOf_text {text : String} (h : d.HasText path text) : textOf d path = .ok text := by
  obtain ⟨bytes, hread, hbytes⟩ := Disk.read_text h
  rw [textOf, hread]
  exact hbytes

theorem textOf_lacking {cause : FileFault} (h : d.LacksFile path cause) :
    textOf d path = .error (.file cause path) := by
  rw [textOf, Disk.read_lacking h]
  rfl

theorem textOf_unreadable (h : d.Unreadable path fault) : textOf d path = .error fault := by
  rcases Disk.read_unreadable h with ⟨bytes, hread, hbytes⟩ | ⟨hread, -⟩
  · rw [textOf, hread]
    exact hbytes
  · rw [textOf, hread]
    rfl

/-- no complaint is made about what cannot be read -/
theorem unreadable_isLoadFault (h : d.Unreadable path fault) : isLoadFault fault = false := by
  cases h <;> rfl

variable [Room] {place : Place}

theorem valueOf_value {v : Json} (h : d.HasValue place path v) : valueOf d place path = .ok v := by
  obtain ⟨htext, hv⟩ := h
  rw [valueOf, textOf_text htext]
  simp only [bind, Except.bind, hv, Except.mapError]

theorem valueOf_lacking (h : d.LacksValue place path fault) : valueOf d place path = .error fault := by
  cases h with
  | file h =>
    rw [valueOf, textOf_lacking h]
    rfl
  | text htext he =>
    rw [valueOf, textOf_text htext]
    simp only [bind, Except.bind, he, Except.mapError, Json.Unread.fault]

theorem valueOf_unreadable (h : d.UnreadableValue place path fault) : valueOf d place path = .error fault := by
  cases h with
  | text h =>
    rw [valueOf, textOf_unreadable h]
    rfl
  | limit htext hlimit =>
    rw [valueOf, textOf_text htext]
    simp only [bind, Except.bind, hlimit, Except.mapError, Json.Unread.fault]

/-- a complaint is made about what is not there or is no value -/
theorem lacking_isLoadFault (h : d.LacksValue place path fault) : isLoadFault fault = true := by
  cases h <;> rfl

theorem unreadableValue_isLoadFault (h : d.UnreadableValue place path fault) : isLoadFault fault = false := by
  cases h with
  | text h => exact unreadable_isLoadFault h
  | limit => rfl

end Values

/-! ## Options put over others -/

/-- the options of a file with those of the command line put over them -/
def overridden (p : Properties) (o : Order) : Properties :=
  { p with
    language := o.language.orElse fun _ => p.language
    classPrefix := o.classPrefix.getD p.classPrefix
    mediaCacheFolder := (o.mediaCache.map Disk.normalize).orElse fun _ => p.mediaCacheFolder
    mapsKey := o.mapsKey.orElse fun _ => p.mapsKey
    download := o.download || p.download }

/-- the style of a style file; null stands for no style of its own -/
def styleOf (v : Json) : Except Fault (Option (List (String × Json))) :=
  match v with
  | .object entries => .ok (some entries)
  | .null => .ok none
  | _ => .error (.invalid "ConversionProperties" [⟨["override_styles"], .objectType⟩])

theorem styleOf_cases (v : Json) : (∃ style, styleOf v = .ok style ∧ v = (style.map Json.object).getD .null) ∨
    styleOf v = .error (.invalid "ConversionProperties" [⟨["override_styles"], .objectType⟩]) ∧ v ≠ .null ∧
      ∀ e, v ≠ .object e := by
  cases v with
  | null => exact .inl ⟨none, rfl, rfl⟩
  | object e => exact .inl ⟨some e, rfl, rfl⟩
  | _ => exact .inr ⟨rfl, nofun, nofun⟩

section Overriding

variable {p : Properties}

/-- what the command line puts over options that are written out stands in the place of what was there -/
theorem overriding_toEntries (o : Order) (p : Properties) : overriding o p.toEntries = (overridden p o).toEntries := by
  -- one option after the other
  have hlanguage (p : Properties) (given : Option String) : withGiven "lang" (given.map .text) p.toEntries =
      { p with language := given.orElse fun _ => p.language }.toEntries := by cases given <;> rfl
  have hclassPrefix (p : Properties) (given : Option String) : withGiven "css_prefix" (given.map .text) p.toEntries =
      { p with classPrefix := given.getD p.classPrefix }.toEntries := by cases given <;> rfl
  have hcache (p : Properties) (given : Option String) :
      withGiven "media_cache_folder" (given.map fun path => .text (Disk.normalize path)) p.toEntries =
        { p with mediaCacheFolder := (given.map Disk.normalize).orElse fun _ => p.mediaCacheFolder }.toEntries := by
    cases given <;> rfl
  have hkey (p : Properties) (given : Option String) : withGiven "google_maps_api_key" (given.map .text) p.toEntries =
      { p with mapsKey := given.orElse fun _ => p.mapsKey }.toEntries := by cases given <;> rfl
  have hdownload (p : Properties) (given : Bool) :
      (if given then insertEntry "enable_download_for_media_sizing" (.bool true) p.toEntries else p.toEntries) =
        { p with download := given || p.download }.toEntries := by cases given <;> rfl
  simp only [overriding, hlanguage, hclassPrefix, hcache, hkey, hdownload]
  rfl

theorem settled_overridden (h : p.Settled) (o : Order) : (overridden p o).Settled where
  stylesFolder := h.stylesFolder
  mediaCacheFolder := by
    cases hcache : o.mediaCache with
    | none => simpa [overridden, hcache] using h.mediaCacheFolder
    | some path => simpa [overridden, hcache] using Decoder.reads_path path
  publisher := h.publisher

theorem checked_toEntries (h : p.Settled) : checkedProperties (.object p.toEntries) = .ok p := by
  rw [checkedProperties, Properties.decoder, Decoder.record, Properties.ofEntries_toEntries h]
  rfl

theorem checked_styled (h : p.Settled) (v : Json) :
    checkedProperties (.object (insertEntry "override_styles" v p.toEntries)) =
      (fun style => { p with overrideStyles := style }) <$> styleOf v := by
  rw [checkedProperties, Properties.decoder, Decoder.record, Properties.ofEntries_styled h]
  cases v <;> rfl

end Overriding

/-! ## Options of a run -/

section Room

variable [Room]

/-- the value that the options are made from -/
inductive GivenOptions (d : Disk) (o : Order) : Json → Prop
  | none : o.properties = none → GivenOptions d o (.object [])
  | file {path : String} {v : Json} : o.properties = some path → d.HasValue .optionsFile (Disk.normalize path) v →
      GivenOptions d o v

theorem propertiesOf_fails {path : String} (hsome : o.properties = some path)
    (h : valueOf d .optionsFile (Disk.normalize path) = .error fault) : propertiesOf d o = .error fault := by
  rw [propertiesOf, givenOptions, hsome]
  simp only [h]
  rfl

/-- **The options of a run** as far as the value that they are made from is read. -/
theorem propertiesOf_given {given : Json} (h : GivenOptions d o given) :
    propertiesOf d o = (do
      let p ← (Properties.decoder .value given).toExcept "ConversionProperties"
      let p := overridden p o
      match o.styleFile with
      | none => return p
      | some path =>
        return { p with overrideStyles := ← styleOf (← valueOf d .optionStyleFile (Disk.normalize path)) }) := by
  have hgiven : givenOptions d o = .ok given := by
    cases h with
    | none hnone => rw [givenOptions, hnone]
    | file hsome hvalue =>
      rw [givenOptions, hsome]
      exact valueOf_value hvalue
  rw [propertiesOf, hgiven]
  show checkedProperties given >>= _ = _
  rw [checkedProperties]
  cases hfile : Properties.decoder .value given with
  | bad issues => rfl
  | good file =>
    have hsettled := settled_overridden (Properties.settled_decoder .value given file hfile) o
    simp only [Checked.toExcept, bind, Except.bind, overriding_toEntries, styling]
    cases o.styleFile with
    | none => exact checked_toEntries hsettled
    | some path =>
      cases hstyle : valueOf d .optionStyleFile (Disk.normalize path) with
      | error fault => simp only [hstyle]
      | ok v =>
        simp only [hstyle, pure, Except.pure, checked_styled hsettled v]
        cases styleOf v <;> rfl

/-- what became of the options of a file: each is the one of the command line, when one is given there, and else the one
of the file -/
structure Overrides (d : Disk) (o : Order) (file p : Properties) : Prop where
  language : p.language = o.language.or file.language
  classPrefix : p.classPrefix = o.classPrefix.getD file.classPrefix
  mediaCacheFolder : p.mediaCacheFolder = (o.mediaCache.map Disk.normalize).or file.mediaCacheFolder
  mapsKey : p.mapsKey = o.mapsKey.or file.mapsKey
  download : p.download = if o.download then true else file.download
  unstyled : o.styleFile = none → p.overrideStyles = file.overrideStyles
  styled : ∀ path, o.styleFile = some path → ∃ v, d.HasValue .optionStyleFile (Disk.normalize path) v ∧
    v = (p.overrideStyles.map Json.object).getD .null
  stylesFolder : p.stylesFolder = file.stylesFolder
  defaultWidth : p.defaultWidth = file.defaultWidth
  defaultHeight : p.defaultHeight = file.defaultHeight
  mediaSizes : p.mediaSizes = file.mediaSizes
  publisher : p.publisher = file.publisher
  analytics : p.analytics = file.analytics
  dateFormat : p.dateFormat = file.dateFormat

/-- what a style file fails with: it is not there or no value, it cannot be read as text, its text passes a limit of the
reader, or its value is no style -/
inductive StyleFails (d : Disk) (o : Order) : Fault → Prop
  | lacking {path : String} {fault : Fault} : o.styleFile = some path →
      d.LacksValue .optionStyleFile (Disk.normalize path) fault → StyleFails d o fault
  | unreadable {path : String} {fault : Fault} : o.styleFile = some path →
      d.UnreadableValue .optionStyleFile (Disk.normalize path) fault → StyleFails d o fault
  | kind {path : String} {v : Json} : o.styleFile = some path →
      d.HasValue .optionStyleFile (Disk.normalize path) v → v ≠ .null → (∀ e, v ≠ .object e) →
      StyleFails d o (.invalid "ConversionProperties" [⟨["override_styles"], .objectType⟩])

section Results

variable {file p : Properties}

theorem overrides_overridden (d : Disk) (o : Order) (file : Properties) (style : Option (List (String × Json)))
    (hunstyled : o.styleFile = none → style = file.overrideStyles)
    (hstyled : ∀ path, o.styleFile = some path → ∃ v, d.HasValue .optionStyleFile (Disk.normalize path) v ∧
      v = (style.map Json.object).getD .null) :
    Overrides d o file { overridden file o with overrideStyles := style } where
  language := by cases h : o.language <;> simp [overridden, h]
  classPrefix := rfl
  mediaCacheFolder := by cases h : o.mediaCache <;> simp [overridden, h]
  mapsKey := by cases h : o.mapsKey <;> simp [overridden, h]
  download := by cases h : o.download <;> simp [overridden, h]
  unstyled := hunstyled
  styled := hstyled
  stylesFolder := rfl
  defaultWidth := rfl
  defaultHeight := rfl
  mediaSizes := rfl
  publisher := rfl
  analytics := rfl
  dateFormat := rfl

/-- with valid options of a file there are options, or a style file fails -/
theorem propertiesOf_cases {given : Json} (hgiven : GivenOptions d o given)
    (hfile : Properties.decoder .value given = .good file) :
    (∃ p, propertiesOf d o = .ok p ∧ Overrides d o file p) ∨
      ∃ fault, propertiesOf d o = .error fault ∧ StyleFails d o fault := by
  rw [propertiesOf_given hgiven, hfile]
  simp only [Checked.toExcept, bind, Except.bind]
  cases hstyleFile : o.styleFile with
  | none =>
    refine .inl ⟨_, rfl, overrides_overridden d o file file.overrideStyles (fun _ => rfl) ?_⟩
    rintro path hsome
    cases hstyleFile.symm.trans hsome
  | some path =>
    dsimp only
    rcases d.value_cases .optionStyleFile (Disk.normalize path) with ⟨v, hvalue⟩ | ⟨fault, hlacks⟩ | ⟨fault, hunreadable⟩
    · rw [valueOf_value hvalue]
      rcases styleOf_cases v with ⟨style, hstyle, hv⟩ | ⟨hstyle, hnull, hobject⟩
      · simp only [hstyle]
        refine .inl ⟨_, rfl, overrides_overridden d o file style ?_ ?_⟩
        · exact fun hnone => by cases hstyleFile.symm.trans hnone
        · intro path' hsome
          cases hstyleFile.symm.trans hsome
          exact ⟨v, hvalue, hv⟩
      · simp only [hstyle]
        exact .inr ⟨_, rfl, .kind hstyleFile hvalue hnull hobject⟩
    · rw [valueOf_lacking hlacks]
      exact .inr ⟨_, rfl, .lacking hstyleFile hlacks⟩
    · rw [valueOf_unreadable hunreadable]
      exact .inr ⟨_, rfl, .unreadable hstyleFile hunreadable⟩

theorem propertiesOf_styleFails {given : Json} (hgiven : GivenOptions d o given)
    (hfile : Properties.decoder .value given = .good file) (h : StyleFails d o fault) :
    propertiesOf d o = .error fault := by
  rw [propertiesOf_given hgiven, hfile]
  cases h with
  | lacking hsome hlacks =>
    simp only [Checked.toExcept, bind, Except.bind, hsome, valueOf_lacking hlacks]
  | unreadable hsome hunreadable =>
    simp only [Checked.toExcept, bind, Except.bind, hsome, valueOf_unreadable hunreadable]
  | @kind path v hsome hvalue hnull hobject =>
    rcases styleOf_cases v with ⟨_ | e, -, hv⟩ | ⟨hstyle, -⟩
    · exact absurd hv hnull
    · exact absurd hv (hobject e)
    · simp only [Checked.toExcept, bind, Except.bind, hsome, valueOf_value hvalue, hstyle]

/-- **What is said on the command line counts**, whatever names the file uses: every option is the one that is given
there, and the one of the file when none is. With valid options in the file only a style file can fail. -/
theorem propertiesOf_overriding {given : Json} (hgiven : GivenOptions d o given)
    (hfile : Properties.decoder .value given = .good file) :
    (∀ p, propertiesOf d o = .ok p → Overrides d o file p) ∧
      ∀ fault, propertiesOf d o = .error fault ↔ StyleFails d o fault := by
  refine ⟨fun p hp => ?_, fun fault => ⟨fun herror => ?_, propertiesOf_styleFails hgiven hfile⟩⟩
  · rcases propertiesOf_cases hgiven hfile with ⟨p', hok, hoverrides⟩ | ⟨fault, herror, -⟩
    · cases hp.symm.trans hok
      exact hoverrides
    · cases hp.symm.trans herror
  · rcases propertiesOf_cases hgiven hfile with ⟨p, hok, -⟩ | ⟨fault', herror', hfails⟩
    · cases herror.symm.trans hok
    · cases herror.symm.trans herror'
      exact hfails

end Results

end Room

/-- options under names of both kinds, and a style -/
def mixedOptions : Json :=
  .object [("css_prefix", .text "a-"), ("css-selector-prefix", .text "b-"), ("lang", .text "de"),
    ("media-sizes", .object [("u", .list [.int 3, .int 4])])]

/-- a style with a pattern for the date -/
def datedStyle : List (String × Json) := [("dateFormat", .text "%d")]

/-- a place with a file of options and a style file -/
def diskWith (options style : Json) : Disk :=
  ⟨["w"], [(["w"], .folder), (["w", "p.json"], .file (Text.encodeUtf8 options.write.toList)),
    (["w", "s.json"], .file (Text.encodeUtf8 style.write.toList))]⟩

/-- an order that names both, with a prefix of its own -/
def mixedOrder : Order :=
  { (default : Order) with properties := some "p.json", styleFile := some "s.json", classPrefix := some "c-" }

/-- what the options come to alone -/
def mixedFile : Properties :=
  { Properties.usual with classPrefix := "b-", language := some "de", mediaSizes := [("u", ⟨3, 4⟩)] }

/-- a value that is written into a file is the text there -/
theorem hasText_written {path : String} {v : Json} (hbroken : Disk.isBroken path = false)
    (hfind : d.find path = .ok (.file (Text.encodeUtf8 v.write.toList))) : d.HasText path v.write := by
  have htext := Disk.HasText.intro hbroken hfind
  rwa [Text.unifyLineEnds_eq (Json.return_notMem_write v), String.ofList_toList] at htext

/-- the files of such a place; they are looked up by their names alone -/
theorem hasText_diskWith (options style : Json) :
    (diskWith options style).HasText (Disk.normalize "p.json") options.write ∧
      (diskWith options style).HasText (Disk.normalize "s.json") style.write :=
  ⟨hasText_written (by decide +kernel) (by rfl), hasText_written (by decide +kernel) (by rfl)⟩

section Sample

attribute [local instance] Room.usual

theorem mixedOptions_given (style : Json) : GivenOptions (diskWith mixedOptions style) mixedOrder mixedOptions :=
  .file rfl (.intro (hasText_diskWith mixedOptions style).1 (Json.readWithin_write
    ⟨by decide, trivial, trivial, trivial, ⟨by decide, ⟨trivial, trivial, trivial⟩, trivial⟩, trivial⟩
    ⟨rfl, trivial, trivial, trivial, ⟨rfl, ⟨rfl, rfl, rfl, trivial⟩, trivial⟩, trivial⟩))

theorem propertiesOf_overriding_mixed :
    ∃ p, GivenOptions (diskWith mixedOptions (.object datedStyle)) mixedOrder mixedOptions ∧
      Properties.decoder .value mixedOptions = .good mixedFile ∧
      propertiesOf (diskWith mixedOptions (.object datedStyle)) mixedOrder = .ok p ∧
      Overrides (diskWith mixedOptions (.object datedStyle)) mixedOrder mixedFile p ∧
      p.classPrefix = "c-" ∧ p.overrideStyles = some datedStyle := by
  have hstyle : (diskWith mixedOptions (.object datedStyle)).HasValue .optionStyleFile (Disk.normalize "s.json")
      (.object datedStyle) :=
    .intro (hasText_diskWith _ _).2 (Json.readWithin_write ⟨by decide, trivial, trivial⟩ ⟨rfl, trivial, trivial⟩)
  have hgiven := mixedOptions_given (.object datedStyle)
  have hfile : Properties.decoder .value mixedOptions = .good mixedFile := rfl
  have hp : propertiesOf (diskWith mixedOptions (.object datedStyle)) mixedOrder =
      .ok { overridden mixedFile mixedOrder with overrideStyles := some datedStyle } := by
    have hnamed : mixedOrder.styleFile = some "s.json" := rfl
    have hread : styleOf (.object datedStyle) = .ok (some datedStyle) := rfl
    rw [propertiesOf_given hgiven, hfile]
    simp only [Checked.toExcept, bind, Except.bind, hnamed, valueOf_value hstyle, hread, pure, Except.pure]
  exact ⟨_, hgiven, hfile, hp, (propertiesOf_overriding hgiven hfile).1 _ hp, rfl, rfl⟩

/-- a style with an entry that has no meaning, and is nested deep -/
def nestedStyle : List (String × Json) := [("a", .nested 5000)]

/-- **A style that is nested too deep** fails, although its text is that of an object. -/
theorem propertiesOf_nested : ¬ ∀ (d : Disk) (o : Order) (given : Json) (file : Properties) (path text : String)
    (style : List (String × Json)), GivenOptions d o given → Properties.decoder .value given = .good file →
    o.styleFile = some path → d.HasText (Disk.normalize path) text → Json.read text = .ok (.object style) →
    ∃ p, propertiesOf d o = .ok p := by
  intro h
  have hread : Json.read (Json.object nestedStyle).write = .ok (.object nestedStyle) :=
    Json.read_write ⟨by decide, Json.nested_wellFormed 5000, trivial⟩
  have htext := (hasText_diskWith mixedOptions (.object nestedStyle)).2
  have hgiven := mixedOptions_given (.object nestedStyle)
  have hlimit : Json.load .optionStyleFile (Json.object nestedStyle).write = .error (.beyond .listRead) :=
    Json.readWithin_entry_nested rfl rfl
  obtain ⟨p, hp⟩ := h _ mixedOrder mixedOptions mixedFile "s.json" _ nestedStyle hgiven rfl rfl htext hread
  cases hp.symm.trans (propertiesOf_styleFails hgiven rfl (.unreadable rfl (.limit htext hlimit)))

end Sample

end AmpArticle.Command
