import AmpArticle.Proofs.Command.Overriding
import AmpArticle.Proofs.Media.Chain

/-!
Loading what a run was ordered to convert. Three files are read one after the other: options, a style, an article. What
is missing, malformed or invalid among them ends a run with a complaint, before anything is written. What cannot be read
as text, or passes a limit of the reader, does not: it stops the run itself, unless a complaint about a file before it
comes first.

Results:
- `Loads`, `Complains`, `Unloadable`: the ways of loading, file by file;
- `load_loads`, `load_complains`, `load_unloadable`, `load_cases`: loading takes one of these ways;
- `convert_loading`: a run goes on with what is loaded, or ends with a complaint, or is stopped, and when it is;
- `convert_garbled`: a byte that no text has stops a run.
-/

namespace AmpArticle.Command

variable {d : Disk} {s : Surroundings} {o : Order} {fault : Fault}

/-! ## Files and complaints -/

theorem styleOf_isLoadFault {v : Json} (h : styleOf v = .error fault) : isLoadFault fault = true := by
  unfold styleOf at h
  split at h <;> cases h
  rfl

theorem exists_of_text {path text : String} (h : d.HasText path text) : d.exists? path = .ok true := by
  obtain ⟨hbroken, hfind⟩ := h
  rw [Disk.exists?, hbroken, if_neg Bool.false_ne_true, hfind]

/-- a run has ended with a complaint, and nothing is written -/
structure Refused (s : Surroundings) (r : Outcome) : Prop where
  exit : r.exit = 1
  output : r.output = ""
  written : r.written = []
  disk : r.disk = s.disk

theorem refused_refused (s : Surroundings) (text : String) : Refused s (refused s.disk text) := ⟨rfl, rfl, rfl, rfl⟩

section Room

variable [Room]

/-! ## Ways of loading -/

/-- the options before a style file is read -/
inductive BaseOptions (d : Disk) (o : Order) : Properties → Prop
  | intro {given : Json} {p : Properties} : GivenOptions d o given → Properties.decoder .value given = .good p →
      BaseOptions d o (overridden p o)

/-- the options of a run -/
inductive RunOptions (d : Disk) (o : Order) : Properties → Prop
  | plain {p : Properties} : BaseOptions d o p → o.styleFile = none → RunOptions d o p
  | styled {p : Properties} {path : String} {v : Json} {style : Option (List (String × Json))} : BaseOptions d o p →
      o.styleFile = some path → d.HasValue .optionStyleFile (Disk.normalize path) v → styleOf v = .ok style →
      RunOptions d o { p with overrideStyles := style }

/-- everything that a run was ordered to convert is read, and valid -/
inductive Loads (d : Disk) (o : Order) (p : Properties) (a : Article) : Prop
  | intro {text : String} : RunOptions d o p → d.HasText (d.resolve o.article) text →
      Article.ofDocument Article.decoder text = .good a → Loads d o p a

/-- something is missing or invalid, and all that is loaded before it is in order -/
inductive Complains (d : Disk) (o : Order) : Fault → Prop
  | options {path : String} {fault : Fault} : o.properties = some path →
      d.LacksValue .optionsFile (Disk.normalize path) fault → Complains d o fault
  | invalidOptions {given : Json} {issues : List Issue} : GivenOptions d o given →
      Properties.decoder .value given = .bad issues → Complains d o (.invalid "ConversionProperties" issues)
  | style {p : Properties} {path : String} {fault : Fault} : BaseOptions d o p → o.styleFile = some path →
      d.LacksValue .optionStyleFile (Disk.normalize path) fault → Complains d o fault
  | invalidStyle {p : Properties} {path : String} {v : Json} {fault : Fault} : BaseOptions d o p →
      o.styleFile = some path → d.HasValue .optionStyleFile (Disk.normalize path) v → styleOf v = .error fault →
      Complains d o fault
  | article {p : Properties} {cause : FileFault} : RunOptions d o p → d.LacksFile (d.resolve o.article) cause →
      Complains d o (.file cause (d.resolve o.article))
  | invalidArticle {p : Properties} {text : String} {issues : List Issue} : RunOptions d o p →
      d.HasText (d.resolve o.article) text → Article.ofDocument Article.decoder text = .bad issues →
      Complains d o (.invalid "Article" issues)

/-- something cannot be read, and all that is loaded before it is in order -/
inductive Unloadable (d : Disk) (o : Order) (fault : Fault) : Prop
  | options {path : String} : o.properties = some path → d.UnreadableValue .optionsFile (Disk.normalize path) fault →
      Unloadable d o fault
  | style {p : Properties} {path : String} : BaseOptions d o p → o.styleFile = some path →
      d.UnreadableValue .optionStyleFile (Disk.normalize path) fault → Unloadable d o fault
  | article {p : Properties} : RunOptions d o p → d.Unreadable (d.resolve o.article) fault → Unloadable d o fault

section Ways

variable {p : Properties} {a : Article}

theorem propertiesOf_base (h : BaseOptions d o p) :
    propertiesOf d o = (do
      match o.styleFile with
      | none => return p
      | some path =>
        return { p with overrideStyles := ← styleOf (← valueOf d .optionStyleFile (Disk.normalize path)) }) := by
  obtain ⟨hgiven, hgood⟩ := h
  rw [propertiesOf_given hgiven, hgood]
  rfl

theorem propertiesOf_run (h : RunOptions d o p) : propertiesOf d o = .ok p := by
  cases h with
  | plain hbase hnone =>
    rw [propertiesOf_base hbase, hnone]
    rfl
  | styled hbase hsome hvalue hstyle =>
    rw [propertiesOf_base hbase, hsome]
    simp only [valueOf_value hvalue, bind, Except.bind, hstyle]
    rfl

theorem load_run (h : RunOptions d o p) :
    load d o = (do
      let text ← textOf d (d.resolve o.article)
      return (p, ← (Article.ofDocument Article.decoder text).toExcept "Article")) := by
  rw [load, propertiesOf_run h]
  rfl

theorem load_loads (h : Loads d o p a) : load d o = .ok (p, a) := by
  obtain ⟨hrun, htext, hgood⟩ := h
  rw [load_run hrun, textOf_text htext]
  simp only [bind, Except.bind, hgood]
  rfl

theorem load_of_options (h : propertiesOf d o = .error fault) : load d o = .error fault := by
  rw [load, h]
  rfl

/-- **A complaint** about what is loaded. -/
theorem load_complains (h : Complains d o fault) : load d o = .error fault ∧ isLoadFault fault = true := by
  cases h with
  | options hsome hlacks =>
    exact ⟨load_of_options (propertiesOf_fails hsome (valueOf_lacking hlacks)), lacking_isLoadFault hlacks⟩
  | invalidOptions hgiven hbad =>
    refine ⟨load_of_options ?_, rfl⟩
    rw [propertiesOf_given hgiven, hbad]
    rfl
  | style hbase hsome hlacks =>
    refine ⟨load_of_options ?_, lacking_isLoadFault hlacks⟩
    rw [propertiesOf_base hbase, hsome]
    simp only [valueOf_lacking hlacks]
    rfl
  | invalidStyle hbase hsome hvalue hstyle =>
    refine ⟨load_of_options ?_, styleOf_isLoadFault hstyle⟩
    rw [propertiesOf_base hbase, hsome]
    simp only [valueOf_value hvalue, bind, Except.bind, hstyle]
  | article hrun hlacks =>
    refine ⟨?_, rfl⟩
    rw [load_run hrun, textOf_lacking hlacks]
    rfl
  | invalidArticle hrun htext hbad =>
    refine ⟨?_, rfl⟩
    rw [load_run hrun, textOf_text htext]
    simp only [bind, Except.bind, hbad]
    rfl

/-- **What cannot be read** is no matter for a complaint. -/
theorem load_unloadable (h : Unloadable d o fault) : load d o = .error fault ∧ isLoadFault fault = false := by
  cases h with
  | options hsome h =>
    exact ⟨load_of_options (propertiesOf_fails hsome (valueOf_unreadable h)), unreadableValue_isLoadFault h⟩
  | style hbase hsome h =>
    refine ⟨load_of_options ?_, unreadableValue_isLoadFault h⟩
    rw [propertiesOf_base hbase, hsome]
    simp only [valueOf_unreadable h]
    rfl
  | article hrun h =>
    refine ⟨?_, unreadable_isLoadFault h⟩
    rw [load_run hrun, textOf_unreadable h]
    rfl

theorem given_cases (d : Disk) (o : Order) : (∃ given, GivenOptions d o given) ∨ (∃ fault, Complains d o fault) ∨
    ∃ fault, Unloadable d o fault := by
  cases hpath : o.properties with
  | none => exact .inl ⟨_, .none hpath⟩
  | some path =>
    rcases d.value_cases .optionsFile (Disk.normalize path) with ⟨v, hvalue⟩ | ⟨fault, hlacks⟩ | ⟨fault, h⟩
    · exact .inl ⟨v, .file hpath hvalue⟩
    · exact .inr (.inl ⟨fault, .options hpath hlacks⟩)
    · exact .inr (.inr ⟨fault, .options hpath h⟩)

theorem base_cases (d : Disk) (o : Order) : (∃ p, BaseOptions d o p) ∨ (∃ fault, Complains d o fault) ∨
    ∃ fault, Unloadable d o fault := by
  rcases given_cases d o with ⟨given, hgiven⟩ | h
  · cases hdecoded : Properties.decoder .value given with
    | good p => exact .inl ⟨_, .intro hgiven hdecoded⟩
    | bad issues => exact .inr (.inl ⟨_, .invalidOptions hgiven hdecoded⟩)
  · exact .inr h

theorem run_cases (d : Disk) (o : Order) : (∃ p, RunOptions d o p) ∨ (∃ fault, Complains d o fault) ∨
    ∃ fault, Unloadable d o fault := by
  rcases base_cases d o with ⟨p, hbase⟩ | h
  · cases hpath : o.styleFile with
    | none => exact .inl ⟨p, .plain hbase hpath⟩
    | some path =>
      rcases d.value_cases .optionStyleFile (Disk.normalize path) with ⟨v, hvalue⟩ | ⟨fault, hlacks⟩ | ⟨fault, h⟩
      · cases hstyle : styleOf v with
        | ok style => exact .inl ⟨_, .styled hbase hpath hvalue hstyle⟩
        | error fault => exact .inr (.inl ⟨fault, .invalidStyle hbase hpath hvalue hstyle⟩)
      · exact .inr (.inl ⟨fault, .style hbase hpath hlacks⟩)
      · exact .inr (.inr ⟨fault, .style hbase hpath h⟩)
  · exact .inr h

/-- **The ways of loading**: there is no other. -/
theorem load_cases (d : Disk) (o : Order) : (∃ p a, Loads d o p a) ∨ (∃ fault, Complains d o fault) ∨
    ∃ fault, Unloadable d o fault := by
  rcases run_cases d o with ⟨p, hrun⟩ | h
  · rcases d.text_cases (d.resolve o.article) with ⟨text, htext⟩ | ⟨cause, hlacks⟩ | ⟨fault, h⟩
    · cases hdecoded : Article.ofDocument Article.decoder text with
      | good a => exact .inl ⟨p, a, .intro hrun htext hdecoded⟩
      | bad issues => exact .inr (.inl ⟨_, .invalidArticle hrun htext hdecoded⟩)
    · exact .inr (.inl ⟨_, .article hrun hlacks⟩)
    · exact .inr (.inr ⟨fault, .article hrun h⟩)
  · exact .inr h

end Ways

/-! ## Runs -/

/-- what stops a run: the path of the article cannot be asked for, or something cannot be read -/
inductive Stops (d : Disk) (o : Order) : Fault → Prop
  | path : Disk.isBroken (d.resolve o.article) = true → Stops d o (.value "embedded null byte")
  | name : Disk.isBroken (d.resolve o.article) = false → d.find (d.resolve o.article) = .error .nameTooLong →
      Stops d o (.file .nameTooLong (d.resolve o.article))
  | unloadable {fault : Fault} : d.exists? (d.resolve o.article) = .ok true → Unloadable d o fault → Stops d o fault

section Runs

variable {p : Properties} {a : Article}

/-- the article is there, or it is not, or it cannot be asked for -/
theorem exists_cases (d : Disk) (o : Order) : d.exists? (d.resolve o.article) = .ok true ∨
    d.exists? (d.resolve o.article) = .ok false ∨
    ∃ fault, d.exists? (d.resolve o.article) = .error fault ∧ Stops d o fault := by
  cases hbroken : Disk.isBroken (d.resolve o.article) with
  | true => exact .inr (.inr ⟨_, by rw [Disk.exists?, if_pos hbroken], .path hbroken⟩)
  | false =>
    rw [Disk.exists?, hbroken, if_neg Bool.false_ne_true]
    cases hfind : d.find (d.resolve o.article) with
    | ok entry => exact .inl rfl
    | error cause =>
      rcases Disk.find_error hfind with rfl | rfl | ⟨rfl, -⟩
      · exact .inr (.inl rfl)
      · exact .inr (.inl rfl)
      · exact .inr (.inr ⟨_, rfl, .name hbroken hfind⟩)

/-- a run behind the question whether the article is there -/
theorem convert_existing (h : s.disk.exists? (s.disk.resolve o.article) = .ok true) :
    convert s o = match load s.disk o with
      | .ok (p, a) => convertLoaded s o p a
      | .error fault =>
        if isLoadFault fault then
          .ok (refused s.disk s!"Failed to load conversion input: {loadFaultText fault}")
        else .error fault := by
  rw [convert]
  simp only [h, bind, Except.bind]
  rfl

theorem convert_loads (h : Loads s.disk o p a) : convert s o = convertLoaded s o p a := by
  have hexists : s.disk.exists? (s.disk.resolve o.article) = .ok true := by
    obtain ⟨-, htext, -⟩ := h
    exact exists_of_text htext
  rw [convert_existing hexists, load_loads h]

theorem convert_stops (h : Stops s.disk o fault) : convert s o = .error fault := by
  cases h with
  | path hbroken =>
    rw [convert, Disk.exists?, if_pos hbroken]
    rfl
  | name hbroken hfind =>
    rw [convert, Disk.exists?, hbroken, if_neg Bool.false_ne_true, hfind]
    rfl
  | unloadable hexists h =>
    obtain ⟨hload, hfault⟩ := load_unloadable h
    rw [convert_existing hexists, hload]
    simp only [hfault, Bool.false_eq_true, if_false]

theorem convert_missing (h : s.disk.exists? (s.disk.resolve o.article) = .ok false) :
    convert s o = .ok (refused s.disk s!"Article file not found: {s.disk.resolve o.article}") := by
  rw [convert]
  simp only [h, bind, Except.bind]
  rfl

theorem convert_complains (hexists : s.disk.exists? (s.disk.resolve o.article) = .ok true)
    (h : Complains s.disk o fault) :
    convert s o = .ok (refused s.disk s!"Failed to load conversion input: {loadFaultText fault}") := by
  obtain ⟨hload, hfault⟩ := load_complains h
  rw [convert_existing hexists, hload]
  simp only [hfault, if_true]

/-- a run goes on, or ends with a complaint, or is stopped -/
theorem convert_cases (s : Surroundings) (o : Order) : (∃ p a, Loads s.disk o p a) ∨
    (∃ r, convert s o = .ok r ∧ Refused s r) ∨ ∃ fault, Stops s.disk o fault := by
  rcases exists_cases s.disk o with hexists | hmissing | ⟨fault, -, h⟩
  · rcases load_cases s.disk o with h | ⟨fault, h⟩ | ⟨fault, h⟩
    · exact .inl h
    · exact .inr (.inl ⟨_, convert_complains hexists h, refused_refused s _⟩)
    · exact .inr (.inr ⟨fault, .unloadable hexists h⟩)
  · exact .inr (.inl ⟨_, convert_missing hmissing, refused_refused s _⟩)
  · exact .inr (.inr ⟨fault, h⟩)

/-- **Loading.** A run for which everything can be loaded goes on with the valid options and the valid article, and with
nothing else. Any other run is stopped by exactly the failures that are listed: what cannot be read as text or passes a
limit of the reader, when nothing before it is missing or invalid, and a path that cannot be asked for. When there is no
such failure it ends with a complaint and exit code one, and nothing is written. -/
theorem convert_loading (s : Surroundings) (o : Order) :
    (∀ p a, Loads s.disk o p a → convert s o = convertLoaded s o p a) ∧
    ((∀ p a, ¬ Loads s.disk o p a) →
      (∀ fault, convert s o = .error fault ↔ Stops s.disk o fault) ∧
      ((∀ fault, ¬ Stops s.disk o fault) → ∃ r, convert s o = .ok r ∧ Refused s r)) := by
  refine ⟨fun p a h => convert_loads h, fun hnone => ⟨fun fault => ⟨fun herror => ?_, convert_stops⟩, fun hgoes => ?_⟩⟩
  · rcases convert_cases s o with ⟨p, a, h⟩ | ⟨r, hrefused, -⟩ | ⟨fault', h⟩
    · exact absurd h (hnone p a)
    · cases hrefused.symm.trans herror
    · cases (convert_stops h).symm.trans herror
      exact h
  · rcases convert_cases s o with ⟨p, a, h⟩ | hrefused | ⟨fault, h⟩
    · exact absurd h (hnone p a)
    · exact hrefused
    · exact absurd h (hgoes fault)

end Runs

end Room

/-- an order that names nothing but an article -/
def articleOrder (path : String) : Order := { (default : Order) with article := path }

/-- a place with an article of the given bytes -/
def placeWith (bytes : List UInt8) : Surroundings where
  disk := ⟨["w"], [(["w"], .folder), (["w", "a.json"], .file bytes)]⟩
  web := default
  resources := ""

/-- whether a value is good -/
def isGood {α : Type} : Checked α → Bool
  | .good _ => true
  | .bad _ => false

theorem exists_of_isGood {α : Type} {x : Checked α} (h : isGood x = true) : ∃ a, x = .good a := by
  cases x with
  | good a => exact ⟨a, rfl⟩
  | bad _ => cases h

/-- the characters of an article with a title -/
def titledText : List Char := "\x7b\"header\":\x7b\"title\":\"T\"\x7d\x7d".toList

section Sample

attribute [local instance] Room.usual

theorem convert_loading_titled : ∃ p a, Loads (placeWith (Text.encodeUtf8 titledText)).disk (articleOrder "a.json") p a ∧
    convert (placeWith (Text.encodeUtf8 titledText)) (articleOrder "a.json") =
      convertLoaded (placeWith (Text.encodeUtf8 titledText)) (articleOrder "a.json") p a := by
  have hoptions : isGood (Properties.decoder .value (.object [])) = true := by decide +kernel
  have harticle : isGood (Article.ofDocument Article.decoder (String.ofList (Text.unifyLineEnds titledText))) = true := by
    decide +kernel
  have htext : (placeWith (Text.encodeUtf8 titledText)).disk.HasText
      ((placeWith (Text.encodeUtf8 titledText)).disk.resolve "a.json") _ :=
    @Disk.HasText.intro _ _ titledText (by rfl) (by rfl)
  obtain ⟨p, hp⟩ := exists_of_isGood hoptions
  obtain ⟨a, ha⟩ := exists_of_isGood harticle
  have hloads : Loads (placeWith (Text.encodeUtf8 titledText)).disk (articleOrder "a.json")
      (overridden p (articleOrder "a.json")) a :=
    .intro (.plain (.intro (.none rfl) hp) rfl) htext ha
  exact ⟨_, a, hloads, (convert_loading _ _).1 _ a hloads⟩

/-- **A byte that no text has**, in the place of an article, stops a run, where any other article that is none would
have been complained about. -/
theorem convert_garbled : ¬ ∀ (s : Surroundings) (o : Order), (∀ p a, ¬ Loads s.disk o p a) →
    ∃ r, convert s o = .ok r ∧ Refused s r := by
  intro h
  have hfails : convert (placeWith [0xff]) (articleOrder "a.json") =
      .error (.undecodable "'utf-8' codec can't decode byte 0xff in position 0: invalid start byte") := by
    rfl
  obtain ⟨r, hrefused, -⟩ := h (placeWith [0xff]) (articleOrder "a.json") fun p a hloads => by
    have hload := load_loads hloads
    have hfails : load (placeWith [0xff]).disk (articleOrder "a.json") =
        .error (.undecodable "'utf-8' codec can't decode byte 0xff in position 0: invalid start byte") := by
      rfl
    cases hfails.symm.trans hload
  cases hfails.symm.trans hrefused

end Sample

end AmpArticle.Command
