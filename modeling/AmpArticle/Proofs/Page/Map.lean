import AmpArticle.Page.Content
import AmpArticle.Proofs.Geo.Position
import AmpArticle.Proofs.Json.Characters
import AmpArticle.Proofs.Page.Answers

/-!
Maps, which should never fail. With a key and a position there is a frame, and no warning; else there is an empty box,
and one warning. The address of a frame may stand in a document, whatever the key is. But a geotag that cannot be read
stops the conversion, as does a class prefix that must not stand in a document.

Results:
- `frame_run`: the frame for an address is made, unless the address or the class prefix is not allowed;
- `map_outcome`: what becomes of a map without caption, over all keys, geotags and containers;
- `map_unforeseen`: a coordinate that is too large stops the conversion.
-/

namespace AmpArticle.Page

open Markup (Element Node isAllowedText)

variable {s t : State}

/-! ## Frames and boxes -/

/-- the frame of a name and a size for an address -/
def addressFrame (classPrefix name : String) (width height : Option Int) (url : String) : Element :=
  ⟨"amp-iframe", none, [⟨"class", some (classPrefix ++ name)⟩,
    ⟨"width", some (intText (frameSide width Media.defaultWidth))⟩,
    ⟨"height", some (intText (frameSide height Media.defaultHeight))⟩, ⟨"layout", some "responsive"⟩,
    ⟨"frameborder", some "0"⟩, ⟨"sandbox", some "allow-scripts allow-same-origin"⟩, ⟨"src", some url⟩], []⟩

/-- the frame of a map around a position -/
def mapFrame (classPrefix key : String) (p : Geo.Position) : Element :=
  ⟨"amp-iframe", none, [⟨"class", some (classPrefix ++ "map")⟩, ⟨"width", some "380"⟩, ⟨"height", some "240"⟩,
    ⟨"layout", some "responsive"⟩, ⟨"frameborder", some "0"⟩, ⟨"sandbox", some "allow-scripts allow-same-origin"⟩,
    ⟨"src", some (mapAddress key p)⟩], []⟩

/-- the box in the place of a map -/
def mapBox (classPrefix : String) : Element := ⟨"div", none, [⟨"class", some (classPrefix ++ "map")⟩], []⟩

theorem mapAddress_allowed (key : String) (p : Geo.Position) : isAllowedText (mapAddress key p) = true := by
  rw [mapAddress, Markup.isAllowedText_append, Markup.query_allowed]
  decide

theorem intText_allowed (n : Int) : isAllowedText (intText n) = true := by
  refine List.all_eq_true.2 fun c hc => ?_
  have hbare := Json.bare_int n c hc
  simp only [Json.isBareChar, Bool.or_eq_true, beq_iff_eq] at hbare
  rcases hbare with ((h | rfl) | rfl) | rfl
  · exact (Markup.isQueryChar_visible (by simp [Url.isQueryChar, h])).isAllowed
  all_goals decide

/-- **A frame** is made just when the class prefix and the address may stand in a document. -/
theorem frame_run {name : String} (hname : name.isEmpty = false) (hallowed : isAllowedText name = true)
    (width height : Option Int) (url : String) :
    (frame name width height (.address url)).run.run s =
      (if isAllowedText s.classPrefix && isAllowedText url then
        .ok (addressFrame s.classPrefix name width height url)
      else .error .forbiddenCharacter, { s with features := used .iframe s.features }) := by
  let attributes : List (String × String) :=
    [("width", intText (frameSide width Media.defaultWidth)), ("height", intText (frameSide height Media.defaultHeight)),
      ("layout", "responsive"), ("frameborder", "0"), ("sandbox", "allow-scripts allow-same-origin"), ("src", url)]
  have hnames : attributes.map Prod.fst = ["width", "height", "layout", "frameborder", "sandbox", "src"] := rfl
  have hclass : withClass s.classPrefix (some (.name name)) attributes = ("class", s.classPrefix ++ name) :: attributes :=
    withClass_name hname _ _
  have hvalues : areAllowed (("class", s.classPrefix ++ name) :: attributes) =
      (isAllowedText s.classPrefix && isAllowedText url) := by
    have hfixed : ∀ text ∈ ["responsive", "0", "allow-scripts allow-same-origin"], isAllowedText text = true := by
      decide
    simp only [List.forall_mem_cons, List.not_mem_nil, false_implies, implies_true, and_true] at hfixed
    simp [areAllowed, attributes, Markup.isAllowedText_append, hallowed, intText_allowed, hfixed]
  unfold frame
  rw [run_bind, Rendering.useFeature_run]
  refine (create_run rfl (readable_name name) (arePlain_of_names hnames (by decide))).trans ?_
  rw [hclass, hvalues]
  rfl

theorem mapFrame_run (key : String) (p : Geo.Position) :
    (frame "map" none none (.address (mapAddress key p))).run.run s =
      (if isAllowedText s.classPrefix then .ok (mapFrame s.classPrefix key p) else .error .forbiddenCharacter,
        { s with features := used .iframe s.features }) := by
  rw [frame_run rfl (by decide), mapAddress_allowed, Bool.and_true]
  rfl

theorem emptyMap_run (pin : MapPin) (message : String) (cause : Option Fault) :
    (emptyMap pin message cause).run.run s =
      (if isAllowedText s.classPrefix then .ok (.ofElement (mapBox s.classPrefix)) else .error .forbiddenCharacter,
        { s with
          warnings := s.warnings ++ [⟨message, some (Item.map pin).toDatum, cause⟩]
          log := s.log ++ [⟨.warning, message⟩] }) := by
  unfold emptyMap
  rw [run_bind]
  show (Rendering.createNamed "div" "map" >>= _).run.run _ = _
  rw [run_bind, createNamed_run rfl rfl (by decide)]
  split_ifs <;> rfl

/-! ## Keys -/

/-- what the filters of the key leave of the state: registrations and log may differ -/
theorem mapsKey?_runs {c : Setting} {key : Option String} (h : Runs (mapsKey? c) s key t) :
    { s with observer := t.observer, log := t.log } = t := by
  obtain ⟨v, u, hfilter, hend⟩ := runs_bind.1 h
  obtain ⟨-, -, hu⟩ := filter_runs hfilter
  have hut : u = t := by
    split at hend
    · exact (runs_pure.1 hend).2
    · exact (runs_pure.1 hend).2
  subst hut
  rw [← hu]

/-! ## Maps -/

/-- a geotag that has no position, or is blamed for its format -/
def Placeless [Room] (geotag : Option Json) : Prop :=
  (∀ p, Geo.ofGeotag geotag ≠ .ok (some p)) ∧ ¬ Geo.Escapes (Geo.ofGeotag geotag)

/-- what becomes of a map that is put into a container: the container with what is built, and the state behind it -/
inductive MapOutcome [Room] (c : Setting) (geotag : Option Json) (container : Element) (s : State) :
    Except Fault (Element × Option Built) × State → Prop where
  /-- there is a key and a position: a frame, no warning -/
  | placed {key : String} {p : Geo.Position} {t : State} : Runs (mapsKey? c) s (some key) t →
    Geo.ofGeotag geotag = .ok (some p) → isAllowedText s.classPrefix = true →
    MapOutcome c geotag container s
      (.ok (container.append [(mapFrame s.classPrefix key p).toNode], some (.ofElement (mapFrame s.classPrefix key p))),
        { s with observer := t.observer, features := used .iframe s.features, log := t.log })
  /-- there is no key or no position: a box, one warning about the map -/
  | empty {key : Option String} {message : String} {cause : Option Fault} {t : State} {log : List Media.LogLine} :
    Runs (mapsKey? c) s key t → key = none ∨ Placeless geotag → isAllowedText s.classPrefix = true →
    MapOutcome c geotag container s
      (.ok (container.append [(mapBox s.classPrefix).toNode], some (.ofElement (mapBox s.classPrefix))),
        { s with
          observer := t.observer
          warnings := s.warnings ++ [⟨message, some (Item.map ⟨geotag, none⟩).toDatum, cause⟩]
          log := log })
  /-- the geotag cannot be read -/
  | unforeseen {key : String} {v : Json} {fault : Fault} {t : State} : Runs (mapsKey? c) s (some key) t →
    geotag = some v → Geo.Breaks v → Geo.ofGeotag geotag = .error fault →
    MapOutcome c geotag container s (.error fault, { s with observer := t.observer, log := t.log })
  /-- the class prefix must not stand in a document -/
  | forbidden {t : State} : isAllowedText s.classPrefix = false →
    MapOutcome c geotag container s (.error .forbiddenCharacter, t)
  /-- a filter of the key fails -/
  | unkeyed {fault : Fault} {t : State} : (mapsKey? c).run.run s = (.error fault, t) →
    MapOutcome c geotag container s (.error fault, t)

/-- what is built put into a container -/
def placedIn (container : Element) : Except Fault Built × State → Except Fault (Element × Option Built) × State
  | (.ok built, t) => (.ok (container.append built.nodes, some built), t)
  | (.error fault, t) => (.error fault, t)

section Outcome

variable [Room] {c : Setting} {geotag : Option Json} {container : Element}

theorem placeless_of_none (h : Geo.ofGeotag geotag = .ok none) : Placeless geotag := by
  unfold Placeless
  rw [h]
  refine ⟨fun p hp => ?_, Geo.not_escapes_ok⟩
  cases hp

theorem placeless_of_format {fault : Fault} (h : Geo.ofGeotag geotag = .error fault)
    (hformat : Geo.isFormatFault fault = true) : Placeless geotag := by
  unfold Placeless
  rw [h, Geo.escapes_error_iff, hformat]
  refine ⟨fun p hp => ?_, by decide⟩
  cases hp

theorem itemInto_run {i : Item} {x : Rendering Built} (h : item c i = do return some (← x)) :
    (itemInto c container i).run.run s = placedIn container (x.run.run s) := by
  unfold itemInto
  rw [h, run_bind, run_bind]
  rcases x.run.run s with ⟨_ | _, _⟩ <;> rfl

theorem emptyMap_outcome {key : Option String} (message : String) (cause : Option Fault)
    (hkey : Runs (mapsKey? c) s key t) (hnone : key = none ∨ Placeless geotag) :
    MapOutcome c geotag container s
      (placedIn container ((emptyMap ⟨geotag, none⟩ message cause).run.run t)) := by
  -- the filters of the key leave the class prefix, the warnings and the features as they were
  obtain ⟨observer, log, rfl⟩ : ∃ observer log, t = { s with observer := observer, log := log } :=
    ⟨_, _, (mapsKey?_runs hkey).symm⟩
  rw [emptyMap_run]
  by_cases hallows : isAllowedText s.classPrefix = true
  · simp only [hallows, if_true]
    exact .empty hkey hnone hallows
  · simp only [hallows, if_false, Bool.false_eq_true]
    exact .forbidden (Bool.not_eq_true _ ▸ hallows)

theorem frame_outcome {key : String} {p : Geo.Position} (hkey : Runs (mapsKey? c) s (some key) t)
    (hposition : Geo.ofGeotag geotag = .ok (some p)) :
    MapOutcome c geotag container s
      (placedIn container ((frame "map" none none (.address (mapAddress key p)) >>= (figure · none)).run.run t)) := by
  obtain ⟨observer, log, rfl⟩ : ∃ observer log, t = { s with observer := observer, log := log } :=
    ⟨_, _, (mapsKey?_runs hkey).symm⟩
  rw [run_bind, mapFrame_run]
  by_cases hallows : isAllowedText s.classPrefix = true
  · simp only [hallows, if_true]
    exact .placed hkey hposition hallows
  · simp only [hallows, if_false, Bool.false_eq_true]
    exact .forbidden (Bool.not_eq_true _ ▸ hallows)

/-- **What becomes of a map without caption.** Its geotag has a position just when the feature that counts in it has
coordinates that begin with two numbers; else it has none, or is blamed for its format, unless it is one of those that
are not foreseen. Then, whatever the key and the container: a frame when there is a key and a position, else a box and
one warning, unless the geotag is not foreseen, the class prefix is not allowed, or a filter of the key fails. -/
theorem map_outcome (c : Setting) (geotag : Option Json) (container : Element) (s : State) :
    (∀ p, Geo.ofGeotag geotag = .ok (some p) ↔ ∃ v feature x y rest, geotag = some v ∧ Geo.HasFeature v feature ∧
      Geo.HasCoordinates feature x y rest ∧ x.toDouble = .ok p.longitude ∧ y.toDouble = .ok p.latitude) ∧
    (Geo.Escapes (Geo.ofGeotag geotag) ↔ ∃ v, geotag = some v ∧ Geo.Breaks v) ∧
      MapOutcome c geotag container s ((itemInto c container (.map ⟨geotag, none⟩)).run.run s) := by
  have hescapes : Geo.Escapes (Geo.ofGeotag geotag) ↔ ∃ v, geotag = some v ∧ Geo.Breaks v := by
    cases geotag with
    | none => exact iff_of_false Geo.not_escapes_ok (by simp)
    | some v => simp [Geo.escapes_ofGeotag_iff]
  refine ⟨fun p => ?_, hescapes, ?_⟩
  · cases geotag with
    | none => exact iff_of_false (fun h => by cases h) (by simp)
    | some v => simp [Geo.ofGeotag_some_iff]
  rw [itemInto_run rfl]
  unfold map
  rw [run_bind]
  rcases hkey : (mapsKey? c).run.run s with ⟨fault | _ | key, t⟩
  · exact .unkeyed hkey
  · exact emptyMap_outcome _ _ hkey (.inl rfl)
  · dsimp only
    cases geotag with
    | none =>
      simp only [Option.isNone_none, if_true]
      exact emptyMap_outcome _ _ hkey (.inr (placeless_of_none rfl))
    | some v =>
      simp only [Option.isNone_some, Bool.false_eq_true, if_false]
      cases hgeo : Geo.ofGeotag (some v) with
      | ok found =>
        cases found with
        | none => exact emptyMap_outcome _ _ hkey (.inr (placeless_of_none hgeo))
        | some p => exact frame_outcome hkey hgeo
      | error fault =>
        dsimp only
        split_ifs with hformat
        · exact emptyMap_outcome _ _ hkey (.inr (placeless_of_format hgeo hformat))
        · obtain ⟨_, hv, hbreaks⟩ := hescapes.1 ⟨fault, hgeo, Bool.not_eq_true _ ▸ hformat⟩
          have hstopped : MapOutcome c (some v) container s _ := .unforeseen hkey hv hbreaks hgeo
          rw [mapsKey?_runs hkey] at hstopped
          exact hstopped

end Outcome

/-- a geotag with a longitude beyond the floating-point numbers -/
def remote : Json := .object [("geometry", .object [("coordinates", .list [.int (10 ^ 330), .int 1])])]

theorem remote_breaks [Room] : Geo.Breaks remote := by
  have hlarge : Double.limit ≤ |((10 ^ 330 : Int) : Rat)| := by
    have hpow : (2 : Rat) ^ (1024 : Int) ≤ (10 : Rat) ^ 330 := by exact_mod_cast Double.two_pow_1024_le
    rw [Int.cast_pow, abs_of_nonneg (by positivity)]
    exact Double.limit_bounds.2.le.trans hpow
  have hwhole : Geo.HasFeature remote _ := .intro (.value nofun) (.whole nofun)
  exact .longitude hwhole ⟨_, rfl, rfl⟩ (.inl hlarge)

section Sample

attribute [local instance] Room.usual

/-- **A longitude that is too large** stops the conversion, where one that is no number only gives a warning. -/
theorem map_unforeseen : ¬ ∀ geotag : Option Json, (∃ found, Geo.ofGeotag geotag = .ok found) ∨
    ∃ fault, Geo.ofGeotag geotag = .error fault ∧ Geo.isFormatFault fault = true := by
  intro h
  obtain ⟨fault, hfault, hformat⟩ := Geo.escapes_ofGeotag_iff.2 remote_breaks
  rcases h (some remote) with ⟨found, hfound⟩ | ⟨fault', hfault', hformat'⟩
  · cases hfault.symm.trans hfound
  · cases hfault.symm.trans hfault'
    cases hformat.symm.trans hformat'

end Sample

end AmpArticle.Page
