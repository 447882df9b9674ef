import AmpArticle.Geo.Position
import AmpArticle.Proofs.Css.Quantities
import AmpArticle.Proofs.Json.Written

/-!
Geotags that cannot be read. A malformed geotag should either have no position or be blamed for its format. Three things
are not foreseen: texts and values that pass a limit while they are read or quoted, features that are no sequence, of
which the first is asked for all the same, and coordinates that are whole numbers too large for a floating-point number.

Results:
- `ofGeotag_some_iff`: which geotags have a position, and which one;
- `escapes_ofGeotag_iff`: these failures are not blamed on the format, and no others.
-/

namespace AmpArticle.Geo

open Css (TooLarge)

/-! ## What a geotag says -/

/-- a geotag is a value, or the text of one -/
inductive Denotes [Room] : Json → Json → Prop where
  | value {v : Json} : (∀ s, v ≠ .text s) → Denotes v v
  | text {s : String} {v : Json} : Json.load .geotagText s = .ok v → Denotes (.text s) v

/-- whether an object is a collection of features -/
def IsCollection (entries : List (String × Json)) : Prop :=
  lookup? "type" entries = some (.text "FeatureCollection")

/-- the feature that counts: the object itself, or the first of its features -/
inductive Counts (entries : List (String × Json)) : List (String × Json) → Prop where
  | whole : ¬ IsCollection entries → Counts entries entries
  | first {feature : List (String × Json)} {rest : List Json} : IsCollection entries →
    lookup? "features" entries = some (.list (.object feature :: rest)) → Counts entries feature

/-- a geotag has a feature that counts -/
inductive HasFeature [Room] (geotag : Json) (feature : List (String × Json)) : Prop where
  | intro {entries : List (String × Json)} : Denotes geotag (.object entries) → Counts entries feature →
    HasFeature geotag feature

/-- the coordinates of a feature: two values, and perhaps more behind them -/
def HasCoordinates (feature : List (String × Json)) (x y : Json) (rest : List Json) : Prop :=
  ∃ geometry, lookup? "geometry" feature = some (.object geometry) ∧
    lookup? "coordinates" geometry = some (.list (x :: y :: rest))

/-- a value that has no first item, and is not passed over as empty either -/
def Headless : Json → Prop
  | .list _ | .text _ => False
  | v => v.isTruthy = true

/-- a value that is a number or says one -/
def Numeric (v : Json) : Prop := ∃ x, v.toDouble = .ok x

/-- a coordinate that is asked for among others: it is too large, or it is no number and they cannot be quoted -/
def CoordinateBreaks [Room] (coordinates x : Json) : Prop :=
  TooLarge x ∨ ¬ Numeric x ∧ coordinates.Unwritable .coordinates

/-- a geotag that is not foreseen -/
inductive Breaks [Room] (geotag : Json) : Prop where
  /-- a text passes a limit of reading -/
  | reading {s : String} {limit : Json.Limit} : geotag = .text s →
    Json.load .geotagText s = .error (.beyond limit) → Breaks geotag
  /-- what is no object cannot be quoted -/
  | kind {v : Json} : Denotes geotag v → (∀ entries, v ≠ .object entries) → v.Unwritable .geotag → Breaks geotag
  | features {entries : List (String × Json)} {features : Json} : Denotes geotag (.object entries) →
    IsCollection entries → lookup? "features" entries = some features → Headless features → Breaks geotag
  | longitude {feature : List (String × Json)} {x y : Json} {rest : List Json} : HasFeature geotag feature →
    HasCoordinates feature x y rest → CoordinateBreaks (.list (x :: y :: rest)) x → Breaks geotag
  | latitude {feature : List (String × Json)} {x y : Json} {rest : List Json} : HasFeature geotag feature →
    HasCoordinates feature x y rest → Numeric x → CoordinateBreaks (.list (x :: y :: rest)) y → Breaks geotag

/-- a failure that is not blamed on the format -/
def Escapes {α : Type} (r : Except Fault α) : Prop := ∃ fault, r = .error fault ∧ isFormatFault fault = false

section Steps

variable {α β : Type}

theorem not_escapes_ok {a : α} : ¬ Escapes (.ok a) := by
  rintro ⟨fault, h, -⟩
  cases h

theorem escapes_error_iff {fault : Fault} : Escapes (.error fault : Except Fault α) ↔ isFormatFault fault = false := by
  constructor
  · rintro ⟨fault', h, hfault⟩
    cases h
    exact hfault
  · intro h
    exact ⟨fault, rfl, h⟩

theorem escapes_bind_iff {x : Except Fault α} {f : α → Except Fault β} :
    Escapes (x >>= f) ↔ Escapes x ∨ ∃ a, x = .ok a ∧ Escapes (f a) := by
  cases x with
  | error fault =>
    constructor
    · intro h
      exact .inl (escapes_error_iff.2 (escapes_error_iff.1 h))
    · rintro (h | ⟨a, ha, -⟩)
      · exact escapes_error_iff.2 (escapes_error_iff.1 h)
      · cases ha
  | ok a =>
    constructor
    · intro h
      exact .inr ⟨a, rfl, h⟩
    · rintro (h | ⟨b, hb, h⟩)
      · exact absurd h not_escapes_ok
      · cases hb
        exact h

end Steps

variable {geotag x y features : Json} {rest : List Json} {entries feature : List (String × Json)} {p : Position}

/-! ## Decoding -/

section Decoding

variable [Room] {place : Place} {v : Json}

/-- what is blamed on the format is blamed, unless it cannot be quoted -/
theorem escapes_plainAt_iff {α : Type} {fault : Fault} (hfault : isFormatFault fault = true) :
    Escapes (v.plainAt place >>= fun _ => .error fault : Except Fault α) ↔ v.Unwritable place := by
  have hblamed : ¬ Escapes (.error fault : Except Fault α) := by
    rw [escapes_error_iff, hfault]
    simp
  rw [escapes_bind_iff, Json.plainAt]
  by_cases hv : v.Unwritable place
  · obtain ⟨limit, hlimit⟩ := Json.writtenAt_of_unwritable Json.plain hv
    rw [hlimit]
    exact iff_of_true (.inl (escapes_error_iff.2 rfl)) hv
  · rw [Json.writtenAt_of_not_unwritable hv]
    exact iff_of_false (by simp [not_escapes_ok, hblamed]) hv

theorem valueOf_ok_iff : valueOf geotag = .ok v ↔ Denotes geotag v := by
  constructor
  · intro h
    cases geotag with
    | text s => exact .text (mapError_ok_iff.1 h)
    | _ =>
      cases h
      exact .value (by simp)
  · rintro (hnone | hread)
    · unfold valueOf
      split
      · exact absurd rfl (hnone _)
      · rfl
    · exact mapError_ok_iff.2 hread

theorem escapes_valueOf_iff : Escapes (valueOf geotag) ↔
    ∃ s limit, geotag = .text s ∧ Json.load .geotagText s = .error (.beyond limit) := by
  cases geotag with
  | text s =>
    show Escapes ((Json.load .geotagText s).mapError _) ↔ _
    cases hread : Json.load .geotagText s with
    | ok v => exact iff_of_false not_escapes_ok (by simp [hread])
    | error unread =>
      rw [Except.mapError, escapes_error_iff]
      cases unread <;> simp [Json.Unread.fault, isFormatFault, hread]
  | _ => exact iff_of_false not_escapes_ok (by simp)

theorem entriesOf_ok_iff : entriesOf v = .ok entries ↔ v = .object entries := by
  constructor
  · intro h
    unfold entriesOf at h
    split at h
    · cases h
      rfl
    · obtain ⟨_, -, h⟩ := bind_ok_iff.1 h
      cases h
  · rintro rfl
    rfl

theorem escapes_entriesOf_iff : Escapes (entriesOf v) ↔ (∀ entries, v ≠ .object entries) ∧ v.Unwritable .geotag := by
  unfold entriesOf
  split
  · exact iff_of_false not_escapes_ok (by simp)
  · rename_i hkind
    rw [and_iff_right hkind]
    exact escapes_plainAt_iff rfl

theorem decode_ok_iff : decode geotag = .ok entries ↔ Denotes geotag (.object entries) := by
  simp only [decode, bind_ok_iff, valueOf_ok_iff, entriesOf_ok_iff, exists_eq_right]

theorem escapes_decode_iff : Escapes (decode geotag) ↔
    (∃ s limit, geotag = .text s ∧ Json.load .geotagText s = .error (.beyond limit)) ∨
      ∃ v, Denotes geotag v ∧ (∀ entries, v ≠ .object entries) ∧ v.Unwritable .geotag := by
  simp only [decode, escapes_bind_iff, escapes_valueOf_iff, valueOf_ok_iff, escapes_entriesOf_iff]

end Decoding

/-! ## Features -/

theorem firstFeature?_some_iff :
    firstFeature? features = .ok (some feature) ↔ ∃ rest, features = .list (.object feature :: rest) := by
  constructor
  · intro h
    unfold firstFeature? at h
    split_ifs at h with hempty
    · cases h
    · split at h
      · cases h
        exact ⟨_, rfl⟩
      all_goals cases h
  · rintro ⟨rest, rfl⟩
    rfl

theorem escapes_firstFeature?_iff : Escapes (firstFeature? features) ↔ Headless features := by
  unfold firstFeature?
  split_ifs with hempty
  · refine iff_of_false not_escapes_ok fun h => ?_
    cases features <;> simp_all [Headless]
  · split
    · exact iff_of_false not_escapes_ok id
    · exact iff_of_false not_escapes_ok id
    · exact iff_of_false not_escapes_ok id
    · exact iff_of_true (escapes_error_iff.2 rfl) (by simpa [Headless] using hempty)
    · refine iff_of_true (escapes_error_iff.2 rfl) ?_
      cases features <;> simp_all [Headless]

/-- what is said of the features of a collection; there may be none at all -/
theorem feature?_collection (h : IsCollection entries) :
    feature? entries = firstFeature? ((lookup? "features" entries).getD .null) := by
  unfold feature?
  split
  · rfl
  · rename_i hother
    exact absurd h hother

theorem feature?_whole (h : ¬ IsCollection entries) : feature? entries = .ok (some entries) := by
  unfold feature?
  split
  · rename_i hcollection
    exact absurd hcollection h
  · rfl

theorem feature?_some_iff : feature? entries = .ok (some feature) ↔ Counts entries feature := by
  by_cases hcollection : IsCollection entries
  · rw [feature?_collection hcollection, firstFeature?_some_iff]
    constructor
    · rintro ⟨rest, hrest⟩
      cases hfeatures : lookup? "features" entries with
      | none =>
        rw [hfeatures] at hrest
        cases hrest
      | some features =>
        rw [hfeatures] at hrest
        exact .first hcollection (hfeatures.trans (congrArg some hrest))
    · rintro (hwhole | ⟨-, hfeatures⟩)
      · exact absurd hcollection hwhole
      · exact ⟨_, by rw [hfeatures]; rfl⟩
  · rw [feature?_whole hcollection]
    constructor
    · intro h
      cases h
      exact .whole hcollection
    · rintro (- | ⟨hcollection', -⟩)
      · rfl
      · exact absurd hcollection' hcollection

theorem escapes_feature?_iff : Escapes (feature? entries) ↔
    IsCollection entries ∧ ∃ features, lookup? "features" entries = some features ∧ Headless features := by
  by_cases hcollection : IsCollection entries
  · rw [feature?_collection hcollection, escapes_firstFeature?_iff, and_iff_right hcollection]
    cases lookup? "features" entries with
    | none => simp [Headless, Json.isTruthy]
    | some features => simp
  · rw [feature?_whole hcollection]
    exact iff_of_false not_escapes_ok fun h => hcollection h.1

/-! ## Coordinates -/

section Coordinate

variable [Room] {coordinates : Json} {d : Double}

theorem coordinate_large (h : TooLarge x) : coordinate coordinates x = .error .intTooLarge := by
  cases x with
  | int n => simp only [coordinate, Json.toDouble, Css.toDouble_int, if_pos (show Double.limit ≤ |(n : Rat)| from h)]
  | _ => cases h

theorem coordinate_number (h : x.toDouble = .ok d) : coordinate coordinates x = .ok d := by
  rw [coordinate, h]

theorem coordinate_other (hlarge : ¬ TooLarge x) (h : ¬ Numeric x) : coordinate coordinates x =
    coordinates.plainAt .coordinates >>= fun _ => .error (.geotagCoordinates coordinates) := by
  cases x with
  | int n =>
    refine absurd ⟨Double.ofInt n, ?_⟩ h
    rw [Json.toDouble, Css.toDouble_int, if_neg (show ¬ Double.limit ≤ |(n : Rat)| from hlarge)]
  | text s =>
    cases hs : Double.ofText? s with
    | some d => exact absurd ⟨d, by rw [Json.toDouble, hs]⟩ h
    | none =>
      rw [coordinate, Json.toDouble, hs]
      rfl
  | bool b => exact absurd ⟨_, rfl⟩ h
  | real d => exact absurd ⟨_, rfl⟩ h
  | _ => rfl

theorem coordinate_ok_iff : coordinate coordinates x = .ok d ↔ x.toDouble = .ok d := by
  by_cases hnumeric : Numeric x
  · obtain ⟨d', hd'⟩ := hnumeric
    rw [coordinate_number hd', hd']
  · refine iff_of_false (fun h => ?_) fun h => hnumeric ⟨d, h⟩
    by_cases hlarge : TooLarge x
    · rw [coordinate_large hlarge] at h
      cases h
    · rw [coordinate_other hlarge hnumeric] at h
      obtain ⟨_, -, h⟩ := bind_ok_iff.1 h
      cases h

theorem escapes_coordinate_iff : Escapes (coordinate coordinates x) ↔ CoordinateBreaks coordinates x := by
  by_cases hlarge : TooLarge x
  · rw [coordinate_large hlarge]
    exact iff_of_true (escapes_error_iff.2 rfl) (.inl hlarge)
  · by_cases hnumeric : Numeric x
    · obtain ⟨d, hd⟩ := hnumeric
      rw [coordinate_number hd]
      exact iff_of_false not_escapes_ok (by rintro (h | ⟨h, -⟩) <;> [exact hlarge h; exact h ⟨d, hd⟩])
    · rw [coordinate_other hlarge hnumeric, CoordinateBreaks, or_iff_right hlarge, and_iff_right hnumeric]
      exact escapes_plainAt_iff rfl

end Coordinate

section Read

variable [Room]

theorem position?_coordinates (h : HasCoordinates feature x y rest) : position? feature =
    coordinate (.list (x :: y :: rest)) x >>= fun longitude =>
      coordinate (.list (x :: y :: rest)) y >>= fun latitude => .ok (some ⟨longitude, latitude⟩) := by
  obtain ⟨geometry, hgeometry, hcoordinates⟩ := h
  unfold position?
  rw [hgeometry]
  dsimp only
  rw [hcoordinates]
  rfl

theorem coordinates_or_none (feature : List (String × Json)) :
    (∃ x y rest, HasCoordinates feature x y rest) ∨ position? feature = .ok none := by
  unfold position?
  split
  · rename_i geometry hgeometry
    split
    · rename_i x y rest hcoordinates
      exact .inl ⟨x, y, rest, geometry, hgeometry, hcoordinates⟩
    · exact .inr rfl
  · exact .inr rfl

theorem position?_some_iff : position? feature = .ok (some p) ↔
    ∃ x y rest, HasCoordinates feature x y rest ∧ x.toDouble = .ok p.longitude ∧ y.toDouble = .ok p.latitude := by
  have hvalues {x y : Json} {rest : List Json} (h : HasCoordinates feature x y rest) :
      position? feature = .ok (some p) ↔ x.toDouble = .ok p.longitude ∧ y.toDouble = .ok p.latitude := by
    rw [position?_coordinates h]
    simp only [bind_ok_iff, coordinate_ok_iff, Except.ok.injEq, Option.some.injEq]
    constructor
    · rintro ⟨longitude, hx, latitude, hy, rfl⟩
      exact ⟨hx, hy⟩
    · rintro ⟨hx, hy⟩
      exact ⟨_, hx, _, hy, rfl⟩
  constructor
  · intro h
    rcases coordinates_or_none feature with ⟨x, y, rest, hxy⟩ | hnone
    · exact ⟨x, y, rest, hxy, (hvalues hxy).1 h⟩
    · rw [hnone] at h
      cases h
  · rintro ⟨x, y, rest, hxy, h⟩
    exact (hvalues hxy).2 h

theorem escapes_position?_iff (h : HasCoordinates feature x y rest) : Escapes (position? feature) ↔
    CoordinateBreaks (.list (x :: y :: rest)) x ∨ Numeric x ∧ CoordinateBreaks (.list (x :: y :: rest)) y := by
  rw [position?_coordinates h]
  simp only [escapes_bind_iff, escapes_coordinate_iff, coordinate_ok_iff, not_escapes_ok, and_false, exists_false,
    or_false, exists_and_right, Numeric]

/-! ## Geotags -/

theorem ofGeotag_eq (h : geotag ≠ .null) : ofGeotag (some geotag) = decode geotag >>= fun entries =>
    feature? entries >>= fun found => match found with
      | some feature => position? feature
      | none => .ok none := by
  cases geotag with
  | null => exact absurd rfl h
  | _ => rfl

theorem Denotes.ne_null (h : Denotes geotag (.object entries)) : geotag ≠ .null := by
  rintro rfl
  cases h

theorem ofGeotag_feature (h : HasFeature geotag feature) : ofGeotag (some geotag) = position? feature := by
  obtain ⟨hentries, hfeature⟩ := h
  rw [ofGeotag_eq hentries.ne_null, decode_ok_iff.2 hentries]
  show (feature? _ >>= _) = _
  rw [feature?_some_iff.2 hfeature]
  rfl

/-- **Which geotags have a position.** -/
theorem ofGeotag_some_iff : ofGeotag (some geotag) = .ok (some p) ↔ ∃ feature x y rest, HasFeature geotag feature ∧
    HasCoordinates feature x y rest ∧ x.toDouble = .ok p.longitude ∧ y.toDouble = .ok p.latitude := by
  constructor
  · intro h
    have hnull : geotag ≠ .null := by
      rintro rfl
      cases h
    rw [ofGeotag_eq hnull] at h
    obtain ⟨entries, hentries, h⟩ := bind_ok_iff.1 h
    obtain ⟨_ | feature, hfound, h⟩ := bind_ok_iff.1 h
    · cases h
    · obtain ⟨x, y, rest, hxy, hvalues⟩ := position?_some_iff.1 h
      exact ⟨feature, x, y, rest, ⟨decode_ok_iff.1 hentries, feature?_some_iff.1 hfound⟩, hxy, hvalues⟩
  · rintro ⟨feature, x, y, rest, hfeature, hxy, hvalues⟩
    rw [ofGeotag_feature hfeature]
    exact position?_some_iff.2 ⟨x, y, rest, hxy, hvalues⟩

theorem not_breaks_null : ¬ Breaks .null := by
  rintro (⟨hs, -⟩ | ⟨hv, -, hunwritable⟩ | ⟨hentries, -, -, -⟩ | ⟨⟨hentries, -⟩, -, -⟩ | ⟨⟨hentries, -⟩, -, -, -⟩)
  · cases hs
  · cases hv
    exact Json.not_exceeds_null hunwritable
  all_goals cases hentries

/-- **Which geotags cannot be read.** -/
theorem escapes_ofGeotag_iff : Escapes (ofGeotag (some geotag)) ↔ Breaks geotag := by
  by_cases hnull : geotag = .null
  · subst hnull
    exact iff_of_false not_escapes_ok not_breaks_null
  constructor
  · intro h
    rw [ofGeotag_eq hnull] at h
    rcases escapes_bind_iff.1 h with h | ⟨entries, hentries, h⟩
    · rcases escapes_decode_iff.1 h with ⟨s, limit, hs, hread⟩ | ⟨v, hv, hkind, hunwritable⟩
      · exact .reading hs hread
      · exact .kind hv hkind hunwritable
    · have hentries := decode_ok_iff.1 hentries
      rcases escapes_bind_iff.1 h with h | ⟨_ | feature, hfeature, h⟩
      · obtain ⟨hcollection, features, hfeatures, hheadless⟩ := escapes_feature?_iff.1 h
        exact .features hentries hcollection hfeatures hheadless
      · exact absurd h not_escapes_ok
      · have hfeature : HasFeature geotag feature := ⟨hentries, feature?_some_iff.1 hfeature⟩
        rcases coordinates_or_none feature with ⟨x, y, rest, hxy⟩ | hnone
        · rcases (escapes_position?_iff hxy).1 h with hx | ⟨hx, hy⟩
          · exact .longitude hfeature hxy hx
          · exact .latitude hfeature hxy hx hy
        · replace h : Escapes (position? feature) := h
          rw [hnone] at h
          exact absurd h not_escapes_ok
  · have hdecode (h : Escapes (decode geotag)) : Escapes (ofGeotag (some geotag)) := by
      rw [ofGeotag_eq hnull]
      exact escapes_bind_iff.2 (.inl h)
    rintro (⟨hs, hread⟩ | ⟨hv, hkind, hunwritable⟩ | ⟨hentries, hcollection, hfeatures, hheadless⟩ |
      ⟨hfeature, hxy, hx⟩ | ⟨hfeature, hxy, hx, hy⟩)
    · exact hdecode (escapes_decode_iff.2 (.inl ⟨_, _, hs, hread⟩))
    · exact hdecode (escapes_decode_iff.2 (.inr ⟨_, hv, hkind, hunwritable⟩))
    · rw [ofGeotag_eq hnull]
      exact escapes_bind_iff.2 (.inr ⟨_, decode_ok_iff.2 hentries, escapes_bind_iff.2 (.inl
        (escapes_feature?_iff.2 ⟨hcollection, _, hfeatures, hheadless⟩))⟩)
    · rw [ofGeotag_feature hfeature]
      exact (escapes_position?_iff hxy).2 (.inl hx)
    · rw [ofGeotag_feature hfeature]
      exact (escapes_position?_iff hxy).2 (.inr ⟨hx, hy⟩)

end Read

end AmpArticle.Geo
