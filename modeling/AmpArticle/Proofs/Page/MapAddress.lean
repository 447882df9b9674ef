import AmpArticle.Proofs.Page.Media
import AmpArticle.Proofs.Url.Form

/-!
The address of a map. Its query is read as a form is, and then it tells the key and the position again: the key
whatever it is written with, and the position as the texts of latitude and longitude, in this order.

Results:
- `mapsKey?_run`: without filters the key is the one that is set;
- `map_query`: what the address of the frame says that is built for a map.
-/

namespace AmpArticle.Page

open Markup (Element isAllowedText)

variable {c : Setting} {s t : State} {geotag : Option Json} {position : Geo.Position} {key : String}

/-- without filters the key is the one that is set, unless it is empty -/
theorem mapsKey?_run (h : s.observer.registry.at_ .mapsApiKey = []) :
    (mapsKey? c).run.run s = (.ok (present? c.properties.mapsKey), s) := by
  unfold mapsKey?
  rw [run_bind, filter_run h]
  cases c.properties.mapsKey with
  | none => rfl
  | some key =>
    by_cases hkey : key.isEmpty = true
    · simp only [present?, Option.filter, Json.isTruthy, hkey]
      rfl
    · simp only [present?, Option.filter, Json.isTruthy, Json.plain, hkey]
      rfl

/-- **The query of a map** is read as the key and the position, latitude first. -/
theorem mapAddress_query (key : String) (position : Geo.Position) : ∃ q,
    mapAddress key position = mapsAddress ++ "?" ++ q ∧
      Url.formPairs? q = some [("key", key),
        ("q", Layout.literal.render position.latitude ++ "," ++ Layout.literal.render position.longitude)] :=
  ⟨_, rfl, Url.formPairs?_query (List.cons_ne_nil _ _)⟩

/-- what is built around an element: the element itself, or the figure that it has with a caption -/
def built (p : String) (e : Element) : Option Caption → Built
  | none => .ofElement e
  | some cap => .ofElement (captionFigure p e cap)

theorem figure_built {e : Element} {o : Option Caption} {b : Built} {u : State} (h : Runs (figure e o) t b u) :
    b = built t.classPrefix e o := by
  cases o with
  | none => exact (runs_pure.1 h).1.symm
  | some cap =>
    unfold Runs at h
    by_cases hallowed : isAllowedText t.classPrefix = true
    · rw [figure_run e cap hallowed] at h
      split at h
      · cases h
        rfl
      · cases h
    · rw [figure_forbidden e cap (Bool.not_eq_true _ ▸ hallowed)] at h
      cases h

/-- a map with a key and a position is the frame for its address -/
theorem map_built [Room] (hkey : Runs (mapsKey? c) s (some key) t) (hposition : Geo.ofGeotag geotag = .ok (some position)) :
    ((∃ u, Runs (map c ⟨geotag, none⟩) s (.ofElement (mapFrame s.classPrefix key position)) u) ↔
      isAllowedText s.classPrefix = true) ∧
    ∀ o b u, Runs (map c ⟨geotag, o⟩) s b u → b = built s.classPrefix (mapFrame s.classPrefix key position) o := by
  have hkept : t.classPrefix = s.classPrefix := by rw [← mapsKey?_runs hkey]
  constructor
  · unfold Runs
    rw [map_run hkey hposition none, run_bind, mapFrame_run, hkept]
    by_cases hallowed : isAllowedText s.classPrefix = true
    · rw [if_pos hallowed]
      exact iff_of_true ⟨_, rfl⟩ hallowed
    · rw [if_neg hallowed]
      refine iff_of_false ?_ hallowed
      rintro ⟨u, ⟨⟩⟩
  · intro o b u h
    unfold Runs at h
    rw [map_run hkey hposition o] at h
    obtain ⟨e, v, hframe, hfigure⟩ := runs_bind.1 h
    unfold Runs at hframe
    rw [mapFrame_run] at hframe
    split_ifs at hframe
    · cases hframe
      rw [figure_built hfigure]
      dsimp only
      rw [hkept]
    · cases hframe

/-- **The address of a map tells its key and its position.** Without filters the key is the one that is set, unless it
is empty; with them it is the one that they leave. The frame that is built then has an address whose query is read as
that key, and as latitude and longitude of the geotag, whatever the key is written with and whatever the two are. -/
theorem map_query [Room] (c : Setting) (s : State) (hposition : Geo.ofGeotag geotag = .ok (some position)) :
    (∀ key, present? c.properties.mapsKey = some key → s.observer.registry.at_ .mapsApiKey = [] →
      Runs (mapsKey? c) s (some key) s) ∧
    ∀ key t, Runs (mapsKey? c) s (some key) t →
      (∃ q, (mapFrame s.classPrefix key position).attribute? "src" = some (mapsAddress ++ "?" ++ q) ∧
        Url.formPairs? q = some [("key", key),
          ("q", Layout.literal.render position.latitude ++ "," ++ Layout.literal.render position.longitude)]) ∧
      ((∃ u, Runs (map c ⟨geotag, none⟩) s (.ofElement (mapFrame s.classPrefix key position)) u) ↔
        isAllowedText s.classPrefix = true) ∧
      ∀ o b u, Runs (map c ⟨geotag, o⟩) s b u → b = built s.classPrefix (mapFrame s.classPrefix key position) o := by
  refine ⟨fun key hkey hfilters => ?_, fun key t hkey => ⟨?_, map_built hkey hposition⟩⟩
  · rw [Runs, mapsKey?_run hfilters, hkey]
  · obtain ⟨q, haddress, hquery⟩ := mapAddress_query key position
    exact ⟨q, congrArg some haddress, hquery⟩

/-- a collection of one feature, at 1.5 degrees east and 22 degrees south -/
def southernGeotag : Json := .object [("type", .text "FeatureCollection"), ("features", .list [.object
  [("geometry", .object [("coordinates", .list [.real (.finite false (3 * 2 ^ 51) (-52)), .int (-22)])])]])]

/-- its position -/
def southernPosition : Geo.Position := ⟨.finite false (3 * 2 ^ 51) (-52), .finite true (22 * 2 ^ 48) (-48)⟩

/-- a setting with a key full of what separates the parts of a query -/
def separatingKey : Setting :=
  { (default : Setting) with properties := { Properties.usual with mapsKey := some "a b&q=%2B+é" } }

section Sample

attribute [local instance] Room.usual

theorem map_query_southern : Geo.ofGeotag (some southernGeotag) = .ok (some southernPosition) ∧ ∃ t q,
    Runs (mapsKey? separatingKey) (.start "p-" .empty) (some "a b&q=%2B+é") t ∧
    (mapFrame "p-" "a b&q=%2B+é" southernPosition).attribute? "src" = some (mapsAddress ++ "?" ++ q) ∧
    q = "key=a+b%26q%3D%252B%2B%C3%A9&q=-22.0%2C1.5" ∧
    Url.formPairs? q = some [("key", "a b&q=%2B+é"), ("q", "-22.0,1.5")] := by
  have hposition : Geo.ofGeotag (some southernGeotag) = .ok (some southernPosition) := by
    have hfound : (Geo.ofGeotag (some southernGeotag)).toOption = some (some southernPosition) := by decide +kernel
    cases hgeo : Geo.ofGeotag (some southernGeotag) with
    | error fault =>
      rw [hgeo] at hfound
      cases hfound
    | ok found =>
      rw [hgeo] at hfound
      exact congrArg Except.ok (Option.some.inj hfound)
  obtain ⟨hset, hread⟩ := map_query separatingKey (.start "p-" .empty) hposition
  have hkey := hset "a b&q=%2B+é" rfl rfl
  obtain ⟨⟨q, hsource, hpairs⟩, -, -⟩ := hread _ _ hkey
  have hquery : q = "key=a+b%26q%3D%252B%2B%C3%A9&q=-22.0%2C1.5" := by
    have haddress : mapAddress "a b&q=%2B+é" southernPosition =
        mapsAddress ++ "?" ++ "key=a+b%26q%3D%252B%2B%C3%A9&q=-22.0%2C1.5" := by decide +kernel
    exact (String.append_right_inj _).1 ((Option.some.inj hsource).symm.trans haddress)
  refine ⟨hposition, _, q, hkey, hsource, hquery, hpairs.trans ?_⟩
  decide +kernel

end Sample

end AmpArticle.Page
