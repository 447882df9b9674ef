import AmpArticle.Proofs.Css.Rules
import AmpArticle.Proofs.Css.Selectors
import AmpArticle.Proofs.Entries
import Mathlib.Data.List.Pairwise

/-!
A description is the direct sum of its keys, and a text style that of its own: what is read from an object is what is
read from its keys one by one, since no key looks at another one's entry and no two keys share a selector, or a
property under it.

Results:
- `Reading.Local`: objects that are read key by key, each key from its own entry alone;
- `compile_direct_sum`: descriptions and their text styles.
-/

namespace AmpArticle.Css

open Drafting

namespace Draft

/-- the messages of the warnings of a draft -/
def messages (d : Draft) : List String := d.warnings.map Warning.message

/-- drafts with the same declarations and the same messages -/
def Alike (d e : Draft) : Prop := d.declarations = e.declarations ∧ d.messages = e.messages

theorem join_messages (ds : List Draft) : (join ds).messages = ds.flatMap messages := by
  simp only [messages, join_warnings, List.map_flatMap]
  rfl

end Draft

/-! ## Objects read key by key -/

/-- the entries of an object under some keys, in the order of the keys -/
def present (names : List String) (entries : List (String × Json)) : List (String × Json) :=
  names.filterMap fun name => (lookup? name entries).map fun v => (name, v)

/-- keys of an object, each with its name, how it is read and which declarations are its own -/
structure Reading (κ : Type) where
  keys : List κ
  name : κ → String
  read : κ → List (String × Json) → Drafting Unit
  kind : κ → Declaration → Prop

namespace Reading

variable {κ β : Type} {r : Reading κ} {entries : List (String × Json)} {d : Draft} {k : κ}

/-- the whole object, key by key -/
def whole (r : Reading κ) (entries : List (String × Json)) : Drafting Unit := r.keys.forM fun k => r.read k entries

/-- what an object with a single entry adds -/
def part (r : Reading κ) (entry : String × Json) : Draft := added (r.whole [entry])

/-- what the object with only the entry of a key adds -/
def piece (r : Reading κ) (entries : List (String × Json)) (k : κ) : Draft :=
  match lookup? (r.name k) entries with
  | some v => r.part (r.name k, v)
  | none => .empty

/-- every key is read from its own entry alone -/
structure Local (r : Reading κ) : Prop where
  distinct : (r.keys.map r.name).Nodup
  appends : ∀ k ∈ r.keys, ∀ entries, Appends (r.kind k) (r.read k entries)
  absent : ∀ k ∈ r.keys, ∀ entries, lookup? (r.name k) entries = none → Gives (r.read k entries) () .empty
  alone : ∀ k ∈ r.keys, ∀ entries v, lookup? (r.name k) entries = some v → Works (r.read k entries) →
    Works (r.read k [(r.name k, v)]) ∧ (added (r.read k entries)).Alike (added (r.read k [(r.name k, v)]))

theorem Local.nodup (h : r.Local) : r.keys.Nodup := h.distinct.of_map r.name

theorem Local.name_injective (h : r.Local) {k' : κ} (hk : k ∈ r.keys) (hk' : k' ∈ r.keys)
    (hname : r.name k' = r.name k) : k' = k := List.inj_on_of_nodup_map h.distinct hk' hk hname

/-- an object with a single entry is read as the key of that entry is -/
theorem Local.whole_single (h : r.Local) (hk : k ∈ r.keys) {v : Json} (hworks : Works (r.read k [(r.name k, v)])) :
    Gives (r.whole [(r.name k, v)]) () (added (r.read k [(r.name k, v)])) := by
  obtain ⟨⟨⟩, hgives⟩ := gives_added hworks
  refine forM_gives_single h.nodup hk hgives fun k' hk' hne => h.absent k' hk' _ (lookup?_single_of_ne ?_)
  exact fun hname => hne (h.name_injective hk hk' hname.symm)

section Whole

variable (h : r.Local) (hgives : Gives (r.whole entries) () d)
include h hgives

theorem Local.whole_iff : (∀ k ∈ r.keys, Works (r.read k entries)) ∧
    d = Draft.join (r.keys.map fun k => added (r.read k entries)) :=
  (forM_gives_iff fun k hk => appends_mono (q := fun _ => True) (h.appends k hk entries) fun _ _ => trivial).1 hgives

/-- what a key adds to the whole is what it adds alone -/
theorem Local.piece_alike (hk : k ∈ r.keys) : (added (r.read k entries)).Alike (r.piece entries k) := by
  rw [piece]
  split
  · rename_i v hv
    obtain ⟨hworks, halike⟩ := h.alone k hk entries v hv ((h.whole_iff hgives).1 k hk)
    rw [part, added_eq (h.whole_single hk hworks)]
    exact halike
  · rename_i hv
    rw [added_eq (h.absent k hk entries hv)]
    exact ⟨rfl, rfl⟩

/-- the object with only the entry of a key can be read -/
theorem Local.part_works {e : String × Json} (he : e ∈ present (r.keys.map r.name) entries) :
    Gives (r.whole [e]) () (r.part e) := by
  obtain ⟨name, hname, hentry⟩ := List.mem_filterMap.1 he
  obtain ⟨k, hk, rfl⟩ := List.mem_map.1 hname
  obtain ⟨v, hv, rfl⟩ := Option.map_eq_some_iff.1 hentry
  obtain ⟨hworks, -⟩ := h.alone k hk entries v hv ((h.whole_iff hgives).1 k hk)
  have hsingle := h.whole_single hk hworks
  rwa [part, added_eq hsingle]

theorem Local.declarations_eq : d.declarations = r.keys.flatMap fun k => (r.piece entries k).declarations := by
  rw [(h.whole_iff hgives).2, Draft.join_declarations, List.flatMap_map]
  exact List.flatMap_congr fun k hk => (h.piece_alike hgives hk).1

theorem Local.messages_eq : d.messages = r.keys.flatMap fun k => (r.piece entries k).messages := by
  rw [(h.whole_iff hgives).2, Draft.join_messages, List.flatMap_map]
  exact List.flatMap_congr fun k hk => (h.piece_alike hgives hk).2

/-- the declarations of a key are its own -/
theorem Local.piece_kind (hk : k ∈ r.keys) : ∀ w ∈ (r.piece entries k).declarations, r.kind k w := by
  obtain ⟨⟨⟩, hread⟩ := gives_added ((h.whole_iff hgives).1 k hk)
  rw [← (h.piece_alike hgives hk).1]
  exact gives_declarations (h.appends k hk entries) hread

end Whole

/-- what is taken from every piece, piece by piece -/
theorem flatMap_piece {F : Draft → List β} (hF : F .empty = []) : (r.keys.flatMap fun k => F (r.piece entries k)) =
    (present (r.keys.map r.name) entries).flatMap fun e => F (r.part e) := by
  induction r.keys with
  | nil => rfl
  | cons k keys ih =>
    rw [List.flatMap_cons, List.map_cons, ih, piece]
    cases hv : lookup? (r.name k) entries with
    | none => simp [present, hv, hF]
    | some v => simp [present, hv]

/-- `flatMap_piece` for texts -/
theorem joinWith_piece {F : Draft → String} (hF : F .empty = "") :
    Text.joinWith "" (r.keys.map fun k => F (r.piece entries k)) =
      Text.joinWith "" ((present (r.keys.map r.name) entries).map fun e => F (r.part e)) := by
  induction r.keys with
  | nil => rfl
  | cons k keys ih =>
    rw [List.map_cons, List.map_cons, joinWith_cons, ih, piece]
    cases hv : lookup? (r.name k) entries with
    | none => simp [present, hv, hF]
    | some v => simp [present, hv, joinWith_cons]

end Reading

/-! ## What belongs to one key only -/

section Own

variable {κ β : Type} {ks : List κ} {k : κ}

/-- a list of which only one element gives anything -/
theorem flatMap_single {f : κ → List β} (hnodup : ks.Nodup) (hk : k ∈ ks) (h : ∀ k' ∈ ks, k' ≠ k → f k' = []) :
    ks.flatMap f = f k := by
  induction ks with
  | nil => cases hk
  | cons k' ks ih =>
    obtain ⟨hk', hks⟩ := List.nodup_cons.1 hnodup
    rw [List.flatMap_cons]
    rcases List.mem_cons.1 hk with rfl | hk
    · have hnone : ks.flatMap f = [] :=
        List.flatMap_eq_nil_iff.2 fun y hy => h y (List.mem_cons_of_mem _ hy) fun heq => hk' (heq ▸ hy)
      rw [hnone, List.append_nil]
    · rw [h k' List.mem_cons_self fun heq => hk' (heq ▸ hk), List.nil_append]
      exact ih hks hk fun y hy => h y (List.mem_cons_of_mem _ hy)

/-- names that no two keys share are those of one key only -/
theorem not_own_of_ne {own : κ → List String}
    (h : ks.Pairwise fun k k' => ∀ p ∈ own k, ∀ p' ∈ own k', p ≠ p') {k' : κ} (hk : k ∈ ks) (hk' : k' ∈ ks)
    (hne : k' ≠ k) {p : String} (hp : p ∈ own k) : p ∉ own k' := by
  have hsymm : Std.Symm fun k k' => ∀ p ∈ own k, ∀ p' ∈ own k', p ≠ p' :=
    ⟨fun _ _ hab p hp p' hp' => (hab p' hp' p hp).symm⟩
  exact fun hp' => h.forall hk hk' hne.symm p hp p hp' rfl

end Own

/-! ## Text styles -/

/-- the keys of a text style as the keys of its block -/
def blockReading [Room] (selector name : String) : Reading BlockKey :=
  ⟨blockKeys, BlockKey.key, fun k block => k.read ⟨selector, block, name⟩, fun k => At selector k.properties⟩

section Blocks

variable {selector name : String} {block : List (String × Json)}

theorem entry_absent {key : String} (h : lookup? key block = none) :
    TextStyle.entry ⟨selector, block, name⟩ key = .null := by
  rw [TextStyle.entry, h]
  rfl

theorem entry_alone {key : String} {v : Json} (h : lookup? key block = some v) :
    TextStyle.entry ⟨selector, [(key, v)], name⟩ key = TextStyle.entry ⟨selector, block, name⟩ key := by
  rw [TextStyle.entry, TextStyle.entry, h, lookup?_single]

variable [Room]

theorem blockKey_absent {k : BlockKey} (hk : k ∈ blockKeys) (h : lookup? k.key block = none) :
    k.read ⟨selector, block, name⟩ = pure () := by
  fin_cases hk
  · simp [TextStyle.font, h]
  · simp [TextStyle.lowerCased, h]
  · simp [TextStyle.lowerCased, h]
  · simp [TextStyle.capitalization, h]
  · simp [TextStyle.underline, entry_absent h]
  · simp [TextStyle.color, entry_absent h, color]
  · simp [TextStyle.color, entry_absent h, color]
  · simp [TextStyle.scale, h]
  · simp [TextStyle.scale, h]
  · simp [TextStyle.spacing, entry_absent h]
  · simp [TextStyle.spacing, entry_absent h]
  · simp [TextStyle.border, entry_absent h]

theorem blockKey_alone {k : BlockKey} (hk : k ∈ blockKeys) {v : Json} (h : lookup? k.key block = some v)
    (hcapitalization : k.key ≠ "capitalization") :
    k.read ⟨selector, [(k.key, v)], name⟩ = k.read ⟨selector, block, name⟩ := by
  fin_cases hk
  · simp only [TextStyle.font, h, lookup?_single, TextStyle.declare, TextStyle.place]
  · simp only [TextStyle.lowerCased, h, lookup?_single, TextStyle.declare, TextStyle.place]
  · simp only [TextStyle.lowerCased, h, lookup?_single, TextStyle.declare, TextStyle.place]
  · exact absurd rfl hcapitalization
  · simp only [TextStyle.underline, entry_alone h, TextStyle.declare]
  · simp only [TextStyle.color, entry_alone h, TextStyle.declare]
  · simp only [TextStyle.color, entry_alone h, TextStyle.declare]
  · simp only [TextStyle.scale, h, lookup?_single, TextStyle.declare]
  · simp only [TextStyle.scale, h, lookup?_single, TextStyle.declare]
  · simp only [TextStyle.spacing, entry_alone h, TextStyle.declare]
  · simp only [TextStyle.spacing, entry_alone h, TextStyle.declare]
  · simp only [TextStyle.border, entry_alone h, TextStyle.declare, TextStyle.borderSide]

/-- what becomes of a capitalization: a declaration, or a warning about the whole block -/
def capitalized (selector name : String) (v : Json) (block : List (String × Json)) :
    Option String → Drafting Unit
  | some transform => declare selector "text-transform" transform
  | none => do
    let shown ← liftM (v.plainAt (TextStyle.place ⟨selector, block, name⟩ "capitalization"))
    warn s!"Unknown capitalization in {name}: {shown}" (.object block) none

/-- the message of a capitalization is the same for every block -/
theorem capitalized_alike {selector name : String} {v : Json} {block : List (String × Json)}
    {found : Option String} (h : Works (capitalized selector name v block found)) (block' : List (String × Json)) :
    ∃ e e', Gives (capitalized selector name v block found) () e ∧
      Gives (capitalized selector name v block' found) () e' ∧ e.Alike e' := by
  cases found with
  | none =>
    cases hshown : v.plainAt (TextStyle.place ⟨selector, block, name⟩ "capitalization") with
    | error fault =>
      refine absurd h fun hworks => not_fails_of_works hworks ?_
      exact fails_bind_left (liftM_fails hshown)
    | ok shown =>
      exact ⟨_, _, gives_bind (liftM_gives hshown) (warn_gives _ _ _), gives_bind (liftM_gives hshown) (warn_gives _ _ _),
        rfl, rfl⟩
  | some transform => exact ⟨_, _, declare_gives _ _ _, declare_gives _ _ _, rfl, rfl⟩

theorem capitalization_alone {v : Json} (h : lookup? "capitalization" block = some v)
    (hworks : Works (TextStyle.capitalization ⟨selector, block, name⟩)) :
    Works (TextStyle.capitalization ⟨selector, [("capitalization", v)], name⟩) ∧
      (added (TextStyle.capitalization ⟨selector, block, name⟩)).Alike
        (added (TextStyle.capitalization ⟨selector, [("capitalization", v)], name⟩)) := by
  have hread (block : List (String × Json)) (h : lookup? "capitalization" block = some v) :
      TextStyle.capitalization ⟨selector, block, name⟩ =
        liftM (named? capitalizations v) >>= capitalized selector name v block := by
    simp only [TextStyle.capitalization, h]
    exact bind_congr fun found => by cases found <;> rfl
  rw [hread block h] at hworks ⊢
  rw [hread _ (lookup?_single _ _)]
  cases hname : named? capitalizations v with
  | error fault =>
    rw [hname] at hworks
    exact absurd (fails_bind_left (liftM_fails rfl)) (not_fails_of_works hworks)
  | ok found =>
    rw [hname] at hworks
    have hfound : Works (capitalized selector name v block found) := hworks
    obtain ⟨e, e', hgives, hgives', halike⟩ := capitalized_alike hfound [("capitalization", v)]
    have hlift : Gives (liftM (Except.ok found : Except Fault (Option String)) : Drafting (Option String)) found
        .empty := liftM_gives rfl
    rw [added_eq (gives_bind hlift hgives), added_eq (gives_bind hlift hgives')]
    exact ⟨works_of_gives (gives_bind hlift hgives'), by simpa using halike⟩

theorem blockReading_local : (blockReading selector name).Local where
  distinct := by
    show (blockKeys.map BlockKey.key).Nodup
    rw [blockKeys_keys]
    decide
  appends k hk block := blockKey_appends hk ⟨selector, block, name⟩
  absent k hk block h := by
    show Gives (k.read ⟨selector, block, name⟩) () .empty
    rw [blockKey_absent hk h]
    exact gives_pure_iff.2 ⟨rfl, rfl⟩
  alone k hk block v h hworks := by
    by_cases hkey : k.key = "capitalization"
    · have hmem : k ∈ blockKeys.filter fun k => k.key = "capitalization" := List.mem_filter.2 ⟨hk, by simpa using hkey⟩
      obtain rfl : k = ⟨"capitalization", ["text-transform"], TextStyle.capitalization⟩ := List.mem_singleton.1 hmem
      exact capitalization_alone h hworks
    · have hread : k.read ⟨selector, [(k.key, v)], name⟩ = k.read ⟨selector, block, name⟩ := blockKey_alone hk h hkey
      show Works (k.read ⟨selector, [(k.key, v)], name⟩) ∧
        (added (k.read ⟨selector, block, name⟩)).Alike (added (k.read ⟨selector, [(k.key, v)], name⟩))
      rw [hread]
      exact ⟨hworks, rfl, rfl⟩

/-- the keys of a text style share no property -/
theorem blockKeys_apart :
    blockKeys.Pairwise fun k k' => ∀ p ∈ k.properties, ∀ p' ∈ k'.properties, p ≠ p' := by
  have hmap : (blockKeys.map BlockKey.properties).Pairwise fun ps ps' => ∀ p ∈ ps, ∀ p' ∈ ps', p ≠ p' := by
    rw [blockKeys_properties]
    decide
  exact List.pairwise_map.1 hmap

/-- what a text style on `t.selector` adds is what its keys add alone: `part` says what each of them does -/
structure BlockSum (classPrefix : String) (t : TextStyle) (e : Draft) (part : String × Json → Draft) : Prop where
  runs : ∀ kv ∈ present (blockKeys.map BlockKey.key) t.block,
    (TextStyle.draft ⟨t.selector, [kv], t.name⟩).run .empty = .ok ((), part kv)
  declarations : (e.rules classPrefix).under t.selector =
    (present (blockKeys.map BlockKey.key) t.block).flatMap fun kv => ((part kv).rules classPrefix).under t.selector
  messages : e.messages = (present (blockKeys.map BlockKey.key) t.block).flatMap fun kv => (part kv).messages
  own : ∀ k ∈ blockKeys, (((e.rules classPrefix).under t.selector).filter fun d =>
      d.1.identity ∈ k.properties.map KeyIdentity.text) =
    match lookup? k.key t.block with
    | some v => ((part (k.key, v)).rules classPrefix).under t.selector
    | none => []

/-- of a text style alone, the rules have all its declarations under its selector -/
theorem under_draft (classPrefix : String) {t : TextStyle} {e : Draft} (h : Gives t.draft () e) :
    (e.rules classPrefix).under t.selector = settle e.declarations := by
  rw [under_eq, List.filter_eq_self.2 fun w hw => ?_]
  have hon := gives_declarations (draft_appends t) h w hw
  simpa [On] using hon

/-- **A text style is the direct sum of its keys.** -/
theorem draft_sum (classPrefix : String) {t : TextStyle} {e : Draft} (h : Gives t.draft () e) :
    BlockSum classPrefix t e (blockReading t.selector t.name).part := by
  have hlocal : (blockReading t.selector t.name).Local := blockReading_local
  have hwhole : Gives ((blockReading t.selector t.name).whole t.block) () e := h
  have hparts : ∀ kv ∈ present (blockKeys.map BlockKey.key) t.block,
      Gives (TextStyle.draft ⟨t.selector, [kv], t.name⟩) () ((blockReading t.selector t.name).part kv) :=
    fun kv hkv => hlocal.part_works hwhole hkv
  have hpieces : settle e.declarations =
      blockKeys.flatMap fun k => settle ((blockReading t.selector t.name).piece t.block k).declarations := by
    rw [hlocal.declarations_eq hwhole]
    refine settle_flatMap (blockKeys_apart.imp_of_mem fun {k k'} hk hk' hapart w hw w' hw' => ?_)
    exact hapart _ (hlocal.piece_kind hwhole hk w hw).2 _ (hlocal.piece_kind hwhole hk' w' hw').2
  constructor
  · intro kv hkv
    exact (gives_iff_run (draft_appends _)).1 (hparts kv hkv)
  · rw [under_draft classPrefix h, hpieces]
    refine (Reading.flatMap_piece (r := blockReading t.selector t.name) (F := fun d => settle d.declarations)
      rfl).trans ?_
    exact List.flatMap_congr fun kv hkv => (under_draft classPrefix (hparts kv hkv)).symm
  · rw [hlocal.messages_eq hwhole]
    exact Reading.flatMap_piece (r := blockReading t.selector t.name) rfl
  · intro k hk
    rw [under_draft classPrefix h, hpieces, List.filter_flatMap]
    refine (flatMap_single hlocal.nodup hk fun k' hk' hne => ?_).trans ?_
    · refine List.filter_eq_nil_iff.2 fun d hd hmem => ?_
      obtain ⟨w, hw, hkey⟩ := mem_settle hd
      obtain ⟨p, hp, hp'⟩ := List.mem_map.1 (of_decide_eq_true hmem)
      rw [KeyIdentity.text.inj (hp'.trans hkey)] at hp
      exact not_own_of_ne blockKeys_apart hk hk' hne hp (hlocal.piece_kind hwhole hk' w hw).2
    · rw [List.filter_eq_self.2 fun d hd => ?_, Reading.piece]
      · split
        · rename_i v hv
          have hfound : lookup? k.key t.block = some v := hv
          have hkv : (k.key, v) ∈ present (blockKeys.map BlockKey.key) t.block :=
            List.mem_filterMap.2 ⟨k.key, List.mem_map_of_mem hk, by rw [hfound]; rfl⟩
          rw [hfound]
          exact (under_draft classPrefix (hparts _ hkv)).symm
        · rename_i hv
          rw [show lookup? k.key t.block = none from hv]
          rfl
      · obtain ⟨w, hw, hkey⟩ := mem_settle hd
        have hproperty := (hlocal.piece_kind hwhole hk w hw).2
        simpa [hkey] using hproperty

end Blocks

/-! ## Whole descriptions -/

namespace Style

/-- the keys of a description as the keys of its object -/
def styleReading [Room] (classPrefix : String) (resolve? : Option (Json → Except Fault Media.Lookup)) :
    Reading StyleKey :=
  ⟨styleKeys, StyleKey.key, fun k entries => k.read classPrefix resolve? entries, fun k => On (k.selectors classPrefix)⟩

section Keys

variable [Room] {classPrefix : String} {resolve? : Option (Json → Except Fault Media.Lookup)}
  {entries : List (String × Json)} {k : StyleKey}

theorem styleKey_cases (hk : k ∈ styleKeys) :
    k = backgroundKey ∨ (∃ s ∈ selectors, k = textKey s) ∨ k = headerKey ∨ k = dateKey := by
  simp only [styleKeys, List.mem_append, List.mem_cons, List.not_mem_nil, or_false, List.mem_map] at hk
  rcases hk with (rfl | ⟨s, hs, rfl⟩) | rfl | rfl
  · exact .inl rfl
  · exact .inr (.inl ⟨s, hs, rfl⟩)
  · exact .inr (.inr (.inl rfl))
  · exact .inr (.inr (.inr rfl))

theorem styleKey_absent (hk : k ∈ styleKeys) (h : lookup? k.key entries = none) :
    k.read classPrefix resolve? entries = pure () := by
  rcases styleKey_cases hk with rfl | ⟨s, -, rfl⟩ | rfl | rfl
  · rw [backgroundKey] at h
    simp [backgroundKey, background, h, color]
  · rw [textKey] at h
    simp [textKey, textStyle, h]
  · rw [headerKey] at h
    simp [headerKey, headerBlock, h, adding]
  · rw [dateKey] at h
    simp [dateKey, datePattern, h, adding]

theorem styleKey_alone (hk : k ∈ styleKeys) {v : Json} (h : lookup? k.key entries = some v) :
    k.read classPrefix resolve? [(k.key, v)] = k.read classPrefix resolve? entries := by
  rcases styleKey_cases hk with rfl | ⟨s, -, rfl⟩ | rfl | rfl
  · rw [backgroundKey] at h
    simp only [backgroundKey, background, h, lookup?_single]
  · rw [textKey] at h
    simp only [textKey, textStyle, h, lookup?_single]
  · rw [headerKey] at h
    simp only [headerKey, headerBlock, h, lookup?_single]
  · rw [dateKey] at h
    simp only [dateKey, datePattern, h, lookup?_single]

theorem styleReading_local : (styleReading classPrefix resolve?).Local where
  distinct := by
    show (styleKeys.map StyleKey.key).Nodup
    rw [styleKeys_keys]
    decide +kernel
  appends k hk entries := styleKey_appends hk
  absent k hk entries h := by
    show Gives (k.read classPrefix resolve? entries) () .empty
    rw [styleKey_absent hk h]
    exact gives_pure_iff.2 ⟨rfl, rfl⟩
  alone k hk entries v h hworks := by
    have hread : k.read classPrefix resolve? [(k.key, v)] = k.read classPrefix resolve? entries := styleKey_alone hk h
    show Works (k.read classPrefix resolve? [(k.key, v)]) ∧
      (added (k.read classPrefix resolve? entries)).Alike (added (k.read classPrefix resolve? [(k.key, v)]))
    rw [hread]
    exact ⟨hworks, rfl, rfl⟩

end Keys

/-- what a description with a single entry adds -/
def part [Room] (classPrefix : String) (resolve? : Option (Json → Except Fault Media.Lookup)) (entry : String × Json) :
    Draft :=
  (styleReading classPrefix resolve?).part entry ++ summary [entry]

section Sum

variable {classPrefix : String} {resolve? : Option (Json → Except Fault Media.Lookup)}
  {entries : List (String × Json)} {d : Draft}

theorem append_summary_declarations (d : Draft) : (d ++ summary entries).declarations = d.declarations := by
  simp [summary]

theorem append_summary_messages (d : Draft) : (d ++ summary entries).messages = d.messages := by
  simp [summary, Draft.messages]

theorem rules_congr {d e : Draft} (h : d.declarations = e.declarations) :
    d.rules classPrefix = e.rules classPrefix := by
  rw [Draft.rules, Draft.rules, Draft.declareIn, Draft.declareIn, h]

variable [Room]

theorem part_runs (hgives : Gives ((styleReading classPrefix resolve?).whole entries) () d) {kv : String × Json}
    (hkv : kv ∈ present (styleKeys.map StyleKey.key) entries) :
    ∃ style, (compile classPrefix resolve? (.object [kv])).run .empty = .ok (style, part classPrefix resolve? kv) := by
  obtain ⟨style, hstyle⟩ := compile_gives_iff.2 ⟨_, styleReading_local.part_works hgives hkv, rfl⟩
  exact ⟨style, (gives_iff_run (compile_appends _)).1 hstyle⟩

theorem pieces_apart (hgives : Gives ((styleReading classPrefix resolve?).whole entries) () d) :
    styleKeys.Pairwise fun k k' => ∀ w ∈ ((styleReading classPrefix resolve?).piece entries k).declarations,
      ∀ w' ∈ ((styleReading classPrefix resolve?).piece entries k').declarations, w.selector ≠ w'.selector := by
  refine (styleKeys_apart classPrefix).imp_of_mem fun {k k'} hk hk' hapart w hw w' hw' => ?_
  exact hapart _ (styleReading_local.piece_kind hgives hk w hw) _ (styleReading_local.piece_kind hgives hk' w' hw')

/-- the style sheet is that of the keys, one after the other -/
theorem build_parts (hgives : Gives ((styleReading classPrefix resolve?).whole entries) () d) :
    (d.rules classPrefix).build false = Text.joinWith "" ((present (styleKeys.map StyleKey.key) entries).map fun kv =>
      ((part classPrefix resolve? kv).rules classPrefix).build false) := by
  refine (build_flatMap (styleReading_local.declarations_eq hgives) (pieces_apart hgives)).trans ?_
  refine (Reading.joinWith_piece (r := styleReading classPrefix resolve?)
    (F := fun d => (d.rules classPrefix).build false) rfl).trans ?_
  refine congrArg _ (List.map_congr_left fun kv _ => ?_)
  rw [part, rules_congr (append_summary_declarations _)]

/-- under the selectors of a key there is what the key declares alone -/
theorem under_own (hgives : Gives ((styleReading classPrefix resolve?).whole entries) () d) {k : StyleKey}
    (hk : k ∈ styleKeys) {selector : String} (hselector : selector ∈ k.selectors classPrefix) :
    (d.rules classPrefix).under selector =
      (((styleReading classPrefix resolve?).piece entries k).rules classPrefix).under selector := by
  have hlocal : (styleReading classPrefix resolve?).Local := styleReading_local
  rw [under_eq, under_eq, hlocal.declarations_eq hgives, List.filter_flatMap]
  refine congrArg settle (flatMap_single hlocal.nodup hk fun k' hk' hne => ?_)
  refine List.filter_eq_nil_iff.2 fun w hw hmem => ?_
  rw [← of_decide_eq_true hmem] at hselector
  exact not_own_of_ne (styleKeys_apart classPrefix) hk hk' hne hselector (hlocal.piece_kind hgives hk' w hw)

theorem piece_under (entries : List (String × Json)) (k : StyleKey) (selector : String) :
    (((styleReading classPrefix resolve?).piece entries k).rules classPrefix).under selector =
      match lookup? k.key entries with
      | some v => ((part classPrefix resolve? (k.key, v)).rules classPrefix).under selector
      | none => [] := by
  rw [Reading.piece, show (styleReading classPrefix resolve?).name k = k.key from rfl]
  cases lookup? k.key entries with
  | none => rfl
  | some v =>
    simp only
    rw [part, rules_congr (append_summary_declarations _)]

end Sum

/-- **A description is the direct sum of its keys.** When a description can be read, its style sheet is that of its
keys read alone, one after the other in a fixed order, and its warnings are theirs. Under the selectors of a key are
the declarations of that key alone, so no other key changes them. A text style in turn is the direct sum of its own
keys: under its selector are the declarations of each, one after the other. -/
theorem compile_direct_sum [Room] (classPrefix : String) (resolve? : Option (Json → Except Fault Media.Lookup))
    (entries : List (String × Json)) {style : Style} {d : Draft}
    (h : (compile classPrefix resolve? (.object entries)).run .empty = .ok (style, d)) :
    (∃ part : String × Json → Draft,
      (∀ kv ∈ present (styleKeys.map StyleKey.key) entries, ∃ style',
        (compile classPrefix resolve? (.object [kv])).run .empty = .ok (style', part kv)) ∧
      (d.rules classPrefix).build false = Text.joinWith "" ((present (styleKeys.map StyleKey.key) entries).map fun kv =>
        ((part kv).rules classPrefix).build false) ∧
      d.messages = (present (styleKeys.map StyleKey.key) entries).flatMap (fun kv => (part kv).messages) ∧
      ∀ k ∈ styleKeys, ∀ selector ∈ k.selectors classPrefix, (d.rules classPrefix).under selector =
        match lookup? k.key entries with
        | some v => ((part (k.key, v)).rules classPrefix).under selector
        | none => []) ∧
    ∀ s ∈ selectors, ∀ block, lookup? s.1 entries = some (.object block) → ∃ e part,
      (TextStyle.draft ⟨selectorText classPrefix s.2, block, s.1⟩).run .empty = .ok ((), e) ∧
      (d.rules classPrefix).under (selectorText classPrefix s.2) =
        (e.rules classPrefix).under (selectorText classPrefix s.2) ∧
      BlockSum classPrefix ⟨selectorText classPrefix s.2, block, s.1⟩ e part := by
  have hlocal : (styleReading classPrefix resolve?).Local := styleReading_local
  obtain ⟨e, hgives, rfl⟩ := compile_gives_iff.1 ⟨style, (gives_iff_run (compile_appends _)).2 h⟩
  rw [rules_congr (append_summary_declarations e), append_summary_messages]
  refine ⟨⟨part classPrefix resolve?, fun kv hkv => part_runs hgives hkv, build_parts hgives, ?_, ?_⟩, ?_⟩
  · rw [hlocal.messages_eq hgives]
    refine (Reading.flatMap_piece rfl).trans (List.flatMap_congr fun kv _ => ?_)
    rw [part, append_summary_messages]
  · intro k hk selector hselector
    rw [under_own hgives hk hselector, piece_under]
  · intro s hs block hblock
    have hk : textKey s ∈ styleKeys := List.mem_append_left _ (List.mem_append_right _ (List.mem_map_of_mem hs))
    have hread : (textKey s).read classPrefix resolve? entries =
        TextStyle.draft ⟨selectorText classPrefix s.2, block, s.1⟩ := by
      simp only [textKey, textStyle, hblock, Option.getD_some]
    have hpiece := hlocal.piece_alike hgives hk
    obtain ⟨⟨⟩, hdraft⟩ := gives_added ((hlocal.whole_iff hgives).1 _ hk)
    rw [show (styleReading classPrefix resolve?).read (textKey s) entries =
      TextStyle.draft ⟨selectorText classPrefix s.2, block, s.1⟩ from hread] at hpiece hdraft
    refine ⟨_, _, (gives_iff_run (draft_appends _)).1 hdraft, ?_, draft_sum classPrefix hdraft⟩
    rw [under_own hgives hk List.mem_cons_self, rules_congr hpiece.1]

/-- a description with a good key, a bad one and a text style that has both -/
def mixedEntries : List (String × Json) :=
  [("date_format", .int 5), ("title", .object [("capitalization", .text "SMALL_CAPS"), ("color", .text "#fff")]),
    ("background_color", .text "#000")]

section Sample

attribute [local instance] Room.usual

/-- `compile_direct_sum` for `mixedEntries` -/
theorem compile_direct_sum_mixed : ∃ (style : Style) (d : Draft) (part : String × Json → Draft),
    (compile "ia2amp-" none (.object mixedEntries)).run .empty = .ok (style, d) ∧
    (∀ kv ∈ present (styleKeys.map StyleKey.key) mixedEntries, ∃ style',
      (compile "ia2amp-" none (.object [kv])).run .empty = .ok (style', part kv)) ∧
    (d.rules "ia2amp-").build false = Text.joinWith "" ((present (styleKeys.map StyleKey.key) mixedEntries).map
      fun kv => ((part kv).rules "ia2amp-").build false) := by
  have hworks : ((compile "ia2amp-" none (.object mixedEntries)).run .empty).toOption.isSome = true := by
    decide +kernel
  cases hrun : (compile "ia2amp-" none (.object mixedEntries)).run .empty with
  | error fault =>
    rw [hrun] at hworks
    cases hworks
  | ok result =>
    obtain ⟨part, hparts, hbuild, -⟩ := (compile_direct_sum "ia2amp-" none mixedEntries hrun).1
    exact ⟨result.1, result.2, part, rfl, hparts, hbuild⟩

end Sample

end Style

end AmpArticle.Css
