import AmpArticle.Proofs.Css.Sum
import Mathlib.Data.List.Forall2

/-!
The order of the keys in a description, and in the objects inside it. A description is read by tables of keys and sides,
and what is looked up does not depend on where it stands. Warnings carry the objects that they are about, in whatever
order these are, but their messages do not show them.

Results:
- `Json.Reordered`: values that differ in the order of keys, in the objects that a shape tells;
- `Agrees`: steps that fail alike, or have the same result and add the same declarations and messages;
- `draft_agrees`, `ofHeader_agrees`: text styles and logos;
- `compile_reordered`: whole descriptions, compiled on any rules.
-/

namespace AmpArticle

/-! ## Reordered values -/

/-- which objects in a value have keys in any order: none, or the value itself and what its entries tell -/
inductive Shape where
  | leaf
  | object (inner : String → Shape)

/-- entries with the same keys in another order, and with related values under them -/
def Rearranged (R : String → Json → Json → Prop) (e e' : List (String × Json)) : Prop :=
  (e.map Prod.fst).Nodup ∧ ∃ m, List.Forall₂ (fun a b => a.1 = b.1 ∧ R a.1 a.2 b.2) e m ∧ m.Perm e'

/-- values that are the same but for the order of keys in the objects of a shape -/
def Json.Reordered : Shape → Json → Json → Prop
  | .leaf, v, w => v = w
  | .object inner, v, w =>
    v = w ∨ ∃ e e', v = .object e ∧ w = .object e' ∧ Rearranged (fun key => Reordered (inner key)) e e'

/-- what is looked up in entries is the same but for the order of keys -/
def Matching (inner : String → Shape) (e e' : List (String × Json)) : Prop :=
  ∀ key, Option.Rel (Json.Reordered (inner key)) (lookup? key e) (lookup? key e')

section Lookups

variable {R : String → Json → Json → Prop} {inner : String → Shape} {e e' : List (String × Json)} {v w : Json}

theorem lookup?_rearranged (h : Rearranged R e e') (key : String) :
    Option.Rel (R key) (lookup? key e) (lookup? key e') := by
  obtain ⟨hkeys, m, hm, hperm⟩ := h
  have hnodup : (m.map Prod.fst).Nodup := by
    suffices hmap : e.map Prod.fst = m.map Prod.fst by rwa [← hmap]
    clear hkeys hperm
    induction hm with
    | nil => rfl
    | cons hab _ ih => rw [List.map_cons, List.map_cons, hab.1, ih]
  rw [← lookup?_perm hnodup hperm]
  clear hkeys hperm hnodup
  induction hm with
  | nil => exact .none
  | @cons a b _ _ hab _ ih =>
    obtain ⟨k, v⟩ := a
    obtain ⟨k', v'⟩ := b
    obtain ⟨rfl, hR⟩ : k = k' ∧ R k v v' := hab
    simp only [lookup?]
    split_ifs with hk
    · exact .some (hk ▸ hR)
    · exact ih

theorem Json.Reordered.refl : (s : Shape) → (v : Json) → Json.Reordered s v v
  | .leaf, _ => rfl
  | .object _, _ => .inl rfl

theorem Matching.refl (inner : String → Shape) (e : List (String × Json)) : Matching inner e e := by
  intro key
  cases lookup? key e with
  | none => exact .none
  | some v => exact .some (.refl _ v)

/-- values that may be reordered are one value that is no object, or objects with entries that may be -/
theorem Json.Reordered.cases (h : Json.Reordered (.object inner) v w) :
    (v = w ∧ ∀ e, v ≠ .object e) ∨ ∃ e e', v = .object e ∧ w = .object e' ∧ Matching inner e e' := by
  rcases h with rfl | ⟨e, e', hv, hw, h⟩
  · cases v with
    | object e => exact .inr ⟨e, e, rfl, rfl, .refl inner e⟩
    | _ => exact .inl ⟨rfl, nofun⟩
  · exact .inr ⟨e, e', hv, hw, lookup?_rearranged h⟩

theorem Matching.eq (h : Matching inner e e') (key : String) (hkey : inner key = .leaf) :
    lookup? key e = lookup? key e' := by
  have hrel := h key
  rw [hkey] at hrel
  generalize lookup? key e = found, lookup? key e' = found' at hrel ⊢
  cases hrel with
  | none => rfl
  | some heq => exact congrArg some heq

theorem Matching.getD (h : Matching inner e e') (key : String) :
    Json.Reordered (inner key) ((lookup? key e).getD .null) ((lookup? key e').getD .null) := by
  have hrel := h key
  generalize lookup? key e = found, lookup? key e' = found' at hrel ⊢
  cases hrel with
  | none => exact .refl _ _
  | some h => exact h

end Lookups

namespace Css

open Drafting

/-! ## Steps that agree -/

theorem Draft.Alike.append {d d' e e' : Draft} (h : d.Alike d') (h' : e.Alike e') : (d ++ e).Alike (d' ++ e') := by
  refine ⟨?_, ?_⟩
  · rw [append_declarations, append_declarations, h.1, h'.1]
  · simp only [messages, append_warnings, List.map_append]
    exact congrArg₂ _ h.2 h'.2

/-- two steps fail with the same fault, whatever the drafts hold, or they have the same result and add the same
declarations and messages -/
def Agrees {α : Type} (x y : Drafting α) : Prop :=
  (∃ fault, (∀ d, x.run d = .error fault) ∧ ∀ d, y.run d = .error fault) ∨
    ∃ a e e', Gives x a e ∧ Gives y a e' ∧ e.Alike e'

section Steps

variable {α β γ : Type} {p : Declaration → Prop}

theorem agrees_refl {x : Drafting α} (h : Appends p x) : Agrees x x := by
  rcases h with ⟨fault, hfails⟩ | ⟨a, e, hgives, -⟩
  · exact .inl ⟨fault, hfails, hfails⟩
  · exact .inr ⟨a, e, e, hgives, hgives, rfl, rfl⟩

theorem agrees_of_eq {x y : Drafting α} (h : Appends p x) (heq : x = y) : Agrees x y := heq ▸ agrees_refl h

theorem agrees_bind {x y : Drafting α} {f g : α → Drafting β} (hx : Agrees x y) (hf : ∀ a, Agrees (f a) (g a)) :
    Agrees (x >>= f) (y >>= g) := by
  have hfails {x : Drafting α} (f : α → Drafting β) {fault : Fault} (h : ∀ d, x.run d = .error fault) (d : Draft) :
      (x >>= f).run d = .error fault := by
    show (x.run d >>= fun r => (f r.1).run r.2) = _
    rw [h d]
    rfl
  have hlater {x : Drafting α} {f : α → Drafting β} {a : α} {e : Draft} {fault : Fault} (hx : Gives x a e)
      (h : ∀ d, (f a).run d = .error fault) (d : Draft) : (x >>= f).run d = .error fault := by
    show (x.run d >>= fun r => (f r.1).run r.2) = _
    rw [hx d]
    exact h (d ++ e)
  rcases hx with ⟨fault, hx, hy⟩ | ⟨a, e, e', hx, hy, halike⟩
  · exact .inl ⟨fault, hfails f hx, hfails g hy⟩
  · rcases hf a with ⟨fault, hf, hg⟩ | ⟨b, e₁, e₁', hf, hg, halike'⟩
    · exact .inl ⟨fault, hlater hx hf, hlater hy hg⟩
    · exact .inr ⟨b, e ++ e₁, e' ++ e₁', gives_bind hx hf, gives_bind hy hg, halike.append halike'⟩

theorem agrees_forM {f g : γ → Drafting Unit} {xs : List γ} (h : ∀ x ∈ xs, Agrees (f x) (g x)) :
    Agrees (xs.forM f) (xs.forM g) := by
  induction xs with
  | nil => exact agrees_refl (p := fun _ => True) appends_pure
  | cons x xs ih =>
    obtain ⟨hx, hxs⟩ := List.forall_mem_cons.1 h
    exact agrees_bind hx fun _ => ih hxs

theorem agrees_mapM {f g : γ → Drafting β} {xs : List γ} (h : ∀ x ∈ xs, Agrees (f x) (g x)) :
    Agrees (xs.mapM f) (xs.mapM g) := by
  induction xs with
  | nil => exact agrees_refl (p := fun _ => True) appends_pure
  | cons x xs ih =>
    obtain ⟨hx, hxs⟩ := List.forall_mem_cons.1 h
    rw [List.mapM_cons, List.mapM_cons]
    refine agrees_bind hx fun _ => agrees_bind (ih hxs) fun _ => ?_
    exact agrees_refl (p := fun _ => True) appends_pure

/-- a message does not show what a warning is about -/
theorem agrees_warn (message : String) (subject subject' : Json) (cause : Option Fault) :
    Agrees (warn message subject cause) (warn message subject' cause) :=
  .inr ⟨_, _, _, warn_gives _ _ _, warn_gives _ _ _, rfl, rfl⟩

theorem agrees_note (lines lines' : List Media.LogLine) : Agrees (note lines) (note lines') :=
  .inr ⟨_, _, _, note_gives _, note_gives _, rfl, rfl⟩

theorem agrees_liftM (r : Except Fault α) : Agrees (liftM r : Drafting α) (liftM r) :=
  agrees_refl (p := fun _ => True) (liftM_appends r)

theorem agrees_pure (a : α) : Agrees (pure a) (pure a) := agrees_refl (p := fun _ => True) appends_pure

theorem agrees_declare (selector property value : String) :
    Agrees (declare selector property value) (declare selector property value) :=
  agrees_refl (p := fun _ => True) (declare_appends trivial)

end Steps

/-! ## Text styles -/

/-- the shapes of the entries of a spacing or a border: its sides are objects -/
def boxEntries (key : String) : Shape := if key ∈ directions then .object fun _ => .leaf else .leaf

/-- the shapes of the entries of a text style -/
def blockEntries (key : String) : Shape :=
  if key ∈ ["margin", "padding", "border"] then .object boxEntries else .leaf

namespace TextStyle

variable [Room] {p : Declaration → Prop} {sides sides' block block' : List (String × Json)}

theorem spacingSide_agrees {side side' : Json} (h : Json.Reordered (.object fun _ => .leaf) side side')
    (name direction : String) : Agrees (spacingSide side name direction) (spacingSide side' name direction) := by
  rcases h.cases with ⟨rfl, -⟩ | ⟨e, e', rfl, rfl, hside⟩
  · exact agrees_refl (p := fun _ => True) (spacingSide_appends _ _ _)
  · simp only [spacingSide, hside.eq "size" rfl, hside.eq "scaling_factor" rfl]
    refine agrees_bind (agrees_liftM _) fun found => ?_
    cases found with
    | none =>
      exact agrees_bind (agrees_liftM _) fun _ => agrees_bind (agrees_warn _ _ _ _) fun _ => agrees_pure _
    | some length =>
      refine agrees_bind (agrees_refl (p := fun _ => True) (number_appends _ _)) fun x => ?_
      cases x with
      | none => exact agrees_pure _
      | some x =>
        exact agrees_bind (agrees_liftM _) fun _ => agrees_pure _

theorem spacingSides_agrees (h : Matching boxEntries sides sides') (name : String) {order : List String}
    (horder : ∀ direction ∈ order, direction ∈ directions) :
    Agrees (spacingSides sides name order) (spacingSides sides' name order) := by
  induction order with
  | nil => exact agrees_pure _
  | cons direction rest ih =>
    obtain ⟨hdirection, hrest⟩ := List.forall_mem_cons.1 horder
    have hside := h.getD direction
    rw [boxEntries, if_pos hdirection] at hside
    rw [spacingSides, spacingSides]
    refine agrees_bind (spacingSide_agrees hside name direction) fun length => ?_
    cases length with
    | none => exact agrees_pure _
    | some length =>
      refine agrees_bind (ih hrest) fun lengths => ?_
      cases lengths <;> exact agrees_pure _

theorem spacing_agrees (h : Matching blockEntries block block') (selector name : String) {property : String}
    (hproperty : property ∈ ["margin", "padding", "border"]) :
    Agrees (spacing ⟨selector, block, name⟩ property) (spacing ⟨selector, block', name⟩ property) := by
  have hentry := h.getD property
  rw [blockEntries, if_pos hproperty] at hentry
  simp only [spacing, entry]
  generalize (lookup? property block).getD .null = v, (lookup? property block').getD .null = w at hentry ⊢
  rcases hentry.cases with ⟨rfl, hobject⟩ | ⟨sides, sides', rfl, rfl, hsides⟩
  · cases v with
    | null => exact agrees_pure _
    | object sides => exact absurd rfl (hobject sides)
    | _ => exact agrees_warn _ _ _ _
  · refine agrees_bind (spacingSides_agrees hsides _ fun _ hd => hd) fun lengths => ?_
    cases lengths with
    | none => exact agrees_pure _
    | some lengths => exact agrees_declare _ _ _

theorem borderSide_eq (h : Matching boxEntries sides sides') (t t' : TextStyle) (hname : t.name = t'.name)
    {direction : String} (hdirection : direction ∈ directions) :
    t.borderSide sides direction = t'.borderSide sides' direction := by
  have hside := h direction
  rw [boxEntries, if_pos hdirection] at hside
  simp only [borderSide, hname]
  generalize lookup? direction sides = found, lookup? direction sides' = found' at hside ⊢
  cases hside with
  | none => rfl
  | some hside =>
    rcases hside.cases with ⟨rfl, -⟩ | ⟨e, e', rfl, rfl, hentries⟩
    · rfl
    · simp only [hentries.eq "width" rfl, hentries.eq "color" rfl]

theorem border_agrees (h : Matching blockEntries block block') (selector name : String) :
    Agrees (border ⟨selector, block, name⟩) (border ⟨selector, block', name⟩) := by
  have hentry := h.getD "border"
  rw [blockEntries, if_pos (by decide)] at hentry
  simp only [border, entry]
  generalize (lookup? "border" block).getD .null = v, (lookup? "border" block').getD .null = w at hentry ⊢
  rcases hentry.cases with ⟨rfl, hobject⟩ | ⟨sides, sides', rfl, rfl, hsides⟩
  · cases v with
    | null => exact agrees_pure _
    | object sides => exact absurd rfl (hobject sides)
    | _ => exact agrees_warn _ _ _ _
  · have hside (direction : String) (hdirection : direction ∈ directions) :
        Agrees (do return (direction, ← borderSide ⟨selector, block, name⟩ sides direction))
          (do return (direction, ← borderSide ⟨selector, block', name⟩ sides' direction)) := by
      rw [borderSide_eq hsides ⟨selector, block, name⟩ ⟨selector, block', name⟩ rfl hdirection]
      exact agrees_refl (p := fun _ => True)
        (appends_bind (borderSide_appends _ _) fun _ => appends_pure)
    refine agrees_bind (agrees_mapM hside) fun found => ?_
    refine agrees_bind (agrees_declare _ _ _) fun _ => agrees_bind (agrees_declare _ _ _) fun _ => ?_
    refine agrees_forM fun s _ => ?_
    cases s.2.2 with
    | none => exact agrees_pure _
    | some rgb => exact agrees_declare _ _ _

theorem capitalization_agrees (h : Matching blockEntries block block') (selector name : String) :
    Agrees (capitalization ⟨selector, block, name⟩) (capitalization ⟨selector, block', name⟩) := by
  simp only [capitalization, h.eq "capitalization" rfl]
  cases lookup? "capitalization" block' with
  | none => exact agrees_pure _
  | some v =>
    refine agrees_bind (agrees_liftM _) fun found => ?_
    cases found with
    | none => exact agrees_bind (agrees_liftM _) fun _ => agrees_warn _ _ _ _
    | some transform => exact agrees_declare _ _ _

/-- the keys of a text style that only look their own entry up -/
theorem blockKey_eq (h : Matching blockEntries block block') (selector name : String) {k : BlockKey}
    (hk : k ∈ blockKeys) (hkey : k.key ∉ ["capitalization", "margin", "padding", "border"]) :
    k.read ⟨selector, block, name⟩ = k.read ⟨selector, block', name⟩ := by
  obtain ⟨hcapitalization, hbox⟩ := not_or.1 (mt List.mem_cons.2 hkey)
  have heq : lookup? k.key block = lookup? k.key block' := h.eq _ (by rw [blockEntries, if_neg hbox])
  cases hfound : lookup? k.key block with
  | none => rw [blockKey_absent hk hfound, blockKey_absent hk (heq ▸ hfound)]
  | some v =>
    exact (blockKey_alone hk hfound hcapitalization).symm.trans (blockKey_alone hk (heq ▸ hfound) hcapitalization)

theorem blockKey_agrees (h : Matching blockEntries block block') (selector name : String) {k : BlockKey}
    (hk : k ∈ blockKeys) : Agrees (k.read ⟨selector, block, name⟩) (k.read ⟨selector, block', name⟩) := by
  by_cases hkey : k.key ∈ ["capitalization", "margin", "padding", "border"]
  · have hmem : k ∈ blockKeys.filter fun k => k.key ∈ ["capitalization", "margin", "padding", "border"] :=
      List.mem_filter.2 ⟨hk, decide_eq_true hkey⟩
    have hlist : (blockKeys.filter fun k => k.key ∈ ["capitalization", "margin", "padding", "border"]) =
        [⟨"capitalization", ["text-transform"], capitalization⟩, ⟨"margin", ["margin"], fun t => t.spacing "margin"⟩,
          ⟨"padding", ["padding"], fun t => t.spacing "padding"⟩, ⟨"border", borderProperties, border⟩] := by
      rfl
    rw [hlist] at hmem
    fin_cases hmem
    · exact capitalization_agrees h selector name
    · exact spacing_agrees h selector name (by decide)
    · exact spacing_agrees h selector name (by decide)
    · exact border_agrees h selector name
  · exact agrees_of_eq (blockKey_appends hk _) (blockKey_eq h selector name hk hkey)

/-- **A text style** whose keys, and those of its boxes, are in any order. -/
theorem draft_agrees (h : Matching blockEntries block block') (selector name : String) :
    Agrees (draft ⟨selector, block, name⟩) (draft ⟨selector, block', name⟩) := by
  rw [draft_eq, draft_eq]
  exact agrees_forM fun k hk => blockKey_agrees h selector name hk

end TextStyle

/-! ## Logos -/

/-- the shapes of the entries of a header block -/
def headerEntries (key : String) : Shape := if key = "logo" then .object fun _ => .leaf else .leaf

namespace Logo

variable [Room] {resolve? : Option (Json → Except Fault Media.Lookup)} {header header' block block' : List (String × Json)}

theorem found_agrees (url : Json) : Agrees (found? resolve? block url) (found? resolve? block' url) := by
  -- the address is quoted, and the block is not
  have hquoted (message : String → String) : Agrees
      (do
        let shown ← liftM (url.plainAt addressPlace)
        warn (message shown) (.object block) none
        return (none : Option Extent))
      (do
        let shown ← liftM (url.plainAt addressPlace)
        warn (message shown) (.object block') none
        return none) :=
    agrees_bind (agrees_liftM _) fun _ => agrees_bind (agrees_warn _ _ _ _) fun _ => agrees_pure _
  cases resolve? with
  | none => exact hquoted _
  | some resolve =>
    refine agrees_bind (agrees_liftM _) fun found => ?_
    refine agrees_bind (agrees_note _ _) fun _ => ?_
    split
    · exact hquoted _
    · exact agrees_pure _

theorem length_eq (h : Matching (fun _ => .leaf) block block') (key : String) :
    length block key = length block' key := by
  rw [length, length, h.eq key rfl]

theorem extent_agrees (h : Matching (fun _ => .leaf) block block') (url : Json) :
    Agrees (extent? resolve? block url) (extent? resolve? block' url) := by
  rw [extent?, extent?, length_eq h, length_eq h]
  refine agrees_bind (agrees_refl (p := fun _ => True) (Style.length_appends _ _)) fun width => ?_
  refine agrees_bind (agrees_refl (p := fun _ => True) (Style.length_appends _ _)) fun height => ?_
  split
  · exact agrees_pure _
  · exact found_agrees url

theorem sized_agrees (hheader : Matching headerEntries header header') (h : Matching (fun _ => .leaf) block block')
    (url : Json) : Agrees (sized resolve? header block url) (sized resolve? header' block' url) := by
  rw [sized, sized, hheader.eq "logo_scale" rfl]
  refine agrees_bind (extent_agrees h url) fun extent => ?_
  cases extent with
  | none => exact agrees_pure _
  | some extent =>
    refine agrees_bind (agrees_refl (p := fun _ => True) (number_appends _ _)) fun scale => ?_
    exact agrees_bind (agrees_liftM _) fun _ => agrees_pure _

/-- **A logo** in a header block whose keys, and those of the logo, are in any order. -/
theorem ofHeader_agrees (h : Matching headerEntries header header') :
    Agrees (ofHeader resolve? header) (ofHeader resolve? header') := by
  have hlogo := h.getD "logo"
  rw [headerEntries, if_pos rfl] at hlogo
  unfold ofHeader
  generalize (lookup? "logo" header).getD .null = v, (lookup? "logo" header').getD .null = w at hlogo ⊢
  have hobject {block block' : List (String × Json)} (hblock : Matching (fun _ => .leaf) block block') :
      Agrees
        (let url := (lookup? "url" block).getD .null
          if url.isTruthy then sized resolve? header block url
          else do
            warn "Header logo has no url, ignoring it." (.object block) none
            return none)
        (let url := (lookup? "url" block').getD .null
          if url.isTruthy then sized resolve? header' block' url
          else do
            warn "Header logo has no url, ignoring it." (.object block') none
            return none) := by
    rw [hblock.eq "url" rfl]
    dsimp only
    split
    · exact sized_agrees h hblock _
    · exact agrees_bind (agrees_warn _ _ _ _) fun _ => agrees_pure _
  rcases hlogo.cases with ⟨rfl, hnone⟩ | ⟨e, e', rfl, rfl, hblock⟩
  · cases v with
    | null => exact agrees_pure _
    | object e => exact absurd rfl (hnone e)
    | text s => exact hobject (.refl _ _)
    | _ => exact agrees_bind (agrees_warn _ _ _ _) fun _ => agrees_pure _
  · exact hobject hblock

end Logo

/-! ## Whole descriptions -/

/-- the shapes of the entries of a description -/
def styleEntries (key : String) : Shape :=
  if key ∈ Style.selectors.map Prod.fst then .object blockEntries
  else if key = "header" then .object headerEntries
  else .leaf

theorem styleEntries_leaf {key : String} (h : key ∉ Style.selectors.map Prod.fst) (hheader : key ≠ "header") :
    styleEntries key = .leaf := by rw [styleEntries, if_neg h, if_neg hheader]

/-- the objects of a description whose keys may be in any order: its own, those of its text styles with their spacings
and borders, and those of its header block and of the logo there -/
def styleShape : Shape := .object styleEntries

namespace Style

variable {classPrefix spacing : String} {resolve? : Option (Json → Except Fault Media.Lookup)}
  {entries entries' header header' : List (String × Json)}

theorem background_agrees (h : Matching styleEntries entries entries') :
    Agrees (background entries) (background entries') := by
  refine agrees_of_eq background_appends ?_
  rw [background, background, h.eq _ (styleEntries_leaf (by decide +kernel) (by decide))]

theorem textStyle_agrees [Room] (h : Matching styleEntries entries entries') {key : String} {ss : List Selector}
    (hkey : (key, ss) ∈ selectors) :
    Agrees (textStyle classPrefix entries key ss) (textStyle classPrefix entries' key ss) := by
  have hblock := h.getD key
  rw [styleEntries, if_pos (List.mem_map_of_mem hkey)] at hblock
  unfold textStyle
  generalize (lookup? key entries).getD .null = v, (lookup? key entries').getD .null = w at hblock ⊢
  rcases hblock.cases with ⟨rfl, hnone⟩ | ⟨block, block', rfl, rfl, hmatching⟩
  · cases v with
    | null => exact agrees_pure _
    | object block => exact absurd rfl (hnone block)
    | _ => exact agrees_warn _ _ _ _
  · exact TextStyle.draft_agrees hmatching _ _

theorem headerColors_agrees (h : Matching headerEntries header header') :
    Agrees (headerColors classPrefix header spacing) (headerColors classPrefix header' spacing) := by
  refine agrees_of_eq headerColors_appends ?_
  rw [headerColors, headerColors, h.eq "background_color" rfl, h.eq "bar_color" rfl]

theorem headerBlock_agrees [Room] (h : Matching styleEntries entries entries') :
    Agrees (headerBlock classPrefix resolve? entries spacing) (headerBlock classPrefix resolve? entries' spacing) := by
  have hheader := h "header"
  rw [styleEntries, if_neg (by decide +kernel), if_pos rfl] at hheader
  unfold headerBlock
  generalize lookup? "header" entries = found, lookup? "header" entries' = found' at hheader ⊢
  cases hheader with
  | none => exact agrees_pure _
  | @some v _ hvalue =>
    rcases hvalue.cases with ⟨rfl, hnone⟩ | ⟨header, header', rfl, rfl, hmatching⟩
    · cases v with
      | object header => exact absurd rfl (hnone header)
      | _ => exact agrees_pure _
    · exact agrees_bind (headerColors_agrees hmatching) fun _ => Logo.ofHeader_agrees hmatching

theorem datePattern_agrees (h : Matching styleEntries entries entries') :
    Agrees (datePattern entries) (datePattern entries') := by
  refine agrees_of_eq (p := fun _ => True) datePattern_appends ?_
  rw [datePattern, datePattern, h.eq _ (styleEntries_leaf (by decide +kernel) (by decide))]

theorem compile_agrees [Room] {v w : Json} (h : Json.Reordered styleShape v w) :
    Agrees (compile classPrefix resolve? v spacing) (compile classPrefix resolve? w spacing) := by
  rcases h.cases with ⟨rfl, hnone⟩ | ⟨entries, entries', rfl, rfl, hentries⟩
  · cases v with
    | object entries => exact absurd rfl (hnone entries)
    | _ => exact agrees_bind (agrees_warn _ _ _ _) fun _ => agrees_pure _
  · refine agrees_bind (background_agrees hentries) fun _ => ?_
    refine agrees_bind (agrees_forM fun s hs => textStyle_agrees hentries hs) fun _ => ?_
    refine agrees_bind (headerBlock_agrees hentries) fun logo => ?_
    refine agrees_bind (datePattern_agrees hentries) fun format => ?_
    exact agrees_bind (agrees_note _ _) fun _ => agrees_pure _

/-- **The order of keys is no matter.** Two descriptions that differ in the order of keys only, compiled on the same
rules with the same pictures at hand, fail alike, or have the same logo and the same pattern for the date, the same
messages, and the same style sheet. -/
theorem compile_reordered [Room] (r : RuleSet) (resolve? : Option (Json → Except Fault Media.Lookup)) {v w : Json}
    (h : Json.Reordered styleShape v w) :
    (∃ fault, (compile r.classPrefix resolve? v r.spacing).run .empty = .error fault ∧
      (compile r.classPrefix resolve? w r.spacing).run .empty = .error fault) ∨
    ∃ style d d', (compile r.classPrefix resolve? v r.spacing).run .empty = .ok (style, d) ∧
      (compile r.classPrefix resolve? w r.spacing).run .empty = .ok (style, d') ∧ d.messages = d'.messages ∧
      ∀ formatted, (d.declareIn r).build formatted = (d'.declareIn r).build formatted := by
  rcases compile_agrees h with ⟨fault, hv, hw⟩ | ⟨style, d, d', hv, hw, hdeclarations, hmessages⟩
  · exact .inl ⟨fault, hv .empty, hw .empty⟩
  · refine .inr ⟨style, d, d', ?_, ?_, hmessages, fun formatted => ?_⟩
    · simpa using hv .empty
    · simpa using hw .empty
    · rw [Draft.declareIn, Draft.declareIn, hdeclarations]

/-- a header block with a logo and its scale, and a title with a margin, a border and a capitalization that is none -/
def titledStyle : Json :=
  .object [("header", .object [("logo", .object [("width", .int 60), ("url", .text "u"), ("height", .int 20)]),
      ("logo_scale", .int 1)]),
    ("title", .object [("capitalization", .text "SOME"),
      ("margin", .object [("top", .object [("size", .text "SMALL"), ("scaling_factor", .int 2)])]),
      ("border", .object [("left", .object [("color", .text "#fff")]), ("top", .object [("color", .text "red")])])])]

/-- the same with the keys of each object the other way round -/
def turnedStyle : Json :=
  .object [("title", .object [("border", .object [("top", .object [("color", .text "red")]),
        ("left", .object [("color", .text "#fff")])]),
      ("margin", .object [("top", .object [("scaling_factor", .int 2), ("size", .text "SMALL")])]),
      ("capitalization", .text "SOME")]),
    ("header", .object [("logo_scale", .int 1),
      ("logo", .object [("height", .int 20), ("url", .text "u"), ("width", .int 60)])])]

theorem rearranged_reverse {R : String → Json → Json → Prop} {e e' : List (String × Json)}
    (hkeys : (e.map Prod.fst).Nodup) (h : List.Forall₂ (fun a b => a.1 = b.1 ∧ R a.1 a.2 b.2) e e'.reverse) :
    Rearranged R e e' := ⟨hkeys, e'.reverse, h, e'.reverse_perm⟩

theorem titled_reordered : Json.Reordered styleShape titledStyle turnedStyle := by
  have hheader : styleEntries "header" = .object headerEntries := by
    rw [styleEntries, if_neg (by decide +kernel), if_pos rfl]
  have htitle : styleEntries "title" = .object blockEntries := if_pos (by decide +kernel)
  refine .inr ⟨_, _, rfl, rfl, rearranged_reverse (by decide) (.cons ⟨rfl, ?_⟩ (.cons ⟨rfl, ?_⟩ .nil))⟩
  · show Json.Reordered (styleEntries "header") _ _
    rw [hheader]
    refine .inr ⟨_, _, rfl, rfl, rearranged_reverse (by decide) (.cons ⟨rfl, .inr ⟨_, _, rfl, rfl, ?_⟩⟩
      (.cons ⟨rfl, .refl _ _⟩ .nil))⟩
    exact rearranged_reverse (by decide) (.cons ⟨rfl, .refl _ _⟩ (.cons ⟨rfl, .refl _ _⟩ (.cons ⟨rfl, .refl _ _⟩ .nil)))
  · show Json.Reordered (styleEntries "title") _ _
    rw [htitle]
    refine .inr ⟨_, _, rfl, rfl, rearranged_reverse (by decide) (.cons ⟨rfl, .refl _ _⟩
      (.cons ⟨rfl, .inr ⟨_, _, rfl, rfl, ?_⟩⟩ (.cons ⟨rfl, .inr ⟨_, _, rfl, rfl, ?_⟩⟩ .nil)))⟩
    · refine rearranged_reverse (by decide) (.cons ⟨rfl, .inr ⟨_, _, rfl, rfl, ?_⟩⟩ .nil)
      exact rearranged_reverse (by decide) (.cons ⟨rfl, .refl _ _⟩ (.cons ⟨rfl, .refl _ _⟩ .nil))
    · exact rearranged_reverse (by decide) (.cons ⟨rfl, .refl _ _⟩ (.cons ⟨rfl, .refl _ _⟩ .nil))

section Sample

attribute [local instance] Room.usual

theorem compile_reordered_turned : Json.Reordered styleShape titledStyle turnedStyle ∧
    ∃ style d d', (compile "x-" none titledStyle).run .empty = .ok (style, d) ∧
      (compile "x-" none turnedStyle).run .empty = .ok (style, d') ∧ d.messages = d'.messages ∧
      d.messages.length = 2 ∧ ∀ formatted, (d.declareIn (RuleSet.empty "x-")).build formatted =
        (d'.declareIn (RuleSet.empty "x-")).build formatted := by
  have hrun : ((compile (RuleSet.empty "x-").classPrefix none titledStyle (RuleSet.empty "x-").spacing).run
      .empty).toOption.map (fun r => r.2.messages.length) = some 2 := by decide +kernel
  refine ⟨titled_reordered, ?_⟩
  rcases compile_reordered (RuleSet.empty "x-") none titled_reordered with
    ⟨fault, hfails, -⟩ | ⟨style, d, d', hd, hd', hmessages, hbuild⟩
  · rw [hfails] at hrun
    cases hrun
  · rw [hd] at hrun
    exact ⟨style, d, d', hd, hd', hmessages, Option.some.inj hrun, hbuild⟩

end Sample

end Style
end Css

end AmpArticle
