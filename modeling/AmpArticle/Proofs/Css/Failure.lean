import AmpArticle.Proofs.Css.Logos

/-!
When a style description cannot be read. What is malformed should only lead to warnings. There are a few values that
make the whole reading fail instead: lists and objects where a name is looked up, whole numbers that are too large for
a floating-point number, values that cannot be written into a declaration or a warning, and logos that cannot be scaled.

Results:
- `compile_fails_iff_breaks`: these values, and no others, make a description fail;
- `compile_fails_listed`: a description that is no more than a list in the place of a name fails.
-/

namespace AmpArticle.Css

open Drafting

namespace Style

/-! ## Parts that never fail -/

theorem background_works (entries : List (String × Json)) : Works (background entries) := by
  refine works_bind (color_works _ _) fun rgb => ?_
  split
  · exact declare_works _ _ _
  · exact works_pure

theorem headerColors_works (classPrefix : String) (header : List (String × Json)) :
    Works (headerColors classPrefix header) := by
  unfold headerColors
  refine works_bind (color_works _ _) fun rgb => ?_
  split
  · refine works_bind (declare_works _ _ _) fun _ => works_bind (color_works _ _) fun rgb => ?_
    split
    · exact declare_works _ _ _
    · exact works_pure
  · refine works_bind (color_works _ _) fun rgb => ?_
    split
    · exact declare_works _ _ _
    · exact works_pure

theorem datePattern_works (entries : List (String × Json)) : Works (datePattern entries) := by
  unfold datePattern
  split
  · exact works_pure
  · exact works_pure
  · exact works_bind (warn_works _ _ _) fun _ => works_pure

end Style

/-! ## Whole descriptions -/

section Whole

variable [Room]

/-- a description with a text style or a logo that cannot be read -/
inductive StyleBreaks (resolve? : Option (Json → Except Fault Media.Lookup)) (entries : List (String × Json)) :
    Prop where
  | block {s : String × List Style.Selector} {block : List (String × Json)} : s ∈ Style.selectors →
    lookup? s.1 entries = some (.object block) → BlockBreaks s.1 block → StyleBreaks resolve? entries
  | logo {header : List (String × Json)} : lookup? "header" entries = some (.object header) →
    LogoBreaks resolve? header → StyleBreaks resolve? entries

namespace Style

variable {classPrefix : String} {resolve? : Option (Json → Except Fault Media.Lookup)}
  {entries : List (String × Json)}

theorem textStyle_fails_iff (key : String) (ss : List Selector) : Fails (textStyle classPrefix entries key ss) ↔
    ∃ block, lookup? key entries = some (.object block) ∧ BlockBreaks key block := by
  have hobject (block : List (String × Json)) :
      lookup? key entries = some (.object block) ↔ (lookup? key entries).getD .null = .object block := by
    cases lookup? key entries <;> simp
  simp only [hobject]
  unfold textStyle
  split
  · rename_i h
    simp [h, not_fails_pure]
  · rename_i block h
    simp [h, draft_fails_iff]
  · rename_i h
    refine iff_of_false (not_fails_of_works (warn_works _ _ _)) ?_
    rintro ⟨block, hblock, -⟩
    exact h block hblock

theorem headerBlock_fails_iff (hfinds : Finds resolve?) : Fails (headerBlock classPrefix resolve? entries) ↔
    ∃ header, lookup? "header" entries = some (.object header) ∧ LogoBreaks resolve? header := by
  unfold headerBlock
  split
  · rename_i header h
    obtain ⟨⟨⟩, hcolors⟩ := headerColors_works classPrefix header
    refine (fails_bind_of_yields (p := fun _ => True) hcolors logo_appends).trans ?_
    simp [logo_fails_iff hfinds, h]
  · rename_i h
    refine iff_of_false not_fails_pure ?_
    rintro ⟨header, hheader, -⟩
    exact h header hheader

theorem compile_object_fails_iff (hfinds : Finds resolve?) :
    Fails (compile classPrefix resolve? (.object entries)) ↔ StyleBreaks resolve? entries := by
  rw [compile_fails_iff]
  constructor
  · rintro ⟨k, hk, hfails⟩
    simp only [styleKeys, List.mem_append, List.mem_cons, List.not_mem_nil, or_false, List.mem_map] at hk
    rcases hk with (rfl | ⟨s, hs, rfl⟩) | rfl | rfl
    · exact absurd hfails (not_fails_of_works (background_works _))
    · obtain ⟨block, hblock, hbreaks⟩ := (textStyle_fails_iff _ _).1 hfails
      exact .block hs hblock hbreaks
    · obtain ⟨header, hheader, hbreaks⟩ :=
        (headerBlock_fails_iff hfinds).1 ((adding_fails_iff headerBlock_appends).1 hfails)
      exact .logo hheader hbreaks
    · exact absurd hfails (not_fails_of_works (works_bind (datePattern_works _) fun _ => works_pure))
  · intro h
    cases h with
    | @block s block hs hblock hbreaks =>
      refine ⟨textKey s, ?_, (textStyle_fails_iff _ _).2 ⟨block, hblock, hbreaks⟩⟩
      exact List.mem_append_left _ (List.mem_append_right _ (List.mem_map_of_mem hs))
    | @logo header hheader hbreaks =>
      refine ⟨headerKey, List.mem_append_right _ List.mem_cons_self, ?_⟩
      exact (adding_fails_iff headerBlock_appends).2 ((headerBlock_fails_iff hfinds).2 ⟨header, hheader, hbreaks⟩)

/-- **What makes a description fail.** Reading fails for the values that `StyleBreaks` lists, and for no others:
whatever else is malformed only leads to warnings. -/
theorem compile_fails_iff_breaks (classPrefix : String) (resolve? : Option (Json → Except Fault Media.Lookup))
    (hfinds : Finds resolve?) (style : Json) :
    (∃ fault, (compile classPrefix resolve? style).run .empty = .error fault) ↔
      ∃ entries, style = .object entries ∧ StyleBreaks resolve? entries := by
  rw [← fails_iff_run (compile_appends style)]
  cases style with
  | object entries => simp [compile_object_fails_iff hfinds]
  | _ =>
    refine iff_of_false (not_fails_of_works (works_bind (warn_works _ _ _) fun _ => works_pure)) ?_
    rintro ⟨entries, h, -⟩
    cases h

end Style

end Whole

namespace Style

section Sample

attribute [local instance] Room.usual

/-- `compile_fails_iff_breaks` for a list in the place of a size, and a resolver that finds every logo -/
theorem compile_fails_size : Finds (some fun _ => .ok ⟨⟨640, 480⟩, [], []⟩) ∧
    ∃ fault, (compile "ia2amp-" (some fun _ => .ok ⟨⟨640, 480⟩, [], []⟩)
      (.object [("footer", .object [("margin", .object [("top", .object [("size", .list [])])])])])).run .empty =
        .error fault := by
  have hfinds : Finds (some fun _ => .ok ⟨⟨640, 480⟩, [], []⟩) := by
    rintro _ ⟨⟩ url
    exact ⟨_, rfl⟩
  refine ⟨hfinds, (compile_fails_iff_breaks "ia2amp-" _ hfinds _).2 ⟨_, rfl, ?_⟩⟩
  refine .block (s := ("footer", [⟨"footer", "footer"⟩])) (by decide) rfl ?_
  refine .spacing List.mem_cons_self rfl ?_
  exact ⟨[], "top", _, rfl, by simp, _, rfl, .inl trivial⟩

/-- **A list in the place of a name** fails, where any other value that names nothing leads to a warning. -/
theorem compile_fails_listed : ¬ ∀ (classPrefix : String) (resolve? : Option (Json → Except Fault Media.Lookup)),
    Finds resolve? → ∀ style, ∃ result, (compile classPrefix resolve? style).run .empty = .ok result := by
  intro h
  have hfinds : Finds none := fun _ h => by cases h
  obtain ⟨result, hresult⟩ := h "ia2amp-" none hfinds (.object [("title", .object [("capitalization", .list [])])])
  have hbreaks : StyleBreaks none [("title", .object [("capitalization", .list [])])] :=
    .block (s := ("title", [⟨"h1", "header-h1"⟩])) (by decide) rfl (.capitalization rfl trivial)
  have hfails : Fails (compile "ia2amp-" none (.object _)) := (compile_object_fails_iff hfinds).2 hbreaks
  obtain ⟨fault, hfails⟩ := (fails_iff_run (compile_appends _)).1 hfails
  cases hfails.symm.trans hresult

end Sample

end Style

end AmpArticle.Css
