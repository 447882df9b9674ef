import AmpArticle.Page.Analytics
import AmpArticle.Proofs.Page.Steps
import Mathlib.Data.List.TakeWhile
import Mathlib.Tactic.SplitIfs

/-!
Tracking elements, all of them or none. A piece of markup counts when its document has one body that holds a single
tracking element and nothing else but blank text. The first piece that does not count should only give a warning. But
markup that is a document without exactly one body, such as a root element alone, cannot even be taken apart, and stops
the conversion.

Results:
- `trackingElement_ok_iff`, `trackingElement_error`: which markup counts, and what is wrong with all other;
- `addAnalytics_outcome`: all elements are inserted, or one warning is given, or the conversion is stopped, and when;
- `addAnalytics_rootless`: a root element alone stops the conversion.
-/

namespace AmpArticle.Page

open Markup (Element Node)

/-! ## Markup -/

/-- the only body of the document that markup is read as -/
def HasBody (markup : String) (body : Element) : Prop :=
  ∃ root, Markup.document? (Markup.wrapped markup).toList = some root ∧ Markup.bodies root = [body]

/-- markup that is read as a document with no body or with several -/
def Bodiless (markup : String) : Prop :=
  ∃ root, Markup.document? (Markup.wrapped markup).toList = some root ∧ (Markup.bodies root).length ≠ 1

/-- nodes of blank text only -/
structure BlankText (nodes : List Node) : Prop where
  isText : ∀ n ∈ nodes, n.isText = true
  isBlank : Text.isBlankText (Node.textContents nodes) = true

/-- markup consists of a tracking element and of blank text around it -/
structure Tracks (markup : String) (n : Node) : Prop where
  isTracking : ∃ tag ∈ trackingTags, n.tag? = some tag
  isAlone : ∃ body front tail, HasBody markup body ∧ body.children = front ++ n :: tail ∧ BlankText front ∧
    BlankText tail

variable {markup : String} {n : Node} {tail : List Node} {fault : Fault}

theorem HasBody.fragments {body : Element} (h : HasBody markup body) : Markup.fragments markup =
    .ok (if Text.isBlankText body.leadingText then Node.dropText body.children else body.children) := by
  obtain ⟨root, hroot, hbody⟩ := h
  unfold Markup.fragments
  rw [hroot]
  simp only [hbody]

theorem fragments_ok {nodes : List Node} (h : Markup.fragments markup = .ok nodes) : ∃ body, HasBody markup body := by
  unfold Markup.fragments at h
  split at h
  · cases h
  · rename_i root hroot
    split at h
    · rename_i body hbody
      exact ⟨body, root, hroot, hbody⟩
    · cases h

theorem fragments_error (h : Markup.fragments markup = .error fault) :
    Markup.document? (Markup.wrapped markup).toList = none ∧ fault = .emptyDocument ∨
      Bodiless markup ∧ fault = .bodyCount (Markup.wrapped markup) := by
  unfold Markup.fragments at h
  split at h
  · rename_i hnone
    cases h
    exact .inl ⟨hnone, rfl⟩
  · rename_i root hroot
    split at h
    · cases h
    · rename_i hbodies
      cases h
      refine .inr ⟨⟨root, hroot, fun hone => ?_⟩, rfl⟩
      obtain ⟨body, hbody⟩ := List.length_eq_one_iff.1 hone
      exact hbodies body hbody

theorem HasBody.not_bodiless {body : Element} (h : HasBody markup body) : ¬ Bodiless markup := by
  obtain ⟨root, hroot, hbody⟩ := h
  rintro ⟨root', hroot', hlength⟩
  obtain rfl := Option.some.inj (hroot.symm.trans hroot')
  exact hlength (by rw [hbody, List.length_singleton])

/-- the first piece of markup is no text when it stands at the front of the body, behind blank text only -/
theorem fragments_cons_iff (hn : n.isText = false) : Markup.fragments markup = .ok (n :: tail) ↔
    ∃ body front, HasBody markup body ∧ body.children = front ++ n :: tail ∧ BlankText front := by
  constructor
  · intro h
    obtain ⟨body, hbody⟩ := fragments_ok h
    rw [hbody.fragments, Except.ok.injEq] at h
    split_ifs at h with hblank
    · refine ⟨body, body.children.takeWhile Node.isText, hbody, ?_, fun m hm => List.mem_takeWhile_imp hm, hblank⟩
      rw [← h]
      exact List.takeWhile_append_dropWhile.symm
    · exact ⟨body, [], hbody, h, by simp, by decide⟩
  · rintro ⟨body, front, hbody, hchildren, hfront⟩
    have htake : body.children.takeWhile Node.isText = front := by
      rw [hchildren, List.takeWhile_append_of_pos hfront.isText, List.takeWhile_cons_of_neg (by simp [hn]),
        List.append_nil]
    have hdrop : Node.dropText body.children = n :: tail := by
      rw [hchildren, Node.dropText, List.dropWhile_append_of_pos hfront.isText,
        List.dropWhile_cons_of_neg (by simp [hn])]
    have hblank : Text.isBlankText body.leadingText = true := by
      rw [Element.leadingText, htake]
      exact hfront.isBlank
    rw [hbody.fragments, if_pos hblank, hdrop]

/-! ## Single pieces -/

/-- only an element is shown with a tag that may track -/
theorem shownTag_mem_iff (hn : n.isText = false) :
    shownTag n ∈ trackingTags ↔ ∃ tag ∈ trackingTags, n.tag? = some tag := by
  cases n with
  | text => cases hn
  | comment => simp [shownTag, Node.tag?, trackingTags]
  | element tag => simp [shownTag, Node.tag?]

theorem isText_of_tag {tag : String} (h : n.tag? = some tag) : n.isText = false := by
  cases n with
  | text => cases h
  | comment => cases h
  | element => rfl

/-- what a piece must be, once it is read -/
theorem trackingElement_cons (h : Markup.fragments markup = .ok (n :: tail)) :
    trackingElement markup =
      if Markup.pieceCount (n :: tail) ≠ 1 || n.isText then
        .error (.analyticsCount markup (Markup.pieceCount (n :: tail)))
      else if !trackingTags.contains (shownTag n) then .error (.analyticsTag markup (shownTag n))
      else if !Text.isBlankText (Node.textContents tail) then .error (.analyticsTail markup)
      else .ok n := by
  unfold trackingElement
  rw [h]
  simp only [Except.mapError, bind, Except.bind]
  split_ifs <;> rfl

/-- **Which markup counts.** -/
theorem trackingElement_ok_iff : trackingElement markup = .ok n ↔ Tracks markup n := by
  constructor
  · intro h
    rcases hnodes : Markup.fragments markup with fault | _ | ⟨first, rest⟩
    · rw [trackingElement, hnodes] at h
      cases h
    · rw [trackingElement, hnodes] at h
      cases h
    · rw [trackingElement_cons hnodes] at h
      split_ifs at h with hone htag hblank
      cases h
      simp only [ne_eq, decide_not, Bool.or_eq_true, Bool.not_eq_true', decide_eq_false_iff_not, not_or, not_not,
        Bool.not_eq_true] at hone
      simp only [Bool.not_eq_true', Bool.not_eq_false, List.contains_iff_mem] at htag hblank
      obtain ⟨hcount, htext⟩ := hone
      obtain ⟨body, front, hbody, hchildren, hfront⟩ := (fragments_cons_iff htext).1 hnodes
      exact ⟨(shownTag_mem_iff htext).1 htag, body, front, rest, hbody, hchildren, hfront,
        (Markup.pieceCount_eq_one_iff htext).1 hcount, hblank⟩
  · rintro ⟨⟨tag, hmem, htag⟩, body, front, tail, hbody, hchildren, hfront, htail⟩
    have htext := isText_of_tag htag
    have hone : Markup.pieceCount (n :: tail) = 1 := (Markup.pieceCount_eq_one_iff htext).2 htail.isText
    have hshown : shownTag n ∈ trackingTags := (shownTag_mem_iff htext).2 ⟨tag, hmem, htag⟩
    rw [trackingElement_cons ((fragments_cons_iff htext).2 ⟨body, front, hbody, hchildren, hfront⟩),
      if_neg (by simp [hone, htext]), if_neg (by simpa using hshown), if_neg (by simp [htail.isBlank])]

/-- **What is wrong with other markup.** It is to blame, unless it cannot be taken apart. -/
theorem trackingElement_error (h : trackingElement markup = .error fault) :
    ¬ Bodiless markup ∧ isTrackingFault fault = true ∧ fault.subject? = some markup ∨
      Bodiless markup ∧ fault = .bodyCount (Markup.wrapped markup) := by
  cases hnodes : Markup.fragments markup with
  | error cause =>
    rw [trackingElement, hnodes] at h
    cases h
    rcases fragments_error hnodes with ⟨hnone, rfl⟩ | ⟨hbodiless, rfl⟩
    · refine .inl ⟨?_, rfl, rfl⟩
      rintro ⟨root, hroot, -⟩
      cases hnone.symm.trans hroot
    · exact .inr ⟨hbodiless, rfl⟩
  | ok nodes =>
    obtain ⟨body, hbody⟩ := fragments_ok hnodes
    refine .inl ⟨hbody.not_bodiless, ?_⟩
    cases nodes with
    | nil =>
      rw [trackingElement, hnodes] at h
      cases h
      exact ⟨rfl, rfl⟩
    | cons first rest =>
      rw [trackingElement_cons hnodes] at h
      split_ifs at h
      all_goals
        cases h
        exact ⟨rfl, rfl⟩

/-! ## All pieces -/

/-- the warning about the first piece of markup that does not count -/
def rejection (markup : String) (fault : Fault) : Warning :=
  ⟨s!"Invalid analytics markup, discarding all analytics: {fault.message}", some (.plain (.text markup)), some fault⟩

/-- what becomes of a body that tracking elements are put into: the result, and the state behind it -/
inductive AnalyticsOutcome (markups : List String) (body : Element) (s : State) :
    Except Fault Element × State → Prop where
  /-- each piece is an element; all stand in front of what the body has, in order -/
  | inserted {elements : List Node} {log : List Media.LogLine} : List.Forall₂ Tracks markups elements →
    AnalyticsOutcome markups body s (.ok { body with children := elements ++ body.children },
      { s with
        features := if markups = [] then s.features else used .analytics s.features
        log := log })
  /-- a piece is none, the first one; there is a warning about it, and no element -/
  | discarded {before after : List String} {markup : String} {fault : Fault} {log : List Media.LogLine} :
    markups = before ++ markup :: after → (∀ m ∈ before, ∃ n, Tracks m n) → (∀ n, ¬ Tracks markup n) →
    ¬ Bodiless markup → trackingElement markup = .error fault →
    AnalyticsOutcome markups body s
      (.ok body, { s with warnings := s.warnings ++ [rejection markup fault], log := log })
  /-- the first piece that is none cannot be taken apart -/
  | stopped {before after : List String} {markup : String} :
    markups = before ++ markup :: after → (∀ m ∈ before, ∃ n, Tracks m n) → (∀ n, ¬ Tracks markup n) →
    Bodiless markup →
    AnalyticsOutcome markups body s (.error (.bodyCount (Markup.wrapped markup)), s)

section Runs

variable {markups : List String} (body : Element) (s : State)

theorem addAnalytics_inserted {elements : List Node} (h : trackingElements markups = .ok elements) :
    ∃ log, (addAnalytics markups body).run.run s = (.ok { body with children := elements ++ body.children },
      { s with
        features := if markups = [] then s.features else used .analytics s.features
        log := log }) := by
  cases markups with
  | nil =>
    cases h
    exact ⟨s.log, rfl⟩
  | cons markup rest =>
    refine ⟨s.log ++ [⟨.debug, s!"Validated {elements.length} analytics element(s)"⟩], ?_⟩
    unfold addAnalytics analytics
    rw [h]
    have hused : used .analytics s.features =
        if s.features.contains .analytics then s.features else s.features ++ [.analytics] := by
      simp [used]
    rw [if_neg (List.cons_ne_nil markup rest), hused]
    rfl

theorem addAnalytics_discarded (h : trackingElements markups = .error fault) (hfault : isTrackingFault fault = true)
    (hsubject : fault.subject? = some markup) :
    ∃ log, (addAnalytics markups body).run.run s =
      (.ok body, { s with warnings := s.warnings ++ [rejection markup fault], log := log }) := by
  cases markups with
  | nil => cases h
  | cons first rest =>
    unfold addAnalytics analytics
    rw [h]
    simp only [hfault, hsubject]
    exact ⟨_, rfl⟩

theorem addAnalytics_stopped (h : trackingElements markups = .error fault) (hfault : isTrackingFault fault = false) :
    (addAnalytics markups body).run.run s = (.error fault, s) := by
  cases markups with
  | nil => cases h
  | cons first rest =>
    unfold addAnalytics analytics
    rw [h]
    simp only [hfault]
    rfl

end Runs

/-- **All tracking elements or none.** Elements stand in front of the body when each piece of markup is one; else the
first piece that is none gives the only warning, and the body and the used features stay as they are. But when that
piece is a document without exactly one body, the conversion fails. -/
theorem addAnalytics_outcome (markups : List String) (body : Element) (s : State) :
    AnalyticsOutcome markups body s ((addAnalytics markups body).run.run s) := by
  cases h : trackingElements markups with
  | ok elements =>
    obtain ⟨log, hrun⟩ := addAnalytics_inserted body s h
    rw [hrun]
    exact .inserted ((mapM_ok_iff.1 h).imp fun markup n hn => trackingElement_ok_iff.1 hn)
  | error fault =>
    obtain ⟨before, markup, after, hmarkups, hbefore, hmarkup⟩ := mapM_error h
    have hbefore (m : String) (hm : m ∈ before) : ∃ n, Tracks m n := by
      obtain ⟨n, hn⟩ := hbefore m hm
      exact ⟨n, trackingElement_ok_iff.1 hn⟩
    have hnone (n : Node) : ¬ Tracks markup n := by
      intro hn
      cases hmarkup.symm.trans (trackingElement_ok_iff.2 hn)
    rcases trackingElement_error hmarkup with ⟨hbody, hfault, hsubject⟩ | ⟨hbodiless, rfl⟩
    · obtain ⟨log, hrun⟩ := addAnalytics_discarded body s h hfault hsubject
      rw [hrun]
      exact .discarded hmarkups hbefore hnone hbody hmarkup
    · rw [addAnalytics_stopped body s h rfl]
      exact .stopped hmarkups hbefore hnone hbodiless

/-- **A root element alone** stops the conversion, where all other markup at most gives a warning. -/
theorem addAnalytics_rootless : ¬ ∀ (markups : List String) (body : Element) (s : State),
    ∃ e t, Runs (addAnalytics markups body) s e t := by
  intro h
  have hroot : trackingElements ["<html></html>"] = .error (.bodyCount "<html></html>") := by rfl
  obtain ⟨e, t, hrun⟩ := h ["<html></html>"] (Element.bare "body") (State.start "" default)
  have hstopped := addAnalytics_stopped (Element.bare "body") (State.start "" default) hroot rfl
  cases hrun.symm.trans hstopped

end AmpArticle.Page
