import AmpArticle.Media.Disk
import AmpArticle.Proofs.Text.Pieces

/-!
The plain spelling of a path. Its segments are those of the path, so that it is the plain spelling of itself.

Results:
- `segments_normalize`: spelling a path plainly leaves its segments and its start;
- `normalize_normalize`: a plain spelling stays as it is.
-/

namespace AmpArticle

namespace Disk

open Text (splitOnChar joinWith)

/-- whether characters are a segment of a path: not nothing, and not a single point -/
def isSegment (piece : List Char) : Bool := !piece.isEmpty && piece != ['.']

/-- the segments of a path -/
def segments (path : String) : List String := (splitPath path).2

/-- a path that starts at the root -/
def startsAtRoot (path : String) : Bool := (splitPath path).1

variable {path : String}

theorem segments_eq (path : String) :
    segments path = ((splitOnChar '/' path.toList).filter isSegment).map String.ofList := rfl

theorem segment_spec {s : String} (h : s ∈ segments path) : '/' ∉ s.toList ∧ isSegment s.toList = true := by
  rw [segments_eq] at h
  obtain ⟨piece, hpiece, rfl⟩ := List.mem_map.1 h
  obtain ⟨hmem, hsegment⟩ := List.mem_filter.1 hpiece
  rw [String.toList_ofList]
  exact ⟨Text.notMem_of_mem_splitOnChar hmem, hsegment⟩

/-- slashes in front of a path change nothing about its segments -/
theorem segments_slash {cs : List Char} (h : path.toList = '/' :: cs) :
    segments path = segments (String.ofList cs) := by
  rw [segments_eq, segments_eq, h, String.toList_ofList, Text.splitOnChar_eq_splitOn, Text.splitOnChar_eq_splitOn]
  have hsplit : ('/' :: cs).splitOn '/' = [] :: cs.splitOn '/' := by
    rw [List.splitOn, List.splitOnP_cons_eq_if_modifyHead, if_pos (beq_self_eq_true _)]
    rfl
  rw [hsplit, List.filter_cons_of_neg (by decide)]

/-- segments joined by slashes are found again -/
theorem segments_joinWith {ss : List String} (h : ∀ s ∈ ss, '/' ∉ s.toList ∧ isSegment s.toList = true) :
    segments (joinWith "/" ss) = ss := by
  rw [segments_eq]
  cases ss with
  | nil => decide
  | cons s ss =>
    rw [Text.splitOnChar_joinWith rfl (List.cons_ne_nil _ _) fun s hs => (h s hs).1,
      List.filter_eq_self.2, List.map_map]
    · simp
    · intro piece hpiece
      obtain ⟨s, hs, rfl⟩ := List.mem_map.1 hpiece
      exact (h s hs).2

/-- segments joined by slashes do not begin with one -/
theorem head_joinWith {ss : List String} (h : ∀ s ∈ ss, '/' ∉ s.toList ∧ isSegment s.toList = true) :
    (joinWith "/" ss).toList.head? ≠ some '/' := by
  cases ss with
  | nil => decide
  | cons s ss =>
    obtain ⟨hslash, hsegment⟩ := h s List.mem_cons_self
    obtain ⟨first, rest, hs⟩ : ∃ first rest, s.toList = first :: rest := by
      refine List.exists_cons_of_ne_nil fun hnil => ?_
      rw [hnil] at hsegment
      cases hsegment
    have hfirst : first ≠ '/' := by
      rintro rfl
      exact hslash (hs ▸ List.mem_cons_self)
    cases ss with
    | nil => simpa [joinWith, hs] using hfirst
    | cons s' ss => simpa [joinWith, hs] using hfirst

/-- whether a path begins with two slashes and no more, which is kept apart from a single one -/
def hasTwoSlashes (path : String) : Bool :=
  path.toList.take 2 == ['/', '/'] && path.toList.take 3 != ['/', '/', '/']

theorem normalize_eq (path : String) : normalize path =
    if startsAtRoot path then (if hasTwoSlashes path then "//" else "/") ++ joinWith "/" (segments path)
    else if (segments path).isEmpty then "." else joinWith "/" (segments path) := rfl

/-- one or two slashes are counted as such in front of what does not start with one -/
theorem hasTwoSlashes_slashes {two : Bool} {body : String} (hhead : body.toList.head? ≠ some '/') :
    hasTwoSlashes ((if two then "//" else "/") ++ body) = two := by
  cases hchars : body.toList with
  | nil => cases two <;> simp [hasTwoSlashes, hchars]
  | cons a rest =>
    have ha : a ≠ '/' := by
      rintro rfl
      exact hhead (by rw [hchars]; rfl)
    cases two <;> simp [hasTwoSlashes, hchars, ha]

theorem segments_slashes (two : Bool) (body : String) :
    segments ((if two then "//" else "/") ++ body) = segments body := by
  have hbody : segments (String.ofList body.toList) = segments body := by rw [String.ofList_toList]
  cases two with
  | false => rw [if_neg Bool.false_ne_true, segments_slash (by simp : ("/" ++ body).toList = '/' :: body.toList), hbody]
  | true =>
    rw [if_pos rfl, segments_slash (by simp : ("//" ++ body).toList = '/' :: '/' :: body.toList),
      segments_slash String.toList_ofList, hbody]

/-- **A plain spelling has the segments of its path**, and starts where it does. -/
theorem segments_normalize (path : String) : segments (normalize path) = segments path ∧
    startsAtRoot (normalize path) = startsAtRoot path ∧
    (startsAtRoot path = true → hasTwoSlashes (normalize path) = hasTwoSlashes path) := by
  have hss : ∀ s ∈ segments path, '/' ∉ s.toList ∧ isSegment s.toList = true := fun s hs => segment_spec hs
  have hbody := segments_joinWith hss
  have hhead := head_joinWith hss
  rw [normalize_eq]
  cases hroot : startsAtRoot path with
  | true =>
    rw [if_pos rfl]
    refine ⟨by rw [segments_slashes, hbody], ?_, fun _ => hasTwoSlashes_slashes hhead⟩
    cases hasTwoSlashes path <;> simp [startsAtRoot, splitPath]
  | false =>
    rw [if_neg Bool.false_ne_true]
    refine ⟨?_, ?_, by rintro ⟨⟩⟩
    · split_ifs with hempty
      · rw [List.isEmpty_iff.1 hempty]
        decide
      · exact hbody
    · split_ifs with hempty
      · decide
      · simpa [startsAtRoot, splitPath] using hhead

/-- **A plain spelling stays as it is.** -/
theorem normalize_normalize (path : String) : normalize (normalize path) = normalize path := by
  obtain ⟨hsegments, hroot, htwo⟩ := segments_normalize path
  rw [normalize_eq (normalize path), hsegments, hroot]
  cases hstart : startsAtRoot path with
  | true => rw [htwo hstart, normalize_eq, hstart]
  | false => rw [if_neg Bool.false_ne_true, normalize_eq path, hstart, if_neg Bool.false_ne_true]

end Disk

end AmpArticle
