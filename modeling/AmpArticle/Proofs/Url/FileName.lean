import AmpArticle.Proofs.Text.Pieces
import AmpArticle.Url.Split
import Mathlib.Logic.Basic

/-!
File names of addresses. The file name of an address is the last segment of its path: what stands behind the last slash,
with trailing slashes and single points passed over.

Results:
- `segments_getLast`: the last of the segments of a path, and where it stands in the path;
- `fileName_lastSegment`: an address that is not refused has the last segment of its path for a file name, which is
  empty where the path has none, and holds no slash and is no single point otherwise.
-/

namespace AmpArticle.Url

/-- characters are the last segment of a path: they stand at its start or behind a slash, and behind them there are
only slashes, with nothing or a single point after each -/
structure IsLastSegment (path name : List Char) : Prop where
  notMem : '/' ∉ name
  ne_nil : name ≠ []
  ne_point : name ≠ ['.']
  place : ∃ (front : List Char) (marks : List (List Char)), path = front ++ name ++ marks.flatten ∧
    (front = [] ∨ front.getLast? = some '/') ∧ ∀ mark ∈ marks, mark = ['/'] ∨ mark = ['/', '.']

/-- a row of pieces with slashes between them has each of its pieces at its start or behind a slash -/
theorem intercalate_piece (front : List (List Char)) (piece : List Char) (back : List (List Char)) :
    ∃ before, ['/'].intercalate (front ++ piece :: back) = before ++ piece ++ back.flatMap ('/' :: ·) ∧
      (before = [] ∨ before.getLast? = some '/') := by
  cases front with
  | nil => exact ⟨[], Text.intercalate_cons ['/'] piece back, .inl rfl⟩
  | cons first front =>
    refine ⟨first ++ front.flatMap ('/' :: ·) ++ ['/'], ?_, .inr (List.getLast?_concat ..)⟩
    rw [List.cons_append, Text.intercalate_cons, List.flatMap_append, List.flatMap_cons]
    simp

/-- the last piece of a path that is no empty one and no single point is its last segment -/
theorem segments_getLast {path name : List Char} (h : (segments path).getLast? = some name) :
    IsLastSegment path name := by
  obtain ⟨_, hsegments⟩ := List.getLast?_eq_some_iff.1 h
  obtain ⟨front, back, hpieces, -, hback⟩ := List.filter_eq_append_iff.1 hsegments
  obtain ⟨skipped, marks, rfl, -, hname, hmarks⟩ := List.filter_eq_cons_iff.1 hback
  rw [← List.append_assoc] at hpieces
  have hmem : name ∈ Text.splitOnChar '/' path := by simp [hpieces]
  have hne : name ≠ [] ∧ name ≠ ['.'] := by simpa using hname
  obtain ⟨before, hpath, hbefore⟩ := intercalate_piece (front ++ skipped) name marks
  refine ⟨Text.notMem_of_mem_splitOnChar hmem, hne.1, hne.2, before, marks.map ('/' :: ·), ?_, hbefore, ?_⟩
  · rw [← List.flatMap_def, ← hpath, ← hpieces, Text.splitOnChar_eq_splitOn, List.intercalate_splitOn]
  · intro mark hmark
    obtain ⟨piece, hpiece, rfl⟩ := List.mem_map.1 hmark
    have hskip : piece = [] ∨ piece = ['.'] := by
      simpa [or_iff_not_imp_left] using List.filter_eq_nil_iff.1 hmarks piece hpiece
    exact hskip.imp (congrArg _) (congrArg _)

variable {url : String} {parts : Parts}

theorem fileName_ok (h : split url = .ok parts) :
    fileName url = .ok (String.ofList ((segments parts.plainPath).getLastD [])) := by
  rw [fileName, h]
  rfl

/-- **A file name is the last segment of the path**, or empty where the path has none. -/
theorem fileName_lastSegment (h : split url = .ok parts) : ∃ name, fileName url = .ok name ∧
    (name = "" ∧ segments parts.plainPath = [] ∨ IsLastSegment parts.plainPath name.toList) := by
  refine ⟨_, fileName_ok h, ?_⟩
  rw [List.getLastD_eq_getLast?, String.toList_ofList]
  cases hlast : (segments parts.plainPath).getLast? with
  | none => exact .inl ⟨rfl, List.getLast?_eq_none_iff.1 hlast⟩
  | some name => exact .inr (segments_getLast hlast)

end AmpArticle.Url
