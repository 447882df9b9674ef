import AmpArticle.Proofs.Media.Chain
import AmpArticle.Proofs.Media.Paths
import AmpArticle.Proofs.Url.FileName
import Mathlib.Tactic.ByContra

/-!
Local copies. The name that is looked for in the folder of local copies is cut out of an address, which an article may
spell in any way. It is one segment, so that the path it makes with the folder has the segments of the folder and this
one more; and the one segment that leads out of a folder, two points, leads to a folder and not to a file.

Results:
- `segments_join`: a name below a folder adds its segments to those of the folder;
- `walk_concat`: the last segment of a path that is found is looked for in a folder;
- `find_join`: a file that is found under a name lies in the folder itself;
- `cached_inside`: so does every file that is opened for the size of a local copy.
-/

namespace AmpArticle

namespace Disk

/-! ## A name below a folder -/

/-- a slash stands between segments -/
theorem segments_slash_between (front back : String) :
    segments (front ++ "/" ++ back) = segments front ++ segments back := by
  have hlist : (front ++ "/" ++ back).toList = front.toList ++ '/' :: back.toList := by simp
  have hsplit : (front.toList ++ '/' :: back.toList).splitOn '/' =
      front.toList.splitOn '/' ++ back.toList.splitOn '/' :=
    List.splitOnP_append_cons _ _ (beq_self_eq_true '/')
  simp only [segments_eq, Text.splitOnChar_eq_splitOn]
  rw [hlist, hsplit, List.filter_append, List.map_append]

/-- the plain spelling of a path is never empty -/
theorem normalize_ne_empty (path : String) : normalize path ≠ "" := by
  intro h
  have hsegments := (segments_normalize path).1
  have hempty : segments "" = [] := by decide
  rw [h, hempty] at hsegments
  rw [normalize_eq, ← hsegments] at h
  split_ifs at h with hroot htwo hnone
  · simp at h
  · simp at h
  · simp at h
  · exact hnone rfl

variable {name : String}

/-- a folder ends in one slash when a name is put below it -/
theorem slashed_eq (folder : String) : ∃ front, slashed folder = front ++ "/" ∧ segments front = segments folder := by
  have hplain := (segments_normalize folder).1
  by_cases hlast : (normalize folder).toList.getLast? = some '/'
  · obtain ⟨front, hfront⟩ := List.getLast?_eq_some_iff.1 hlast
    have heq : normalize folder = String.ofList front ++ "/" := String.toList_injective (by simpa using hfront)
    have hsegments := segments_slash_between (String.ofList front) ""
    rw [String.append_empty, ← heq, hplain] at hsegments
    refine ⟨String.ofList front, ?_, ?_⟩
    · rw [slashed, if_pos (beq_iff_eq.2 hlast), heq]
    · rw [hsegments]
      exact (List.append_nil _).symm
  · exact ⟨normalize folder, by rw [slashed, if_neg (mt beq_iff_eq.1 hlast)], hplain⟩

/-- it starts where the folder does -/
theorem head_slashed (folder name : String) : startsAtRoot (slashed folder ++ name) = startsAtRoot folder := by
  obtain ⟨first, rest, hplain⟩ : ∃ first rest, (normalize folder).toList = first :: rest :=
    List.exists_cons_of_ne_nil fun hnil => normalize_ne_empty folder (String.toList_eq_nil_iff.1 hnil)
  have hroot := (segments_normalize folder).2.1
  have hhead : (slashed folder ++ name).toList.head? = some first := by
    rw [slashed]
    split_ifs
    · simp [hplain]
    · simp [hplain]
  rw [← hroot, startsAtRoot, startsAtRoot, splitPath, splitPath, hhead, hplain, List.head?_cons]

/-- **A name below a folder** adds its segments to those of the folder, and the path starts where the folder does. -/
theorem segments_join (folder : String) (h : '/' ∉ name.toList) :
    segments (join folder name) = segments folder ++ segments name ∧
      startsAtRoot (join folder name) = startsAtRoot folder := by
  have hhead : ¬ (name.toList.head? == some '/') = true := fun hhead => h (List.mem_of_head? (by simpa using hhead))
  obtain ⟨hsegments, hroot, -⟩ := segments_normalize (slashed folder ++ name)
  obtain ⟨front, hfront, hfolder⟩ := slashed_eq folder
  rw [join, if_neg hhead, hsegments, hroot]
  refine ⟨?_, head_slashed folder name⟩
  rw [hfront, segments_slash_between, hfolder]

/-! ## Where a path leads -/

/-- the place that one more segment of a path leads to -/
def descend (here : List String) (segment : String) : List String :=
  if segment = ".." then here.dropLast else here ++ [segment]

/-- the place that a path starts from -/
def origin (d : Disk) (path : String) : List String := if startsAtRoot path then [] else d.workingFolder

/-- the place that a path leads to -/
def reached (d : Disk) (path : String) : List String := (segments path).foldl descend (d.origin path)

variable {d : Disk} {here : List String} {e : DiskEntry}

/-- a segment is looked for in a folder -/
theorem walk_cons {segment : String} {rest : List String} : d.walk here (segment :: rest) = .ok e ↔
    d.entry? here = some .folder ∧ segment.utf8ByteSize ≤ maxName ∧ d.walk (descend here segment) rest = .ok e := by
  rw [walk, descend]
  split
  · rename_i hentry
    simp [hentry]
  · rename_i hentry
    simp [hentry]
  · rename_i hentry
    by_cases hlong : maxName < segment.utf8ByteSize
    · simp [if_pos hlong, Nat.not_le.2 hlong]
    · simp only [hentry, if_neg hlong, Nat.not_lt.1 hlong, true_and]
      split_ifs
      · rfl
      · rfl

theorem walk_nil : d.walk here [] = .ok e ↔ d.entry? here = some e := by
  rw [walk]
  split
  · rename_i hentry
    rw [hentry, Except.ok.injEq, Option.some.injEq]
  · rename_i hentry
    simp [hentry]

/-- the last segment of a path is looked for in the folder that the others lead to -/
theorem walk_concat {front : List String} {segment : String} (h : d.walk here (front ++ [segment]) = .ok e) :
    d.walk here front = .ok .folder ∧ d.entry? (front.foldl descend here) = some .folder ∧
      d.entry? (descend (front.foldl descend here) segment) = some e := by
  induction front generalizing here with
  | nil =>
    obtain ⟨hfolder, -, hlast⟩ := walk_cons.1 h
    exact ⟨walk_nil.2 hfolder, hfolder, walk_nil.1 hlast⟩
  | cons s front ih =>
    obtain ⟨hfolder, hshort, hrest⟩ := walk_cons.1 h
    obtain ⟨hfront, hplaces⟩ := ih hrest
    exact ⟨walk_cons.2 ⟨hfolder, hshort, hfront⟩, hplaces⟩

/-- the folder of a folder is a folder, or the root itself -/
def HasParents (d : Disk) : Prop :=
  ∀ place, d.entry? place = some .folder → d.entry? place.dropLast = some .folder

/-- a file lies in a folder under a name, and not in a folder above it or below it -/
structure LiesIn (d : Disk) (folder name : String) (bytes : List UInt8) : Prop where
  isFolder : d.find folder = .ok .folder
  ne_up : name ≠ ".."
  isFile : d.entry? (d.reached folder ++ [name]) = some (.file bytes)

/-- **A file that is found under a name lies in the folder.** -/
theorem find_join {folder : String} {bytes : List UInt8} (hd : d.HasParents) (hslash : '/' ∉ name.toList)
    (hsegment : isSegment name.toList = true) (h : d.find (join folder name) = .ok (.file bytes)) :
    d.LiesIn folder name bytes := by
  obtain ⟨hsegments, hroot⟩ := segments_join folder hslash
  have hname : segments name = [name] := segments_joinWith (List.forall_mem_singleton.2 ⟨hslash, hsegment⟩)
  have hwalk : d.walk (d.origin (join folder name)) (segments (join folder name)) = .ok (.file bytes) := h
  rw [origin, hroot, ← origin, hsegments, hname] at hwalk
  obtain ⟨hfolder, hplace, hfile⟩ := walk_concat hwalk
  have hup : name ≠ ".." := by
    rintro rfl
    rw [descend, if_pos rfl, hd _ hplace] at hfile
    cases hfile
  rw [descend, if_neg hup] at hfile
  exact ⟨hfolder, hup, hfile⟩

end Disk

/-! ## Local copies -/

namespace Media.Session

variable {s : Session} {url : String}

/-- a file that is opened settles what looking for a local copy comes to -/
theorem Opens.cached {folder name : String} {bytes : List UInt8} (h : s.Opens url folder name bytes) :
    ∃ line, s.cached url = .ok (s.imageSize bytes, [line]) := by
  have hempty : ¬ name.isEmpty = true := mt String.isEmpty_iff.1 h.ne_empty
  unfold Session.cached
  rw [h.hasFolder]
  simp only [h.hasName, bind, Except.bind, hempty, h.unbroken, h.isFile, if_false, Bool.false_eq_true]
  cases s.imageSize bytes with
  | none => exact ⟨_, rfl⟩
  | some size => exact ⟨_, rfl⟩

/-- **Local copies stay in their folder.** An address that is not refused has a file name, which is one segment or
empty. Whatever is found out by looking for a local copy comes from a file that is opened, and every file that is
opened has the last segment of the path of the address for its name and lies in the folder of local copies itself. -/
theorem cached_inside {parts : Url.Parts} (hurl : Url.split url = .ok parts) (hdisk : s.disk.HasParents) :
    ∃ name, Url.fileName url = .ok name ∧ '/' ∉ name.toList ∧ name ≠ "." ∧
      (∀ outcome, s.cached url = .ok outcome → outcome = (none, []) ∨
        ∃ folder bytes line, s.Opens url folder name bytes ∧ outcome = (s.imageSize bytes, [line])) ∧
      ∀ folder bytes, s.Opens url folder name bytes →
        (∃ line, s.cached url = .ok (s.imageSize bytes, [line])) ∧
        Url.IsLastSegment parts.plainPath name.toList ∧ s.disk.LiesIn folder name bytes := by
  obtain ⟨name, hname, hlast⟩ := Url.fileName_lastSegment hurl
  have hplain : '/' ∉ name.toList ∧ name ≠ "." := by
    rcases hlast with ⟨rfl, -⟩ | hlast
    · decide
    · refine ⟨hlast.notMem, ?_⟩
      rintro rfl
      exact hlast.ne_point rfl
  refine ⟨name, hname, hplain.1, hplain.2, fun outcome houtcome => ?_, fun folder bytes hopens => ?_⟩
  · have hcases := cached_outcome s url
    rw [houtcome] at hcases
    cases hcases with
    | nowhere _ => exact .inl rfl
    | absent _ _ _ => exact .inl rfl
    | opened hopens =>
      obtain rfl := Except.ok.inj (hname.symm.trans hopens.hasName)
      exact .inr ⟨_, _, _, hopens, rfl⟩
  · have hlast := hlast.resolve_left fun h => hopens.ne_empty h.1
    have hsegment : Disk.isSegment name.toList = true := by
      simpa [Disk.isSegment] using ⟨hopens.ne_empty, hlast.ne_point⟩
    exact ⟨hopens.cached, hlast, Disk.find_join hdisk hlast.notMem hsegment hopens.isFile⟩

/-- files with a picture in the folder of local copies -/
def copiesDisk : Disk := ⟨[], [(["c"], .folder), (["c", "x.png"], .file samplePicture)]⟩

/-- lookups with these files -/
def copiesSession : Session := Chain.lent { sampleChain with disk := copiesDisk }

theorem copiesDisk_hasParents : copiesDisk.HasParents := by
  intro place h
  have hplace : place = [] ∨ place = ["c"] ∨ place = ["c", "x.png"] := by
    by_contra hother
    simp only [not_or] at hother
    simp [Disk.entry?, copiesDisk, lookup?, hother.1, Ne.symm hother.2.1, Ne.symm hother.2.2] at h
  rcases hplace with rfl | rfl | rfl
  · rfl
  · rfl
  · rfl

theorem cached_inside_decorated :
    Url.split "HTTPS://h/a/../x.png/.//;p?q" = .ok ⟨"https", "h", "/a/../x.png/.//;p", "q", ""⟩ ∧
    copiesSession.disk.HasParents ∧
    copiesSession.Opens "HTTPS://h/a/../x.png/.//;p?q" "/c" "x.png" samplePicture ∧
    Url.IsLastSegment "/a/../x.png/.//".toList "x.png".toList ∧
    copiesSession.disk.LiesIn "/c" "x.png" samplePicture := by
  have hsplit : Url.split "HTTPS://h/a/../x.png/.//;p?q" = .ok ⟨"https", "h", "/a/../x.png/.//;p", "q", ""⟩ := by rfl
  have hname : Url.fileName "HTTPS://h/a/../x.png/.//;p?q" = .ok "x.png" := by rfl
  have hopens : copiesSession.Opens "HTTPS://h/a/../x.png/.//;p?q" "/c" "x.png" samplePicture :=
    ⟨rfl, hname, by decide, by decide, by rfl⟩
  obtain ⟨name, hfile, -, -, -, hinside⟩ := cached_inside (s := copiesSession) hsplit copiesDisk_hasParents
  obtain rfl : "x.png" = name := Except.ok.inj (hname.symm.trans hfile)
  obtain ⟨-, hlast, hlies⟩ := hinside "/c" samplePicture hopens
  exact ⟨hsplit, copiesDisk_hasParents, hopens, hlast, hlies⟩

end Media.Session

end AmpArticle
