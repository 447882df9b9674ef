import AmpArticle.Media.Sizes
import Mathlib.Tactic.SplitIfs

/-!
Where the size of a medium comes from. A session makes its client when it first needs one and keeps it; that is all
that a lookup changes, and the client in use is the same before and after. So every answer is a function of what the
session was started with, and the four places it may come from are tried in a fixed order.

Results:
- `find_error`: how looking for a file can fail;
- `cached_outcome`: what looking for a local copy comes to;
- `resolve_chain`, `after_chain`: one lookup, and from it a run of lookups, keeps what answers depend on;
- `resolve_lent`, `answer_after`: answers depend on nothing else, so lookups before a lookup make no difference;
- `resolve_after`: after any lookups an answer is the first hit in the chain, and addresses are asked only for an image
  that may be downloaded and has neither a listed size nor a local copy.
-/

namespace AmpArticle

/-! ## Looking for a file -/

namespace Disk

variable {d : Disk} {cause : FileFault}

/-- looking for a path fails for want of it, at a file in the place of a folder, or at a segment that is too long -/
theorem walk_error {here segments : List String} (h : d.walk here segments = .error cause) :
    cause = .notFound ∨ cause = .notDirectory ∨
      cause = .nameTooLong ∧ ∃ segment ∈ segments, maxName < segment.utf8ByteSize := by
  induction segments generalizing here with
  | nil =>
    unfold walk at h
    split at h
    · cases h
    · cases h
      exact .inl rfl
  | cons s rest ih =>
    have hrest {here : List String} (h : d.walk here rest = .error cause) :
        cause = .notFound ∨ cause = .notDirectory ∨
          cause = .nameTooLong ∧ ∃ segment ∈ s :: rest, maxName < segment.utf8ByteSize :=
      (ih h).imp_right fun h => h.imp_right fun ⟨hcause, segment, hmem, hlong⟩ =>
        ⟨hcause, segment, List.mem_cons_of_mem s hmem, hlong⟩
    unfold walk at h
    split at h
    · cases h
      exact .inl rfl
    · cases h
      exact .inr (.inl rfl)
    · split_ifs at h with hlong hup
      · cases h
        exact .inr (.inr ⟨rfl, s, List.mem_cons_self, hlong⟩)
      · exact hrest h
      · exact hrest h

theorem find_error {path : String} (h : d.find path = .error cause) :
    cause = .notFound ∨ cause = .notDirectory ∨
      cause = .nameTooLong ∧ ∃ segment ∈ (splitPath path).2, maxName < segment.utf8ByteSize := walk_error h

end Disk

namespace Media

/-! ## The chain -/

/-- what a lookup asks for -/
structure Query where
  url : String
  kind : Kind
  deriving DecidableEq, Inhabited

/-- what answers depend on -/
structure Chain where
  config : SizeConfig
  disk : Disk
  imageSize : List UInt8 → Option Size
  client : Client

namespace Chain

/-- whether an address has a path, and the file system takes the file name at its end -/
def Accepts (k : Chain) (url : String) : Prop :=
  ∃ name, Url.fileName url = .ok name ∧
    (name ≠ "" → ∀ folder, k.config.cacheFolder = some folder →
      k.disk.find (Disk.join folder name) ≠ .error .nameTooLong)

/-- the listed size of an address -/
def listed? (k : Chain) (url : String) : Option Size := lookup? url k.config.sizes

/-- the size of the file that bears the file name of an address in the folder of local copies -/
def copy? (k : Chain) (url : String) : Option Size :=
  match k.config.cacheFolder, Url.fileName url with
  | some folder, .ok name =>
    if name.isEmpty then none
    else
      match k.disk.read (Disk.join folder name) with
      | .ok bytes => k.imageSize bytes
      | .error _ => none
  | _, _ => none

/-- the size of what lies at an address, when the response is a good one and the size has a width -/
def download? (k : Chain) (url : String) : Option Size :=
  match (k.client.get url).2 with
  | .response status body =>
    if 200 ≤ status ∧ status ≤ 299 then (k.imageSize body).filter (·.width ≠ 0) else none
  | .failed _ | .unusable => none

/-- whether what is asked for may be downloaded -/
def mayDownload (k : Chain) (q : Query) : Bool := q.kind = .image && k.config.download

/-- the first hit: listed, copied, downloaded or the default -/
def size (k : Chain) (q : Query) : Size :=
  (k.listed? q.url <|> k.copy? q.url <|> if k.mayDownload q then k.download? q.url else none).getD k.config.defaultSize

/-- the addresses that are asked, none unless the first two places have nothing -/
def requests (k : Chain) (q : Query) : List String :=
  if k.listed? q.url = none ∧ k.copy? q.url = none ∧ k.mayDownload q = true then (k.client.get q.url).1 else []

/-- a session with the client of a chain, lent to it -/
def lent (k : Chain) : Session := .start k.config k.disk k.imageSize k.client (some k.client)

end Chain

namespace Session

/-- what the answers of a session depend on: the client is the one in use, or the one that would be made -/
def chain (s : Session) : Chain := ⟨s.config, s.disk, s.imageSize, s.client.getD s.own⟩

/-- a session after lookups, whatever came of them -/
def after (s : Session) : List Query → Session
  | [] => s
  | q :: rest => (s.resolve q.url q.kind).2.after rest

variable {s : Session} {url : String} {kind : Kind}

/-! ## What lookups keep -/

/-- the session with its client made -/
def connected (s : Session) : Session := { s with client := some s.chain.client }

theorem connect_eq : s.connect = (s.chain.client, s.connected) := by
  obtain ⟨config, disk, imageSize, own, client, borrowed⟩ := s
  cases client <;> rfl

theorem download_snd (log : List LogLine) : (s.download url log).2 = s.connected := by
  unfold download
  rw [connect_eq]
  simp only
  split
  · split
    · rfl
    · rfl
  · rfl

/-- a lookup keeps what answers depend on -/
theorem resolve_chain : (s.resolve url kind).2.chain = s.chain := by
  unfold resolve
  split
  · rfl
  · split
    · rfl
    · rfl
    · split
      · show chain (s.download url _).2 = s.chain
        rw [download_snd]
        rfl
      · rfl

/-- so do any number of lookups -/
theorem after_chain (qs : List Query) : (s.after qs).chain = s.chain := by
  induction qs generalizing s with
  | nil => rfl
  | cons q qs ih => exact ih.trans resolve_chain

/-! ## What lookups answer -/

theorem fetched_download (s : Session) (url : String) :
    (s.fetched s.chain.client url).1.filter (·.width ≠ 0) = s.chain.download? url ∧
      (s.fetched s.chain.client url).2.1 = (s.chain.client.get url).1 := by
  unfold fetched Chain.download?
  rcases s.chain.client.get url with ⟨requests, _ | _ | _⟩
  · simp only
    split
    · have himage : s.chain.imageSize = s.imageSize := rfl
      rw [himage]
      split
      · rename_i hsize
        rw [hsize]
        exact ⟨rfl, rfl⟩
      · rename_i hsize
        rw [hsize]
        exact ⟨rfl, rfl⟩
    · exact ⟨rfl, rfl⟩
  · exact ⟨rfl, rfl⟩
  · exact ⟨rfl, rfl⟩

theorem download_answer (s : Session) (url : String) (log : List LogLine) :
    (s.download url log).1.size = (s.chain.download? url).getD s.chain.config.defaultSize ∧
      (s.download url log).1.requests = (s.chain.client.get url).1 := by
  obtain ⟨hsize, hrequests⟩ := fetched_download s url
  have hfetched : s.connected.fetched s.chain.client url = s.fetched s.chain.client url := rfl
  unfold download
  rw [connect_eq]
  simp only [hfetched]
  rw [← hsize, ← hrequests]
  rcases s.fetched s.chain.client url with ⟨_ | size, requests, lines⟩
  · exact ⟨rfl, rfl⟩
  · by_cases hwidth : size.width = 0
    · simp [hwidth, default, chain, connected, Option.filter_some]
    · simp [hwidth, Option.filter_some]

/-- looking for the local copy of an address opens a file in the folder of local copies -/
structure Opens (s : Session) (url folder name : String) (bytes : List UInt8) : Prop where
  hasFolder : s.config.cacheFolder = some folder
  hasName : Url.fileName url = .ok name
  ne_empty : name ≠ ""
  unbroken : Disk.isBroken (Disk.join folder name) = false
  isFile : s.disk.find (Disk.join folder name) = .ok (.file bytes)

/-- what looking for the local copy of an address comes to -/
inductive CopyOutcome (s : Session) (url : String) : Except Fault (Option Size × List LogLine) → Prop where
  /-- there is no folder to look into -/
  | nowhere : s.config.cacheFolder = none → CopyOutcome s url (.ok (none, []))
  /-- the address has no path -/
  | refused {folder : String} {fault : Fault} : s.config.cacheFolder = some folder → Url.fileName url = .error fault →
    CopyOutcome s url (.error fault)
  /-- there is no file of this name in the folder -/
  | absent {folder name : String} : s.config.cacheFolder = some folder → Url.fileName url = .ok name →
    (name ≠ "" → ∀ bytes, s.disk.read (Disk.join folder name) ≠ .ok bytes) → CopyOutcome s url (.ok (none, []))
  /-- the file system does not take the name -/
  | tooLong {folder name : String} : s.config.cacheFolder = some folder → Url.fileName url = .ok name → name ≠ "" →
    Disk.isBroken (Disk.join folder name) = false → s.disk.find (Disk.join folder name) = .error .nameTooLong →
    CopyOutcome s url (.error (.file .nameTooLong (Disk.join folder name)))
  /-- the file is opened -/
  | opened {folder name : String} {bytes : List UInt8} {line : LogLine} : s.Opens url folder name bytes →
    CopyOutcome s url (.ok (s.imageSize bytes, [line]))

/-- **Looking for a local copy.** -/
theorem cached_outcome (s : Session) (url : String) : CopyOutcome s url (s.cached url) := by
  unfold cached
  cases hfolder : s.config.cacheFolder with
  | none => exact .nowhere hfolder
  | some folder =>
    cases hname : Url.fileName url with
    | error fault => exact .refused hfolder hname
    | ok name =>
      simp only [bind, Except.bind]
      split_ifs with hempty hbroken
      · exact .absent hfolder hname fun hne => absurd (String.isEmpty_iff.1 hempty) hne
      · exact .absent hfolder hname fun _ bytes hread => by
          rw [Disk.read, if_pos hbroken] at hread
          cases hread
      · have hne : name ≠ "" := mt String.isEmpty_iff.2 hempty
        rw [Bool.not_eq_true] at hbroken
        have habsent (h : ∀ bytes, s.disk.find (Disk.join folder name) ≠ .ok (.file bytes)) (bytes : List UInt8) :
            s.disk.read (Disk.join folder name) ≠ .ok bytes := by
          intro hread
          unfold Disk.read at hread
          rw [hbroken, if_neg Bool.false_ne_true] at hread
          split at hread
          · exact h _ ‹_›
          · cases hread
          · cases hread
        rcases hfound : s.disk.find (Disk.join folder name) with cause | _ | bytes
        · rcases Disk.find_error hfound with rfl | rfl | ⟨rfl, -⟩
          · exact .absent hfolder hname fun _ => habsent (by simp [hfound])
          · exact .absent hfolder hname fun _ => habsent (by simp [hfound])
          · exact .tooLong hfolder hname hne hbroken hfound
        · exact .absent hfolder hname fun _ => habsent (by simp [hfound])
        · have hopened (line : LogLine) : CopyOutcome s url (.ok (s.imageSize bytes, [line])) :=
            .opened ⟨hfolder, hname, hne, hbroken, hfound⟩
          cases hsize : s.imageSize bytes with
          | none =>
            simp only [hsize] at hopened ⊢
            exact hopened _
          | some size =>
            simp only [hsize] at hopened ⊢
            exact hopened _

/-- looking for a local copy comes to an end when the address and its file name are accepted -/
theorem cached_copy (h : s.chain.Accepts url) : ∃ log, s.cached url = .ok (s.chain.copy? url, log) := by
  obtain ⟨name, hname, hlength⟩ := h
  have houtcome := cached_outcome s url
  unfold Chain.copy?
  simp only [chain] at hlength ⊢
  generalize s.cached url = outcome at houtcome ⊢
  cases houtcome with
  | nowhere hfolder =>
    rw [hfolder]
    exact ⟨[], rfl⟩
  | refused _ hrefused => cases hname.symm.trans hrefused
  | absent hfolder hname' habsent =>
    rw [hfolder, hname']
    dsimp only
    split_ifs with hempty
    · exact ⟨[], rfl⟩
    · split
      · exact absurd ‹_› (habsent (mt String.isEmpty_iff.2 hempty) _)
      · exact ⟨[], rfl⟩
  | tooLong hfolder hname' hne _ hfind =>
    cases hname.symm.trans hname'
    exact absurd hfind (hlength hne _ hfolder)
  | opened hopens =>
    have hempty : ¬ _ = true := mt String.isEmpty_iff.1 hopens.ne_empty
    rw [hopens.hasFolder, hopens.hasName]
    dsimp only
    rw [if_neg hempty, Disk.read, hopens.unbroken, if_neg Bool.false_ne_true, hopens.isFile]
    exact ⟨_, rfl⟩

theorem resolve_answer {q : Query} (h : s.chain.Accepts q.url) :
    ∃ found, (s.resolve q.url q.kind).1 = .ok found ∧ found.size = s.chain.size q ∧
      found.requests = s.chain.requests q := by
  obtain ⟨log, hcached⟩ := cached_copy h
  have hlisted : s.chain.listed? q.url = lookup? q.url s.config.sizes := rfl
  unfold resolve Chain.size Chain.requests
  rw [hcached, hlisted]
  cases lookup? q.url s.config.sizes with
  | some size => exact ⟨_, rfl, rfl, rfl⟩
  | none =>
    cases s.chain.copy? q.url with
    | some size => exact ⟨_, rfl, rfl, rfl⟩
    | none =>
      have hmay : s.chain.mayDownload q = true ↔ q.kind = .image ∧ s.config.download = true := by
        simp [Chain.mayDownload, chain]
      by_cases h : q.kind = .image ∧ s.config.download = true
      · obtain ⟨hsize, hrequests⟩ := download_answer s q.url log
        refine ⟨(s.download q.url log).1, ?_, ?_, ?_⟩
        · simp only [if_pos h]
        · simpa [hmay.2 h] using hsize
        · simpa [hmay.2 h] using hrequests
      · refine ⟨s.default q.url [] log, ?_, ?_, ?_⟩
        · simp only [if_neg h]
        · simp only [mt hmay.1 h]
          rfl
        · simp [default, mt hmay.1 h]

/-! ## Runs -/

theorem download_lent (log : List LogLine) : (s.download url log).1 = (s.chain.lent.download url log).1 := by
  have hfetched : s.connected.fetched s.chain.client url =
    s.chain.lent.connected.fetched s.chain.lent.chain.client url := rfl
  unfold download
  rw [connect_eq, connect_eq]
  simp only [hfetched]
  rcases s.chain.lent.connected.fetched s.chain.lent.chain.client url with ⟨_ | size, requests, lines⟩
  · rfl
  · by_cases hwidth : size.width = 0
    · simp only [hwidth, ne_eq, not_true_eq_false, if_false]
      rfl
    · simp only [hwidth, ne_eq, not_false_eq_true, if_true]

/-- a session answers like one that was lent the client in use -/
theorem resolve_lent : (s.resolve url kind).1 = (s.chain.lent.resolve url kind).1 := by
  have hcached : s.cached url = s.chain.lent.cached url := rfl
  have hconfig : s.chain.lent.config = s.config := rfl
  unfold resolve
  rw [hcached, hconfig]
  cases lookup? url s.config.sizes with
  | some size => rfl
  | none =>
    rcases s.chain.lent.cached url with fault | ⟨_ | size, log⟩
    · rfl
    · by_cases h : kind = .image ∧ s.config.download = true
      · simp only [if_pos h]
        exact congrArg Except.ok (download_lent log)
      · simp only [if_neg h]
        rfl
    · rfl

/-- lookups before a lookup make no difference -/
theorem answer_after (before : List Query) :
    ((s.after before).resolve url kind).1 = (s.resolve url kind).1 := by
  rw [resolve_lent, after_chain, ← resolve_lent]

/-- **The chain of sizes.** After any lookups whatever, an answer is the one that a new session gives. When the address
and its file name are accepted there is an answer: its size is the first hit in the chain, and addresses were asked
only when a download was due. -/
theorem resolve_after (config : SizeConfig) (disk : Disk) (imageSize : List UInt8 → Option Size) (own : Client)
    (given : Option Client) (before : List Query) (q : Query)
    (h : (Chain.mk config disk imageSize (given.getD own)).Accepts q.url) :
    let s := start config disk imageSize own given
    let k : Chain := ⟨config, disk, imageSize, given.getD own⟩
    ((s.after before).resolve q.url q.kind).1 = (s.resolve q.url q.kind).1 ∧
    ∃ found, ((s.after before).resolve q.url q.kind).1 = .ok found ∧ found.size = k.size q ∧
      found.requests = k.requests q := by
  intro s k
  have hchain : (s.after before).chain = k := after_chain before
  exact ⟨answer_after before, hchain ▸ resolve_answer (hchain.symm ▸ h)⟩

/-- a gray picture two pixels wide and one pixel high -/
def samplePicture : List UInt8 := [0x50, 0x35, 0x0a, 0x32, 0x20, 0x31, 0x0a, 0x32, 0x35, 0x35, 0x0a, 0x61, 0x62]

/-- a listed size, an empty folder for copies, downloads, and a web with the picture at one address -/
def sampleChain : Chain where
  config := ⟨[("https://a/l.png", ⟨9, 9⟩)], some "/c", true, ⟨380, 240⟩⟩
  disk := ⟨[], [(["c"], .folder)]⟩
  imageSize := Image.size?
  client := Web.client [("https://a/x.png", .response 200 samplePicture none)] true

/-- lookups that come to nothing, to a listed size and to a download -/
def sampleQueries : List Query := [⟨"https://a/x.png", .video⟩, ⟨"https://a/l.png", .image⟩, ⟨"https://a/x.png", .image⟩]

theorem sampleChain_accepts : sampleChain.Accepts "https://a/x.png" := by
  have hname : Url.fileName "https://a/x.png" = .ok "x.png" := by rfl
  have hfind : sampleChain.disk.find (Disk.join "/c" "x.png") = .error .notFound := by rfl
  refine ⟨"x.png", hname, fun _ folder hfolder => ?_⟩
  obtain rfl : "/c" = folder := Option.some.inj hfolder
  rw [hfind]
  intro h
  cases h

theorem resolve_after_download : sampleChain.Accepts "https://a/x.png" ∧
    let s := start sampleChain.config sampleChain.disk sampleChain.imageSize sampleChain.client none
    ((s.after sampleQueries).resolve "https://a/x.png" .image).1 = (s.resolve "https://a/x.png" .image).1 ∧
    ∃ found, ((s.after sampleQueries).resolve "https://a/x.png" .image).1 = .ok found ∧ found.size = ⟨2, 1⟩ ∧
      found.requests = ["https://a/x.png"] := by
  have hsize : sampleChain.size ⟨"https://a/x.png", .image⟩ = ⟨2, 1⟩ := by decide +kernel
  have hrequests : sampleChain.requests ⟨"https://a/x.png", .image⟩ = ["https://a/x.png"] := by decide +kernel
  refine ⟨sampleChain_accepts, ?_⟩
  rw [← hsize, ← hrequests]
  exact resolve_after sampleChain.config sampleChain.disk sampleChain.imageSize sampleChain.client none sampleQueries
    ⟨"https://a/x.png", .image⟩ sampleChain_accepts

end Session

end Media

end AmpArticle
