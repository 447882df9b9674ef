import AmpArticle.Proofs.Media.Chain

/-!
When a size is not found out at all. Whatever goes wrong on the way should only make the next place in the chain count.
Two things go wrong before the local copy is looked at, and make the whole lookup fail: an address that is refused has
no file name, and a file name may be too long to be asked for. Downloads never make a lookup fail.

Results:
- `Breaks`: the two failures, which only a folder of local copies makes possible;
- `resolve_error_iff`: after any lookups, these failures of an address that is not listed, and no others;
- `resolve_bracket`: an address with a bracket that is left open fails.
-/

namespace AmpArticle.Media

namespace Chain

variable {k : Chain} {url : String} {fault : Fault}

/-- what makes a lookup fail that comes to the folder of local copies -/
inductive Breaks (k : Chain) (url : String) : Fault → Prop where
  | address {folder : String} {fault : Fault} : k.config.cacheFolder = some folder →
    Url.fileName url = .error fault → k.Breaks url fault
  | name {folder name : String} : k.config.cacheFolder = some folder → Url.fileName url = .ok name → name ≠ "" →
    Disk.isBroken (Disk.join folder name) = false →
    k.disk.find (Disk.join folder name) = .error .nameTooLong →
    k.Breaks url (.file .nameTooLong (Disk.join folder name))

end Chain

namespace Session

variable {s : Session} {url : String} {kind : Kind} {fault : Fault}

/-- looking for a local copy fails for want of a file name that can be asked for -/
theorem cached_error_iff : s.cached url = .error fault ↔ s.chain.Breaks url fault := by
  constructor
  · intro h
    have houtcome := cached_outcome s url
    rw [h] at houtcome
    cases houtcome with
    | refused hfolder hrefused => exact .address hfolder hrefused
    | tooLong hfolder hname hne hbroken hfind => exact .name hfolder hname hne hbroken hfind
  · intro h
    unfold cached
    cases h with
    | @address folder _ hfolder hname =>
      have hfolder : s.config.cacheFolder = some folder := hfolder
      rw [hfolder]
      simp only [hname]
      rfl
    | @name folder name hfolder hname hne hbroken hfind =>
      have hfolder : s.config.cacheFolder = some folder := hfolder
      have hfind : s.disk.find (Disk.join folder name) = .error .nameTooLong := hfind
      have hempty : ¬ name.isEmpty = true := mt String.isEmpty_iff.1 hne
      rw [hfolder]
      simp only [hname, bind, Except.bind, hempty, hbroken, hfind, if_false, Bool.false_eq_true]
      rfl

/-- one lookup fails when the address is not listed and there is no file name to look for -/
theorem resolve_breaks_iff :
    (s.resolve url kind).1 = .error fault ↔ s.chain.listed? url = none ∧ s.chain.Breaks url fault := by
  have hlisted : s.chain.listed? url = lookup? url s.config.sizes := rfl
  rw [hlisted, ← cached_error_iff]
  unfold resolve
  cases lookup? url s.config.sizes with
  | some size => simp
  | none =>
    rcases s.cached url with fault' | ⟨_ | size, log⟩
    · simp
    · by_cases hmay : kind = .image ∧ s.config.download = true
      · simp [if_pos hmay]
      · simp [if_neg hmay]
    · simp

/-- **What makes a lookup fail.** After any lookups, whatever the files and the web hold: an address that is not listed
fails when it is refused or its file name is too long, and only when there is a folder of local copies to look into.
Everything else that goes wrong is passed over, and there is a size. The disk is a snapshot that can be read:
permissions, and the limit that a system sets to a path as a whole, lie outside of it. -/
theorem resolve_error_iff (config : SizeConfig) (disk : Disk) (imageSize : List UInt8 → Option Size) (own : Client)
    (given : Option Client) (before : List Query) (q : Query) (fault : Fault) :
    let s := start config disk imageSize own given
    let k : Chain := ⟨config, disk, imageSize, given.getD own⟩
    ((s.after before).resolve q.url q.kind).1 = .error fault ↔ k.listed? q.url = none ∧ k.Breaks q.url fault := by
  intro s k
  have hchain : (s.after before).chain = k := after_chain before
  rw [resolve_breaks_iff, hchain]

/-- **A bracket that is left open** fails, where any other address that leads nowhere has the default size. -/
theorem resolve_bracket : ¬ ∀ (config : SizeConfig) (disk : Disk) (imageSize : List UInt8 → Option Size)
    (own : Client) (given : Option Client) (url : String) (kind : Kind),
    ∃ found, ((start config disk imageSize own given).resolve url kind).1 = .ok found := by
  intro h
  have hname : Url.fileName "http://[::1/x" = .error .addressBrackets := by rfl
  have hfails : (sampleChain.lent.resolve "http://[::1/x" .image).1 = .error .addressBrackets :=
    resolve_breaks_iff.2 ⟨rfl, .address rfl hname⟩
  obtain ⟨found, hfound⟩ := h sampleChain.config sampleChain.disk sampleChain.imageSize sampleChain.client
    (some sampleChain.client) "http://[::1/x" .image
  cases hfails.symm.trans hfound

end Session

end AmpArticle.Media
