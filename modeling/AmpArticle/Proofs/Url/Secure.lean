import AmpArticle.Proofs.Text.Letters
import AmpArticle.Url.Secure

/-!
Addresses over an insecure connection, and what becomes of them.

Results:
- `isInsecure_iff`: they are recognized in letters of any case;
- `secure_insecure`, `secure_kept`: only the start of such an address is changed, and no other address is;
- `secure_not_insecure`: no insecure address is left.
-/

namespace AmpArticle.Url

/-- an address that begins with `http://` in letters of any case, and the rest of it -/
def Insecure (url rest : String) : Prop := ∃ start, url = start ++ rest ∧ Text.lower start = insecureStart

variable {url rest : String}

/-- **Letters of all kinds.** No character beyond the first 128 is a letter of the insecure start in lower case. -/
theorem lower_eq_insecureStart {start : String} :
    Text.lower start = insecureStart ↔ start.toList.map Char.toLower = insecureStart.toList := by
  have hnarrow : Text.IsNarrow (· ∈ insecureStart.toList) := ⟨by decide, by decide, by decide⟩
  rw [← String.toList_inj, Text.lower, String.toList_ofList]
  constructor
  · intro h
    have hmap := Text.lowerFrom_eq_map hnarrow (.inl fun d hd => h ▸ hd)
    rw [← hmap, h]
  · intro h
    rw [Text.lowerFrom_eq_map hnarrow (.inr fun d hd => h ▸ hd), h]

theorem insecure_iff : Insecure url rest ↔
    isInsecure url = true ∧ rest.toList = url.toList.drop insecureStart.toList.length := by
  have hlength : insecureStart.length = insecureStart.toList.length := rfl
  rw [isInsecure, beq_iff_eq, hlength]
  constructor
  · rintro ⟨start, rfl, hstart⟩
    rw [lower_eq_insecureStart] at hstart
    have hcount : start.toList.length = insecureStart.toList.length := by rw [← hstart, List.length_map]
    rw [String.toList_append, ← hcount, List.take_left, List.drop_left]
    exact ⟨hstart, rfl⟩
  · rintro ⟨hstart, hrest⟩
    refine ⟨String.ofList (url.toList.take insecureStart.toList.length), ?_, ?_⟩
    · rw [← String.toList_inj, String.toList_append, String.toList_ofList, hrest, List.take_append_drop]
    · rw [lower_eq_insecureStart, String.toList_ofList, hstart]

/-- **Insecure addresses are recognized.** -/
theorem isInsecure_iff : isInsecure url = true ↔ ∃ rest, Insecure url rest := by
  constructor
  · intro h
    exact ⟨String.ofList _, insecure_iff.2 ⟨h, String.toList_ofList⟩⟩
  · rintro ⟨rest, h⟩
    exact (insecure_iff.1 h).1

/-- the rest of an insecure address is kept as it is -/
theorem secure_insecure (h : Insecure url rest) : secure url = "https://" ++ rest := by
  obtain ⟨hinsecure, hrest⟩ := insecure_iff.1 h
  rw [secure, if_pos hinsecure, show insecureStart.length = insecureStart.toList.length from rfl, ← hrest,
    String.ofList_toList]

theorem secure_kept (h : ∀ rest, ¬ Insecure url rest) : secure url = url := by
  refine if_neg fun hinsecure => ?_
  obtain ⟨rest, hrest⟩ := isInsecure_iff.1 hinsecure
  exact h rest hrest

/-- an address over a secure connection is not insecure -/
theorem not_insecure_https (rest rest' : String) : ¬ Insecure ("https://" ++ rest) rest' := by
  intro h
  have hinsecure := (insecure_iff.1 h).1
  rw [isInsecure, beq_iff_eq, String.toList_append, show insecureStart.length = 7 from rfl] at hinsecure
  have hfifth := congrArg (fun cs => cs[4]?) hinsecure
  simp [insecureStart] at hfifth

/-- **No insecure address is left.** -/
theorem secure_not_insecure : ¬ Insecure (secure url) rest := by
  by_cases h : isInsecure url = true
  · obtain ⟨rest', hrest⟩ := isInsecure_iff.1 h
    rw [secure_insecure hrest]
    exact not_insecure_https rest' rest
  · have hkept : secure url = url := if_neg h
    rw [hkept]
    exact fun hrest => h (isInsecure_iff.2 ⟨rest, hrest⟩)

/-- an address is changed just when it is insecure -/
theorem secure_ne_iff : secure url ≠ url ↔ isInsecure url = true := by
  constructor
  · intro h
    by_contra hinsecure
    exact h (if_neg hinsecure)
  · intro h heq
    obtain ⟨rest, hrest⟩ := isInsecure_iff.1 h
    exact secure_not_insecure (heq ▸ hrest)

end AmpArticle.Url
