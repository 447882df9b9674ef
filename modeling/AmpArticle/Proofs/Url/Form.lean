import AmpArticle.Json.Reader
import AmpArticle.Proofs.Text.Pieces
import AmpArticle.Proofs.Text.Utf8
import AmpArticle.Url.Query

/-!
Queries read as forms are read: split at each `&` and each `=`, a plus sign taken for a space, and percent signs decoded
to the bytes of a text. Reading is strict, so that a query which is read has nothing malformed in it.

Results:
- `queryChar_mem`: what a query is written with;
- `formText?_queryPart`: a name or a value is read as it was before it was written;
- `formPairs?_query`: a query tells its names and values, all of them and in order.
-/

namespace AmpArticle.Url

open Text (encodeUtf8 percentByte percentChar hexDigit splitOnChar)

/-! ## Reading -/

/-- the bytes that a part of a query stands for; two hexadecimal digits follow each percent sign -/
def formBytes? : List Char → Option (List UInt8)
  | [] => some []
  | c :: rest =>
    if c = '%' then
      match rest with
      | high :: low :: rest => do
        let high ← Json.hexValue? high
        let low ← Json.hexValue? low
        return UInt8.ofNat (16 * high + low) :: (← formBytes? rest)
      | _ => none
    else (formBytes? rest).map (String.utf8EncodeChar (if c = '+' then ' ' else c) ++ ·)

/-- the text that a part of a query stands for -/
def formText? (cs : List Char) : Option String := (formBytes? cs).bind fun bytes => (Text.decodeUtf8 bytes).toOption

/-- a name and its value -/
def formPair? (cs : List Char) : Option (String × String) :=
  match splitOnChar '=' cs with
  | [name, value] => do return (← formText? name, ← formText? value)
  | _ => none

/-- the names and values of a query -/
def formPairs? (query : String) : Option (List (String × String)) :=
  (splitOnChar '&' query.toList).mapM formPair?

/-! ## Single characters -/

variable {c d : Char} {rest : List Char}

theorem hexValue?_capital : ∀ n < 16, Json.hexValue? (hexDigit n).toUpper = some n := by decide

theorem percentByte_eq (b : UInt8) :
    percentByte b = ['%', (hexDigit (b.toNat / 16 % 16)).toUpper, (hexDigit (b.toNat % 16)).toUpper] := rfl

theorem formBytes?_percentByte (b : UInt8) : formBytes? (percentByte b ++ rest) = (formBytes? rest).map (b :: ·) := by
  have hbyte : 16 * (b.toNat / 16 % 16) + b.toNat % 16 = b.toNat := by
    have := b.toNat_lt
    omega
  rw [percentByte_eq]
  simp only [List.cons_append, List.nil_append, formBytes?, if_true,
    hexValue?_capital _ (Nat.mod_lt _ (by decide : 0 < 16)), Option.bind_eq_bind, Option.bind_some, hbyte,
    UInt8.ofNat_toNat]
  cases formBytes? rest <;> rfl

theorem formBytes?_percentBytes (bytes : List UInt8) :
    formBytes? (bytes.flatMap percentByte ++ rest) = (formBytes? rest).map (bytes ++ ·) := by
  induction bytes with
  | nil => simp
  | cons b bytes ih =>
    rw [List.flatMap_cons, List.append_assoc, formBytes?_percentByte, ih, Option.map_map]
    rfl

/-- **What a query is written with**: characters that stand for themselves, plus signs and percent signs. -/
theorem queryChar_mem (h : d ∈ queryChar c) : isQueryChar d = true ∨ d = '+' ∨ d = '%' := by
  have hdigit : ∀ n < 16, isQueryChar (hexDigit n).toUpper = true := by decide
  unfold queryChar at h
  split_ifs at h with hquery hspace
  · obtain rfl := List.mem_singleton.1 h
    exact .inl hquery
  · exact .inr (.inl (List.mem_singleton.1 h))
  · obtain ⟨b, -, hb⟩ := List.mem_flatMap.1 h
    rw [percentByte_eq] at hb
    simp only [List.mem_cons, List.not_mem_nil, or_false] at hb
    rcases hb with rfl | rfl | rfl
    · exact .inr (.inr rfl)
    · exact .inl (hdigit _ (Nat.mod_lt _ (by decide)))
    · exact .inl (hdigit _ (Nat.mod_lt _ (by decide)))

/-- a character is read as its bytes, however it is written -/
theorem formBytes?_queryChar (c : Char) :
    formBytes? (queryChar c ++ rest) = (formBytes? rest).map (String.utf8EncodeChar c ++ ·) := by
  unfold queryChar
  split_ifs with hquery hspace
  · have hpercent : c ≠ '%' := by
      rintro rfl
      exact absurd hquery (by decide)
    have hplus : c ≠ '+' := by
      rintro rfl
      exact absurd hquery (by decide)
    rw [List.singleton_append, formBytes?.eq_def]
    simp only [hpercent, hplus, if_false]
  · subst hspace
    rw [List.singleton_append, formBytes?.eq_def]
    rfl
  · exact formBytes?_percentBytes _

/-! ## Whole queries -/

/-- **A part is read as it was** before it was written. -/
theorem formText?_queryPart (s : String) : formText? (queryPart s).toList = some s := by
  have hbytes (cs : List Char) : formBytes? (cs.flatMap queryChar) = some (encodeUtf8 cs) := by
    induction cs with
    | nil => rfl
    | cons c cs ih =>
      rw [List.flatMap_cons, formBytes?_queryChar, ih, Option.map_some, encodeUtf8, encodeUtf8, List.flatMap_cons]
  rw [formText?, queryPart, String.toList_ofList, hbytes, Option.bind_some, Text.decodeUtf8_ok_iff.2 rfl]
  rfl

/-- neither of the marks that join the parts stands inside one -/
theorem notMem_queryPart (hquery : isQueryChar d = false) (hplus : d ≠ '+') (hpercent : d ≠ '%') (s : String) :
    d ∉ (queryPart s).toList := by
  intro h
  rw [queryPart, String.toList_ofList] at h
  obtain ⟨c, -, hd⟩ := List.mem_flatMap.1 h
  rcases queryChar_mem hd with h | h | h
  · cases hquery.symm.trans h
  · exact hplus h
  · exact hpercent h

/-- a name and its value in a query -/
def queryPair (p : String × String) : String := queryPart p.1 ++ "=" ++ queryPart p.2

theorem formPair?_queryPair (p : String × String) : formPair? (queryPair p).toList = some p := by
  have hjoined : queryPair p = Text.joinWith "=" [queryPart p.1, queryPart p.2] := by
    rw [queryPair, Text.joinWith, Text.joinWith]
    exact List.cons_ne_nil _ _
  have hsplit : splitOnChar '=' (queryPair p).toList = [(queryPart p.1).toList, (queryPart p.2).toList] := by
    rw [hjoined]
    refine Text.splitOnChar_joinWith rfl (List.cons_ne_nil _ _) fun s hs => ?_
    simp only [List.mem_cons, List.not_mem_nil, or_false] at hs
    rcases hs with rfl | rfl <;> exact notMem_queryPart (by decide) (by decide) (by decide) _
  rw [formPair?, hsplit]
  dsimp only
  rw [formText?_queryPart, formText?_queryPart]
  rfl

theorem ampersand_notMem_queryPair (p : String × String) : '&' ∉ (queryPair p).toList := by
  have hpart := notMem_queryPart (d := '&') (by decide) (by decide) (by decide)
  simp [queryPair, hpart]

/-- **A query tells what it was made of**: the names with their values, whatever they are, in their order. -/
theorem formPairs?_query {parts : List (String × String)} (h : parts ≠ []) : formPairs? (query parts) = some parts := by
  have hread (ps : List (String × String)) : (ps.map fun p => (queryPair p).toList).mapM formPair? = some ps := by
    induction ps with
    | nil => rfl
    | cons p ps ih =>
      rw [List.map_cons, List.mapM_cons, formPair?_queryPair, ih]
      rfl
  have hsplit : splitOnChar '&' (query parts).toList = (parts.map queryPair).map String.toList := by
    refine Text.splitOnChar_joinWith rfl (by simpa using h) fun s hs => ?_
    obtain ⟨p, -, rfl⟩ := List.mem_map.1 hs
    exact ampersand_notMem_queryPair p
  rw [formPairs?, hsplit, List.map_map]
  exact hread parts

end AmpArticle.Url
