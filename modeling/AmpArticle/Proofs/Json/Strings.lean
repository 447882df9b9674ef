import AmpArticle.Json.Reader
import AmpArticle.Json.Writer
import Mathlib.Tactic

/-!
JSON strings, written and read. Each character is written in one of three ways: for itself, by an escape of one letter
or by its number; and each of them is read as one character.

Results:
- `readString_escapeChar`: a written character is read as itself;
- `readString_flatMap`: a written text is read as itself, up to its quote.
-/

namespace AmpArticle.Json

/-! ## Characters by number -/

theorem hexValue?_hexDigit_all : ∀ n < 16, hexValue? (Text.hexDigit n) = some n := by decide

theorem hexValue?_hexDigit (n : Nat) : hexValue? (Text.hexDigit (n % 16)) = some (n % 16) :=
  hexValue?_hexDigit_all _ (Nat.mod_lt _ (by decide))

theorem readUnit_hexDigits {n : Nat} (hn : n < 0x10000) (next : Char) (rest : List Char) :
    readUnit (Text.hexDigits 4 n ++ next :: rest) = .ok (n, next :: rest) := by
  have hdigits : Text.hexDigits 4 n = [Text.hexDigit (n / 16 / 16 / 16 % 16), Text.hexDigit (n / 16 / 16 % 16),
      Text.hexDigit (n / 16 % 16), Text.hexDigit (n % 16)] := rfl
  have hvalue : ((n / 16 / 16 / 16 % 16 * 16 + n / 16 / 16 % 16) * 16 + n / 16 % 16) * 16 + n % 16 = n := by omega
  rw [hdigits]
  simp only [List.cons_append, List.nil_append, readUnit, hexValue?_hexDigit, hvalue, List.drop_succ_cons,
    List.drop_zero]

/-- a control character by its number -/
theorem readUnicode_control {c : Char} (hc : c.toNat < 0x20) (next : Char) (rest : List Char) :
    readUnicode (Text.hexDigits 4 c.toNat ++ next :: rest) = .ok (c, next :: rest) := by
  have hhigh : ¬ (0xd800 ≤ c.toNat ∧ c.toNat < 0xdc00) := by omega
  have hlow : ¬ (0xdc00 ≤ c.toNat ∧ c.toNat < 0xe000) := by omega
  rw [readUnicode, readUnit_hexDigits (by omega)]
  show (if _ then _ else if _ then _ else _) = _
  rw [if_neg hhigh, if_neg hlow, Char.ofNat_toNat]
  rfl

/-! ## Strings -/

section Reading

variable (start : Nat) (soFar : List Char) (fuel : Nat) (next : Char) (rest : List Char)

theorem readString_simple (letter : Char) {c : Char} (hletter : letter ≠ 'u') (hc : simpleEscape? letter = some c) :
    readString start soFar (fuel + 1) ('\\' :: letter :: next :: rest) =
      readString start (c :: soFar) fuel (next :: rest) := by
  rw [readString]
  · simp only [Char.reduceEq, if_false, if_true, hc]
  · exact hletter

theorem readString_number {c : Char} (hc : c.toNat < 0x20) :
    readString start soFar (fuel + 1) ('\\' :: 'u' :: (Text.hexDigits 4 c.toNat ++ next :: rest)) =
      readString start (c :: soFar) fuel (next :: rest) := by
  rw [readString]
  simp only [Char.reduceEq, if_false, if_true, readUnicode_control hc]
  rfl

theorem readString_plain {c : Char} (hquote : c ≠ '"') (hslash : c ≠ '\\') (hc : ¬ c.toNat < 0x20) :
    readString start soFar (fuel + 1) (c :: next :: rest) = readString start (c :: soFar) fuel (next :: rest) := by
  conv_lhs => unfold readString
  simp only [hquote, hslash, hc, if_false]

/-- **A written character is read as itself.** -/
theorem readString_escapeChar (c : Char) :
    readString start soFar (fuel + 1) (escapeChar c ++ next :: rest) =
      readString start (c :: soFar) fuel (next :: rest) := by
  unfold escapeChar
  split_ifs with hquote hslash hn hr ht hb hf hcontrol
  · exact readString_simple start soFar fuel next rest '"' (by decide) (by rw [hquote]; rfl)
  · exact readString_simple start soFar fuel next rest '\\' (by decide) (by rw [hslash]; rfl)
  · exact readString_simple start soFar fuel next rest 'n' (by decide) (by rw [hn]; rfl)
  · exact readString_simple start soFar fuel next rest 'r' (by decide) (by rw [hr]; rfl)
  · exact readString_simple start soFar fuel next rest 't' (by decide) (by rw [ht]; rfl)
  · have hc : Char.ofNat 8 = c := hb ▸ Char.ofNat_toNat c
    exact readString_simple start soFar fuel next rest 'b' (by decide) (by rw [← hc]; rfl)
  · have hc : Char.ofNat 12 = c := hf ▸ Char.ofNat_toNat c
    exact readString_simple start soFar fuel next rest 'f' (by decide) (by rw [← hc]; rfl)
  · exact readString_number start soFar fuel next rest hcontrol
  · exact readString_plain start soFar fuel next rest hquote hslash hcontrol

end Reading

/-- **A written text is read as itself.** The fuel counts its characters. -/
theorem readString_flatMap (start : Nat) (soFar cs rest : List Char) {fuel : Nat} (hfuel : cs.length < fuel) :
    readString start soFar fuel (cs.flatMap escapeChar ++ '"' :: rest) =
      .ok (String.ofList (soFar.reverse ++ cs), rest) := by
  induction cs generalizing soFar fuel with
  | nil =>
    obtain ⟨fuel, rfl⟩ := Nat.exists_eq_succ_of_ne_zero hfuel.ne_bot
    simp [readString]
  | cons c cs ih =>
    obtain ⟨fuel, rfl⟩ := Nat.exists_eq_succ_of_ne_zero (Nat.ne_zero_of_lt hfuel)
    have hrest : ∃ next more, cs.flatMap escapeChar ++ '"' :: rest = next :: more := by
      cases cs.flatMap escapeChar with
      | nil => exact ⟨_, _, rfl⟩
      | cons next more => exact ⟨_, _, rfl⟩
    obtain ⟨next, more, hmore⟩ := hrest
    rw [List.flatMap_cons, List.append_assoc, hmore, readString_escapeChar, ← hmore,
      ih (c :: soFar) (Nat.lt_of_succ_lt_succ hfuel), List.reverse_cons, List.append_assoc]
    rfl

theorem length_le_flatMap (cs : List Char) : cs.length ≤ (cs.flatMap escapeChar).length := by
  have hpos (c : Char) : 1 ≤ (escapeChar c).length := by
    unfold escapeChar
    split_ifs <;> simp
  induction cs with
  | nil => exact Nat.zero_le _
  | cons c cs ih =>
    rw [List.flatMap_cons, List.length_append, List.length_cons, Nat.add_comm]
    exact Nat.add_le_add (hpos c) ih

/-- the same with the fuel that the text itself gives -/
theorem readString_written (start : Nat) (s : String) (rest : List Char) :
    readString start [] ((s.toList.flatMap escapeChar ++ '"' :: rest).length + 1)
      (s.toList.flatMap escapeChar ++ '"' :: rest) = .ok (s, rest) := by
  have hlength := length_le_flatMap s.toList
  rw [readString_flatMap]
  · rw [List.reverse_nil, List.nil_append, String.ofList_toList]
  · rw [List.length_append]
    omega

end AmpArticle.Json
