import AmpArticle.Json.Writer
import AmpArticle.Proofs.Number.Literal

/-!
Numbers and literal words of JSON, written and read.

Results:
- `readScalar_null`, `readScalar_bool`: words are read as themselves;
- `readScalar_int`: so are whole numbers, by a reader that takes as many digits;
- `readScalar_real`: so are floating-point numbers, also those that are none.
-/

namespace AmpArticle.Json

variable {limits : Limits} {rest : List Char}

/-! ## Words -/

theorem dropStart?_of_ne {a c : Char} (h : a ≠ c) (w cs : List Char) : Text.dropStart? (a :: w) (c :: cs) = none := if_neg h

theorem readScalar_null : readScalar limits ("null".toList ++ rest) = .ok (.null, rest) := rfl

theorem readScalar_bool (b : Bool) :
    readScalar limits ((if b then "true" else "false").toList ++ rest) = .ok (.bool b, rest) := by
  cases b <;> rfl

theorem readScalar_nan : readScalar limits ("NaN".toList ++ rest) = .ok (.real .nan, rest) := rfl

theorem readScalar_infinity (negative : Bool) :
    readScalar limits ((if negative then "-Infinity" else "Infinity").toList ++ rest) =
      .ok (.real (.infinity negative), rest) := by
  cases negative <;> rfl

/-! ## Numbers -/

theorem isDigit_of_readMagnitude {negative : Bool} {cs : List Char} {r : Json × List Char}
    (h : readMagnitude negative cs = some r) : ∃ c more, cs = c :: more ∧ c.isDigit = true := by
  cases cs with
  | nil => cases h
  | cons c more =>
    refine ⟨c, more, rfl, ?_⟩
    by_contra hc
    have hzero : c ≠ '0' := by
      rintro rfl
      exact hc rfl
    simp [readMagnitude, hc, hzero] at h

theorem ne_of_isDigit {a c : Char} (hc : c.isDigit = true) (ha : a.isDigit = false) : a ≠ c := by
  rintro rfl
  exact absurd hc (by simp [ha])

theorem cutSign_signed {c : Char} (hc : c ≠ '-') {negative : Bool} {more : List Char} :
    cutSign ((if negative then ['-'] else []) ++ c :: more) = (negative, c :: more) := by
  cases negative with
  | true => rfl
  | false => simp [cutSign, hc]

/-- a number in front of `rest` that is not whole, or has no more digits than can be read -/
def Readable (limits : Limits) (negative : Bool) (cs rest : List Char) (v : Json) : Prop :=
  ∀ n, v = .int n → limits.number negative (cs.length - rest.length) = true

theorem readable_real {negative : Bool} {cs : List Char} {x : Double} : Readable limits negative cs rest (.real x) :=
  fun _ h => by cases h

theorem readNumber_of_magnitude {negative : Bool} {cs : List Char} {v : Json}
    (h : readMagnitude negative cs = some (v, rest)) (hfits : Readable limits negative cs rest v) :
    readNumber limits ((if negative then ['-'] else []) ++ cs) = .ok (v, rest) := by
  obtain ⟨c, more, rfl, hc⟩ := isDigit_of_readMagnitude h
  have hminus : c ≠ '-' := (ne_of_isDigit hc rfl).symm
  simp only [readNumber, cutSign_signed hminus, h]
  cases v with
  | int n => exact if_pos (hfits n rfl)
  | _ => rfl

theorem readScalar_of_magnitude {cs : List Char} {v : Json} (h : readMagnitude false cs = some (v, rest))
    (hfits : Readable limits false cs rest v) : readScalar limits cs = .ok (v, rest) := by
  have hnumber := readNumber_of_magnitude h hfits
  obtain ⟨c, more, rfl, hc⟩ := isDigit_of_readMagnitude h
  have hword {a : Char} (ha : a.isDigit = false) (w : List Char) : Text.dropStart? (a :: w) (c :: more) = none :=
    dropStart?_of_ne (ne_of_isDigit hc ha) w more
  unfold readScalar
  simpa [hword] using hnumber

theorem readScalar_of_negative {cs : List Char} {v : Json} (h : readMagnitude true cs = some (v, rest))
    (hfits : Readable limits true cs rest v) : readScalar limits ('-' :: cs) = .ok (v, rest) := by
  have hnumber := readNumber_of_magnitude h hfits
  obtain ⟨c, more, rfl, hc⟩ := isDigit_of_readMagnitude h
  have hinfinity : 'I' ≠ c := ne_of_isDigit hc rfl
  unfold readScalar
  simpa [Text.dropStart?, hinfinity] using hnumber

theorem isWhole_toString (n : Nat) : IsWhole (toString n).toList where
  digits := allDigits_toString n
  nonempty := toString_ne_nil n
  head := by
    rcases Nat.eq_zero_or_pos n with rfl | hn
    · exact .inl rfl
    · exact .inr (head_toString hn)

theorem toList_toString_int (n : Int) :
    (toString n).toList = (if n < 0 then ['-'] else []) ++ (toString n.natAbs).toList := by
  cases n with
  | ofNat n => rfl
  | negSucc n =>
    rw [if_pos (Int.negSucc_lt_zero n)]
    exact String.toList_append

/-- **A whole number is read as itself** by a reader that takes as many digits. -/
theorem readScalar_int (hrest : StopsNumber rest) (n : Int)
    (hfits : limits.number (decide (n < 0)) (toString n.natAbs).toList.length = true) :
    readScalar limits ((toString n).toList ++ rest) = .ok (.int n, rest) := by
  have hread (negative : Bool) := readMagnitude_int (isWhole_toString n.natAbs) negative hrest
  have hreadable {negative : Bool} (hnegative : decide (n < 0) = negative) :
      Readable limits negative ((toString n.natAbs).toList ++ rest) rest (.int n) := by
    rintro _ -
    rw [List.length_append, Nat.add_sub_cancel, ← hnegative]
    exact hfits
  simp only [digitsValue_toString] at hread
  rw [toList_toString_int]
  split_ifs with hn
  · have hneg := hread true
    rw [if_pos rfl, show -(n.natAbs : Int) = n by omega] at hneg
    exact readScalar_of_negative hneg (hreadable (decide_eq_true hn))
  · have hpos := hread false
    rw [if_neg (by decide), show (n.natAbs : Int) = n by omega] at hpos
    exact readScalar_of_magnitude hpos (hreadable (decide_eq_false hn))

/-- **A floating-point number is read as itself**, also one that is none. -/
theorem readScalar_real (hrest : StopsNumber rest) {x : Double} (hx : x.Canonical) :
    readScalar limits ((writeReal x).toList ++ rest) = .ok (.real x, rest) := by
  cases x with
  | nan => exact readScalar_nan
  | infinity negative => exact readScalar_infinity negative
  | finite negative m e =>
    cases negative with
    | false => exact readScalar_of_magnitude (Layout.readMagnitude_literal hx false hrest) readable_real
    | true =>
      have hwrite : (writeReal (.finite true m e)).toList = '-' :: (Layout.literal.render (.finite false m e)).toList := by
        rw [writeReal, Layout.render_negative, String.toList_append]
        · rfl
        · simp
        · simp
      rw [hwrite]
      exact readScalar_of_negative (Layout.readMagnitude_literal hx true hrest) readable_real

end AmpArticle.Json
