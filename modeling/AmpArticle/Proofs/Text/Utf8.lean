import AmpArticle.Text.Utf8
import Mathlib.Data.List.Basic
import Mathlib.Tactic.SplitIfs

/-!
Texts and their bytes. A text is read from bytes just when these are its characters in UTF-8, each in the shortest
form; so what a file says is known from its bytes alone, and a file that is no text is one whose bytes no characters
have.

Results:
- `several_encode`, `encode_several`: the bytes of a character that has more than one, from the first one on;
- `decodeUtf8_ok_iff`: the bytes that are a text, and the text that they are;
- `decodeUtf8_cases`: other bytes are refused.
-/

namespace AmpArticle.Text

/-- the bytes of characters in UTF-8 -/
def encodeUtf8 (cs : List Char) : List UInt8 := cs.flatMap String.utf8EncodeChar

/-! ## Single characters -/

theorem encodeChar_length_pos (c : Char) : 0 < (String.utf8EncodeChar c).length := by
  rw [String.length_utf8EncodeChar]
  exact c.utf8Size_pos

theorem encodeUtf8_eq_nil {cs : List Char} : encodeUtf8 cs = [] ↔ cs = [] := by
  cases cs with
  | nil => simp [encodeUtf8]
  | cons c cs => simp [encodeUtf8, List.ne_nil_of_length_pos (encodeChar_length_pos c)]

theorem byte_toNat {n : Nat} (h : n < 256) : (UInt8.ofNat n).toNat = n := by
  rw [UInt8.toNat_ofNat', Nat.mod_eq_of_lt h]

theorem byte_eq {b : UInt8} {n : Nat} (h : n = b.toNat) : UInt8.ofNat n = b := by
  rw [h, UInt8.ofNat_toNat]

/-- the numbers that are characters -/
def IsScalar (n : Nat) : Prop := n < 0xd800 ∨ 0xdfff < n ∧ n < 0x110000

theorem toNat_isScalar (c : Char) : IsScalar c.toNat := c.valid

theorem scalar_toNat {n : Nat} (h : IsScalar n) : (Char.ofNat n).val.toNat = n := by
  have hv : n.isValidChar := h
  rw [Char.ofNat, dif_pos hv]
  rfl

/-- what the first of several bytes says about those behind it: how many they are, and the bounds of the first one -/
inductive Announces : Nat → Nat → Nat → Nat → Prop
  | one {b : Nat} : 0xc2 ≤ b → b ≤ 0xdf → Announces b 1 0x80 0xbf
  | two {b : Nat} : 0xe0 ≤ b → b ≤ 0xef →
      Announces b 2 (if b = 0xe0 then 0xa0 else 0x80) (if b = 0xed then 0x9f else 0xbf)
  | three {b : Nat} : 0xf0 ≤ b → b ≤ 0xf4 →
      Announces b 3 (if b = 0xf0 then 0x90 else 0x80) (if b = 0xf4 then 0x8f else 0xbf)

theorem Announces.large {b count low high : Nat} (h : Announces b count low high) : 0x80 ≤ b := by
  cases h <;> omega

theorem announced?_some_iff {b count low high : Nat} :
    announced? b = some (count, low, high) ↔ Announces b count low high := by
  constructor
  · intro h
    unfold announced? at h
    split_ifs at h with h₁ h₂ h₃ h₄ h₅ h₆ h₇
    all_goals cases h
    · exact .one h₁.1 h₁.2
    · subst h₂
      exact .two (by omega) (by omega)
    · subst h₃
      exact .two (by omega) (by omega)
    · have htwo : Announces b 2 _ _ := .two (by omega) (by omega)
      rwa [if_neg h₂, if_neg h₃] at htwo
    · subst h₅
      exact .three (by omega) (by omega)
    · have hthree : Announces b 3 _ _ := .three (by omega) (by omega)
      rwa [if_neg h₅, if_neg (by omega)] at hthree
    · subst h₇
      exact .three (by omega) (by omega)
  · intro h
    cases h with
    | one h h' => rw [announced?, if_pos ⟨h, h'⟩]
    | two h h' => grind [announced?]
    | three h h' => grind [announced?]

/-- bytes that continue a character: the first one within bounds, all others in the range of all such bytes -/
def Continues : Nat → Nat → List UInt8 → Prop
  | _, _, [] => True
  | low, high, b :: rest => low ≤ b.toNat ∧ b.toNat ≤ high ∧ Continues 0x80 0xbf rest

theorem continuation_append {low high : Nat} {more : List UInt8} (h : Continues low high more) (rest : List UInt8) :
    continuation more.length low high (more ++ rest) = more.map UInt8.toNat := by
  induction more generalizing low high with
  | nil => cases rest <;> rfl
  | cons b more ih =>
    obtain ⟨hlow, hhigh, hmore⟩ := h
    rw [List.cons_append, List.length_cons, continuation, if_pos ⟨hlow, hhigh⟩, ih hmore, List.map_cons]

theorem continues_of_length {count low high : Nat} {bytes : List UInt8}
    (h : (continuation count low high bytes).length = count) :
    ∃ more rest, bytes = more ++ rest ∧ more.length = count ∧ Continues low high more := by
  induction count generalizing low high bytes with
  | zero => exact ⟨[], bytes, rfl, rfl, trivial⟩
  | succ count ih =>
    cases bytes with
    | nil => cases h
    | cons b bytes =>
      rw [continuation] at h
      split_ifs at h with hbounds
      · obtain ⟨more, rest, rfl, hlength, hmore⟩ := ih (Nat.succ.inj h)
        exact ⟨b :: more, rest, rfl, congrArg _ hlength, hbounds.1, hbounds.2, hmore⟩

/-- the number of the character that several bytes stand for -/
def several (lead : Nat) (more : List Nat) : Nat :=
  more.foldl (fun n m => n * 64 + m % 64)
    (lead % (if more.length = 1 then 32 else if more.length = 2 then 16 else 8))

/-- **Several bytes** that the first one announces are those of a character. -/
theorem several_encode {b : UInt8} {more : List UInt8} {low high : Nat} (h : Announces b.toNat more.length low high)
    (hmore : Continues low high more) :
    String.utf8EncodeChar (Char.ofNat (several b.toNat (more.map UInt8.toNat))) = b :: more := by
  generalize hlead : b.toNat = lead at h
  generalize hcount : more.length = count at h
  cases h with
  | one h h' =>
    obtain ⟨m, rfl⟩ := List.length_eq_one_iff.1 hcount
    obtain ⟨hlow, hhigh, -⟩ := hmore
    have hvalue : several lead [m.toNat] = lead % 32 * 64 + m.toNat % 64 := rfl
    have hscalar : IsScalar (several lead [m.toNat]) := by unfold IsScalar; omega
    rw [String.utf8EncodeChar, List.map_singleton, scalar_toNat hscalar]
    rw [if_neg (by omega), if_pos (by omega), byte_eq (b := b) (by omega), byte_eq (b := m) (by omega)]
  | two h h' =>
    obtain ⟨m, m', rfl⟩ := List.length_eq_two.1 hcount
    obtain ⟨hlow, hhigh, hlow', hhigh', -⟩ := hmore
    have hvalue : several lead [m.toNat, m'.toNat] = (lead % 16 * 64 + m.toNat % 64) * 64 + m'.toNat % 64 := rfl
    have hscalar : IsScalar (several lead [m.toNat, m'.toNat]) := by
      unfold IsScalar
      split_ifs at hlow hhigh <;> omega
    have hlarge : 0x7ff < several lead [m.toNat, m'.toNat] := by split_ifs at hlow hhigh <;> omega
    rw [String.utf8EncodeChar, List.map_cons, List.map_singleton, scalar_toNat hscalar]
    rw [if_neg (by omega), if_neg (by omega), if_pos (by omega), byte_eq (b := b) (by omega),
      byte_eq (b := m) (by split_ifs at hlow hhigh <;> omega), byte_eq (b := m') (by omega)]
  | three h h' =>
    obtain ⟨m, m', m'', rfl⟩ := List.length_eq_three.1 hcount
    obtain ⟨hlow, hhigh, hlow', hhigh', hlow'', hhigh'', -⟩ := hmore
    have hvalue : several lead [m.toNat, m'.toNat, m''.toNat] =
      ((lead % 8 * 64 + m.toNat % 64) * 64 + m'.toNat % 64) * 64 + m''.toNat % 64 := rfl
    have hlarge : 0xffff < several lead [m.toNat, m'.toNat, m''.toNat] ∧
        several lead [m.toNat, m'.toNat, m''.toNat] < 0x110000 := by
      split_ifs at hlow hhigh <;> omega
    have hscalar : IsScalar (several lead [m.toNat, m'.toNat, m''.toNat]) := by unfold IsScalar; omega
    rw [String.utf8EncodeChar, List.map_cons, List.map_cons, List.map_singleton, scalar_toNat hscalar]
    rw [if_neg (by omega), if_neg (by omega), if_neg (by omega), byte_eq (b := b) (by omega),
      byte_eq (b := m) (by split_ifs at hlow hhigh <;> omega), byte_eq (b := m') (by omega), byte_eq (b := m'') (by omega)]

/-- **A character beyond the first range** has several bytes, of which the first one announces the others. -/
theorem encode_several {c : Char} (hc : 0x7f < c.toNat) : ∃ b more low high, String.utf8EncodeChar c = b :: more ∧
    Announces b.toNat more.length low high ∧ Continues low high more ∧
    several b.toNat (more.map UInt8.toNat) = c.toNat := by
  have hscalar := toNat_isScalar c
  unfold IsScalar at hscalar
  have hvalue : c.val.toNat = c.toNat := rfl
  simp only [String.utf8EncodeChar, hvalue]
  generalize c.toNat = n at *
  rw [if_neg (by omega)]
  clear hvalue
  split_ifs with h₂ h₃
  · refine ⟨_, _, _, _, rfl, .one ?_ ?_, ⟨?_, ?_, trivial⟩, ?_⟩
    all_goals simp only [several, List.map_cons, List.map_nil, List.length_cons, List.length_nil, List.foldl_cons,
      List.foldl_nil, byte_toNat (show n / 64 % 32 + 192 < 256 by omega), byte_toNat (show n % 64 + 128 < 256 by omega),
      Nat.reduceAdd, if_true]
    all_goals omega
  · refine ⟨_, _, _, _, rfl, .two ?_ ?_, ⟨?_, ?_, ?_, ?_, trivial⟩, ?_⟩
    all_goals simp only [several, List.map_cons, List.map_nil, List.length_cons, List.length_nil, List.foldl_cons,
      List.foldl_nil, byte_toNat (show n / 4096 % 16 + 224 < 256 by omega),
      byte_toNat (show n / 64 % 64 + 128 < 256 by omega), byte_toNat (show n % 64 + 128 < 256 by omega),
      Nat.reduceAdd, Nat.reduceEqDiff, if_true, if_false]
    all_goals first | omega | (split_ifs <;> omega)
  · refine ⟨_, _, _, _, rfl, .three ?_ ?_, ⟨?_, ?_, ?_, ?_, ?_, ?_, trivial⟩, ?_⟩
    all_goals simp only [several, List.map_cons, List.map_nil, List.length_cons, List.length_nil, List.foldl_cons,
      List.foldl_nil, byte_toNat (show n / 262144 % 8 + 240 < 256 by omega),
      byte_toNat (show n / 4096 % 64 + 128 < 256 by omega),
      byte_toNat (show n / 64 % 64 + 128 < 256 by omega), byte_toNat (show n % 64 + 128 < 256 by omega),
      Nat.reduceAdd, Nat.reduceEqDiff, if_false]
    all_goals first | omega | (split_ifs <;> omega)

/-! ## Texts -/

section Texts

variable {soFar cs : List Char} {position fuel : Nat} {bytes rest : List UInt8}

theorem decodeFrom_several {b : UInt8} {more : List UInt8} {low high : Nat}
    (h : Announces b.toNat more.length low high) (hmore : Continues low high more) :
    decodeFrom soFar position (fuel + 1) (b :: (more ++ rest)) =
      decodeFrom (Char.ofNat (several b.toNat (more.map UInt8.toNat)) :: soFar) (position + 1 + more.length) fuel
        rest := by
  have hb : ¬ b.toNat < 0x80 := Nat.not_lt.2 h.large
  simp only [decodeFrom]
  rw [if_neg hb, announced?_some_iff.2 h]
  simp [continuation_append hmore, several]

/-- the bytes of a character in front of others are read as that character -/
theorem decodeFrom_encode (c : Char) : ∃ position', decodeFrom soFar position (fuel + 1)
    (String.utf8EncodeChar c ++ rest) = decodeFrom (c :: soFar) position' fuel rest := by
  by_cases hc : c.toNat ≤ 0x7f
  · have hvalue : c.val.toNat = c.toNat := rfl
    rw [String.utf8EncodeChar, hvalue, if_pos hc, List.singleton_append, decodeFrom, byte_toNat (by omega),
      if_pos (by omega), Char.ofNat_toNat]
    exact ⟨_, rfl⟩
  · obtain ⟨b, more, low, high, hbytes, hannounces, hmore, hvalue⟩ := encode_several (Nat.not_le.1 hc)
    rw [hbytes, List.cons_append, decodeFrom_several hannounces hmore, hvalue, Char.ofNat_toNat]
    exact ⟨_, rfl⟩

/-- whatever is read begins with a character -/
theorem decodeFrom_ok {b : UInt8} (h : decodeFrom soFar position (fuel + 1) (b :: bytes) = .ok cs) :
    ∃ c rest position', b :: bytes = String.utf8EncodeChar c ++ rest ∧
      decodeFrom (c :: soFar) position' fuel rest = .ok cs := by
  rw [decodeFrom] at h
  split_ifs at h with hb
  · refine ⟨Char.ofNat b.toNat, bytes, _, ?_, h⟩
    rw [String.utf8EncodeChar, scalar_toNat (Or.inl (by omega)), if_pos (by omega), byte_eq rfl]
    rfl
  · split at h
    · cases h
    · rename_i count low high hannounced
      simp only at h
      split at h
      case isFalse => split at h <;> cases h
      rename_i hlength
      obtain ⟨more, rest, rfl, rfl, hmore⟩ := continues_of_length hlength
      have hannounces := announced?_some_iff.1 hannounced
      refine ⟨Char.ofNat (several b.toNat (more.map UInt8.toNat)), rest, position + 1 + more.length, ?_, ?_⟩
      · rw [several_encode hannounces hmore, List.cons_append]
      · simpa only [continuation_append hmore, several, List.length_map, List.drop_left] using h

theorem decodeFrom_ok_iff (hfuel : bytes.length ≤ fuel) :
    decodeFrom soFar position fuel bytes = .ok cs ↔ ∃ ds, cs = soFar.reverse ++ ds ∧ bytes = encodeUtf8 ds := by
  induction fuel generalizing soFar position bytes with
  | zero =>
    obtain rfl := List.length_eq_zero_iff.1 (Nat.le_zero.1 hfuel)
    constructor
    · rintro ⟨⟩
      exact ⟨[], (List.append_nil _).symm, rfl⟩
    · rintro ⟨ds, rfl, hds⟩
      rw [encodeUtf8_eq_nil.1 hds.symm, List.append_nil, decodeFrom]
  | succ fuel ih =>
    constructor
    · intro h
      cases bytes with
      | nil =>
        cases h
        exact ⟨[], (List.append_nil _).symm, rfl⟩
      | cons b bytes =>
        obtain ⟨c, rest, position', hbytes, hrest⟩ := decodeFrom_ok h
        have hlength : rest.length ≤ fuel := by
          have := congrArg List.length hbytes
          have := encodeChar_length_pos c
          simp only [List.length_cons, List.length_append] at *
          omega
        obtain ⟨ds, rfl, rfl⟩ := (ih hlength).1 hrest
        exact ⟨c :: ds, by simp, hbytes⟩
    · rintro ⟨ds, rfl, rfl⟩
      cases ds with
      | nil => simp [encodeUtf8, decodeFrom]
      | cons c ds =>
        obtain ⟨position', hread⟩ : ∃ position', decodeFrom soFar position (fuel + 1)
            (String.utf8EncodeChar c ++ encodeUtf8 ds) = decodeFrom (c :: soFar) position' fuel (encodeUtf8 ds) :=
          decodeFrom_encode c
        have hlength : (encodeUtf8 ds).length ≤ fuel := by
          have := encodeChar_length_pos c
          simp only [encodeUtf8, List.flatMap_cons, List.length_append] at *
          omega
        rw [encodeUtf8, List.flatMap_cons]
        refine hread.trans ((ih hlength).2 ⟨ds, ?_, rfl⟩)
        simp

/-- **What bytes say.** They are a text just when they are its characters in UTF-8. -/
theorem decodeUtf8_ok_iff {s : String} : decodeUtf8 bytes = .ok s ↔ bytes = encodeUtf8 s.toList := by
  have hread {cs : List Char} : decodeFrom [] 0 bytes.length bytes = .ok cs ↔
      ∃ ds, cs = [] ++ ds ∧ bytes = encodeUtf8 ds := decodeFrom_ok_iff (Nat.le_refl bytes.length)
  rw [decodeUtf8]
  constructor
  · intro h
    split at h
    · rename_i cs hcs
      obtain ⟨ds, rfl, hds⟩ := hread.1 hcs
      cases h
      simpa using hds
    · cases h
  · intro h
    rw [hread.2 ⟨s.toList, rfl, h⟩]
    simp

/-- bytes are a text, or those of none -/
theorem decodeUtf8_cases (bytes : List UInt8) : (∃ cs, bytes = encodeUtf8 cs) ∨
    (∀ cs, bytes ≠ encodeUtf8 cs) ∧ ∃ message, decodeUtf8 bytes = .error (.undecodable message) := by
  cases hdecode : decodeUtf8 bytes with
  | ok s => exact .inl ⟨s.toList, decodeUtf8_ok_iff.1 hdecode⟩
  | error fault =>
    refine .inr ⟨fun cs hcs => ?_, ?_⟩
    · have hread : decodeUtf8 bytes = .ok (String.ofList cs) := decodeUtf8_ok_iff.2 (by rw [hcs, String.toList_ofList])
      cases hdecode.symm.trans hread
    · rw [decodeUtf8] at hdecode
      split at hdecode
      · cases hdecode
      · cases hdecode
        exact ⟨_, rfl⟩

theorem unifyLineEnds_eq {cs : List Char} (h : '\r' ∉ cs) : unifyLineEnds cs = cs := by
  induction cs using unifyLineEnds.induct with
  | case1 => rfl
  | case2 rest ih => exact absurd List.mem_cons_self h
  | case3 rest hrest ih => exact absurd List.mem_cons_self h
  | case4 c rest hpair hc ih =>
    rw [unifyLineEnds, ih (mt (List.mem_cons_of_mem c) h)]
    · exact hpair
    · exact hc

theorem ofFileBytes_encode (cs : List Char) : ofFileBytes (encodeUtf8 cs) = .ok (String.ofList (unifyLineEnds cs)) := by
  have hread : decodeUtf8 (encodeUtf8 cs) = .ok (String.ofList cs) :=
    decodeUtf8_ok_iff.2 (by rw [String.toList_ofList])
  rw [ofFileBytes, hread, Except.map, String.toList_ofList]

end Texts

end AmpArticle.Text
