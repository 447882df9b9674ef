import AmpArticle.Json.Reader
import AmpArticle.Proofs.Number.Seventeen
import Mathlib.Data.List.TakeWhile

/-!
The digits of a number, written and read. However the digits of a number are laid out, with zeros in front, behind, or
with an exponent, what is read back has the same value.

Results:
- `Json.digitsValue_toString`: the decimal digits of a whole number denote it;
- `Digits.ofNat_spec`: the significant digits of a whole number of units;
- `Layout.readsAs_renderDigits`: reading a number as it is laid out.
-/

namespace AmpArticle

namespace Json

/-! ## Values of digits -/

theorem digitsValue_eq (ds : List Char) : digitsValue ds = Nat.ofDigitChars 10 ds 0 := by
  rw [digitsValue, Nat.ofDigitChars_eq_foldl]
  simp only [Nat.mul_comm]
  rfl

theorem digitsValue_append (ds es : List Char) :
    digitsValue (ds ++ es) = digitsValue ds * 10 ^ es.length + digitsValue es := by
  simp only [digitsValue_eq]
  rw [Nat.ofDigitChars_append, Nat.ofDigitChars_eq_ofDigitChars_zero, Nat.mul_comm]

theorem digitsValue_zeros (n : Nat) : digitsValue (List.replicate n '0') = 0 := by
  rw [digitsValue_eq, Nat.ofDigitChars_replicate_zero, Nat.mul_zero]

theorem digitsValue_zeros_append (n : Nat) (ds : List Char) :
    digitsValue (List.replicate n '0' ++ ds) = digitsValue ds := by
  rw [digitsValue_append, digitsValue_zeros, Nat.zero_mul, Nat.zero_add]

theorem digitsValue_append_zeros (n : Nat) (ds : List Char) :
    digitsValue (ds ++ List.replicate n '0') = digitsValue ds * 10 ^ n := by
  rw [digitsValue_append, digitsValue_zeros, List.length_replicate, Nat.add_zero]

/-- a text of digits alone -/
def AllDigits (ds : List Char) : Prop := ∀ c ∈ ds, c.isDigit = true

theorem AllDigits.append {ds es : List Char} (hds : AllDigits ds) (hes : AllDigits es) : AllDigits (ds ++ es) := by
  intro c hc
  rcases List.mem_append.1 hc with hc | hc
  · exact hds c hc
  · exact hes c hc

theorem allDigits_zeros (n : Nat) : AllDigits (List.replicate n '0') := by
  intro c hc
  rw [List.eq_of_mem_replicate hc]
  rfl

theorem toList_toString (n : Nat) : (toString n).toList = Nat.toDigits 10 n := Nat.toList_repr

theorem digitsValue_toString (n : Nat) : digitsValue (toString n).toList = n := by
  rw [digitsValue_eq, toList_toString, Nat.ofDigitChars_ten_toDigits]

theorem allDigits_toString (n : Nat) : AllDigits (toString n).toList := by
  intro c hc
  rw [toList_toString] at hc
  exact Nat.isDigit_of_mem_toDigits (by decide) (by decide) hc

theorem toString_ne_nil (n : Nat) : (toString n).toList ≠ [] := by
  rw [toList_toString]
  exact Nat.toDigits_ne_nil

/-- only zero begins with a zero -/
theorem head_toString {n : Nat} (hn : 0 < n) : (toString n).toList.head? ≠ some '0' := by
  rw [toList_toString]
  induction n using Nat.strongRecOn with
  | ind n ih =>
    by_cases hlt : n < 10
    · rw [Nat.toDigits_of_lt_base hlt, List.head?_cons]
      intro h
      exact hn.ne' (Nat.digitChar_eq_zero.1 (Option.some.inj h))
    · rw [Nat.toDigits_of_base_le (by decide) (not_lt.1 hlt), List.head?_append_of_ne_nil _ Nat.toDigits_ne_nil]
      exact ih (n / 10) (by omega) (by omega)

end Json

/-! ## Significant digits -/

namespace Digits

open Json (digitsValue AllDigits)

/-- digits that do not begin with a zero -/
structure Proper (d : Digits) : Prop where
  digits : AllDigits d.digits
  nonempty : d.digits ≠ []
  head : d.digits.head? ≠ some '0'

/-- the number that digits stand for -/
def value (d : Digits) : Rat := (digitsValue d.digits : Rat) * (10 : Rat) ^ (d.point - d.digits.length)

/-- a text is its trimmed form and zeros -/
theorem trimmed_append (cs : List Char) :
    ∃ n, cs = (cs.reverse.dropWhile (· == '0')).reverse ++ List.replicate n '0' := by
  have hzeros : ∀ c ∈ cs.reverse.takeWhile (· == '0'), c = '0' := fun c hc => by
    simpa using List.mem_takeWhile_imp hc
  refine ⟨(cs.reverse.takeWhile (· == '0')).length, ?_⟩
  have hsplit := congrArg List.reverse (List.takeWhile_append_dropWhile (p := (· == '0')) (l := cs.reverse))
  rw [List.reverse_append, List.reverse_reverse] at hsplit
  conv_lhs => rw [← hsplit, List.eq_replicate_iff.2 ⟨rfl, hzeros⟩]
  rw [List.reverse_replicate]

theorem allDigits_ofNat (n : Nat) (unit : Int) : AllDigits (ofNat n unit).digits := by
  obtain ⟨k, hk⟩ := trimmed_append (toString n).toList
  exact fun c hc => Json.allDigits_toString n c (by rw [hk]; exact List.mem_append_left _ hc)

/-- **The significant digits of a whole number of units.** -/
theorem ofNat_spec {n : Nat} (hn : 0 < n) (unit : Int) :
    (ofNat n unit).Proper ∧ (ofNat n unit).value = n * (10 : Rat) ^ unit := by
  obtain ⟨k, hk⟩ := trimmed_append (toString n).toList
  have hvalue := Json.digitsValue_toString n
  have hlength := congrArg List.length hk
  have hhead := Json.head_toString hn
  have hdigits := allDigits_ofNat n unit
  have hpoint : (ofNat n unit).point = unit + (toString n).toList.length := rfl
  change (toString n).toList = (ofNat n unit).digits ++ _ at hk
  change _ = ((ofNat n unit).digits ++ _).length at hlength
  generalize ofNat n unit = d at *
  rw [hk, Json.digitsValue_append_zeros] at hvalue
  rw [List.length_append, List.length_replicate] at hlength
  have hnonempty : d.digits ≠ [] := by
    intro hnil
    rw [hnil] at hvalue
    simp [digitsValue] at hvalue
    omega
  rw [hk, List.head?_append_of_ne_nil _ hnonempty] at hhead
  refine ⟨⟨hdigits, hnonempty, hhead⟩, ?_⟩
  have hexponent : unit + ((toString n).toList.length : Int) - d.digits.length = (k : Int) + unit := by
    rw [hlength]
    push_cast
    ring
  rw [value, hpoint, hexponent, zpow_add₀ (by norm_num), zpow_natCast, ← mul_assoc]
  congr 1
  exact_mod_cast hvalue

end Digits

/-! ## Reading digits -/

namespace Json

/-- no digit comes next -/
def StopsDigits (rest : List Char) : Prop := ∀ c ∈ rest.head?, c.isDigit = false

/-- nothing that belongs to a number comes next -/
structure StopsNumber (rest : List Char) : Prop where
  digit : StopsDigits rest
  point : rest.head? ≠ some '.'
  exponent : ∀ c ∈ rest.head?, ¬ (c = 'e' ∨ c = 'E')

/-- the digits in front of a point: a zero alone, or any that do not begin with one -/
structure IsWhole (whole : List Char) : Prop where
  digits : AllDigits whole
  nonempty : whole ≠ []
  head : whole = ['0'] ∨ whole.head? ≠ some '0'

theorem isWhole_zero : IsWhole ['0'] := ⟨allDigits_zeros 1, List.cons_ne_nil _ _, .inl rfl⟩

section Reading

variable {ds rest : List Char}

theorem StopsDigits.cons {c : Char} (hc : c.isDigit = false) : StopsDigits (c :: rest) := by
  intro c' hc'
  obtain rfl := Option.some.inj hc'
  exact hc

theorem takeWhile_digits (hds : AllDigits ds) (hrest : StopsDigits rest) :
    (ds ++ rest).takeWhile Char.isDigit = ds := by
  rw [List.takeWhile_append_of_pos hds]
  cases rest with
  | nil => simp
  | cons c rest => simp [hrest c rfl]

theorem dropWhile_digits (hds : AllDigits ds) (hrest : StopsDigits rest) :
    (ds ++ rest).dropWhile Char.isDigit = rest := by
  rw [List.dropWhile_append_of_pos hds]
  cases rest with
  | nil => rfl
  | cons c rest => simp [hrest c rfl]

theorem readFraction_point (hne : ds ≠ []) (hds : AllDigits ds) (hrest : StopsDigits rest) :
    readFraction ('.' :: (ds ++ rest)) = (ds, rest) := by
  simp [readFraction, takeWhile_digits hds hrest, dropWhile_digits hds hrest, hne]

theorem readFraction_none (h : rest.head? ≠ some '.') : readFraction rest = ([], rest) := by
  cases rest with
  | nil => rfl
  | cons c rest =>
    rw [readFraction]
    rintro more hcons
    rw [(List.cons.inj hcons).1] at h
    exact h rfl

theorem readExponent_none (h : ∀ c ∈ rest.head?, ¬ (c = 'e' ∨ c = 'E')) : readExponent rest = none := by
  cases rest with
  | nil => rfl
  | cons c rest => exact if_neg (h c rfl)

/-- the digits of an exponent, at least two -/
theorem exponentText_eq (p : Int) : ∃ n, (Layout.exponentText p).toList =
    'e' :: (if p < 0 then '-' else '+') :: (List.replicate n '0' ++ (toString p.natAbs).toList) := by
  unfold Layout.exponentText
  by_cases hshort : (toString p.natAbs).length < 2
  · refine ⟨1, ?_⟩
    simp only [hshort, if_true]
    split_ifs <;> simp
  · refine ⟨0, ?_⟩
    simp only [hshort, if_false]
    split_ifs <;> simp

theorem readExponent_text (p : Int) (hrest : StopsDigits rest) :
    readExponent ((Layout.exponentText p).toList ++ rest) = some (p, rest) := by
  obtain ⟨n, hn⟩ := exponentText_eq p
  have hds : AllDigits (List.replicate n '0' ++ (toString p.natAbs).toList) :=
    (allDigits_zeros n).append (allDigits_toString _)
  have hvalue : digitsValue (List.replicate n '0' ++ (toString p.natAbs).toList) = p.natAbs := by
    rw [digitsValue_zeros_append, digitsValue_toString]
  have hne : List.replicate n '0' ++ (toString p.natAbs).toList ≠ [] := by
    simp
  rw [hn]
  generalize List.replicate n '0' ++ (toString p.natAbs).toList = ds at *
  split_ifs with hneg
  · simp [readExponent, takeWhile_digits hds hrest, dropWhile_digits hds hrest, hne, hvalue, abs_of_neg hneg]
  · simp [readExponent, takeWhile_digits hds hrest, dropWhile_digits hds hrest, hne, hvalue, not_lt.1 hneg]

/-- the digits in front of a point, as they are read -/
def wholeDigits (cs : List Char) : List Char :=
  match cs with
  | '0' :: _ => ['0']
  | _ => cs.takeWhile Char.isDigit

theorem wholeDigits_append {whole : List Char} (hwhole : IsWhole whole) (hrest : StopsDigits rest) :
    wholeDigits (whole ++ rest) = whole := by
  unfold wholeDigits
  split
  · rename_i more hmore
    rcases hwhole.head with hzero | hhead
    · exact hzero.symm
    · rw [← List.head?_append_of_ne_nil _ hwhole.nonempty, hmore] at hhead
      exact absurd rfl hhead
  · exact takeWhile_digits hwhole.digits hrest

/-- the number of whole digits, a fraction and an exponent -/
def assembled (negative : Bool) (whole fraction : List Char) (exponent : Option (Int × List Char)) (rest : List Char) :
    Json × List Char :=
  match fraction, exponent with
  | [], none => (.int (if negative then -(digitsValue whole : Int) else digitsValue whole), rest)
  | _, e =>
    (.real (Double.ofDecimal negative (digitsValue (whole ++ fraction)) ((e.getD (0, rest)).1 - fraction.length)),
      (e.getD (0, rest)).2)

theorem readMagnitude_whole (negative : Bool) (cs : List Char) : readMagnitude negative cs =
    if (wholeDigits cs).isEmpty then none
    else
      let (fraction, rest) := readFraction (cs.drop (wholeDigits cs).length)
      match fraction, readExponent rest with
      | [], none =>
        let n : Int := digitsValue (wholeDigits cs)
        some (.int (if negative then -n else n), rest)
      | _, e =>
        let (exponent, after) := e.getD (0, rest)
        some (.real (Double.ofDecimal negative (digitsValue (wholeDigits cs ++ fraction))
          (exponent - fraction.length)), after) := rfl

theorem readMagnitude_assembled (negative : Bool) (cs : List Char) : readMagnitude negative cs =
    if (wholeDigits cs).isEmpty then none
    else
      let r := readFraction (cs.drop (wholeDigits cs).length)
      some (assembled negative (wholeDigits cs) r.1 (readExponent r.2) r.2) := by
  rw [readMagnitude_whole]
  rcases readFraction (cs.drop (wholeDigits cs).length) with ⟨fraction, rest⟩
  dsimp only
  cases fraction <;> cases readExponent rest <;> rfl

/-- reading a number is reading its whole digits and what follows -/
theorem readMagnitude_eq {whole : List Char} (hwhole : IsWhole whole) (hrest : StopsDigits rest) (negative : Bool) :
    readMagnitude negative (whole ++ rest) =
      some (assembled negative whole (readFraction rest).1 (readExponent (readFraction rest).2)
        (readFraction rest).2) := by
  rw [readMagnitude_assembled, wholeDigits_append hwhole hrest, List.isEmpty_eq_false_iff.2 hwhole.nonempty,
    List.drop_left]
  rfl

theorem stops_exponentText (p : Int) (rest : List Char) : StopsDigits ((Layout.exponentText p).toList ++ rest) ∧
    ((Layout.exponentText p).toList ++ rest).head? ≠ some '.' := by
  obtain ⟨n, hn⟩ := exponentText_eq p
  rw [hn]
  exact ⟨.cons rfl, by simp⟩

variable {whole : List Char} (hwhole : IsWhole whole) (negative : Bool)

include hwhole

theorem readMagnitude_int (hrest : StopsNumber rest) : readMagnitude negative (whole ++ rest) =
    some (.int (if negative then -(digitsValue whole : Int) else digitsValue whole), rest) := by
  rw [readMagnitude_eq hwhole hrest.digit, readFraction_none hrest.point, readExponent_none hrest.exponent,
    assembled]

theorem readMagnitude_point (hne : ds ≠ []) (hds : AllDigits ds) (hrest : StopsNumber rest) :
    readMagnitude negative (whole ++ '.' :: (ds ++ rest)) =
      some (.real (Double.ofDecimal negative (digitsValue (whole ++ ds)) (-ds.length)), rest) := by
  have hpoint : StopsDigits ('.' :: (ds ++ rest)) := .cons rfl
  rw [readMagnitude_eq hwhole hpoint, readFraction_point hne hds hrest.digit, readExponent_none hrest.exponent]
  cases ds with
  | nil => contradiction
  | cons d ds => simp [assembled]

theorem readMagnitude_exponent (p : Int) (hrest : StopsDigits rest) :
    readMagnitude negative (whole ++ ((Layout.exponentText p).toList ++ rest)) =
      some (.real (Double.ofDecimal negative (digitsValue whole) p), rest) := by
  obtain ⟨hdigit, hpoint⟩ := stops_exponentText p rest
  rw [readMagnitude_eq hwhole hdigit, readFraction_none hpoint, readExponent_text p hrest]
  simp [assembled]

theorem readMagnitude_point_exponent (hne : ds ≠ []) (hds : AllDigits ds) (p : Int)
    (hrest : StopsDigits rest) :
    readMagnitude negative (whole ++ '.' :: (ds ++ ((Layout.exponentText p).toList ++ rest))) =
      some (.real (Double.ofDecimal negative (digitsValue (whole ++ ds)) (p - ds.length)), rest) := by
  obtain ⟨hdigit, -⟩ := stops_exponentText p rest
  have hpoint : StopsDigits ('.' :: (ds ++ ((Layout.exponentText p).toList ++ rest))) := .cons rfl
  rw [readMagnitude_eq hwhole hpoint, readFraction_point hne hds hdigit, readExponent_text p hrest]
  cases ds with
  | nil => contradiction
  | cons d ds => simp [assembled]

end Reading

end Json

namespace Layout

open Json (digitsValue AllDigits StopsNumber IsWhole)

theorem isWhole_of_proper {d : Digits} (hd : d.Proper) {ds : List Char} (hne : ds ≠ [])
    (hds : AllDigits ds) (hhead : ds.head? = d.digits.head?) : IsWhole ds where
  digits := hds
  nonempty := hne
  head := .inr (hhead ▸ hd.head)

/-- a text begins with a number that is read from digits of a given value -/
def ReadsAs (negative : Bool) (cs rest : List Char) (v : Rat) : Prop :=
  ∃ (n : Nat) (e : Int), Json.readMagnitude negative cs = some (.real (Double.ofDecimal negative n e), rest) ∧
    (n : Rat) * (10 : Rat) ^ e = v

section ReadsAs

variable {d : Digits} {negative : Bool} {rest : List Char} (hd : d.Proper)

include hd

theorem readsAs_small (hrest : StopsNumber rest) (hpoint : d.point ≤ 0) :
    ReadsAs negative ('0' :: '.' :: (List.replicate (-d.point).toNat '0' ++ d.digits ++ rest)) rest d.value := by
  have hne : List.replicate (-d.point).toNat '0' ++ d.digits ≠ [] := by simp [hd.nonempty]
  refine ⟨_, _, Json.readMagnitude_point Json.isWhole_zero negative hne
    ((Json.allDigits_zeros _).append hd.digits) hrest, ?_⟩
  have hexponent : -((List.replicate (-d.point).toNat '0' ++ d.digits).length : Int) = d.point - d.digits.length := by
    rw [List.length_append, List.length_replicate]
    omega
  rw [hexponent, Json.digitsValue_append, ← List.replicate_one, Json.digitsValue_zeros, Json.digitsValue_zeros_append,
    Nat.zero_mul, Nat.zero_add, Digits.value]

theorem readsAs_large (hrest : StopsNumber rest) (hpoint : (d.digits.length : Int) ≤ d.point) :
    ReadsAs negative (d.digits ++ List.replicate (d.point - d.digits.length).toNat '0' ++ '.' :: '0' :: rest) rest
      d.value := by
  have hwhole : IsWhole (d.digits ++ List.replicate (d.point - d.digits.length).toNat '0') :=
    isWhole_of_proper hd (by simp [hd.nonempty]) (hd.digits.append (Json.allDigits_zeros _))
      (List.head?_append_of_ne_nil _ hd.nonempty)
  refine ⟨_, _, Json.readMagnitude_point hwhole negative (List.cons_ne_nil '0' []) (Json.allDigits_zeros 1) hrest, ?_⟩
  have hexponent : d.point - d.digits.length = (((d.point - d.digits.length).toNat + 1 : Nat) : Int) + -1 := by omega
  rw [← List.replicate_one, List.append_assoc, List.replicate_append_replicate, Json.digitsValue_append_zeros,
    List.length_replicate, Digits.value, hexponent, zpow_add₀ (by norm_num), zpow_natCast, ← mul_assoc, ← hexponent]
  push_cast
  rfl

theorem readsAs_middle (hrest : StopsNumber rest) (hpos : 0 < d.point) (hpoint : d.point < d.digits.length) :
    ReadsAs negative (d.digits.take d.point.toNat ++ '.' :: (d.digits.drop d.point.toNat ++ rest)) rest d.value := by
  have htake : d.digits.take d.point.toNat ≠ [] := by
    rw [← List.length_pos_iff, List.length_take]
    omega
  have hdrop : d.digits.drop d.point.toNat ≠ [] := by
    rw [← List.length_pos_iff, List.length_drop]
    omega
  have hhead : (d.digits.take d.point.toNat).head? = d.digits.head? := by
    conv_rhs => rw [← List.take_append_drop d.point.toNat d.digits, List.head?_append_of_ne_nil _ htake]
  have hwhole := isWhole_of_proper hd htake (fun c hc => hd.digits c (List.mem_of_mem_take hc)) hhead
  refine ⟨_, _, Json.readMagnitude_point hwhole negative hdrop (fun c hc => hd.digits c (List.mem_of_mem_drop hc)) hrest,
    ?_⟩
  have hexponent : -((d.digits.drop d.point.toNat).length : Int) = d.point - d.digits.length := by
    rw [List.length_drop]
    omega
  rw [hexponent, List.take_append_drop, Digits.value]

theorem readsAs_exponent (hrest : StopsNumber rest) {c : Char} (hc : d.digits = [c]) :
    ReadsAs negative ([c] ++ ((exponentText (d.point - 1)).toList ++ rest)) rest d.value := by
  have hwhole : IsWhole [c] := hc ▸ isWhole_of_proper hd hd.nonempty hd.digits rfl
  refine ⟨_, _, Json.readMagnitude_exponent hwhole negative _ hrest.digit, ?_⟩
  rw [Digits.value, hc, List.length_singleton, Nat.cast_one]

theorem readsAs_point_exponent (hrest : StopsNumber rest) {c : Char} {ds : List Char} (hc : d.digits = c :: ds)
    (hds : ds ≠ []) :
    ReadsAs negative ([c] ++ '.' :: (ds ++ ((exponentText (d.point - 1)).toList ++ rest))) rest d.value := by
  have hall := hd.digits
  rw [hc] at hall
  obtain ⟨hfirst, hlater⟩ := List.forall_mem_cons.1 hall
  have hwhole : IsWhole [c] :=
    isWhole_of_proper hd (List.cons_ne_nil _ _) (List.forall_mem_singleton.2 hfirst) (by rw [hc]; rfl)
  refine ⟨_, _, Json.readMagnitude_point_exponent hwhole negative hds hlater _ hrest.digit, ?_⟩
  have hexponent : d.point - 1 - ds.length = d.point - d.digits.length := by
    rw [hc, List.length_cons]
    push_cast
    ring
  rw [hexponent, Digits.value, hc]
  rfl

/-- **Reading a number as it is laid out.** What is read has the value of the digits. -/
theorem readsAs_renderDigits (negative : Bool) (hrest : StopsNumber rest) :
    ReadsAs negative ((literal.renderDigits d).toList ++ rest) rest d.value := by
  have hpoint : literal.pointZero = true := rfl
  unfold renderDigits
  simp only [hpoint, if_true]
  split_ifs with hpositional hsmall hlarge
  · simpa using readsAs_small hd hrest hsmall
  · simpa using readsAs_large hd hrest hlarge
  · simpa using readsAs_middle hd hrest (not_le.1 hsmall) (not_le.1 hlarge)
  · split
    · rename_i hnil
      exact absurd hnil hd.nonempty
    · rename_i c hc
      simpa using readsAs_exponent hd hrest hc
    · rename_i c ds hds hc
      simpa using readsAs_point_exponent hd hrest hc hds

end ReadsAs

end Layout

end AmpArticle
