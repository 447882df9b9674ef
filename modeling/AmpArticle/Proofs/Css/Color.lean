import AmpArticle.Css.Color
import AmpArticle.Proofs.Number.Decimals
import AmpArticle.Proofs.Number.Nearness
import AmpArticle.Proofs.Text.Finding
import AmpArticle.Proofs.Text.Letters

/-!
Colours: which texts are colours, and what a style sheet has for them.

Results:
- `Denotes`, `IsShortest`: the value of a decimal text, and the shortest text of a value;
- `hundredths_eq`: an opacity in hundredths is the nearest whole number of them, and there is never a tie;
- `hundredthsText_shortest`: it is written with as few characters as possible;
- `letters_eq`: small letters beyond the first 128 characters make no difference;
- `toRgb_grammar`: a colour is three, four, six or eight hexadecimal digits, its channels are what its pairs of digits
  say, and two colours are written alike just when they agree in these and in the opacity as it is rounded.
-/

namespace AmpArticle.Css

open Json (digitsValue AllDigits)
open Text (append_cons_unique)

/-! ## Decimal texts -/

/-- the value of a decimal text: digits and, behind a point, further digits -/
inductive Denotes : List Char → Rat → Prop where
  | whole {ds : List Char} : ds ≠ [] → AllDigits ds → Denotes ds (digitsValue ds)
  | fraction {ds fs : List Char} : ds ≠ [] → AllDigits ds → fs ≠ [] → AllDigits fs →
    Denotes (ds ++ '.' :: fs) (digitsValue (ds ++ fs) / 10 ^ fs.length)

/-- a decimal text of a value, no other one of which is shorter -/
structure IsShortest (text : String) (q : Rat) : Prop where
  denotes : Denotes text.toList q
  least : ∀ cs, Denotes cs q → text.toList.length ≤ cs.length

section Decimals

variable {cs ds es fs gs : List Char} {q r : Rat}

theorem point_not_mem (h : AllDigits ds) : '.' ∉ ds := fun hmem => absurd (h _ hmem) (by decide)

/-- **A decimal text has one value.** -/
theorem Denotes.unique (h : Denotes cs q) (h' : Denotes cs r) : q = r := by
  cases h with
  | whole hne hds =>
    generalize hcs : cs = cs' at h'
    cases h' with
    | whole => rfl
    | fraction =>
      have hpoint := point_not_mem hds
      rw [hcs] at hpoint
      exact absurd (by simp) hpoint
  | fraction hne hds hfne hfs =>
    rename_i ds fs
    generalize hcs : ds ++ '.' :: fs = cs' at h'
    cases h' with
    | whole _ hes =>
      have hpoint := point_not_mem hes
      rw [← hcs] at hpoint
      exact absurd (by simp) hpoint
    | fraction _ hes _ hgs =>
      obtain ⟨rfl, rfl⟩ := append_cons_unique (point_not_mem hds) (point_not_mem hes) hcs
      rfl

/-- a text of a value with places behind the point is longer by these and the point -/
theorem Denotes.places (h : Denotes cs q) :
    ∃ n places : Nat, q = n / 10 ^ places ∧ (places = 0 ∧ 1 ≤ cs.length ∨ places + 2 ≤ cs.length) := by
  cases h with
  | whole hne hds => exact ⟨digitsValue cs, 0, by simp, .inl ⟨rfl, List.length_pos_of_ne_nil hne⟩⟩
  | fraction hne hds hfne hfs =>
    refine ⟨_, _, rfl, .inr ?_⟩
    have := List.length_pos_of_ne_nil hne
    simp only [List.length_append, List.length_cons]
    omega

end Decimals

namespace Color

/-! ## Opacity in hundredths -/

/-- **An opacity is rounded to the nearest hundredth.** There is never a tie: twice its hundredths would be odd. -/
theorem hundredths_eq (a : Nat) : roundHalfEven (100 * a / 255) = hundredths a := by
  have hlow : 510 * hundredths a < 200 * a + 255 := by
    unfold hundredths
    omega
  have hhigh : 200 * a < 510 * hundredths a + 255 := by
    unfold hundredths
    omega
  have hlow' : (510 * hundredths a : Rat) < 200 * a + 255 := by exact_mod_cast hlow
  have hhigh' : (200 * a : Rat) < 510 * hundredths a + 255 := by exact_mod_cast hhigh
  refine roundHalfEven_of_close (abs_lt.2 ⟨?_, ?_⟩)
  · push_cast
    linarith
  · push_cast
    linarith

theorem hundredths_le {a : Nat} (h : a < 256) : hundredths a ≤ 100 := by
  unfold hundredths
  omega

/-- a decimal text below one -/
theorem denotes_fraction {fs : List Char} (hne : fs ≠ []) (hfs : AllDigits fs) :
    Denotes ('0' :: '.' :: fs) (digitsValue fs / 10 ^ fs.length) := by
  have hzero : AllDigits ['0'] := Json.allDigits_zeros 1
  have h := Denotes.fraction (List.cons_ne_nil '0' []) hzero hne hfs
  rwa [show ['0'] = List.replicate 1 '0' from rfl, Json.digitsValue_zeros_append] at h

theorem length_toString : ∀ n < 100, (toString n).toList.length = if n < 10 then 1 else 2 := by decide

theorem hundredthsText_denotes {n : Nat} (hn : n ≤ 100) : Denotes (hundredthsText n).toList (n / 100) := by
  have hwhole (k : Nat) : Denotes (toString k).toList (k : Rat) := by
    have h := Denotes.whole (Json.toString_ne_nil k) (Json.allDigits_toString k)
    rwa [Json.digitsValue_toString] at h
  have hbelow (k : Nat) := denotes_fraction (Json.toString_ne_nil k) (Json.allDigits_toString k)
  unfold hundredthsText
  split_ifs with hzero hone htenth hsmall
  · rw [hzero, show ((0 : Nat) : Rat) / 100 = (0 : Nat) by norm_num]
    exact hwhole 0
  · rw [hone, show ((100 : Nat) : Rat) / 100 = (1 : Nat) by norm_num]
    exact hwhole 1
  · -- tenths: a single place
    have h := hbelow (n / 10)
    rw [Json.digitsValue_toString, length_toString _ (by omega), if_pos (by omega)] at h
    have hvalue : ((n / 10 : Nat) : Rat) / 10 ^ 1 = n / 100 := by
      have hexact : (n : Rat) = 10 * (n / 10 : Nat) := by exact_mod_cast (by omega : n = 10 * (n / 10))
      rw [hexact]
      ring
    rw [hvalue] at h
    simpa using h
  · have hdigits : AllDigits ('0' :: (toString n).toList) := (Json.allDigits_zeros 1).append (Json.allDigits_toString n)
    have hvalue : digitsValue ('0' :: (toString n).toList) = n :=
      (Json.digitsValue_zeros_append 1 _).trans (Json.digitsValue_toString n)
    have h := denotes_fraction (List.cons_ne_nil '0' _) hdigits
    rw [hvalue, List.length_cons, length_toString _ (by omega), if_pos hsmall] at h
    norm_num at h
    simpa using h
  · have h := hbelow n
    rw [Json.digitsValue_toString, length_toString _ (by omega), if_neg hsmall] at h
    norm_num at h
    simpa using h

theorem hundredthsText_length {n : Nat} (hn : n ≤ 100) : (hundredthsText n).toList.length =
    if n = 0 ∨ n = 100 then 1 else if n % 10 = 0 then 3 else 4 := by
  have hall : ∀ n < 101, (hundredthsText n).toList.length =
      if n = 0 ∨ n = 100 then 1 else if n % 10 = 0 then 3 else 4 := by decide
  exact hall n (by omega)

/-- **Hundredths are written with as few characters as possible.** -/
theorem hundredthsText_shortest {n : Nat} (hn : n ≤ 100) : IsShortest (hundredthsText n) (n / 100) where
  denotes := hundredthsText_denotes hn
  least cs hcs := by
    obtain ⟨m, places, hvalue, hlength⟩ := hcs.places
    have hscaled : n * 10 ^ places = 100 * m := by
      rw [div_eq_div_iff (by norm_num) (by positivity)] at hvalue
      exact_mod_cast hvalue.trans (mul_comm _ _)
    rw [hundredthsText_length hn]
    -- as many places are needed as the hundredths have digits behind the point
    have hplaces : (n % 10 ≠ 0 → 2 ≤ places) ∧ (n ≠ 0 → n ≠ 100 → 1 ≤ places) := by
      match places with
      | 0 => omega
      | 1 => omega
      | places + 2 => omega
    split_ifs <;> omega

/-! ## Digits of colours -/

/-- the hexadecimal digits in the order of their values -/
def hexDigits : List Char := "0123456789abcdef".toList

/-- three, four, six or eight hexadecimal digits -/
def IsHex (ds : List Char) : Prop := (∀ d ∈ ds, d ∈ hexDigits) ∧ ds.length ∈ [3, 4, 6, 8]

/-- the digits in pairs: a single digit for a value stands for itself twice -/
def paired (ds : List Char) : List Char := if ds.length ≤ 4 then doubled ds else ds

/-- the value of the pair of digits behind the first `i` -/
def pairAt (ds : List Char) (i : Nat) : Nat :=
  16 * hexDigits.idxOf (ds.getD i '0') + hexDigits.idxOf (ds.getD (i + 1) '0')

/-- red, green and blue: the last three pairs -/
def channels (ds : List Char) : List Nat := [6, 4, 2].map fun k => pairAt (paired ds) ((paired ds).length - k)

/-- the first pair, when there are four -/
def alpha? (ds : List Char) : Option Nat := if (paired ds).length = 8 then some (pairAt (paired ds) 0) else none

/-- an opacity as it is shown: as a part of 255, rounded to hundredths, and full when there is none -/
def shownOpacity (alpha : Option Nat) : Rat :=
  match alpha with
  | none => 1
  | some a => roundHalfEven (100 * a / 255) / 100

theorem isDigit_iff (c : Char) : isDigit c = true ↔ c ∈ hexDigits := by
  constructor
  · intro h
    have hrange : 48 ≤ c.toNat ∧ c.toNat ≤ 57 ∨ 97 ≤ c.toNat ∧ c.toNat ≤ 102 := by
      simp only [isDigit, Char.isDigit, Bool.or_eq_true, Bool.and_eq_true, decide_eq_true_eq, Char.le_def,
        UInt32.le_iff_toNat_le, ge_iff_le] at h
      exact h
    rw [← Char.ofNat_toNat c]
    generalize c.toNat = n at hrange
    rcases hrange with ⟨hlow, hhigh⟩ | ⟨hlow, hhigh⟩ <;> interval_cases n <;> decide
  · intro h
    have hall : ∀ d ∈ hexDigits, isDigit d = true := by decide
    exact hall c h

theorem digitValue_eq {d : Char} (h : d ∈ hexDigits) : digitValue d = hexDigits.idxOf d := by
  have hall : ∀ d ∈ hexDigits, digitValue d = hexDigits.idxOf d := by decide
  exact hall d h

theorem pairAt_lt {ds : List Char} (h : ∀ d ∈ ds, d ∈ hexDigits) (i : Nat) : pairAt ds i < 256 := by
  have hdigit (i : Nat) : hexDigits.idxOf (ds.getD i '0') < 16 := by
    refine List.idxOf_lt_length_of_mem (l := hexDigits) ?_
    rw [List.getD_eq_getElem?_getD]
    cases hd : ds[i]? with
    | none => decide
    | some d => exact h d (List.mem_of_getElem? hd)
  have h1 := hdigit i
  have h2 := hdigit (i + 1)
  unfold pairAt
  omega

theorem paired_hex {ds : List Char} (h : ∀ d ∈ ds, d ∈ hexDigits) : ∀ d ∈ paired ds, d ∈ hexDigits := by
  intro d hd
  unfold paired at hd
  split at hd
  · obtain ⟨e, he, hde⟩ := List.mem_flatMap.1 hd
    simp only [List.mem_cons, List.not_mem_nil, or_false, or_self] at hde
    exact hde ▸ h e he
  · exact h d hd

/-- **A text of three, four, six or eight digits is the colour that its pairs of digits say.** -/
theorem ofText_hex {s : String} (h : IsHex (digits s)) : ∃ r g b, channels (digits s) = [r, g, b] ∧
    ofText s = .ok ⟨alpha? (digits s), r, g, b⟩ := by
  unfold ofText
  generalize digits s = ds at h
  obtain ⟨hdigits, hlength⟩ := h
  have hall : ds.all isDigit = true := List.all_eq_true.2 fun d hd => (isDigit_iff d).2 (hdigits d hd)
  have hne : ds.isEmpty = false := by
    cases ds with
    | nil => simp at hlength
    | cons => rfl
  refine ⟨_, _, _, rfl, ?_⟩
  simp only [hall, hne, Bool.not_true, Bool.or_false, Bool.false_eq_true, if_false]
  match ds, hlength with
  | [a, b, c], _ =>
    simp only [List.forall_mem_cons] at hdigits
    obtain ⟨ha, hb, hc, -⟩ := hdigits
    simp [pairs, doubled, alpha?, paired, pairAt, digitValue_eq, ha, hb, hc, mul_comm]
  | [a, b, c, d], _ =>
    simp only [List.forall_mem_cons] at hdigits
    obtain ⟨ha, hb, hc, hd, -⟩ := hdigits
    simp [pairs, doubled, alpha?, paired, pairAt, digitValue_eq, ha, hb, hc, hd, mul_comm]
  | [a, b, c, d, e, f], _ =>
    simp only [List.forall_mem_cons] at hdigits
    obtain ⟨ha, hb, hc, hd, he, hf, -⟩ := hdigits
    simp [pairs, alpha?, paired, pairAt, digitValue_eq, ha, hb, hc, hd, he, hf, mul_comm]
  | [a, b, c, d, e, f, g, k], _ =>
    simp only [List.forall_mem_cons] at hdigits
    obtain ⟨ha, hb, hc, hd, he, hf, hg, hk, -⟩ := hdigits
    simp [pairs, alpha?, paired, pairAt, digitValue_eq, ha, hb, hc, hd, he, hf, hg, hk, mul_comm]

/-- any other text is blamed for its format -/
theorem ofText_other {s : String} (h : ¬ IsHex (digits s)) : ofText s = .error (.colorDigits s) ∨
    ofText s = .error (.colorLength s) := by
  unfold ofText
  generalize digits s = ds at h
  dsimp only
  split
  · exact .inl rfl
  · rename_i hdigits
    rw [Bool.or_eq_true, not_or, Bool.not_eq_true', Bool.not_eq_false] at hdigits
    have hall : ∀ d ∈ ds, d ∈ hexDigits := fun d hd => (isDigit_iff d).1 (List.all_eq_true.1 hdigits.2 d hd)
    have hlength : ds.length ∉ [3, 4, 6, 8] := fun hlength => h ⟨hall, hlength⟩
    simp only [List.mem_cons, List.not_mem_nil, or_false, not_or] at hlength
    split
    · rename_i hds
      exact absurd hds hlength.1
    · rename_i hds
      exact absurd hds hlength.2.2.1
    · rename_i hds
      exact absurd hds hlength.2.1
    · rename_i hds
      exact absurd hds hlength.2.2.2
    · exact .inr rfl

/-- what a text says of a colour: without blanks around it, then without the number signs in front, in small letters -/
def letters (s : String) : List Char :=
  (Text.lower (String.ofList ((Text.trimBlank s.toList).dropWhile (· == '#')))).toList

/-- **Small letters of all kinds.** To change the case of the first 128 characters only is the same for a colour, since
no other character has a hexadecimal digit in its lower case. -/
theorem letters_eq {s : String} (h : IsHex (letters s) ∨ IsHex (digits s)) : letters s = digits s := by
  have hletters : letters s = Text.lowerFrom [] ((Text.trimBlank s.toList).dropWhile (· == '#')) := by
    rw [letters, Text.lower, String.toList_ofList, String.toList_ofList]
  have hnarrow : Text.IsNarrow (· ∈ hexDigits) := ⟨by decide, by decide, by decide⟩
  rw [hletters] at h ⊢
  exact Text.lowerFrom_eq_map hnarrow (h.imp And.left And.left)

/-! ## Colours in a style sheet -/

/-- a colour without its opacity -/
def rgb (r g b : Nat) : String := s!"rgb({r},{g},{b})"

/-- a colour with its opacity -/
def rgba (r g b : Nat) (opacity : String) : String := s!"rgba({r},{g},{b},{opacity})"

/-- the hundredths of an opacity as it is shown -/
def shownHundredths (alpha : Option Nat) : Nat := alpha.elim 100 hundredths

theorem shownOpacity_eq (alpha : Option Nat) : shownOpacity alpha = shownHundredths alpha / 100 := by
  cases alpha with
  | none => norm_num [shownOpacity, shownHundredths]
  | some a => rw [shownOpacity, hundredths_eq, Int.cast_natCast, shownHundredths, Option.elim_some]

theorem shownOpacity_inj {alpha beta : Option Nat} :
    shownOpacity alpha = shownOpacity beta ↔ shownHundredths alpha = shownHundredths beta := by
  rw [shownOpacity_eq, shownOpacity_eq, div_left_inj' (by norm_num)]
  exact Nat.cast_inj

theorem shownOpacity_eq_one {alpha : Option Nat} : shownOpacity alpha = 1 ↔ shownHundredths alpha = 100 := by
  have hfull : shownOpacity alpha = shownOpacity none ↔ shownHundredths alpha = shownHundredths none := shownOpacity_inj
  exact hfull

/-- a colour as a style sheet has it: with its opacity unless that is shown as full -/
theorem render_eq (alpha : Option Nat) (r g b : Nat) : render ⟨alpha, r, g, b⟩ =
    if shownHundredths alpha = 100 then rgb r g b else rgba r g b (hundredthsText (shownHundredths alpha)) := by
  cases alpha with
  | none => simp [render, shownHundredths, rgb, toString, String.append_assoc]
  | some a =>
    simp only [render, shownHundredths, Option.elim_some]
    split <;> rename_i hfull <;> simp [hfull, rgb, rgba, toString, String.append_assoc]

/-- **The opacity of digits is written with as few characters as possible.** -/
theorem shownHundredths_shortest {ds : List Char} (h : ∀ d ∈ ds, d ∈ hexDigits) :
    IsShortest (hundredthsText (shownHundredths (alpha? ds))) (shownOpacity (alpha? ds)) := by
  have hle : shownHundredths (alpha? ds) ≤ 100 := by
    unfold alpha?
    split
    · exact hundredths_le (pairAt_lt (paired_hex h) 0)
    · exact le_rfl
  exact shownOpacity_eq _ ▸ hundredthsText_shortest hle

section Texts

variable {fs gs : List Char} {r g b r' g' b' : Nat}

/-- a number in front of a character that is no digit is determined -/
theorem number_unique {c : Char} (hc : c.isDigit = false)
    (h : (toString r).toList ++ c :: fs = (toString r').toList ++ c :: gs) : r = r' ∧ fs = gs := by
  have hnot (n : Nat) : c ∉ (toString n).toList := fun hmem => by
    have hdigit := Json.allDigits_toString n c hmem
    rw [hc] at hdigit
    cases hdigit
  obtain ⟨hnumbers, hrest⟩ := append_cons_unique (hnot r) (hnot r') h
  refine ⟨?_, hrest⟩
  rw [← Json.digitsValue_toString r, hnumbers, Json.digitsValue_toString]

/-- the channels of a colour are determined by its text, and so is what is behind them -/
theorem channels_unique {c : Char} (hc : c.isDigit = false)
    (h : (toString r).toList ++ ',' :: ((toString g).toList ++ ',' :: ((toString b).toList ++ c :: fs)) =
      (toString r').toList ++ ',' :: ((toString g').toList ++ ',' :: ((toString b').toList ++ c :: gs))) :
    (r = r' ∧ g = g' ∧ b = b') ∧ fs = gs := by
  obtain ⟨hr, h⟩ := number_unique (by decide) h
  obtain ⟨hg, h⟩ := number_unique (by decide) h
  obtain ⟨hb, h⟩ := number_unique hc h
  exact ⟨⟨hr, hg, hb⟩, h⟩

theorem rgb_toList (r g b : Nat) : (rgb r g b).toList = "rgb(".toList ++
    ((toString r).toList ++ ',' :: ((toString g).toList ++ ',' :: ((toString b).toList ++ ')' :: []))) := by
  simp [rgb, toString, List.append_assoc]

theorem rgba_toList (r g b : Nat) (text : String) : (rgba r g b text).toList = "rgba(".toList ++
    ((toString r).toList ++ ',' :: ((toString g).toList ++ ',' ::
      ((toString b).toList ++ ',' :: (text.toList ++ [')'])))) := by
  simp [rgba, toString, List.append_assoc]

/-- a colour that is shown without its opacity is written like no other one -/
theorem rgb_ne_rgba (text : String) : rgb r g b ≠ rgba r' g' b' text := by
  intro h
  have hfourth := congrArg (fun s => s.toList[3]?) h
  simp [rgb_toList, rgba_toList] at hfourth

theorem rgb_unique (h : rgb r g b = rgb r' g' b') : r = r' ∧ g = g' ∧ b = b' := by
  have hlists := congrArg String.toList h
  rw [rgb_toList, rgb_toList] at hlists
  exact (channels_unique (by decide) (List.append_cancel_left hlists)).1

theorem rgba_unique {text text' : String} (h : rgba r g b text = rgba r' g' b' text') :
    (r = r' ∧ g = g' ∧ b = b') ∧ text = text' := by
  have hlists := congrArg String.toList h
  rw [rgba_toList, rgba_toList] at hlists
  obtain ⟨hchannels, htexts⟩ := channels_unique (by decide) (List.append_cancel_left hlists)
  exact ⟨hchannels, String.toList_inj.1 (List.append_cancel_right htexts)⟩

end Texts

end Color

open Color

/-- **Which texts are colours, and what a style sheet has for them.** A text is a colour just when it is three, four,
six or eight hexadecimal digits, and any other text is blamed. The channels of a colour are its last three pairs of
digits, its opacity is the first of four, and two colours are written alike just when they agree in their channels and
in their opacity as it is rounded. -/
theorem toRgb_grammar (s : String) :
    (IsHex (letters s) → ∃ r g b text, channels (letters s) = [r, g, b] ∧
      IsShortest text (shownOpacity (alpha? (letters s))) ∧
      toRgb (.text s) = .ok (if shownOpacity (alpha? (letters s)) = 1 then rgb r g b else rgba r g b text)) ∧
    (¬ IsHex (letters s) → ∃ f, toRgb (.text s) = .error f ∧ f.label = "InvalidFormatError" ∧ f.subject? = some s) ∧
    ∀ s', IsHex (letters s) → IsHex (letters s') → (toRgb (.text s) = toRgb (.text s') ↔
      channels (letters s) = channels (letters s') ∧
        shownOpacity (alpha? (letters s)) = shownOpacity (alpha? (letters s'))) := by
  refine ⟨fun h => ?_, fun h => ?_, fun s' h h' => ?_⟩
  · have hletters := letters_eq (.inl h)
    rw [hletters] at h ⊢
    obtain ⟨r, g, b, hchannels, htext⟩ := ofText_hex h
    refine ⟨r, g, b, _, hchannels, shownHundredths_shortest h.1, ?_⟩
    simp only [toRgb, htext, Except.map, render_eq, shownOpacity_eq_one]
  · have hother : ¬ IsHex (digits s) := by
      intro hdigits
      rw [letters_eq (.inr hdigits)] at h
      exact h hdigits
    rcases ofText_other hother with hfault | hfault
    · exact ⟨_, by rw [toRgb, hfault]; rfl, rfl, rfl⟩
    · exact ⟨_, by rw [toRgb, hfault]; rfl, rfl, rfl⟩
  · have hletters := letters_eq (.inl h)
    have hletters' := letters_eq (.inl h')
    rw [hletters] at h ⊢
    rw [hletters'] at h' ⊢
    obtain ⟨r, g, b, hchannels, htext⟩ := ofText_hex h
    obtain ⟨r', g', b', hchannels', htext'⟩ := ofText_hex h'
    have hvalue := (shownHundredths_shortest h.1).denotes
    have hvalue' := (shownHundredths_shortest h'.1).denotes
    rw [toRgb, toRgb, htext, htext', hchannels, hchannels']
    simp only [Except.map, Except.ok.injEq, render_eq, List.cons.injEq, and_true]
    constructor
    · intro halike
      simp only [← shownOpacity_eq_one] at halike
      split_ifs at halike with hfull hfull' hfull'
      · exact ⟨rgb_unique halike, hfull.trans hfull'.symm⟩
      · exact absurd halike (rgb_ne_rgba _)
      · exact absurd halike.symm (rgb_ne_rgba _)
      · obtain ⟨hsame, htexts⟩ := rgba_unique halike
        rw [htexts] at hvalue
        exact ⟨hsame, hvalue.unique hvalue'⟩
    · rintro ⟨⟨rfl, rfl, rfl⟩, hopacity⟩
      rw [shownOpacity_inj.1 hopacity]

/-- short digits and full opacity: the same colour in two spellings -/
theorem toRgb_grammar_spellings : IsHex (letters " ##FAB ") ∧ IsHex (letters "ffffaabb") ∧
    toRgb (.text " ##FAB ") = toRgb (.text "ffffaabb") := by
  have h : IsHex (letters " ##FAB ") := ⟨by decide, by decide⟩
  have h' : IsHex (letters "ffffaabb") := ⟨by decide, by decide⟩
  refine ⟨h, h', ((toRgb_grammar " ##FAB ").2.2 "ffffaabb" h h').2 ⟨by decide, ?_⟩⟩
  rw [shownOpacity_inj]
  decide

example : (toRgb (.text "#EEFFAABB")).toOption = some "rgba(255,170,187,0.93)" := by decide

end AmpArticle.Css
