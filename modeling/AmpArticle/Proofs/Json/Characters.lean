import AmpArticle.Proofs.Json.RoundTrip
import AmpArticle.Proofs.Text.Finding

/-!
What may be found in a JSON text. Outside its strings there are only brackets, separators, words and numbers, and
inside them every character that is not escaped stands for itself.

Results:
- `infix_write`: a mark is found in the text of a value exactly when it is found in one of its strings;
- `marking_of_plain`: for a mark of characters that are not escaped, these are the strings that hold it;
- `not_emptyMark_write`: no JSON text looks like an empty attribute.
-/

namespace AmpArticle.Json

/-! ## Words and numbers -/

/-- a character of a word or a number -/
def isBareChar (c : Char) : Bool := c.isAlphanum || c == '.' || c == '+' || c == '-'

/-- a text of words and numbers alone -/
def AllBare (cs : List Char) : Prop := ∀ c ∈ cs, isBareChar c = true

theorem AllBare.append {xs ys : List Char} (hxs : AllBare xs) (hys : AllBare ys) : AllBare (xs ++ ys) := by
  intro c hc
  rcases List.mem_append.1 hc with hc | hc
  · exact hxs c hc
  · exact hys c hc

theorem AllBare.cons {c : Char} {cs : List Char} (hc : isBareChar c = true) (hcs : AllBare cs) : AllBare (c :: cs) := by
  intro d hd
  rcases List.mem_cons.1 hd with rfl | hd
  · exact hc
  · exact hcs d hd

theorem AllDigits.bare {ds : List Char} (h : AllDigits ds) : AllBare ds := fun c hc => by
  simp [isBareChar, Char.isAlphanum, h c hc]

theorem bare_exponentText (p : Int) : AllBare (Layout.exponentText p).toList := by
  obtain ⟨n, hn⟩ := exponentText_eq p
  rw [hn]
  refine .cons rfl (.cons ?_ ((allDigits_zeros n).append (allDigits_toString _)).bare)
  split_ifs <;> rfl

theorem bare_renderDigits {d : Digits} (hd : AllDigits d.digits) : AllBare (Layout.literal.renderDigits d).toList := by
  have hpoint : Layout.literal.pointZero = true := rfl
  unfold Layout.renderDigits
  simp only [hpoint, if_true]
  split_ifs
  · simpa using AllBare.cons rfl (.cons rfl (((allDigits_zeros _).append hd).bare))
  · simpa using (hd.append (allDigits_zeros _)).bare.append (.cons rfl (.cons rfl (by simp [AllBare])))
  · have hleft : AllDigits (d.digits.take d.point.toNat) := fun c hc => hd c (List.mem_of_mem_take hc)
    have hright : AllDigits (d.digits.drop d.point.toNat) := fun c hc => hd c (List.mem_of_mem_drop hc)
    simpa using hleft.bare.append (.cons rfl hright.bare)
  · split
    · exact .cons rfl (by simp [AllBare])
    · rename_i c hc
      have hhead : isBareChar c = true := hd.bare c (by rw [hc]; exact List.mem_cons_self)
      simpa using AllBare.cons hhead (bare_exponentText _)
    · rename_i c ds _ hc
      have hall := hd.bare
      rw [hc] at hall
      have hrest : AllBare ds := fun c' hc' => hall c' (List.mem_cons_of_mem _ hc')
      simpa using AllBare.cons (hall c List.mem_cons_self) (.cons rfl (hrest.append (bare_exponentText _)))

theorem bare_render (negative : Bool) (m : Nat) (e : Int) :
    AllBare (Layout.literal.render (.finite negative m e)).toList := by
  have hbody : AllBare (Layout.literal.render (.finite false m e)).toList := by
    by_cases hm : m = 0
    · have hrender : Layout.literal.render (.finite false m e) = "0.0" := if_pos hm
      rw [hrender]
      exact .cons rfl (.cons rfl (.cons rfl (by simp [AllBare])))
    · have hrender : Layout.literal.render (.finite false m e) = Layout.literal.renderDigits
          (Digits.shortest (.finite false m e) (Double.finite false m e).toRat) := if_neg hm
      obtain ⟨n, unit, hdigits⟩ := Digits.shortest_eq_ofNat (.finite false m e) (Double.finite false m e).toRat
      rw [hrender, hdigits]
      exact bare_renderDigits (Digits.allDigits_ofNat n unit)
  cases negative with
  | false => exact hbody
  | true =>
    rw [Layout.render_negative, String.toList_append]
    exact .cons rfl hbody

theorem bare_real (x : Double) : AllBare (writeReal x).toList := by
  cases x with
  | nan => exact fun c hc => List.all_eq_true.1 (by decide : "NaN".toList.all isBareChar = true) c hc
  | infinity negative =>
    cases negative with
    | false => exact fun c hc => List.all_eq_true.1 (by decide : "Infinity".toList.all isBareChar = true) c hc
    | true => exact fun c hc => List.all_eq_true.1 (by decide : "-Infinity".toList.all isBareChar = true) c hc
  | finite negative m e => exact bare_render negative m e

theorem bare_int (n : Int) : AllBare (toString n).toList := by
  rw [toList_toString_int]
  split_ifs
  · exact .cons rfl (allDigits_toString _).bare
  · exact (allDigits_toString _).bare

theorem bare_null : AllBare (write .null).toList := fun c hc =>
  List.all_eq_true.1 (by decide : "null".toList.all isBareChar = true) c hc

theorem bare_bool (b : Bool) : AllBare (write (.bool b)).toList := by
  cases b with
  | false => exact fun c hc => List.all_eq_true.1 (by decide : "false".toList.all isBareChar = true) c hc
  | true => exact fun c hc => List.all_eq_true.1 (by decide : "true".toList.all isBareChar = true) c hc

/-! ## Characters of strings -/

theorem hexDigit_bare (n : Nat) : isBareChar (Text.hexDigit (n % 16)) = true := by
  have hall : ∀ n < 16, isBareChar (Text.hexDigit n) = true := by decide
  exact hall _ (Nat.mod_lt _ (by decide))

/-- what is written for a character: itself, or a backslash and words -/
theorem escapeChar_cases (c : Char) :
    (escapeChar c = [c] ∧ c ≠ '"' ∧ c ≠ '\\') ∨ ∃ e es, escapeChar c = '\\' :: e :: es ∧
      (isBareChar e = true ∨ e = '"' ∨ e = '\\') ∧ AllBare es := by
  have hnil : AllBare [] := fun c hc => absurd hc List.not_mem_nil
  unfold escapeChar
  split_ifs with hquote hslash hn hr ht hb hf hcontrol
  · exact .inr ⟨_, _, rfl, .inr (.inl rfl), hnil⟩
  · exact .inr ⟨_, _, rfl, .inr (.inr rfl), hnil⟩
  · exact .inr ⟨_, _, rfl, .inl rfl, hnil⟩
  · exact .inr ⟨_, _, rfl, .inl rfl, hnil⟩
  · exact .inr ⟨_, _, rfl, .inl rfl, hnil⟩
  · exact .inr ⟨_, _, rfl, .inl rfl, hnil⟩
  · exact .inr ⟨_, _, rfl, .inl rfl, hnil⟩
  · refine .inr ⟨_, _, rfl, .inl rfl, ?_⟩
    exact .cons (hexDigit_bare _) (.cons (hexDigit_bare _) (.cons (hexDigit_bare _) (.cons (hexDigit_bare _) hnil)))
  · exact .inl ⟨rfl, hquote, hslash⟩

/-- a character that no JSON text has outside its strings or for any other character -/
structure Special (a : Char) : Prop where
  bare : isBareChar a = false
  quote : a ≠ '"'
  slash : a ≠ '\\'

theorem Special.notMem_bare {a : Char} (ha : Special a) {cs : List Char} (hcs : AllBare cs) : a ∉ cs := fun h => by
  have hbare := hcs a h
  rw [ha.bare] at hbare
  cases hbare

theorem Special.notMem_escapeChar {a c : Char} (ha : Special a) (hc : a ≠ c) : a ∉ escapeChar c := by
  rcases escapeChar_cases c with ⟨h, -⟩ | ⟨e, es, h, he, hes⟩
  · rw [h, List.mem_singleton]
    exact hc
  · rw [h, List.mem_cons, List.mem_cons, not_or, not_or]
    refine ⟨ha.slash, ?_, ha.notMem_bare hes⟩
    rintro rfl
    rcases he with he | he | he
    · rw [ha.bare] at he
      cases he
    · exact ha.quote he
    · exact ha.slash he

section Strings

variable {a : Char} {w : List Char}

/-- a text of characters that stand for themselves begins the written text where it begins the text -/
theorem prefix_flatMap_iff (hw : ∀ c ∈ w, escapeChar c = [c]) (cs : List Char) :
    w <+: cs.flatMap escapeChar ↔ w <+: cs := by
  induction w generalizing cs with
  | nil => simp
  | cons c w ih =>
    have hc := hw c List.mem_cons_self
    cases cs with
    | nil => rfl
    | cons d cs =>
      rw [List.flatMap_cons]
      rcases escapeChar_cases d with ⟨hd, -⟩ | ⟨e, es, hd, -⟩
      · rw [hd, List.singleton_append, List.cons_prefix_cons, List.cons_prefix_cons,
          ih (fun c' hc' => hw c' (List.mem_cons_of_mem _ hc')) cs]
      · rw [hd, List.cons_append, List.cons_prefix_cons, List.cons_prefix_cons]
        constructor
        · rintro ⟨rfl, -⟩
          exact absurd hc (by decide)
        · rintro ⟨rfl, -⟩
          rw [hd] at hc
          cases hc

theorem infix_flatMap_iff (ha : Special a) (hw : ∀ c ∈ a :: w, escapeChar c = [c]) (cs : List Char) :
    a :: w <:+: cs.flatMap escapeChar ↔ a :: w <:+: cs := by
  induction cs with
  | nil => rfl
  | cons d cs ih =>
    rw [List.flatMap_cons, List.infix_cons_iff, ← ih, ← prefix_flatMap_iff hw (d :: cs), List.flatMap_cons]
    by_cases hd : a = d
    · subst hd
      rw [hw a List.mem_cons_self, List.singleton_append, List.infix_cons_iff]
    · rw [Text.infix_append_of_notMem (ha.notMem_escapeChar hd)]
      refine (or_iff_right fun h => ?_).symm
      obtain ⟨e, es, he⟩ : ∃ e es, escapeChar d = e :: es := by
        rcases escapeChar_cases d with ⟨h', -⟩ | ⟨e, es, h', -⟩
        · exact ⟨_, _, h'⟩
        · exact ⟨_, _, h'⟩
      rw [he, List.cons_append, List.cons_prefix_cons] at h
      exact ha.notMem_escapeChar hd (by rw [he, h.1]; exact List.mem_cons_self)

/-- a mark of characters that stand for themselves, in a JSON string -/
theorem infix_writeString_iff (ha : Special a) (hw : ∀ c ∈ a :: w, escapeChar c = [c]) (s : String) :
    a :: w <:+: (writeString s).toList ↔ a :: w <:+: s.toList := by
  have hquote : '"' ∉ a :: w := fun h => absurd (hw _ h) (by decide)
  have hwrite : (writeString s).toList = '"' :: (s.toList.flatMap escapeChar ++ ['"']) := write_text s
  rw [hwrite, List.infix_cons_iff, or_iff_right (Text.not_prefix_cons (List.cons_ne_nil a w) hquote),
    Text.infix_append_cons (List.cons_ne_nil a w) hquote, infix_flatMap_iff ha hw]
  exact or_iff_left fun h => List.cons_ne_nil a w (List.infix_nil.1 h)

/-- what looks like the empty value of an attribute -/
def emptyMark : List Char := ['=', '"', '"']

/-- behind an equals sign no second quote follows a first one -/
theorem not_emptyMark_escaped (cs : List Char) : ¬ emptyMark <:+: cs.flatMap escapeChar ++ ['"'] := by
  have hequals : Special '=' := ⟨by decide, by decide, by decide⟩
  induction cs with
  | nil => decide
  | cons c cs ih =>
    rw [List.flatMap_cons, List.append_assoc]
    by_cases hc : '=' = c
    · subst hc
      rw [show escapeChar '=' = ['='] by decide, List.singleton_append, List.infix_cons_iff, emptyMark,
        List.cons_prefix_cons]
      rintro (⟨-, h⟩ | h)
      · cases cs with
        | nil => exact absurd h (by decide)
        | cons d cs =>
          rw [List.flatMap_cons] at h
          rcases escapeChar_cases d with ⟨hd, hquote, -⟩ | ⟨e, es, hd, -⟩
          · rw [hd, List.singleton_append, List.cons_append, List.cons_prefix_cons] at h
            exact hquote h.1.symm
          · rw [hd, List.cons_append, List.cons_append, List.cons_prefix_cons] at h
            exact absurd h.1 (by decide)
      · exact ih h
    · rw [emptyMark, Text.infix_append_of_notMem (hequals.notMem_escapeChar hc)]
      exact ih

theorem not_emptyMark_writeString (s : String) : ¬ emptyMark <:+: (writeString s).toList := by
  have hwrite : (writeString s).toList = '"' :: (s.toList.flatMap escapeChar ++ ['"']) := write_text s
  rw [hwrite, List.infix_cons_iff]
  rintro (h | h)
  · exact absurd (List.cons_prefix_cons.1 h).1 (by decide)
  · exact not_emptyMark_escaped _ h

/-- a carriage return is escaped -/
theorem return_notMem_writeString (s : String) : '\r' ∉ (writeString s).toList := by
  have hreturn : Special '\r' := ⟨by decide, by decide, by decide⟩
  have hwrite : (writeString s).toList = '"' :: (s.toList.flatMap escapeChar ++ ['"']) := write_text s
  simp only [hwrite, List.mem_cons, List.mem_append, List.mem_flatMap, List.not_mem_nil, or_false, not_or, not_exists,
    not_and]
  refine ⟨by decide, fun c _ => ?_, by decide⟩
  by_cases hc : '\r' = c
  · subst hc
    decide
  · exact hreturn.notMem_escapeChar hc

end Strings

/-! ## Values -/

mutual
/-- all keys and texts of a value -/
def texts : Json → List String
  | text s => [s]
  | list items => textsOfItems items
  | object entries => textsOfEntries entries
  | _ => []

/-- all keys and texts of the items -/
def textsOfItems : List Json → List String
  | [] => []
  | item :: rest => texts item ++ textsOfItems rest

/-- all keys and texts of the entries -/
def textsOfEntries : List (String × Json) → List String
  | [] => []
  | (key, value) :: rest => key :: (texts value ++ textsOfEntries rest)
end

/-- a mark that can be found nowhere but in strings: it begins with a special character and holds no bracket and no
separator; `p` says in which strings it is found -/
structure Marking (a : Char) (w : List Char) (p : String → Prop) : Prop where
  special : Special a
  separators : ∀ c ∈ ['[', ']', '\x7b', '\x7d', ',', ':', ' '], c ∉ a :: w
  strings : ∀ s : String, a :: w <:+: (writeString s).toList ↔ p s

section Values

variable {a : Char} {w : List Char} {p : String → Prop}

theorem not_infix_nil : ¬ a :: w <:+: [] := fun hnil => List.cons_ne_nil a w (List.infix_nil.1 hnil)

namespace Marking

variable (h : Marking a w p)

include h

theorem append_cons {c : Char} (hc : c ∈ ['[', ']', '\x7b', '\x7d', ',', ':', ' ']) (xs ys : List Char) :
    a :: w <:+: xs ++ c :: ys ↔ a :: w <:+: xs ∨ a :: w <:+: ys :=
  Text.infix_append_cons (List.cons_ne_nil a w) (h.separators c hc) xs ys

theorem cons {c : Char} (hc : c ∈ ['[', ']', '\x7b', '\x7d', ',', ':', ' ']) (ys : List Char) :
    a :: w <:+: c :: ys ↔ a :: w <:+: ys := by
  have hcons := h.append_cons hc [] ys
  rwa [List.nil_append, or_iff_right not_infix_nil] at hcons

theorem concat {c : Char} (hc : c ∈ ['[', ']', '\x7b', '\x7d', ',', ':', ' ']) (xs : List Char) :
    a :: w <:+: xs ++ [c] ↔ a :: w <:+: xs := by
  rw [h.append_cons hc, or_iff_left not_infix_nil]

theorem bare {cs : List Char} (hcs : AllBare cs) : ¬ a :: w <:+: cs := fun hfound =>
  h.special.notMem_bare hcs (hfound.subset List.mem_cons_self)

theorem items_cons (v : Json) (items : List Json) :
    a :: w <:+: itemsText (v :: items) ↔ a :: w <:+: (write v).toList ∨ a :: w <:+: itemsText items := by
  cases items with
  | nil => rw [itemsText_single, itemsText_nil, or_iff_left not_infix_nil]
  | cons v' items => rw [itemsText_cons, h.append_cons (by decide), h.cons (by decide)]

theorem entryText (key : String) (v : Json) :
    a :: w <:+: '"' :: Json.entryText key v ↔ p key ∨ a :: w <:+: (write v).toList := by
  have htext : '"' :: Json.entryText key v = (writeString key).toList ++ ':' :: ' ' :: (write v).toList := by
    simp [Json.entryText, writeString]
  rw [htext, h.append_cons (by decide), h.cons (by decide), h.strings]

theorem entries_cons (key : String) (v : Json) (entries : List (String × Json)) :
    a :: w <:+: entriesText ((key, v) :: entries) ↔
      p key ∨ a :: w <:+: (write v).toList ∨ a :: w <:+: entriesText entries := by
  cases entries with
  | nil => rw [entriesText_single, h.entryText, entriesText_nil, or_iff_left not_infix_nil]
  | cons e entries =>
    rw [entriesText_cons, ← List.cons_append, h.append_cons (by decide), h.entryText, h.cons (by decide), or_assoc]

end Marking

mutual
/-- **A mark is found in the text of a value** exactly when it is found in one of its strings. -/
theorem infix_write (h : Marking a w p) : ∀ v : Json, a :: w <:+: (write v).toList ↔ ∃ s ∈ texts v, p s
  | null => by simpa [texts] using h.bare bare_null
  | bool b => by simpa [texts] using h.bare (bare_bool b)
  | int n => by simpa [texts, write] using h.bare (bare_int n)
  | real x => by simpa [texts, write] using h.bare (bare_real x)
  | text s => by simpa [texts, write] using h.strings s
  | list items => by
    rw [write_list, h.cons (by decide), h.concat (by decide), infix_items h items, texts]
  | object entries => by
    rw [write_object, h.cons (by decide), h.concat (by decide), infix_entries h entries, texts]

theorem infix_items (h : Marking a w p) :
    ∀ items : List Json, a :: w <:+: itemsText items ↔ ∃ s ∈ textsOfItems items, p s
  | [] => by simp [textsOfItems, itemsText, writeItems, Text.joinWith]
  | v :: items => by
    rw [h.items_cons, infix_write h v, infix_items h items, textsOfItems]
    simp only [List.mem_append, or_and_right, exists_or]

theorem infix_entries (h : Marking a w p) :
    ∀ entries : List (String × Json), a :: w <:+: entriesText entries ↔ ∃ s ∈ textsOfEntries entries, p s
  | [] => by simp [textsOfEntries, entriesText, writeEntries, Text.joinWith]
  | (key, v) :: entries => by
    rw [h.entries_cons, infix_write h v, infix_entries h entries, textsOfEntries]
    simp only [List.mem_cons, List.mem_append, or_and_right, exists_or, exists_eq_left]
end

/-- a mark of characters that stand for themselves is found in the strings that hold it -/
theorem marking_of_plain (ha : Special a) (hseparators : ∀ c ∈ ['[', ']', '\x7b', '\x7d', ',', ':', ' '], c ∉ a :: w)
    (hw : ∀ c ∈ a :: w, escapeChar c = [c]) : Marking a w fun s => a :: w <:+: s.toList :=
  ⟨ha, hseparators, infix_writeString_iff ha hw⟩

/-- **No JSON text has a carriage return.** -/
theorem return_notMem_write (v : Json) : '\r' ∉ (write v).toList := by
  have hmark : Marking '\r' [] fun _ => False :=
    { special := ⟨by decide, by decide, by decide⟩
      separators := by decide
      strings := fun s => iff_false_intro (mt (List.singleton_infix_iff _ _).1 (return_notMem_writeString s)) }
  rw [← List.singleton_infix_iff '\r', infix_write hmark]
  rintro ⟨s, -, h⟩
  exact h

/-- **No JSON text looks like an empty attribute.** -/
theorem not_emptyMark_write (v : Json) : ¬ emptyMark <:+: (write v).toList := by
  have hmark : Marking '=' ['"', '"'] fun _ => False :=
    { special := ⟨by decide, by decide, by decide⟩
      separators := by decide
      strings := fun s => iff_false_intro (not_emptyMark_writeString s) }
  rw [emptyMark, infix_write hmark]
  rintro ⟨s, -, h⟩
  exact h

end Values

end AmpArticle.Json
