import AmpArticle.Proofs.Entries
import AmpArticle.Proofs.Json.Scalars
import AmpArticle.Proofs.Json.Strings

/-!
JSON texts are read back as the values they were written for, by every reader that takes numbers so long and nesting so
deep.

Results:
- `reads_all`: a value in front of what cannot belong to it;
- `readWithin_write`, `read_write`: a whole text.
-/

namespace AmpArticle.Json

/-! ## Values -/

mutual
/-- a value with numbers as rounding gives them and with one entry per key -/
def WellFormed : Json → Prop
  | real x => x.Canonical
  | list items => ItemsWellFormed items
  | object entries => (entries.map Prod.fst).Nodup ∧ EntriesWellFormed entries
  | _ => True

/-- items that are all well formed -/
def ItemsWellFormed : List Json → Prop
  | [] => True
  | item :: rest => WellFormed item ∧ ItemsWellFormed rest

/-- entries whose values are all well formed -/
def EntriesWellFormed : List (String × Json) → Prop
  | [] => True
  | (_, value) :: rest => WellFormed value ∧ EntriesWellFormed rest
end

mutual
/-- a value that a reader can take inside `depth` lists and objects -/
def Fits (limits : Limits) : Nat → Json → Prop
  | _, int n => limits.number (decide (n < 0)) (toString n.natAbs).toList.length = true
  | depth, list items => limits.levels (depth + 1) = true ∧ ItemsFit limits (depth + 1) items
  | depth, object entries => limits.levels (depth + 1) = true ∧ EntriesFit limits (depth + 1) entries
  | _, _ => True

/-- items that a reader can take -/
def ItemsFit (limits : Limits) : Nat → List Json → Prop
  | _, [] => True
  | depth, item :: rest => Fits limits depth item ∧ ItemsFit limits depth rest

/-- entries that a reader can take -/
def EntriesFit (limits : Limits) : Nat → List (String × Json) → Prop
  | _, [] => True
  | depth, (_, value) :: rest => Fits limits depth value ∧ EntriesFit limits depth rest
end

mutual
theorem fits_unbounded : ∀ (depth : Nat) (v : Json), v.Fits .unbounded depth
  | _, .int _ => rfl
  | depth, .list items => ⟨rfl, itemsFit_unbounded (depth + 1) items⟩
  | depth, .object entries => ⟨rfl, entriesFit_unbounded (depth + 1) entries⟩
  | _, .null | _, .bool _ | _, .real _ | _, .text _ => trivial

theorem itemsFit_unbounded : ∀ (depth : Nat) (items : List Json), ItemsFit .unbounded depth items
  | _, [] => trivial
  | depth, v :: items => ⟨fits_unbounded depth v, itemsFit_unbounded depth items⟩

theorem entriesFit_unbounded : ∀ (depth : Nat) (entries : List (String × Json)), EntriesFit .unbounded depth entries
  | _, [] => trivial
  | depth, (_, v) :: entries => ⟨fits_unbounded depth v, entriesFit_unbounded depth entries⟩
end

theorem EntriesWellFormed.of_mem {key : String} {value : Json} {entries : List (String × Json)}
    (h : EntriesWellFormed entries) (hmem : (key, value) ∈ entries) : value.WellFormed := by
  induction entries with
  | nil => cases hmem
  | cons x entries ih =>
    rcases List.mem_cons.1 hmem with rfl | hmem
    · exact h.1
    · exact ih h.2 hmem

/-! ## Texts -/

/-- the items of a list between its brackets -/
def itemsText (items : List Json) : List Char := (Text.joinWith ", " (writeItems items)).toList

/-- the entries of an object between its braces -/
def entriesText (entries : List (String × Json)) : List Char := (Text.joinWith ", " (writeEntries entries)).toList

/-- an entry of an object behind the quote of its key -/
def entryText (key : String) (value : Json) : List Char :=
  key.toList.flatMap escapeChar ++ '"' :: ':' :: ' ' :: (write value).toList

theorem write_list (items : List Json) : (write (.list items)).toList = '[' :: (itemsText items ++ [']']) := by
  simp [write, itemsText]

theorem write_object (entries : List (String × Json)) :
    (write (.object entries)).toList = '\x7b' :: (entriesText entries ++ ['\x7d']) := by
  simp [write, entriesText]

theorem write_text (s : String) : (write (.text s)).toList = '"' :: (s.toList.flatMap escapeChar ++ ['"']) := by
  simp [write, writeString]

theorem itemsText_nil : itemsText [] = [] := rfl

theorem itemsText_single (v : Json) : itemsText [v] = (write v).toList := rfl

theorem itemsText_cons (v w : Json) (items : List Json) :
    itemsText (v :: w :: items) = (write v).toList ++ ',' :: ' ' :: itemsText (w :: items) := by
  simp [itemsText, writeItems, Text.joinWith]

theorem entriesText_nil : entriesText [] = [] := rfl

theorem entriesText_single (key : String) (v : Json) : entriesText [(key, v)] = '"' :: entryText key v := by
  simp [entriesText, writeEntries, Text.joinWith, entryText, writeString]

theorem entriesText_cons (key : String) (v : Json) (e : String × Json) (entries : List (String × Json)) :
    entriesText ((key, v) :: e :: entries) = '"' :: (entryText key v ++ ',' :: ' ' :: entriesText (e :: entries)) := by
  simp [entriesText, writeEntries, Text.joinWith, entryText, writeString]

/-- a text that does not begin with a blank, a closing bracket or a byte order mark -/
def Opens (cs : List Char) : Prop :=
  ∃ c more, cs = c :: more ∧ isSpace c = false ∧ c ≠ ']' ∧ c ≠ Char.ofNat 0xfeff

theorem Opens.append {cs : List Char} (h : Opens cs) (rest : List Char) : Opens (cs ++ rest) := by
  obtain ⟨c, more, rfl, hc⟩ := h
  exact ⟨c, more ++ rest, rfl, hc⟩

theorem Opens.dropWhile {cs : List Char} (h : Opens cs) : cs.dropWhile isSpace = cs := by
  obtain ⟨c, more, rfl, hc, -⟩ := h
  rw [List.dropWhile_cons_of_neg (by simp [hc])]

/-- a text that begins like a number or a word -/
def OpensBare (cs : List Char) : Prop :=
  ∃ c more, cs = c :: more ∧ (isSpace c = false ∧ c ≠ ']' ∧ c ≠ Char.ofNat 0xfeff) ∧ c ≠ '"' ∧ c ≠ '[' ∧ c ≠ '\x7b'

theorem OpensBare.opens {cs : List Char} (h : OpensBare cs) : Opens cs := by
  obtain ⟨c, more, hcs, hc, -⟩ := h
  exact ⟨c, more, hcs, hc⟩

theorem opensBare_of_digit {c : Char} {more : List Char} (hc : c.isDigit = true) : OpensBare (c :: more) := by
  have hne {a : Char} (ha : a.isDigit = false) : c ≠ a := (ne_of_isDigit hc ha).symm
  refine ⟨c, more, rfl, ⟨?_, hne rfl, hne rfl⟩, hne rfl, hne rfl, hne rfl⟩
  have hspace {a : Char} (ha : a.isDigit = false) : (c == a) = false := beq_eq_false_iff_ne.2 (hne ha)
  simp [isSpace, hspace]

theorem opensBare_bool (b : Bool) : OpensBare (if b then "true" else "false").toList := by
  cases b <;> exact ⟨_, _, rfl, by decide, by decide⟩

theorem opensBare_int (n : Int) : OpensBare (toString n).toList := by
  rw [toList_toString_int]
  split_ifs
  · exact ⟨'-', _, rfl, by decide, by decide⟩
  · obtain ⟨c, more, hn⟩ := List.exists_cons_of_ne_nil (toString_ne_nil n.natAbs)
    rw [hn]
    exact opensBare_of_digit (allDigits_toString _ c (by rw [hn]; exact List.mem_cons_self))

theorem opensBare_real {x : Double} (hx : x.Canonical) : OpensBare (writeReal x).toList := by
  cases x with
  | nan => exact ⟨'N', _, rfl, by decide, by decide⟩
  | infinity negative => cases negative <;> exact ⟨_, _, rfl, by decide, by decide⟩
  | finite negative m e =>
    have hstops : StopsNumber [] := ⟨by rintro c ⟨⟩, by simp, by rintro c ⟨⟩⟩
    have hread := Layout.readMagnitude_literal hx false hstops
    obtain ⟨c, more, hrender, hc⟩ := isDigit_of_readMagnitude hread
    rw [List.append_nil] at hrender
    cases negative with
    | false =>
      show OpensBare (Layout.literal.render (.finite false m e)).toList
      exact hrender ▸ opensBare_of_digit hc
    | true =>
      show OpensBare (Layout.literal.render (.finite true m e)).toList
      rw [Layout.render_negative, String.toList_append]
      exact ⟨'-', _, rfl, by decide, by decide⟩

theorem opens_write {v : Json} (hv : v.WellFormed) : Opens (write v).toList := by
  cases v with
  | null => exact ⟨'n', _, rfl, rfl, by decide⟩
  | bool b => exact (opensBare_bool b).opens
  | int n => exact (opensBare_int n).opens
  | real x => exact (opensBare_real hv).opens
  | text s => exact ⟨'"', _, write_text s, rfl, by decide⟩
  | list items => exact ⟨'[', _, write_list items, rfl, by decide⟩
  | object entries => exact ⟨'\x7b', _, write_object entries, rfl, by decide⟩

theorem opens_items {v : Json} (hv : v.WellFormed) (items : List Json) : Opens (itemsText (v :: items)) := by
  cases items with
  | nil => exact opens_write hv
  | cons w items =>
    rw [itemsText_cons]
    exact (opens_write hv).append _

theorem entriesText_quote (e : String × Json) (entries : List (String × Json)) :
    ∃ more, entriesText (e :: entries) = '"' :: more := by
  cases entries with
  | nil => exact ⟨_, entriesText_single e.1 e.2⟩
  | cons e' entries => exact ⟨_, entriesText_cons e.1 e.2 e' entries⟩

theorem opens_entries (e : String × Json) (entries : List (String × Json)) : Opens (entriesText (e :: entries)) := by
  obtain ⟨more, hmore⟩ := entriesText_quote e entries
  exact ⟨'"', more, hmore, rfl, by decide⟩

theorem length_entryText (key : String) (v : Json) : (write v).toList.length < (entryText key v).length := by
  simp only [entryText, List.length_append, List.length_cons]
  omega

/-! ## Reading -/

theorem stopsNumber_comma (rest : List Char) : StopsNumber (',' :: rest) := ⟨.cons rfl, by simp, by simp⟩

theorem stopsNumber_bracket (rest : List Char) : StopsNumber (']' :: rest) := ⟨.cons rfl, by simp, by simp⟩

theorem stopsNumber_brace (rest : List Char) : StopsNumber ('\x7d' :: rest) := ⟨.cons rfl, by simp, by simp⟩

section Steps

variable {limits : Limits} {depth fuel : Nat} {cs more after : List Char} {v : Json} {vs : List Json}
  {soFar entries : List (String × Json)}
  {key : String}

theorem readValue_text (s : String) (after : List Char) :
    readValue limits depth (fuel + 1) ((write (.text s)).toList ++ after) = .ok (.text s, after) := by
  rw [write_text]
  simp only [List.cons_append, List.append_assoc, List.nil_append, readValue, readString_written]
  rfl

/-- a value that is neither a text nor a list nor an object -/
theorem readValue_scalar (hopen : OpensBare cs) (h : readScalar limits (cs ++ after) = .ok (v, after)) :
    readValue limits depth (fuel + 1) (cs ++ after) = .ok (v, after) := by
  obtain ⟨c, more, rfl, -, hquote, hbracket, hbrace⟩ := hopen
  rw [List.cons_append] at h ⊢
  rw [readValue, h]
  · rintro rest hcons
    exact hquote (List.cons.inj hcons).1
  · rintro rest hcons
    exact hbracket (List.cons.inj hcons).1
  · rintro rest hcons
    exact hbrace (List.cons.inj hcons).1

/-- reading a list is reading its items, where there is room for it -/
theorem readValue_list (hlevel : limits.levels (depth + 1) = true) (hopen : Opens cs) :
    readValue limits depth (fuel + 1) ('[' :: cs) =
      readItems limits (depth + 1) fuel cs >>= fun r => .ok (.list r.1, r.2) := by
  have hcs := hopen.dropWhile
  obtain ⟨c, more, rfl, -, hc, -⟩ := hopen
  simp only [readValue, hlevel, if_true, hcs]
  split
  · rename_i hbracket
    exact absurd (List.cons.inj hbracket).1 hc
  · rfl

/-- reading an object is reading its entries, where there is room for it -/
theorem readValue_object (hlevel : limits.levels (depth + 1) = true) :
    readValue limits depth (fuel + 1) ('\x7b' :: '"' :: cs) =
      readEntries limits [] (depth + 1) fuel ('"' :: cs) >>= fun r => .ok (.object r.1, r.2) := by
  have hcs : ('"' :: cs).dropWhile isSpace = '"' :: cs := List.dropWhile_cons_of_neg (by decide)
  simp only [readValue, hlevel, if_true, hcs]
  rfl

theorem readItems_last (h : readValue limits depth fuel cs = .ok (v, ']' :: after)) :
    readItems limits depth (fuel + 1) cs = .ok ([v], after) := by
  have hafter : (']' :: after).dropWhile isSpace = ']' :: after := List.dropWhile_cons_of_neg (by decide)
  simp only [readItems, h, bind, Except.bind, hafter]
  rfl

theorem readItems_next (h : readValue limits depth fuel cs = .ok (v, ',' :: ' ' :: more)) (hopen : Opens more)
    (hmore : readItems limits depth fuel more = .ok (vs, after)) :
    readItems limits depth (fuel + 1) cs = .ok (v :: vs, after) := by
  have hcomma : (',' :: ' ' :: more).dropWhile isSpace = ',' :: ' ' :: more := List.dropWhile_cons_of_neg (by decide)
  have hspace : (' ' :: more).dropWhile isSpace = more := by
    rw [List.dropWhile_cons_of_pos (by decide), hopen.dropWhile]
  simp only [readItems, h, bind, Except.bind, hcomma, hspace, hmore]
  rfl

/-- reading an entry is reading its value, and then what follows -/
theorem readEntries_entry (hopen : Opens (write v).toList) :
    readEntries limits soFar depth (fuel + 1) ('"' :: (entryText key v ++ after)) =
      readValue limits depth fuel ((write v).toList ++ after) >>= fun r => match r.2.dropWhile isSpace with
        | '\x7d' :: after => .ok (insertEntry key r.1 soFar, after)
        | ',' :: more => readEntries limits (insertEntry key r.1 soFar) depth fuel (more.dropWhile isSpace)
        | other => failAt .expectingComma other := by
  have hcolon : (':' :: ' ' :: ((write v).toList ++ after)).dropWhile isSpace = ':' :: ' ' :: ((write v).toList ++ after) :=
    List.dropWhile_cons_of_neg (by decide)
  have hspace : (' ' :: ((write v).toList ++ after)).dropWhile isSpace = (write v).toList ++ after := by
    rw [List.dropWhile_cons_of_pos (by decide), (hopen.append after).dropWhile]
  simp only [entryText, List.append_assoc, List.cons_append, readEntries, readString_written, bind, Except.bind, hcolon,
    hspace]
  rfl

end Steps

/-! ## One step of fuel -/

/-- with this fuel every value is read whose text is at most half as long, by a reader that can take it -/
def ReadsValues (limits : Limits) (fuel : Nat) : Prop :=
  ∀ (depth : Nat) (v : Json) (rest : List Char), v.WellFormed → v.Fits limits depth →
    2 * (write v).toList.length ≤ fuel → StopsNumber rest →
    readValue limits depth fuel ((write v).toList ++ rest) = .ok (v, rest)

/-- with this fuel all items are read whose text is less than half as long -/
def ReadsItems (limits : Limits) (fuel : Nat) : Prop :=
  ∀ (depth : Nat) (v : Json) (items : List Json) (rest : List Char), ItemsWellFormed (v :: items) →
    ItemsFit limits depth (v :: items) → 2 * (itemsText (v :: items)).length < fuel →
    readItems limits depth fuel (itemsText (v :: items) ++ ']' :: rest) = .ok (v :: items, rest)

/-- with this fuel all entries are read whose text is less than half as long, if their keys are new -/
def ReadsEntries (limits : Limits) (fuel : Nat) : Prop :=
  ∀ (depth : Nat) (e : String × Json) (entries soFar : List (String × Json)) (rest : List Char),
    EntriesWellFormed (e :: entries) → EntriesFit limits depth (e :: entries) →
    ((soFar ++ e :: entries).map Prod.fst).Nodup → 2 * (entriesText (e :: entries)).length < fuel →
    readEntries limits soFar depth fuel (entriesText (e :: entries) ++ '\x7d' :: rest) = .ok (soFar ++ e :: entries, rest)

section Succ

variable {limits : Limits} {fuel : Nat} (hvalues : ReadsValues limits fuel) (hitems : ReadsItems limits fuel)
  (hentries : ReadsEntries limits fuel)

include hvalues hitems in
theorem readsItems_succ : ReadsItems limits (fuel + 1) := by
  intro depth v items rest hv hfits hfuel
  cases items with
  | nil =>
    rw [itemsText_single] at hfuel ⊢
    exact readItems_last (hvalues depth v _ hv.1 hfits.1 (by omega) (stopsNumber_bracket rest))
  | cons w items =>
    rw [itemsText_cons, List.length_append, List.length_cons, List.length_cons] at hfuel
    rw [itemsText_cons, List.append_assoc]
    have hvalue := hvalues depth v (',' :: ' ' :: (itemsText (w :: items) ++ ']' :: rest)) hv.1 hfits.1 (by omega)
      (stopsNumber_comma _)
    exact readItems_next hvalue ((opens_items hv.2.1 items).append _)
      (hitems depth w items rest hv.2 hfits.2 (by omega))

include hvalues hentries in
theorem readsEntries_succ : ReadsEntries limits (fuel + 1) := by
  intro depth e entries soFar rest hv hfits hkeys hfuel
  obtain ⟨key, v⟩ := e
  have hnew : key ∉ soFar.map Prod.fst := by
    rw [List.map_append, List.map_cons] at hkeys
    exact fun hmem => List.disjoint_of_nodup_append hkeys hmem List.mem_cons_self
  cases entries with
  | nil =>
    have hlength := length_entryText key v
    rw [entriesText_single, List.length_cons] at hfuel
    rw [entriesText_single, List.cons_append, readEntries_entry (opens_write hv.1),
      hvalues depth v _ hv.1 hfits.1 (by omega) (stopsNumber_brace rest)]
    simp only [bind, Except.bind, List.dropWhile_cons_of_neg (show ¬ isSpace '\x7d' = true by decide),
      insertEntry_new hnew]
  | cons e entries =>
    have hlength := length_entryText key v
    have hopen := (opens_entries e entries).append ('\x7d' :: rest)
    have happend : soFar ++ (key, v) :: e :: entries = (soFar ++ [(key, v)]) ++ e :: entries := by
      rw [List.append_assoc, List.singleton_append]
    rw [happend] at hkeys ⊢
    rw [entriesText_cons, List.length_cons, List.length_append, List.length_cons, List.length_cons] at hfuel
    rw [entriesText_cons, List.cons_append, List.append_assoc, List.cons_append, List.cons_append,
      readEntries_entry (opens_write hv.1), hvalues depth v _ hv.1 hfits.1 (by omega) (stopsNumber_comma _)]
    simp only [bind, Except.bind, List.dropWhile_cons_of_neg (show ¬ isSpace ',' = true by decide),
      insertEntry_new hnew]
    rw [List.dropWhile_cons_of_pos (by decide), hopen.dropWhile]
    exact hentries depth e entries _ rest hv.2 hfits.2 hkeys (by omega)

include hitems hentries in
theorem readsValues_succ : ReadsValues limits (fuel + 1) := by
  intro depth v rest hv hfits hfuel hrest
  cases v with
  | null => exact readValue_scalar ⟨'n', _, rfl, by decide, by decide⟩ readScalar_null
  | bool b => exact readValue_scalar (opensBare_bool b) (readScalar_bool b)
  | int n => exact readValue_scalar (opensBare_int n) (readScalar_int hrest n hfits)
  | real x => exact readValue_scalar (opensBare_real hv) (readScalar_real hrest hv)
  | text s => exact readValue_text s rest
  | list items =>
    cases items with
    | nil => exact if_pos hfits.1
    | cons v items =>
      rw [write_list, List.length_cons, List.length_append, List.length_singleton] at hfuel
      rw [write_list, List.cons_append, List.append_assoc, List.singleton_append]
      rw [readValue_list hfits.1 ((opens_items hv.1 items).append _),
        hitems (depth + 1) v items rest hv hfits.2 (by omega)]
      rfl
  | object entries =>
    cases entries with
    | nil => exact if_pos hfits.1
    | cons e entries =>
      have hread := hentries (depth + 1) e entries [] rest hv.2 hfits.2 hv.1
      obtain ⟨more, hmore⟩ := entriesText_quote e entries
      rw [write_object, List.length_cons, List.length_append, List.length_singleton] at hfuel
      rw [hmore] at hread
      rw [write_object, List.cons_append, List.append_assoc, List.singleton_append, hmore]
      rw [hmore] at hfuel
      rw [List.cons_append] at hread ⊢
      rw [readValue_object hfits.1, hread (by omega)]
      rfl

end Succ

theorem reads_all (limits : Limits) (fuel : Nat) :
    ReadsValues limits fuel ∧ ReadsItems limits fuel ∧ ReadsEntries limits fuel := by
  induction fuel with
  | zero =>
    refine ⟨fun depth v rest hv _ hfuel => ?_, fun depth v items rest _ _ hfuel => absurd hfuel (Nat.not_lt_zero _),
      fun depth e entries soFar rest _ _ _ hfuel => absurd hfuel (Nat.not_lt_zero _)⟩
    obtain ⟨c, more, hwrite, -⟩ := opens_write hv
    rw [hwrite, List.length_cons] at hfuel
    omega
  | succ fuel ih =>
    obtain ⟨hvalues, hitems, hentries⟩ := ih
    exact ⟨readsValues_succ hitems hentries, readsItems_succ hvalues hitems, readsEntries_succ hvalues hentries⟩

/-- **A text is read back as the value it was written for**, by every reader that can take it. -/
theorem readWithin_write {limits : Limits} {v : Json} (hv : v.WellFormed) (hfits : v.Fits limits 0) :
    readWithin limits v.write = .ok v := by
  have hopen := opens_write hv
  have hbom : (v.write.toList.head? == some (Char.ofNat 0xfeff)) = false := by
    obtain ⟨c, more, hwrite, -, -, hc⟩ := hopen
    rw [hwrite, List.head?_cons]
    exact beq_eq_false_iff_ne.2 fun h => hc (Option.some.inj h)
  have hvalue := (reads_all limits (2 * v.write.toList.length + 2)).1 0 v [] hv hfits (by omega)
    ⟨by rintro c ⟨⟩, by simp, by rintro c ⟨⟩⟩
  rw [List.append_nil] at hvalue
  simp only [readWithin, hbom, hopen.dropWhile, hvalue]
  rfl

theorem read_write {v : Json} (hv : v.WellFormed) : read v.write = .ok v := readWithin_write hv (fits_unbounded 0 v)

end AmpArticle.Json
