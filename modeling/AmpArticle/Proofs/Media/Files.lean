import AmpArticle.Media.Disk
import AmpArticle.Proofs.Text.Utf8
import AmpArticle.Room

/-!
What is found at a path when a text is wanted, or a value written as text. Either it is there, or it is not, for a
reason that the system or the reader of values gives, or nothing can be made of what is there: the bytes are no text, no
file can have the path, or the text of a value passes a limit of the reader.

Results:
- `HasText`, `LacksFile`, `Unreadable`: the three cases of a text, by what lies at the path and by the bytes there;
- `HasValue`, `LacksValue`, `UnreadableValue`: the same of a value;
- `text_cases`, `value_cases`: there is no other case;
- `read_text`, `read_lacking`, `read_unreadable`: what reading comes to in each of them.
-/

namespace AmpArticle.Disk

variable {d : Disk} {path : String}

/-- a path leads to a file with the characters of a text, line ends of any kind counting as line feeds -/
inductive HasText (d : Disk) (path : String) : String → Prop
  | intro {cs : List Char} : isBroken path = false → d.find path = .ok (.file (Text.encodeUtf8 cs)) →
      HasText d path (String.ofList (Text.unifyLineEnds cs))

/-- a path leads to no file -/
inductive LacksFile (d : Disk) (path : String) : FileFault → Prop
  | folder : isBroken path = false → d.find path = .ok .folder → LacksFile d path .isDirectory
  | nowhere {cause : FileFault} : isBroken path = false → d.find path = .error cause → LacksFile d path cause

/-- a path leads to a file whose bytes are those of no text, or it is none that a file could have -/
inductive Unreadable (d : Disk) (path : String) : Fault → Prop
  | bytes {bytes : List UInt8} {message : String} : isBroken path = false → d.find path = .ok (.file bytes) →
      (∀ cs, bytes ≠ Text.encodeUtf8 cs) → Text.decodeUtf8 bytes = .error (.undecodable message) →
      Unreadable d path (.undecodable message)
  | path : isBroken path = true → Unreadable d path (.value "embedded null byte")

/-- a path leads to the text of a value, for a reader at a place -/
inductive HasValue [Room] (d : Disk) (place : Place) (path : String) (v : Json) : Prop
  | intro {text : String} : d.HasText path text → Json.load place text = .ok v → HasValue d place path v

/-- a path leads to no file, or to a text that is none of a value -/
inductive LacksValue [Room] (d : Disk) (place : Place) (path : String) : Fault → Prop
  | file {cause : FileFault} : d.LacksFile path cause → LacksValue d place path (.file cause path)
  | text {text : String} {e : Json.ReadError} : d.HasText path text → Json.load place text = .error (.malformed e) →
      LacksValue d place path (.unreadableJson e)

/-- a path leads to what cannot be read as a text, or to a text that passes a limit of the reader -/
inductive UnreadableValue [Room] (d : Disk) (place : Place) (path : String) : Fault → Prop
  | text {fault : Fault} : d.Unreadable path fault → UnreadableValue d place path fault
  | limit {text : String} {limit : Json.Limit} : d.HasText path text →
      Json.load place text = .error (.beyond limit) → UnreadableValue d place path (.limit limit)

/-- **What a path may lead to**: a text, no file, or something that cannot be read. -/
theorem text_cases (d : Disk) (path : String) :
    (∃ text, d.HasText path text) ∨ (∃ cause, d.LacksFile path cause) ∨ ∃ fault, d.Unreadable path fault := by
  cases hbroken : isBroken path with
  | true => exact .inr (.inr ⟨_, .path hbroken⟩)
  | false =>
    rcases hfind : d.find path with cause | _ | bytes
    · exact .inr (.inl ⟨cause, .nowhere hbroken hfind⟩)
    · exact .inr (.inl ⟨_, .folder hbroken hfind⟩)
    · rcases Text.decodeUtf8_cases bytes with ⟨cs, rfl⟩ | ⟨hbytes, message, hdecode⟩
      · exact .inl ⟨_, .intro hbroken hfind⟩
      · exact .inr (.inr ⟨_, .bytes hbroken hfind hbytes hdecode⟩)

theorem value_cases [Room] (d : Disk) (place : Place) (path : String) : (∃ v, d.HasValue place path v) ∨
    (∃ fault, d.LacksValue place path fault) ∨ ∃ fault, d.UnreadableValue place path fault := by
  rcases text_cases d path with ⟨text, htext⟩ | ⟨cause, hlacks⟩ | ⟨fault, hunreadable⟩
  · cases hread : Json.load place text with
    | ok v => exact .inl ⟨v, .intro htext hread⟩
    | error unread =>
      cases unread with
      | malformed e => exact .inr (.inl ⟨_, .text htext hread⟩)
      | beyond limit => exact .inr (.inr ⟨_, .limit htext hread⟩)
  · exact .inr (.inl ⟨_, .file hlacks⟩)
  · exact .inr (.inr ⟨fault, .text hunreadable⟩)

theorem read_find {bytes : List UInt8} (hbroken : isBroken path = false) (hfind : d.find path = .ok (.file bytes)) :
    d.read path = .ok bytes := by
  rw [read, hbroken, if_neg Bool.false_ne_true, hfind]

theorem read_text {text : String} (h : d.HasText path text) :
    ∃ bytes, d.read path = .ok bytes ∧ Text.ofFileBytes bytes = .ok text := by
  cases h with
  | intro hbroken hfind => exact ⟨_, read_find hbroken hfind, Text.ofFileBytes_encode _⟩

theorem read_lacking {cause : FileFault} (h : d.LacksFile path cause) : d.read path = .error (.file cause path) := by
  cases h with
  | folder hbroken hfind => rw [read, hbroken, if_neg Bool.false_ne_true, hfind]
  | nowhere hbroken hfind => rw [read, hbroken, if_neg Bool.false_ne_true, hfind]

theorem read_unreadable {fault : Fault} (h : d.Unreadable path fault) :
    (∃ bytes, d.read path = .ok bytes ∧ Text.ofFileBytes bytes = .error fault) ∨
      d.read path = .error fault ∧ ∀ cause p, fault ≠ .file cause p := by
  cases h with
  | bytes hbroken hfind _ hdecode =>
    refine .inl ⟨_, read_find hbroken hfind, ?_⟩
    rw [Text.ofFileBytes, hdecode]
    rfl
  | path hbroken =>
    refine .inr ⟨by rw [read, if_pos hbroken], ?_⟩
    rintro _ _ ⟨⟩

end AmpArticle.Disk
