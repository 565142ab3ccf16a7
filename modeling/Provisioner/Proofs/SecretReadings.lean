import Provisioner.Proofs.Alignment
import Provisioner.Proofs.Mending

/-!
The two ways of reading a secret. Read as a whole, its texts are laid over its bytes; read one entry
at a time, a text is looked for first and bytes only where there is none. Both give under each name
the text that is mended from what the secret holds there, so the variables that are compared as a
whole and the credentials that are handed over entry by entry are read alike.
-/

namespace Provisioner

open Text (Bytes Mended)

namespace Secret

variable {s : Secret} {name : String} {bytes : Bytes} {text : String}

/-! ### What a secret holds -/

/-- The entry given as a text, if there is one. -/
def stringEntry? (s : Secret) (name : String) : Option String := s.stringData.bind (·.get? name)

/-- The entry given as bytes, if there is one. -/
def dataEntry? (s : Secret) (name : String) : Option Bytes := s.data.bind (·.get? name)

/-- The bytes that a secret holds under a name: those of a text, or bytes that no text of that name
takes the place of. -/
inductive Holds (s : Secret) (name : String) : Bytes → Prop
  | text {text : String} (given : s.stringEntry? name = some text) : Holds s name (Text.utf8 text)
  | bytes {bytes : Bytes} (untold : s.stringEntry? name = none)
      (given : s.dataEntry? name = some bytes) : Holds s name bytes

/-! ### The two readings -/

/-- Laying texts over bytes comes to the order of a search. -/
theorem get?_texts (s : Secret) (name : String) : s.texts.get? name =
    (s.stringEntry? name).or ((s.dataEntry? name).map Text.ofUtf8Lossy) := by
  have listed {α : Type} (given : Option (Dict String α)) :
      (given.getD ∅).get? name = given.bind (·.get? name) := by
    cases given <;> rfl
  rw [texts, Dict.get?_overlay, Dict.get?_map, listed, listed]
  rfl

theorem bytes?_eq (s : Secret) (name : String) :
    s.bytes? name = ((s.stringEntry? name).map Text.utf8).or (s.dataEntry? name) := by
  unfold bytes? stringEntry? dataEntry?
  rw [Option.map_bind]
  exact Option.orElse_eq_or ..

theorem bytes?_eq_some_iff : s.bytes? name = some bytes ↔ s.Holds name bytes := by
  rw [bytes?_eq]
  constructor
  · intro read
    cases told : s.stringEntry? name with
    | some text =>
      rw [told] at read
      cases read
      exact .text told
    | none =>
      rw [told] at read
      exact .bytes told read
  · intro holds
    cases holds with
    | text given => rw [given]; rfl
    | bytes untold given => rw [untold, given]; rfl

/-- A text is the same whether it is taken as it is or read from its bytes. -/
theorem text?_eq (s : Secret) (name : String) : s.text? name =
    (s.stringEntry? name).or ((s.dataEntry? name).map Text.ofUtf8Lossy) := by
  rw [text?, bytes?_eq, Option.map_or, Option.map_map]
  have kept : Text.ofUtf8Lossy ∘ Text.utf8 = id := funext Text.ofUtf8Lossy_utf8
  rw [kept, Option.map_id_apply]

theorem text?_eq_some_iff :
    s.text? name = some text ↔ ∃ bytes, s.Holds name bytes ∧ Mended bytes text.toList := by
  simp only [text?, Option.map_eq_some_iff, bytes?_eq_some_iff, Text.ofUtf8Lossy_eq_iff]

/-- A secret read as a whole has under each name what is read there alone: the text of the bytes
that it holds, with what is broken in them replaced. What a secret was made from is read back. -/
theorem readings_agree :
    (∀ (s : Secret) (name : String),
      s.texts.get? name = s.text? name ∧
      s.text? name = (s.bytes? name).map Text.ofUtf8Lossy ∧
      (∀ bytes, s.bytes? name = some bytes ↔ s.Holds name bytes) ∧
      ∀ text, s.text? name = some text ↔
        ∃ bytes, s.Holds name bytes ∧ Mended bytes text.toList) ∧
    ∀ (ns name : String) (data : Dict String String) (labels : Option (Dict String String)),
      (ofTexts ns name data labels).texts = data := by
  refine ⟨fun s name => ⟨?_, rfl, fun _ => bytes?_eq_some_iff, fun _ => text?_eq_some_iff⟩,
    fun ns name data labels => texts_of_stringData rfl rfl⟩
  rw [get?_texts, text?_eq]

/-- A text takes the place of bytes of its name, and other bytes are mended. -/
example :
    texts {
      data := some (.ofList [("key", [0xE2, 0x82]), ("note", [0xE2, 0x82, 0x41])])
      stringData := some (.singleton "key" "secret") } =
    .ofList [("key", "secret"), ("note", "\uFFFDA")] := by
  decide

end Secret

end Provisioner
