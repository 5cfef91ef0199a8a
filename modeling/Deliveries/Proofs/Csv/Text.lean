import Deliveries.Dataset.Reading
import Deliveries.Proofs.Csv.Rendering
import Deliveries.Proofs.Text.Ascii

/-!
# Texts as fields

Which texts stand bare, which of them look like a byte order mark, and what is
read from fields that hold texts.
-/

namespace Deliveries
namespace Csv

open Text

/-- A text stands bare when it has no comma, no quote and no line break. -/
def PlainText (text : String) : Prop :=
  ∀ character ∈ text.toList, character ≠ ',' ∧ character ≠ '"' ∧
    character ≠ '\n' ∧ character ≠ '\r'

theorem plain_iff (field : Field) :
    Plain field ↔ comma ∉ field ∧ quote ∉ field ∧
      lineFeed ∉ field ∧ carriageReturn ∉ field := by
  constructor
  · intro plain
    exact ⟨fun member => (plain _ member).1 rfl,
      fun member => (plain _ member).2.1 rfl,
      fun member => (plain _ member).2.2.1 rfl,
      fun member => (plain _ member).2.2.2 rfl⟩
  · rintro ⟨noComma, noQuote, noFeed, noReturn⟩ byte member
    refine ⟨?_, ?_, ?_, ?_⟩ <;> rintro rfl <;> contradiction

theorem plain_bytesOf_iff (text : String) :
    Plain (bytesOf text) ↔ PlainText text := by
  have commas := ofNat_mem_bytesOf_iff (by decide : 0x2C < 0x80) text
  have quotes := ofNat_mem_bytesOf_iff (by decide : 0x22 < 0x80) text
  have feeds := ofNat_mem_bytesOf_iff (by decide : 0x0A < 0x80) text
  have returns := ofNat_mem_bytesOf_iff (by decide : 0x0D < 0x80) text
  rw [plain_iff]
  change (UInt8.ofNat 0x2C ∉ _ ∧ UInt8.ofNat 0x22 ∉ _ ∧
    UInt8.ofNat 0x0A ∉ _ ∧ UInt8.ofNat 0x0D ∉ _) ↔ _
  rw [commas, quotes, feeds, returns]
  constructor
  · rintro ⟨noComma, noQuote, noFeed, noReturn⟩ character member
    refine ⟨?_, ?_, ?_, ?_⟩ <;> rintro rfl <;> contradiction
  · intro plain
    exact ⟨fun member => (plain _ member).1 rfl,
      fun member => (plain _ member).2.1 rfl,
      fun member => (plain _ member).2.2.1 rfl,
      fun member => (plain _ member).2.2.2 rfl⟩

/-! ## The mark as text -/

/-- The character whose bytes are the byte order mark. -/
def markCharacter : Char := '\uFEFF'

theorem encodeChar_markCharacter :
    Utf8.encodeChar markCharacter = mark := by decide

/-- Only the character of the mark is written with the bytes of the mark. -/
theorem eq_markCharacter_of_encodeChar_append
    {character : Char} {rest bytes : List UInt8}
    (equal : Utf8.encodeChar character ++ rest = mark ++ bytes) :
    character = markCharacter := by
  have bound := Utf8.toNat_lt character
  have code : character.toNat = 0xFEFF := by
    by_cases one : character.toNat < 0x80
    · rw [Utf8.encodeChar_of_one one] at equal
      have lead : character.toNat = 0xEF :=
        Utf8.ofNat_injective (by omega) (by decide) (List.cons.inj equal).1
      omega
    by_cases two : character.toNat < 0x800
    · rw [Utf8.encodeChar_of_two (by omega) two] at equal
      have lead : 0xC0 + character.toNat / 64 = 0xEF :=
        Utf8.ofNat_injective (by omega) (by decide) (List.cons.inj equal).1
      omega
    by_cases three : character.toNat < 0x10000
    · rw [Utf8.encodeChar_of_three (by omega) three] at equal
      obtain ⟨first, equal⟩ := List.cons.inj equal
      obtain ⟨second, equal⟩ := List.cons.inj equal
      have lead : 0xE0 + character.toNat / 4096 = 0xEF :=
        Utf8.ofNat_injective (by omega) (by decide) first
      have middle : 0x80 + character.toNat / 64 % 64 = 0xBB :=
        Utf8.ofNat_injective (by omega) (by decide) second
      have last : 0x80 + character.toNat % 64 = 0xBF :=
        Utf8.ofNat_injective (by omega) (by decide) (List.cons.inj equal).1
      omega
    · rw [Utf8.encodeChar_of_four (by omega)] at equal
      have lead : 0xF0 + character.toNat / 262144 = 0xEF :=
        Utf8.ofNat_injective (by omega) (by decide) (List.cons.inj equal).1
      omega
  rw [← Char.ofNat_toNat character, code]
  rfl

/-- A text that is followed by another byte than the mark's first looks like the
mark only when it begins with the mark's character. -/
theorem eq_markCharacter_cons_of_marked
    {text : String} {byte : UInt8} {rest : List UInt8}
    (other : byte ≠ 0xEF) (marked : mark <+: bytesOf text ++ byte :: rest) :
    ∃ tail, text.toList = markCharacter :: tail := by
  obtain ⟨bytes, equal⟩ := marked
  unfold bytesOf at equal
  cases characters : text.toList with
  | nil =>
    rw [characters] at equal
    exact absurd (List.cons.inj equal).1.symm other
  | cons character tail =>
    rw [characters, Utf8.encode_cons, List.append_assoc] at equal
    exact ⟨tail, by rw [eq_markCharacter_of_encodeChar_append equal.symm]⟩

instance (text : String) : Decidable (PlainText text) :=
  List.decidableBAll _ text.toList

/-- What is read of a text at the very start of a table: the mark's character is
lost when the text begins with it and stands bare. -/
def withoutMark (text : String) : String :=
  match text.toList with
  | [] => text
  | character :: rest =>
    if character = markCharacter ∧ PlainText text then
      String.ofList rest
    else
      text

theorem withoutMark_of_mark
    {text : String} {rest : List Char}
    (marked : text.toList = markCharacter :: rest) (plain : PlainText text) :
    withoutMark text = String.ofList rest := by
  unfold withoutMark
  rw [marked]
  exact if_pos ⟨rfl, plain⟩

theorem withoutMark_of_not_mark
    {text : String}
    (unmarked : ¬ ((∃ rest, text.toList = markCharacter :: rest) ∧
      PlainText text)) :
    withoutMark text = text := by
  unfold withoutMark
  split
  · rfl
  · next character rest characters =>
    rw [if_neg]
    rintro ⟨rfl, plain⟩
    exact unmarked ⟨⟨rest, characters⟩, plain⟩

/-- A rendering looks as if it began with a mark only when its first text
begins with the mark's character and stands bare. -/
theorem mark_of_prefix_render
    {first next : String} {rest : List Field} {records : List (List Field)}
    (marked : mark <+:
      render ((bytesOf first :: bytesOf next :: rest) :: records)) :
    (∃ tail, first.toList = markCharacter :: tail) ∧ PlainText first := by
  have rendered : render ((bytesOf first :: bytesOf next :: rest) :: records) =
      renderField (bytesOf first) ++ comma ::
        (renderFields (bytesOf next :: rest) ++ lineFeed :: render records) := by
    simp [renderRecord, renderFields]
  rw [rendered, renderField] at marked
  split at marked
  · obtain ⟨bytes, equal⟩ := marked
    exact absurd (List.cons.inj equal).1 (by decide)
  · next unneeded =>
    have plain := (plain_iff_needsQuotes_eq_false (bytesOf first)).mpr
      (Bool.eq_false_iff.mpr unneeded)
    exact ⟨eq_markCharacter_cons_of_marked (by decide) marked,
      (plain_bytesOf_iff first).mp plain⟩

/-- A table of texts as fields. -/
def fieldsOf (table : List (List String)) : List (List Field) :=
  table.map (·.map bytesOf)

theorem exists_eq_cons_cons
    {texts : List String} (wide : 2 ≤ texts.length) :
    ∃ first next rest, texts = first :: next :: rest := by
  cases texts with
  | nil => simp at wide
  | cons first others =>
    cases others with
    | nil => simp at wide
    | cons next rest => exact ⟨first, next, rest, rfl⟩

/-- The rendering of a table is a layout of the table, but for a mark that the
first text of its header loses. -/
theorem layout_render_fieldsOf
    {header : List String} (wide : 2 ≤ header.length)
    {records : List (List String)} (nonempty : ∀ texts ∈ records, texts ≠ []) :
    Layout (fieldsOf (header.modifyHead withoutMark :: records))
      (render (fieldsOf (header :: records))) := by
  obtain ⟨first, next, rest, rfl⟩ := exists_eq_cons_cons wide
  have nonemptyFields : ∀ fields ∈ fieldsOf records, fields ≠ [] := by
    intro fields member
    obtain ⟨texts, present, rfl⟩ := List.mem_map.mp member
    simpa using nonempty texts present
  by_cases marked :
      (∃ tail, first.toList = markCharacter :: tail) ∧ PlainText first
  · obtain ⟨⟨tail, characters⟩, plain⟩ := marked
    have bytes : bytesOf first = mark ++ bytesOf (String.ofList tail) := by
      rw [bytesOf, characters, Utf8.encode_cons, encodeChar_markCharacter,
        bytesOf, String.toList_ofList]
    have plainBytes : Plain (mark ++ bytesOf (String.ofList tail)) := by
      rw [← bytes]
      exact (plain_bytesOf_iff first).mpr plain
    have others : (next :: rest).map bytesOf ≠ [] :=
      List.cons_ne_nil _ _
    have layout := layout_render_of_mark plainBytes others nonemptyFields
    rw [← bytes] at layout
    rw [List.modifyHead_cons, withoutMark_of_mark characters plain]
    exact layout
  · rw [List.modifyHead_cons, withoutMark_of_not_mark marked]
    apply layout_render
    · intro fields member
      rcases List.mem_cons.mp member with rfl | later
      · exact List.cons_ne_nil _ _
      · exact nonemptyFields fields later
    · intro looks
      exact marked (mark_of_prefix_render looks)

end Csv
end Deliveries
