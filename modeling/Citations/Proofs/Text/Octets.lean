import Citations.Text.Basic
import Mathlib.Data.List.Basic
import Mathlib.Data.List.Infix

/-!
# Octets of a text

A text is stored in octets, one to four for each character. Every place of a text is at an octet,
later places are at later octets, and the octets that places are at are the boundaries between
characters; any other octet belongs to the place of its character. A word is written in the octets
of a text exactly where it stands in the text, because the first octet of a character is never one
of its further octets.
-/
namespace Citations.Text

variable {text word lead rest : Text} {place later octet : Nat} {c : Char}

/-- The octets of a text. -/
def octets (text : Text) : List UInt8 := text.flatMap String.utf8EncodeChar

/-- The number of octets before a place. -/
def octetOf (text : Text) (place : Nat) : Nat := (octets (text.take place)).length

/-- The place of the character that an octet belongs to. Behind the text every octet counts as a
place of its own. -/
def placeOf : Text → Nat → Nat
  | [], octet => octet
  | c :: rest, octet => if octet < c.utf8Size then 0 else placeOf rest (octet - c.utf8Size) + 1

/-- An octet at which a text can be cut without cutting a character. -/
def IsBoundary (text : Text) (octet : Nat) : Prop :=
  (String.Pos.Raw.mk octet).IsValid (String.ofList text)

/-- A part of a text takes the octets from one up to another. -/
def Spans (text : Text) (start stop : Nat) (part : Text) : Prop :=
  ∃ front back, text = front ++ (part ++ back) ∧ front.octets.length = start ∧
    (front ++ part).octets.length = stop

/-! ## Octets of characters -/

/-- The octets of a character come before those of the characters behind it. -/
theorem octets_cons (c : Char) (rest : Text) :
    octets (c :: rest) = String.utf8EncodeChar c ++ rest.octets := rfl

/-- The octets of two texts in a row. -/
theorem octets_append (text more : Text) : (text ++ more).octets = text.octets ++ more.octets :=
  List.flatMap_append

/-- A character in front takes its size in octets. -/
theorem length_octets_cons (c : Char) (rest : Text) :
    (octets (c :: rest)).length = c.utf8Size + rest.octets.length := by
  rw [octets_cons, List.length_append, String.length_utf8EncodeChar]

/-- The encoding of a text holds its octets. -/
theorem utf8Encode_eq (text : Text) : text.utf8Encode = text.octets.toByteArray := rfl

/-- The size of a text in octets. -/
theorem utf8ByteSize_ofList (text : Text) :
    (String.ofList text).utf8ByteSize = text.octets.length := by
  rw [← String.size_toByteArray, String.toByteArray_ofList, utf8Encode_eq, List.size_toByteArray]

/-- A text begins with a word exactly when its octets begin with those of the word. -/
theorem prefix_octets_iff : word.octets <+: text.octets ↔ word <+: text := by
  constructor
  · rintro ⟨more, same⟩
    have encoded : word.utf8Encode ++ more.toByteArray = text.utf8Encode := by
      rw [utf8Encode_eq, utf8Encode_eq, ← same, List.toByteArray_append]
    exact List.isPrefix_of_utf8Encode_append_eq_utf8Encode more.toByteArray encoded
  · rintro ⟨more, rfl⟩
    rw [octets_append]
    exact List.prefix_append ..

/-! ## Octets of places -/

/-- The octets before a place behind the first character. -/
theorem octetOf_cons_succ (c : Char) (rest : Text) (place : Nat) :
    octetOf (c :: rest) (place + 1) = c.utf8Size + octetOf rest place :=
  length_octets_cons c (rest.take place)

/-- The place behind the beginning of a text is at the octet where the beginning ends. -/
theorem octetOf_of_begins (begins : lead <+: text) :
    text.octetOf lead.length = lead.octets.length := by
  rw [octetOf, ← List.prefix_iff_eq_take.mp begins]

/-- The end of a text is at the octet behind all of its octets. -/
theorem octetOf_length (text : Text) : text.octetOf text.length = text.octets.length :=
  octetOf_of_begins (List.prefix_refl text)

/-- A place is at or before an octet exactly when it is at or before the place of the octet. -/
theorem octetOf_le_iff (inside : place ≤ text.length) :
    text.octetOf place ≤ octet ↔ place ≤ text.placeOf octet := by
  induction text generalizing place octet with
  | nil =>
    obtain rfl : place = 0 := Nat.le_zero.mp inside
    exact iff_of_true (Nat.zero_le _) (Nat.zero_le _)
  | cons c rest ih =>
    cases place with
    | zero => exact iff_of_true (Nat.zero_le _) (Nat.zero_le _)
    | succ place =>
      have later : octetOf rest place ≤ octet - c.utf8Size ↔
          place ≤ placeOf rest (octet - c.utf8Size) := ih (Nat.le_of_succ_le_succ inside)
      rw [octetOf_cons_succ, placeOf]
      split <;> omega

/-- The place of the octet that a place is at. -/
theorem placeOf_octetOf (inside : place ≤ text.length) :
    text.placeOf (text.octetOf place) = place := by
  induction text generalizing place with
  | nil =>
    obtain rfl : place = 0 := Nat.le_zero.mp inside
    rfl
  | cons c rest ih =>
    cases place with
    | zero => exact if_pos c.utf8Size_pos
    | succ place =>
      rw [octetOf_cons_succ, placeOf, if_neg (by omega), Nat.add_sub_cancel_left,
        ih (Nat.le_of_succ_le_succ inside)]

/-- Places are in the order of the octets that they are at. -/
theorem octetOf_le_octetOf_iff (placeInside : place ≤ text.length)
    (laterInside : later ≤ text.length) :
    text.octetOf place ≤ text.octetOf later ↔ place ≤ later := by
  rw [octetOf_le_iff placeInside, placeOf_octetOf laterInside]

/-- A later place is at a later octet. -/
theorem octetOf_lt (before : place < later) (inside : later ≤ text.length) :
    text.octetOf place < text.octetOf later := by
  have placeInside : place ≤ text.length := by omega
  by_contra behind
  have order := (octetOf_le_octetOf_iff inside placeInside).mp (Nat.le_of_not_lt behind)
  omega

/-- Two places at one octet are one place. -/
theorem octetOf_inj (placeInside : place ≤ text.length) (laterInside : later ≤ text.length)
    (same : text.octetOf place = text.octetOf later) : place = later := by
  rw [← placeOf_octetOf placeInside, same, placeOf_octetOf laterInside]

/-- A word that stands at a place ends as many octets further on as it takes. -/
theorem octetOf_add_length (stands : word <+: text.drop place) :
    text.octetOf (place + word.length) = text.octetOf place + word.octets.length := by
  have parts : text.take (place + word.length) = text.take place ++ word := by
    rw [List.take_add, ← List.prefix_iff_eq_take.mp stands]
  rw [octetOf, parts, octets_append, List.length_append]
  rfl

/-- The boundaries are the octets that places are at. -/
theorem isBoundary_iff :
    text.IsBoundary octet ↔ ∃ place ≤ text.length, text.octetOf place = octet := by
  rw [IsBoundary, String.Pos.Raw.isValid_ofList]
  constructor
  · rintro ⟨place, before⟩
    refine ⟨min place text.length, Nat.min_le_right .., ?_⟩
    rw [octetOf, ← utf8ByteSize_ofList, ← List.take_eq_take_min, ← before]
  · rintro ⟨place, -, rfl⟩
    exact ⟨place, (utf8ByteSize_ofList _).symm⟩

/-- The place of a boundary is in the text and at the boundary. -/
theorem IsBoundary.placeOf (boundary : text.IsBoundary octet) :
    text.placeOf octet ≤ text.length ∧ text.octetOf (text.placeOf octet) = octet := by
  obtain ⟨place, inside, rfl⟩ := isBoundary_iff.mp boundary
  rw [placeOf_octetOf inside]
  exact ⟨inside, rfl⟩

/-- The octets from that of a place on are those of what follows the place. -/
theorem drop_octetOf (text : Text) (place : Nat) :
    text.octets.drop (text.octetOf place) = octets (text.drop place) := by
  have parts : text.octets = octets (text.take place) ++ octets (text.drop place) := by
    rw [← octets_append, List.take_append_drop]
  rw [parts]
  exact List.drop_left

/-! ## Parts -/

/-- The part of a text between two places takes the octets between those that they are at. -/
theorem spans_iff {start stop : Nat} (stopInside : stop ≤ text.length) {part : Text} :
    text.Spans start (text.octetOf stop) part ↔
      ∃ place ≤ stop, text.octetOf place = start ∧ part = (text.take stop).drop place := by
  constructor
  · rintro ⟨front, back, rfl, rfl, ends⟩
    rw [← List.append_assoc] at ends stopInside ⊢
    have wholeInside : (front ++ part).length ≤ (front ++ part ++ back).length :=
      (List.prefix_append (front ++ part) back).length_le
    obtain rfl : (front ++ part).length = stop :=
      octetOf_inj wholeInside stopInside (by rw [octetOf_of_begins (List.prefix_append ..), ends])
    refine ⟨front.length, ?_, ?_, ?_⟩
    · rw [List.length_append]
      omega
    · rw [List.append_assoc]
      exact octetOf_of_begins (List.prefix_append ..)
    · rw [List.take_left, List.drop_left]
  · rintro ⟨place, before, rfl, rfl⟩
    have whole : text.take place ++ (text.take stop).drop place = text.take stop := by
      have parts := List.take_append_drop place (text.take stop)
      rwa [List.take_take, Nat.min_eq_left before] at parts
    refine ⟨text.take place, text.drop stop, ?_, rfl, ?_⟩
    · rw [← List.append_assoc, whole, List.take_append_drop]
    · rw [whole]
      rfl

/-! ## Written words -/

/-- The first octet of a character tells that a character begins. -/
theorem isUTF8FirstByte_of_head {first : UInt8} {more : List UInt8}
    (encoded : String.utf8EncodeChar c = first :: more) : first.IsUTF8FirstByte := by
  have inside : 0 < [c].utf8Encode.size := by
    rw [utf8Encode_eq, List.size_toByteArray, length_octets_cons]
    exact Nat.add_pos_left c.utf8Size_pos _
  have begins : [c].utf8Encode[0].IsUTF8FirstByte :=
    List.isUTF8FirstByte_getElem_utf8Encode_singleton.mpr rfl
  simp only [utf8Encode_eq, List.getElem_toByteArray, octets, List.flatMap_singleton,
    encoded] at begins
  exact begins

/-- Where the octets of a word are written no character is cut. -/
theorem isBoundary_of_written (nonempty : word ≠ [])
    (written : word.octets <+: text.octets.drop octet) : text.IsBoundary octet := by
  obtain ⟨c, rest, rfl⟩ := List.exists_cons_of_ne_nil nonempty
  obtain ⟨first, more, encoded⟩ := List.exists_cons_of_length_pos
    (String.length_utf8EncodeChar c ▸ c.utf8Size_pos)
  have here : text.octets[octet]? = some first := by
    obtain ⟨behind, same⟩ := written
    rw [← List.head?_drop, ← same, octets_cons, encoded]
    rfl
  obtain ⟨inside, same⟩ := List.getElem?_eq_some_iff.mp here
  have before : octet < (String.ofList text).utf8ByteSize := by rwa [utf8ByteSize_ofList]
  refine String.Pos.Raw.isValid_iff_isUTF8FirstByte.mpr (Or.inr ⟨before, ?_⟩)
  have begins := isUTF8FirstByte_of_head encoded
  simpa only [String.getUTF8Byte, String.toByteArray_ofList, utf8Encode_eq,
    List.getElem_toByteArray, same] using begins

/-- The octets of a word are written exactly where the word stands. -/
theorem written_iff (nonempty : word ≠ []) : word.octets <+: text.octets.drop octet ↔
    ∃ place ≤ text.length, text.octetOf place = octet ∧ word <+: text.drop place := by
  constructor
  · intro written
    obtain ⟨inside, same⟩ := (isBoundary_of_written nonempty written).placeOf
    rw [← same, drop_octetOf, prefix_octets_iff] at written
    exact ⟨_, inside, same, written⟩
  · rintro ⟨place, -, rfl, stands⟩
    rw [drop_octetOf]
    exact prefix_octets_iff.mpr stands

end Citations.Text
