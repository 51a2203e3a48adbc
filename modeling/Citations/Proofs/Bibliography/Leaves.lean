import Citations.Bibliography.JsonList
import Citations.Proofs.Text.Pieces
import Citations.Proofs.Text.Search

/-!
# The scalars of a nested value

What a value of a list reads as is made of the scalars in it, however they are nested
(`JsonList.leaves`). A line feed in it comes from one of the texts among them: neither what is put
between scalars nor the spelling of a number has one.
-/
namespace Citations

/-! ## Numbers -/

namespace Text

/-- The decimal digits of a number have no line feed. -/
theorem lineFeed_notMem_ofNat (n : Nat) : '\n' ∉ ofNat n := by
  intro inside
  have digit : ('\n' : Char).isDigit = true :=
    Nat.isDigit_of_mem_toDigits (by decide) (by decide) inside
  exact absurd digit (by decide)

end Text

namespace Shortest

variable {decimal : Decimal} {digits ending : Text}

/-- Digits have no line feed once the zeros at their end are gone. -/
theorem lineFeed_notMem_dropZeros (clean : '\n' ∉ digits) : '\n' ∉ dropZeros digits := by
  have part := Text.dropEndWhile_prefix (· = '0') digits
  unfold dropZeros
  split
  · decide
  · exact fun inside => clean (part.subset inside)

/-- The digits of a decimal have no line feed. -/
theorem lineFeed_notMem_digits (significand : Nat) (exponent : Int) :
    '\n' ∉ (ofFinite significand exponent).digits :=
  lineFeed_notMem_dropZeros (Text.lineFeed_notMem_ofNat _)

/-- A decimal with a point has no line feed. -/
theorem lineFeed_notMem_positional (clean : '\n' ∉ decimal.digits) (ended : '\n' ∉ ending) :
    '\n' ∉ positional decimal ending := by
  have zeros (count : Nat) : '\n' ∉ List.replicate count '0' := fun inside =>
    absurd (List.eq_of_mem_replicate inside) (by decide)
  have first (count : Nat) : '\n' ∉ decimal.digits.take count :=
    fun inside => clean (List.mem_of_mem_take inside)
  have later (count : Nat) : '\n' ∉ decimal.digits.drop count :=
    fun inside => clean (List.mem_of_mem_drop inside)
  unfold positional
  dsimp only
  split
  · simp [zeros, clean]
  · split
    · simp [zeros, clean, ended]
    · simp [first, later]

/-- A decimal with a power of ten has no line feed. -/
theorem lineFeed_notMem_scientific (clean : '\n' ∉ decimal.digits) :
    '\n' ∉ scientific decimal := by
  have power := Text.lineFeed_notMem_ofNat decimal.power.natAbs
  unfold scientific
  dsimp only
  split
  · rename_i first next rest shape
    rw [shape] at clean
    split <;> simp_all
  · split <;> simp [clean, power]

end Shortest

namespace Json

/-- The spelling of a number has no line feed. -/
theorem lineFeed_notMem_text (value : Number) : '\n' ∉ value.text := by
  cases value with
  | integer value =>
    have digits := Text.lineFeed_notMem_ofNat value.natAbs
    change '\n' ∉ integerText value
    unfold integerText
    split <;> simp [digits]
  | double value =>
    change '\n' ∉ doubleText value
    cases value with
    | finite negative significand exponent =>
      have digits := Shortest.lineFeed_notMem_digits significand exponent
      have sign : '\n' ∉ (if negative then ['-'] else [] : Text) := by cases negative <;> decide
      have ending : '\n' ∉ ".0".toList := by decide
      have positional := Shortest.lineFeed_notMem_positional digits ending
      have scientific := Shortest.lineFeed_notMem_scientific digits
      unfold doubleText
      dsimp only
      split
      · simp [sign]
      · rw [List.mem_append, not_or]
        refine ⟨sign, ?_⟩
        split
        · exact positional
        · exact scientific
    | infinite =>
      change '\n' ∉ "null".toList
      decide
    | undefined => decide

end Json

/-! ## Nested values -/

namespace JsonList

mutual

/-- The scalars in a value, in the order in which it is written. -/
def leaves : Json → List Json
  | .null => [.null]
  | .bool value => [.bool value]
  | .number value => [.number value]
  | .text value => [.text value]
  | .array items => itemLeaves items
  | .object members => memberLeaves members

/-- The scalars in the items of an array. -/
def itemLeaves : List Json → List Json
  | [] => []
  | item :: rest => leaves item ++ itemLeaves rest

/-- The scalars in the members of an object. -/
def memberLeaves : List (Text × Json) → List Json
  | [] => []
  | (_, value) :: rest => leaves value ++ memberLeaves rest

end

/-- One of some scalars is a text with a line feed. -/
def Broken (scalars : List Json) : Prop := ∃ leaf, .text leaf ∈ scalars ∧ '\n' ∈ leaf

/-- Scalars are broken if those of a part are. -/
theorem broken_append {left right : List Json} :
    Broken (left ++ right) ↔ Broken left ∨ Broken right := by
  simp only [Broken, List.mem_append, or_and_right, exists_or]

/-- A scalar other than a text is not broken. -/
theorem not_broken_singleton {scalar : Json} (other : ∀ leaf, scalar ≠ .text leaf) :
    ¬ Broken [scalar] := by
  rintro ⟨leaf, listed, -⟩
  exact other leaf (List.mem_singleton.mp listed).symm

mutual

/-- What a value reads as has a line feed exactly if a text in it has. -/
theorem lineFeed_mem_flat_iff : ∀ value : Json, '\n' ∈ flat value ↔ Broken (leaves value)
  | .null => by
    rw [flat, leaves]
    exact iff_of_false (by decide) (not_broken_singleton (by simp))
  | .bool value => by
    rw [flat, leaves]
    exact iff_of_false (by cases value <;> decide) (not_broken_singleton (by simp))
  | .number value => by
    rw [flat, leaves]
    exact iff_of_false (Json.lineFeed_notMem_text value) (not_broken_singleton (by simp))
  | .text value => by
    rw [flat, leaves]
    simp [Broken]
  | .array items => by
    rw [flat, leaves, Text.mem_join_iff (by decide), lineFeed_mem_flatItems_iff]
  | .object members => by
    rw [flat, leaves, Text.mem_join_iff (by decide), lineFeed_mem_flatMembers_iff]

/-- What one of the items of an array reads as has a line feed exactly if a text in them has. -/
theorem lineFeed_mem_flatItems_iff : ∀ items : List Json,
    (∃ piece ∈ flatItems items, '\n' ∈ piece) ↔ Broken (itemLeaves items)
  | [] => by simp [flatItems, itemLeaves, Broken]
  | item :: rest => by
    rw [flatItems, itemLeaves, broken_append, ← lineFeed_mem_flat_iff item,
      ← lineFeed_mem_flatItems_iff rest, List.exists_mem_cons_iff]

/-- What one of the members of an object reads as has a line feed exactly if a text in them
has. -/
theorem lineFeed_mem_flatMembers_iff : ∀ members : List (Text × Json),
    (∃ piece ∈ flatMembers members, '\n' ∈ piece) ↔ Broken (memberLeaves members)
  | [] => by simp [flatMembers, memberLeaves, Broken]
  | (name, value) :: rest => by
    rw [flatMembers, memberLeaves, broken_append, ← lineFeed_mem_flat_iff value,
      ← lineFeed_mem_flatMembers_iff rest, List.exists_mem_cons_iff]

end

/-- What people read as has a line feed exactly if a text in the value has. -/
theorem lineFeed_mem_people_iff (value : Json) : '\n' ∈ people value ↔ Broken (leaves value) := by
  unfold people
  split
  · rw [leaves, Text.mem_join_iff (by decide), lineFeed_mem_flatItems_iff]
  · exact lineFeed_mem_flat_iff _

/-- A field of a record reads as the member that holds it, and has a line feed exactly if a text in
that member has. -/
theorem lineFeed_mem_value?_iff {members : List (Text × Json)} {name value : Text}
    (found : value? members name = some value) :
    ∃ member, memberFor? members name = some member ∧ ('\n' ∈ value ↔ Broken (leaves member)) := by
  unfold value? at found
  obtain ⟨member, held, read⟩ := Option.bind_eq_some_iff.mp found
  refine ⟨member, held, ?_⟩
  split at read
  · obtain rfl := Option.some.inj read
    exact lineFeed_mem_people_iff member
  · split at read
    · contradiction
    · obtain rfl := Option.some.inj read
      exact lineFeed_mem_flat_iff member

end JsonList

end Citations
