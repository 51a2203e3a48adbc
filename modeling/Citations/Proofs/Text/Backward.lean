import Citations.Proofs.Text.Octets
import Citations.Proofs.Text.Windows

/-!
# Looking back from an octet

A window holds the characters before an offset, as many as its budget allows, so in octets it
begins at the one boundary that leaves that many characters up to the offset. Looking back finds
the last octet at which the octets of a word are written wholly inside the window: a word that
reaches over either end of the window is not found, and nothing is found only where the word is
written nowhere in it.
-/
namespace Citations

open Text

/-- A word is written in the octets of a text at one of them, wholly between two others. -/
structure Text.Occurs (text word : Text) (start stop octet : Nat) : Prop where
  /-- The octets of the word are there. -/
  written : word.octets <+: text.octets.drop octet
  /-- The word does not begin before the first octet. -/
  begins : start ≤ octet
  /-- The word does not end behind the last octet. -/
  ends : octet + word.octets.length ≤ stop

namespace LineIndex

/-- The octet at which the window of `budget` characters that ends at an offset in octets
begins. -/
def windowOctet (index : LineIndex) (offset budget : Nat) : Nat :=
  index.text.octetOf (windowStart (index.text.placeOf offset) budget)

/-- The octet at which looking back from an offset in octets finds a word. -/
def lastOctet? (index : LineIndex) (offset budget : Nat) (word : Text) : Option Nat :=
  (index.findLastBefore? (index.text.placeOf offset) budget word).map index.text.octetOf

variable {text word : Text} {offset budget octet : Nat}

/-! ## The window -/

/-- The window begins its budget of places before the place of the offset. -/
theorem windowOctet_eq (text : Text) (offset budget : Nat) :
    (ofText text).windowOctet offset budget = text.octetOf (text.placeOf offset - budget) := rfl

/-- The window begins at the only octet from which as many characters lead up to the offset as the
budget allows. -/
theorem eq_windowOctet_iff (boundary : text.IsBoundary offset) :
    octet = (ofText text).windowOctet offset budget ↔
      ∃ part, text.Spans octet offset part ∧ part.length = min budget (text.placeOf offset) := by
  obtain ⟨inside, same⟩ := boundary.placeOf
  have spans {part : Text} : text.Spans octet offset part ↔ ∃ place ≤ text.placeOf offset,
      text.octetOf place = octet ∧ part = (text.take (text.placeOf offset)).drop place := by
    conv_lhs => rw [← same]
    exact spans_iff inside
  have size (place : Nat) : ((text.take (text.placeOf offset)).drop place).length =
      text.placeOf offset - place := by
    rw [List.length_drop, List.length_take, Nat.min_eq_left inside]
  rw [windowOctet_eq]
  constructor
  · intro first
    refine ⟨_, spans.mpr ⟨_, Nat.sub_le .., first.symm, rfl⟩, ?_⟩
    rw [size]
    omega
  · rintro ⟨part, taken, long⟩
    obtain ⟨place, before, rfl, rfl⟩ := spans.mp taken
    rw [size] at long
    have first : place = text.placeOf offset - budget := by omega
    rw [first]

/-- A window with a larger budget begins no later. -/
theorem windowOctet_anti (boundary : text.IsBoundary offset) {more : Nat} (larger : budget ≤ more) :
    (ofText text).windowOctet offset more ≤ (ofText text).windowOctet offset budget := by
  obtain ⟨inside, -⟩ := boundary.placeOf
  have order : text.placeOf offset - more ≤ text.placeOf offset - budget := by omega
  rw [windowOctet_eq, windowOctet_eq]
  exact (octetOf_le_octetOf_iff (by omega) (by omega)).mpr order

/-! ## The search -/

/-- A word occurs in the octets of the window where it stands in the window. -/
theorem occurs_iff (boundary : text.IsBoundary offset) (nonempty : word ≠ []) :
    text.Occurs word ((ofText text).windowOctet offset budget) offset octet ↔
      ∃ place, text.Within word (text.placeOf offset) budget place ∧
        text.octetOf place = octet := by
  obtain ⟨inside, same⟩ := boundary.placeOf
  have starts {place : Nat} (placeInside : place ≤ text.length) :
      text.octetOf (text.placeOf offset - budget) ≤ text.octetOf place ↔
        text.placeOf offset ≤ place + budget := by
    rw [octetOf_le_octetOf_iff (by omega) placeInside]
    omega
  have stops {place : Nat} (stands : word <+: text.drop place) (placeInside : place ≤ text.length) :
      text.octetOf place + word.octets.length ≤ offset ↔
        place + word.length ≤ text.placeOf offset := by
    have short := stands.length_le
    rw [List.length_drop] at short
    conv_lhs => rw [← octetOf_add_length stands, ← same]
    exact octetOf_le_octetOf_iff (by omega) inside
  rw [windowOctet_eq]
  constructor
  · intro occurs
    obtain ⟨place, placeInside, rfl, stands⟩ := (written_iff nonempty).mp occurs.written
    have begins := (starts placeInside).mp occurs.begins
    have ends := (stops stands placeInside).mp occurs.ends
    exact ⟨place, ⟨stands, begins, ends⟩, rfl⟩
  · rintro ⟨place, within, rfl⟩
    have placeInside : place ≤ text.length := by
      have := within.ends
      omega
    have written := (written_iff nonempty).mpr ⟨place, placeInside, rfl, within.written⟩
    exact ⟨written, (starts placeInside).mpr within.begins,
      (stops within.written placeInside).mpr within.ends⟩

/-- What looking back finds is the last occurrence in the window. -/
theorem isGreatest_of_lastOctet? (boundary : text.IsBoundary offset) (nonempty : word ≠ [])
    (found : (ofText text).lastOctet? offset budget word = some octet) :
    IsGreatest {octet | text.Occurs word ((ofText text).windowOctet offset budget) offset octet}
      octet := by
  obtain ⟨place, seen, rfl⟩ := Option.map_eq_some_iff.mp found
  obtain ⟨within, last⟩ := isGreatest_of_findLastBefore? nonempty seen
  constructor
  · exact (occurs_iff boundary nonempty).mpr ⟨place, within, rfl⟩
  · intro other occurs
    obtain ⟨earlier, alsoWithin, rfl⟩ := (occurs_iff boundary nonempty).mp occurs
    have inside := boundary.placeOf.1
    have ends : place + word.length ≤ text.placeOf offset := within.ends
    have order : earlier ≤ place := last alsoWithin
    exact (octetOf_le_octetOf_iff (by omega) (by omega)).mpr order

/-- Looking back finds nothing exactly where the word occurs nowhere in the window. -/
theorem lastOctet?_eq_none_iff (boundary : text.IsBoundary offset) (nonempty : word ≠ []) :
    (ofText text).lastOctet? offset budget word = none ↔
      ∀ octet, ¬ text.Occurs word ((ofText text).windowOctet offset budget) offset octet := by
  constructor
  · intro missing octet occurs
    obtain ⟨place, within, -⟩ := (occurs_iff boundary nonempty).mp occurs
    have unseen := Option.map_eq_none_iff.mp missing
    exact not_within_of_findLastBefore? nonempty unseen place within
  · intro nowhere
    cases found : (ofText text).lastOctet? offset budget word with
    | none => rfl
    | some octet =>
      have occurs := (isGreatest_of_lastOctet? boundary nonempty found).1
      exact absurd occurs (nowhere octet)

/-- The last occurrence in the window is what looking back finds. -/
theorem lastOctet?_eq_some_iff (boundary : text.IsBoundary offset) (nonempty : word ≠ []) :
    (ofText text).lastOctet? offset budget word = some octet ↔
      IsGreatest {octet | text.Occurs word ((ofText text).windowOctet offset budget) offset octet}
        octet := by
  constructor
  · exact isGreatest_of_lastOctet? boundary nonempty
  · intro greatest
    cases found : (ofText text).lastOctet? offset budget word with
    | none =>
      have nowhere := (lastOctet?_eq_none_iff boundary nonempty).mp found
      exact absurd greatest.1 (nowhere octet)
    | some other =>
      have alsoGreatest := isGreatest_of_lastOctet? boundary nonempty found
      rw [alsoGreatest.unique greatest]

/-- Looking back is exact, counted in octets from any boundary of a text. The window begins at the
one octet from which the part up to the offset has as many characters as the budget allows, or as
there are, and no later for a larger budget. A word is found at the last octet at which it is
written wholly inside the window, and not found exactly where it is written nowhere in it. -/
theorem lookback_exact (text : Text) {offset : Nat} (boundary : text.IsBoundary offset) :
    let index := ofText text
    ∃ lead, text.Spans 0 offset lead ∧
      (∀ budget start, start = index.windowOctet offset budget ↔
        ∃ part, text.Spans start offset part ∧ part.length = min budget lead.length) ∧
      (∀ budget more, budget ≤ more →
        index.windowOctet offset more ≤ index.windowOctet offset budget) ∧
      (∀ budget word octet, word ≠ [] → (index.lastOctet? offset budget word = some octet ↔
        IsGreatest {octet | text.Occurs word (index.windowOctet offset budget) offset octet}
          octet)) ∧
      (∀ budget word, word ≠ [] → (index.lastOctet? offset budget word = none ↔
        ∀ octet, ¬ text.Occurs word (index.windowOctet offset budget) offset octet)) := by
  intro index
  obtain ⟨inside, same⟩ := boundary.placeOf
  have lead : text.Spans 0 offset (text.take (text.placeOf offset)) := by
    have whole := (spans_iff inside).mpr ⟨0, Nat.zero_le _, rfl, rfl⟩
    rwa [same] at whole
  have size : (text.take (text.placeOf offset)).length = text.placeOf offset := by
    rw [List.length_take, Nat.min_eq_left inside]
  refine ⟨_, lead, ?_, ?_, ?_, ?_⟩
  · intro budget start
    rw [size]
    exact eq_windowOctet_iff boundary
  · intro budget more larger
    exact windowOctet_anti boundary larger
  · intro budget word octet nonempty
    exact lastOctet?_eq_some_iff boundary nonempty
  · intro budget word nonempty
    exact lastOctet?_eq_none_iff boundary nonempty

/-- Before the dollar signs a window of one character holds one of the three letters, of two octets
each: the letter is found in it and two of them in a row are not, although they end with it. -/
theorem lookback_exact_letters :
    let text : Text := "ééé$$".toList
    let index := ofText text
    text.IsBoundary 6 ∧ index.windowOctet 6 1 = 4 ∧
    index.lastOctet? 6 1 "é".toList = some 4 ∧
    IsGreatest {octet | text.Occurs "é".toList 4 6 octet} 4 ∧
    index.lastOctet? 6 1 "éé".toList = none ∧
    (∀ octet, ¬ text.Occurs "éé".toList 4 6 octet) ∧
    IsGreatest {octet | text.Occurs "éé".toList 2 6 octet} 2 := by
  intro text index
  have boundary : text.IsBoundary 6 := isBoundary_iff.mpr ⟨3, by decide, by decide +kernel⟩
  obtain ⟨lead, -, -, -, found, missing⟩ := lookback_exact text boundary
  have one : index.windowOctet 6 1 = 4 := by decide +kernel
  have two : index.windowOctet 6 2 = 2 := by decide +kernel
  have last : index.lastOctet? 6 1 "é".toList = some 4 := by decide +kernel
  have none : index.lastOctet? 6 1 "éé".toList = none := by decide +kernel
  have pair : index.lastOctet? 6 2 "éé".toList = some 2 := by decide +kernel
  have single := (found 1 "é".toList 4 (by decide)).mp last
  have nowhere := (missing 1 "éé".toList (by decide)).mp none
  have double := (found 2 "éé".toList 2 (by decide)).mp pair
  rw [one] at single nowhere
  rw [two] at double
  exact ⟨boundary, one, last, single, none, nowhere, double⟩

end LineIndex

end Citations
