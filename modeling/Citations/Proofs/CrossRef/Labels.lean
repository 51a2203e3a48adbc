import Citations.Proofs.CrossRef.Blocks
import Mathlib.Data.List.Forall2
import Mathlib.Data.List.ReduceOption

/-!
# Which label a line has

A label may stand at several places of a line: wherever the marker of a kind has an opening brace
somewhere before it, a character of a label right after it and a closing brace after that. A scan
for labels alone takes the rightmost such place of each line, and the label goes on from there as
far as it can. A scan in full mode leaves some of these labels out and changes nothing else about
them.
-/
namespace Citations

open Text

namespace Markup

variable {line text before after : Text} {kind : LabelKind} {label : Text}
  {found other : Option (LabelKind × Text)}

/-- A label of a kind may stand at a place of a line: between what is before its marker and what is
after it. -/
structure LabelPlace (line before : Text) (kind : LabelKind) (after : Text) : Prop where
  /-- The line is the two with the marker between them. -/
  written : line = before ++ (kind.marker ++ after)
  /-- An opening brace stands before the marker. -/
  opened : '\x7b' ∈ before
  /-- A character of a label stands right after it. -/
  labelled : ∃ c ∈ after.head?, isLabel c = true
  /-- A closing brace stands after that. -/
  closed : '\x7d' ∈ after.tail

/-- What a line is labelled as: the rightmost place for a label decides. -/
inductive Labels (line : Text) : Option (LabelKind × Text) → Prop where
  /-- There is no place for a label. -/
  | none (placeless : ∀ before kind after, ¬ LabelPlace line before kind after) : Labels line none
  /-- The label is all that can belong to it at the rightmost place. -/
  | last {before : Text} {kind : LabelKind} {after : Text}
      (place : LabelPlace line before kind after)
      (rightmost : ∀ otherBefore otherKind otherAfter,
        LabelPlace line otherBefore otherKind otherAfter → otherBefore.length ≤ before.length) :
      Labels line (some (kind, after.takeWhile isLabel))

/-- The number sign of a marker is followed by its tag and a colon, so that a text has one kind of
marker in front at most. -/
theorem marker_inj {otherKind : LabelKind} {more : Text}
    (same : kind.marker ++ after = otherKind.marker ++ more) : kind = otherKind ∧ after = more := by
  cases kind <;> cases otherKind <;>
    simp_all [LabelKind.marker, LabelKind.tag]

/-- A line is labelled in one way. -/
theorem Labels.unique (labels : Labels line found) (others : Labels line other) :
    found = other := by
  cases labels with
  | none placeless =>
    cases others with
    | none => rfl
    | last place => exact absurd place (placeless _ _ _)
  | @last before kind after place rightmost =>
    cases others with
    | none placeless => exact absurd place (placeless _ _ _)
    | @last otherBefore otherKind otherAfter otherPlace otherRightmost =>
      have far := rightmost _ _ _ otherPlace
      have near := otherRightmost _ _ _ place
      obtain ⟨-, rest⟩ := List.append_inj (place.written.symm.trans otherPlace.written)
        (Nat.le_antisymm near far)
      obtain ⟨rfl, rfl⟩ := marker_inj rest
      rfl

/-- A closing brace stands after the first character of a label exactly when it stands after the
whole label. -/
theorem mem_dropWhile_isLabel (labelled : ∃ c ∈ after.head?, isLabel c = true) :
    '\x7d' ∈ after.dropWhile isLabel ↔ '\x7d' ∈ after.tail := by
  obtain ⟨c, first, made⟩ := labelled
  obtain ⟨tail, rfl⟩ := List.head?_eq_some_iff.mp first
  have outside : '\x7d' ∉ tail.takeWhile isLabel := fun listed =>
    absurd (List.mem_takeWhile_imp listed) (by decide)
  rw [List.dropWhile_cons_of_pos made, List.tail_cons]
  conv_rhs => rw [← List.takeWhile_append_dropWhile (p := isLabel) (l := tail), List.mem_append]
  exact (or_iff_right outside).symm

/-- A label is read after the marker of its kind, up to its end, when a character of it and a
closing brace are there. -/
theorem labelHere?_eq_some :
    labelHere? text = some (kind, label) ↔
      ∃ after, text = kind.marker ++ after ∧ label = after.takeWhile isLabel ∧
        (∃ c ∈ after.head?, isLabel c = true) ∧ '\x7d' ∈ after.tail := by
  constructor
  · intro read
    obtain ⟨⟨read, after⟩, marked, inside⟩ := Option.bind_eq_some_iff.mp read
    obtain ⟨tagged, -, taken⟩ := List.exists_of_findSome?_eq_some marked
    obtain ⟨rest, marks, same⟩ := Option.map_eq_some_iff.mp taken
    obtain ⟨rfl, rfl⟩ := Prod.mk.inj same
    dsimp only at inside
    split at inside
    · next closes =>
      obtain ⟨rfl, rfl⟩ := Prod.mk.inj (Option.some.inj inside)
      obtain ⟨nonempty, closed⟩ := closes
      have labelled : ∃ c ∈ rest.head?, isLabel c = true := by
        cases rest with
        | nil => exact absurd rfl nonempty
        | cons c tail =>
          refine ⟨c, rfl, ?_⟩
          by_contra other
          exact nonempty (List.takeWhile_cons_of_neg other)
      exact ⟨rest, after?_eq_some_iff.mp marks, rfl, labelled,
        (mem_dropWhile_isLabel labelled).mp closed⟩
    · contradiction
  · rintro ⟨after, rfl, rfl, labelled, closed⟩
    have ended : ∀ c ∈ (after.dropWhile isLabel).head?, isLabel c = false := by
      intro c begins
      have stopped := List.head?_dropWhile_not isLabel after
      rw [begins] at stopped
      simpa using stopped
    have nonempty : after.takeWhile isLabel ≠ [] := by
      obtain ⟨c, first, made⟩ := labelled
      obtain ⟨tail, rfl⟩ := List.head?_eq_some_iff.mp first
      rw [List.takeWhile_cons_of_pos made]
      exact List.cons_ne_nil _ _
    have read := labelHere?_marked kind
      ⟨after.takeWhile isLabel, nonempty, fun _ listed => List.mem_takeWhile_imp listed⟩ ended
      ((mem_dropWhile_isLabel labelled).mpr closed)
    rwa [List.takeWhile_append_dropWhile] at read

/-- The places for a label are those where one is read after the first opening brace. -/
theorem LabelPlace.read (place : LabelPlace line before kind after) :
    kind.marker ++ after <:+ line.dropWhile (· ≠ '\x7b') ∧
      labelHere? (kind.marker ++ after) = some (kind, after.takeWhile isLabel) := by
  refine ⟨?_, labelHere?_eq_some.mpr ⟨after, rfl, rfl, place.labelled, place.closed⟩⟩
  have left : before.dropWhile (· ≠ '\x7b') ≠ [] := fun dropped =>
    absurd (List.dropWhile_eq_nil_iff.mp dropped _ place.opened) (by simp)
  rw [place.written, List.dropWhile_append, if_neg (by rwa [List.isEmpty_iff])]
  exact List.suffix_append ..

/-- The label of a line is the one at the rightmost place for a label. -/
theorem labels_label? (line : Text) : Labels line (label? line) := by
  cases found : label? line with
  | none =>
    refine .none fun before kind after place => ?_
    obtain ⟨suffix, read⟩ := place.read
    rw [label?, lastLabel?_eq] at found
    have unread : labelHere? (kind.marker ++ after) = none := unread_of_lastRead? found suffix
    simp [unread] at read
  | some found' =>
    obtain ⟨kind, label⟩ := found'
    rw [label?, lastLabel?_eq] at found
    obtain ⟨front, c, rest, split, here, last⟩ := exists_of_lastRead?_eq_some found
    obtain ⟨after, begins, rfl, labelled, closed⟩ := labelHere?_eq_some.mp here
    -- What is left of the line begins with a brace, and a marker does not, so the brace is before.
    have opened : '\x7b' ∈ front := by
      have brace : ∀ d ∈ (line.dropWhile (· ≠ '\x7b')).head?, d = '\x7b' := by
        intro d begins
        have stopped := List.head?_dropWhile_not (· ≠ '\x7b') line
        rw [begins] at stopped
        simpa using stopped
      cases front with
      | nil =>
        obtain rfl : c = '\x7b' := brace c (by rw [split]; rfl)
        exact absurd (List.cons.inj begins).1 (by decide)
      | cons d front =>
        obtain rfl : d = '\x7b' := brace d (by rw [split]; rfl)
        exact List.mem_cons_self
    have place : LabelPlace line (line.takeWhile (· ≠ '\x7b') ++ front) kind after := by
      refine ⟨?_, List.mem_append_right _ opened, labelled, closed⟩
      rw [List.append_assoc, ← begins, ← split, List.takeWhile_append_dropWhile]
    refine .last place fun otherBefore otherKind otherAfter otherPlace => ?_
    by_contra later
    obtain ⟨suffix, read⟩ := otherPlace.read
    have shorter : (otherKind.marker ++ otherAfter).length < (c :: rest).length := by
      have whole := congrArg List.length place.written
      have otherWhole := congrArg List.length otherPlace.written
      rw [← begins, List.length_append] at whole
      rw [List.length_append] at otherWhole
      omega
    have inside : otherKind.marker ++ otherAfter <:+ rest := by
      rw [split] at suffix
      have short : otherKind.marker ++ otherAfter <:+ c :: rest :=
        List.suffix_of_suffix_length_le suffix (List.suffix_append ..) (Nat.le_of_lt shorter)
      rcases List.suffix_cons_iff.mp short with whole | inside
      · exact absurd (congrArg List.length whole) (Nat.ne_of_lt shorter)
      · exact inside
    have unread : labelHere? (otherKind.marker ++ otherAfter) = none :=
      unread_of_lastRead? last inside
    simp [unread] at read

end Markup

/-- What an element is called: its kind and its label. -/
def CrossRef.name (element : CrossRef) : LabelKind × Text := (element.kind, element.label)

namespace Scanner

/-- A scan for labels alone labels line by line, and a scan in full mode reports some of these
labels, in the same order. -/
theorem name_scan_full_sublist (scanner : Scanner) (text : Text) (document? : Option Path) :
    ((scanner.scan text document? .full).map CrossRef.name).Sublist
      ((scanner.scan text document? .minimal).map CrossRef.name) := by
  change (((sites (.ofText text)).filterMap (scanner.confirm? (.ofText text) document?)).map
    CrossRef.name).Sublist (((sites (.ofText text)).map (element · [] [])).map CrossRef.name)
  induction sites (.ofText text) with
  | nil => exact List.Sublist.refl []
  | cons site rest ih =>
    cases confirmed : scanner.confirm? (.ofText text) document? site with
    | none =>
      rw [List.filterMap_cons_none confirmed]
      exact ih.cons _
    | some element =>
      obtain ⟨detail, documentation, rfl, -⟩ := exists_of_confirm? confirmed
      rw [List.filterMap_cons_some confirmed]
      exact ih.cons_cons _

/-- A scan for labels alone takes from each line, in the order of the lines, the label at the
rightmost place for one, and nothing from a line without such a place. A scan in full mode reports
some of these labels in the same order, if it has a report: it invents none, and none gets another
kind or label, is repeated or moved. -/
theorem scan_labels (scanner : Scanner) (text : Text) (document? : Option Path) :
    (∃ labels : List (Option (LabelKind × Text)),
      List.Forall₂ Markup.Labels (text.rows.map trimBreak) labels ∧
      scanner.scan text document? .minimal =
        labels.reduceOption.map fun (kind, label) => ⟨kind, label, [], []⟩) ∧
    ((scanner.scan text document? .full).map CrossRef.name).Sublist
      ((scanner.scan text document? .minimal).map CrossRef.name) ∧
    scanner.scan? text document? .minimal = some (scanner.scan text document? .minimal) ∧
    ∀ report ∈ scanner.scan? text document? .full,
      report = scanner.scan text document? .full := by
  refine ⟨⟨text.rows.map rowLabel?, ?_, ?_⟩, name_scan_full_sublist scanner text document?,
    scan?_minimal scanner text document?, fun _ => eq_scan_of_mem⟩
  · rw [List.forall₂_map_left_iff, List.forall₂_map_right_iff, List.forall₂_same]
    exact fun row _ => Markup.labels_label? (trimBreak row)
  · rw [scan_minimal_eq, List.reduceOption, List.filterMap_map]
    rfl

end Scanner

end Citations
