import Citations.Bibliography.Source
import Mathlib.Data.List.Forall2

/-!
# What the entries of a source have in common

Every entry that a source gives names that source and keeps allowed fields only, in both
formats. The way in which the path of the source is written has no other effect: the same
source read under two written forms of its path gives the same entries, entry by entry.
-/
namespace Citations

namespace Entry

/-- Two entries that differ at most in how their source is written. -/
def Same (left right : Entry) : Prop :=
  left.key = right.key ∧ Path.Same left.source right.source ∧
    left.position = right.position ∧ left.fields = right.fields

/-- Every entry is the same as itself. -/
theorem Same.refl (entry : Entry) : Same entry entry := ⟨rfl, Path.Same.refl _, rfl, rfl⟩

/-- Sameness of entries is symmetric. -/
theorem Same.symm {left right : Entry} (same : Same left right) : Same right left :=
  ⟨same.1.symm, same.2.1.symm, same.2.2.1.symm, same.2.2.2.symm⟩

/-- Sameness of entries is transitive. -/
theorem Same.trans {left middle right : Entry} (first : Same left middle)
    (second : Same middle right) : Same left right :=
  ⟨first.1.trans second.1, first.2.1.trans second.2.1, first.2.2.1.trans second.2.2.1,
    first.2.2.2.trans second.2.2.2⟩

/-- Every list of entries is the same as itself, entry by entry. -/
theorem forall₂_same_refl (entries : List Entry) : List.Forall₂ Same entries entries :=
  List.forall₂_same.mpr fun entry _ => Same.refl entry

/-- Sameness of entries, entry by entry, is symmetric. -/
theorem forall₂_same_symm {left right : List Entry} (same : List.Forall₂ Same left right) :
    List.Forall₂ Same right left :=
  same.flip.imp fun _ _ => Same.symm

/-- Sameness of entries, entry by entry, is transitive. -/
theorem forall₂_same_trans {left middle right : List Entry}
    (first : List.Forall₂ Same left middle) (second : List.Forall₂ Same middle right) :
    List.Forall₂ Same left right := by
  induction first generalizing right with
  | nil => exact second
  | cons same _ ih =>
    cases second with
    | cons next later => exact List.Forall₂.cons (same.trans next) (ih later)

/-- An entry that names its source and keeps allowed fields only. -/
def BelongsTo (source : Path) (allowed : List Text) (entry : Entry) : Prop :=
  Path.Same entry.source source ∧ ∀ field ∈ entry.fields, field.1 ∈ allowed

end Entry

/-- The fields that an allow-list asks for are those with a name of the list and the value that is
there under it. -/
theorem mem_selectFields_iff {allowed : List Text} {value? : Text → Option Text} {field : Field} :
    field ∈ selectFields allowed value? ↔ field.1 ∈ allowed ∧ value? field.1 = some field.2 := by
  rw [selectFields, List.mem_filterMap]
  constructor
  · rintro ⟨name, listed, chosen⟩
    obtain ⟨value, found, rfl⟩ := Option.map_eq_some_iff.mp chosen
    exact ⟨List.mem_eraseDups.mp listed, found⟩
  · rintro ⟨listed, found⟩
    exact ⟨field.1, List.mem_eraseDups.mpr listed, by rw [found, Option.map_some]⟩

/-- The format of a source does not depend on how its path is written. -/
theorem SourceFormat.ofPath?_congr {left right : Path} (same : Path.Same left right) :
    ofPath? left = ofPath? right := by
  have components : left.components = right.components := congrArg Parts.components same
  simp only [ofPath?, Path.extension?, Path.fileName?, components]

namespace Source

variable {source left right : Path} {text : Text} {allowed : List Text} {entries : List Entry}

/-- The entry of a record names its source and keeps allowed fields only. -/
theorem entryOfRecord?_belongs {index : LineIndex} {record : Record.Located} {entry : Entry}
    (made : entryOfRecord? source index allowed record = some entry) :
    entry.BelongsTo source allowed := by
  unfold entryOfRecord? at made
  split at made
  · contradiction
  · obtain rfl := Option.some.inj made
    exact ⟨Path.Same.refl source, fun _ chosen => (mem_selectFields_iff.mp chosen).1⟩

/-- The entry of an element of an array names its source and keeps allowed fields only. -/
theorem entryOfElement?_belongs {element : Json} {entry : Entry}
    (made : JsonList.entry? source allowed element = some entry) :
    entry.BelongsTo source allowed := by
  unfold JsonList.entry? at made
  split at made
  · split at made
    · obtain rfl := Option.some.inj made
      exact ⟨Path.Same.refl source, fun _ chosen => (mem_selectFields_iff.mp chosen).1⟩
    · contradiction
  · contradiction

/-- Every entry of a source names it and keeps allowed fields only. -/
theorem parse_belongs (parsed : parse source text allowed = .ok entries) :
    ∀ entry ∈ entries, entry.BelongsTo source allowed := by
  intro entry member
  unfold parse at parsed
  split at parsed
  · unfold parseRecords at parsed
    dsimp only at parsed
    split at parsed
    · contradiction
    · obtain rfl := Except.ok.inj parsed
      obtain ⟨record, _, made⟩ := List.mem_filterMap.mp member
      exact entryOfRecord?_belongs made
  · unfold parseList at parsed
    split at parsed
    · contradiction
    · obtain rfl := Except.ok.inj parsed
      obtain ⟨element, _, made⟩ := List.mem_filterMap.mp member
      exact entryOfElement?_belongs made
    · contradiction
  · contradiction

/-- A reworded error is the rewording of some error. -/
theorem exists_of_mapError {ε δ α : Type} {outcome : Except ε α} {reword : ε → δ} {error : δ}
    (failed : outcome.mapError reword = .error error) : ∃ fault, reword fault = error := by
  cases outcome with
  | error fault => exact ⟨fault, Except.error.inj failed⟩
  | ok value => cases failed

/-- The error that a source makes names it. -/
theorem parse_error_path {error : SourceError} (failed : parse source text allowed = .error error) :
    error.path = source := by
  unfold parse at failed
  split at failed
  · obtain ⟨fault, rfl⟩ := exists_of_mapError failed
    rfl
  · obtain ⟨fault, rfl⟩ := exists_of_mapError failed
    rfl
  · obtain rfl := Except.error.inj failed
    rfl

/-- Two ways of making entries that agree up to the written form of their source give the same
entries, entry by entry. -/
theorem forall₂_filterMap {α : Type} {first second : α → Option Entry}
    (agree : ∀ x, Option.Rel Entry.Same (first x) (second x)) (items : List α) :
    List.Forall₂ Entry.Same (items.filterMap first) (items.filterMap second) := by
  induction items with
  | nil => exact List.Forall₂.nil
  | cons x rest ih =>
    have here := agree x
    rw [List.filterMap_cons, List.filterMap_cons]
    revert here
    cases first x <;> cases second x <;> intro here
    · exact ih
    · cases here
    · cases here
    · cases here with
      | some same => exact List.Forall₂.cons same ih

/-- A source read under two written forms of its path gives the same entries. -/
theorem parse_congr (same : Path.Same left right) (parsed : parse left text allowed = .ok entries) :
    ∃ others, parse right text allowed = .ok others ∧ List.Forall₂ Entry.Same entries others := by
  unfold parse at parsed ⊢
  rw [← SourceFormat.ofPath?_congr same]
  split at parsed
  · unfold parseRecords at parsed ⊢
    dsimp only at parsed ⊢
    split at parsed
    · contradiction
    · obtain rfl := Except.ok.inj parsed
      refine ⟨_, rfl, forall₂_filterMap ?_ _⟩
      intro record
      unfold entryOfRecord?
      split
      · exact Option.Rel.none
      · exact Option.Rel.some ⟨rfl, same, rfl, rfl⟩
  · unfold parseList at parsed ⊢
    split at parsed
    · contradiction
    · obtain rfl := Except.ok.inj parsed
      refine ⟨_, rfl, forall₂_filterMap ?_ _⟩
      intro element
      unfold JsonList.entry?
      split
      · split
        · exact Option.Rel.some ⟨rfl, same, rfl, rfl⟩
        · exact Option.Rel.none
      · exact Option.Rel.none
    · contradiction
  · contradiction

end Source

end Citations
