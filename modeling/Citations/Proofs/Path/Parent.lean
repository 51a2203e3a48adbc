import Citations.Path.Basic
import Citations.Proofs.Text.Pieces
import Mathlib.Data.List.DropRight
import Mathlib.Data.Option.Basic

/-!
# The parent of a path, by components

A path is put together from segments and compared by components. Written from segments without
slashes it has just these segments (`Text.splitAt_join`), so its components can be read off them
(`Path.parts_ofSegments`). The parent of a path has all of its components but the last one, and
two written forms of one path have the same parent.
-/
namespace Citations

namespace Path

variable {path other parent : Path} {segments : List Text}

/-! ## Components from segments -/

/-- The component that a leading `.` stands for, which counts in a relative path only. -/
def leading (absolute : Bool) (segments : List Text) : List Component :=
  if !absolute && segments.head? = some ['.'] then [.current] else []

/-- A path begins with a `.` that counts, or all of its segments are inner ones. -/
theorem lead_cases (path : Path) :
    path.lead = [] ∧ leading path.isAbsolute path.segments = [] ∧ path.inner = path.segments ∨
      path.isAbsolute = false ∧ path.lead = [['.']] ∧ path.segments = ['.'] :: path.inner := by
  by_cases dotted : (!path.isAbsolute && path.segments.head? = some ['.']) = true
  · refine Or.inr ?_
    have leads : path.lead = [['.']] := if_pos dotted
    simp only [Bool.and_eq_true, Bool.not_eq_true', decide_eq_true_eq] at dotted
    obtain ⟨relative, first⟩ := dotted
    refine ⟨relative, leads, ?_⟩
    obtain ⟨rest, shape⟩ := List.head?_eq_some_iff.mp first
    rw [inner, leads, shape]
    rfl
  · refine Or.inl ?_
    have none : path.lead = [] := if_neg dotted
    exact ⟨none, if_neg dotted, by rw [inner, none]; rfl⟩

/-- The components of a path are those of its segments after a leading `.`. -/
theorem components_eq (path : Path) :
    path.components =
      leading path.isAbsolute path.segments ++ path.segments.filterMap Component.ofSegment? := by
  rw [components]
  rcases path.lead_cases with ⟨none, plain, inside⟩ | ⟨relative, leads, shape⟩
  · rw [none, plain, inside]
    rfl
  · simp [leads, shape, relative, leading, Component.ofSegment?]

/-- A path that is written from segments starts at the root when it is meant to. -/
theorem isAbsolute_ofSegments (absolute : Bool) (clean : ∀ segment ∈ segments, '/' ∉ segment)
    (anchored : absolute = true ∨ segments.head? ≠ some []) :
    (ofSegments absolute segments).isAbsolute = absolute := by
  cases absolute with
  | true => rfl
  | false =>
    cases segments with
    | nil => rfl
    | cons first rest =>
      cases first with
      | nil => simp at anchored
      | cons c more =>
        have apart : c ≠ '/' := by
          rintro rfl
          exact clean _ List.mem_cons_self List.mem_cons_self
        cases rest <;> simp [isAbsolute, ofSegments, Text.join, apart]

/-- A path that is written from segments without slashes has these segments. -/
theorem segments_ofSegments (absolute : Bool) (nonempty : segments ≠ [])
    (clean : ∀ segment ∈ segments, '/' ∉ segment)
    (anchored : absolute = true ∨ segments.head? ≠ some []) :
    (ofSegments absolute segments).segments = segments := by
  rw [Path.segments, isAbsolute_ofSegments absolute clean anchored]
  cases absolute <;> exact Text.splitAt_join nonempty clean

/-- A path has the components of the segments that it is written from. -/
theorem parts_ofSegments (absolute : Bool) (clean : ∀ segment ∈ segments, '/' ∉ segment)
    (anchored : absolute = true ∨ segments.head? ≠ some []) :
    (ofSegments absolute segments).parts =
      ⟨absolute, leading absolute segments ++ segments.filterMap Component.ofSegment?⟩ := by
  rw [parts, components_eq, isAbsolute_ofSegments absolute clean anchored]
  by_cases nonempty : segments = []
  · subst nonempty
    cases absolute <;> rfl
  · rw [segments_ofSegments absolute nonempty clean anchored]

/-- A relative path that is not empty begins with a segment that is not. -/
theorem segments_of_relative (relative : path.isAbsolute = false) (written : path.text ≠ []) :
    ∃ c more others, path.segments = (c :: more) :: others := by
  obtain ⟨text⟩ := path
  cases text with
  | nil => contradiction
  | cons c rest =>
    have apart : c ≠ '/' := by simpa [isAbsolute] using relative
    rw [Path.segments, relative]
    cases found : Text.pieces (fun x => decide (x = '/')) rest with
    | nil => exact absurd found (Text.pieces_ne_nil _ _)
    | cons first others =>
      exact ⟨c, first, others, by simp [Text.splitAt, Text.pieces, apart, found, Text.consHead]⟩

/-- Only the empty text writes a relative path without components. -/
theorem text_eq_nil_iff : path.text = [] ↔ path.parts = ⟨false, []⟩ := by
  constructor
  · intro empty
    obtain ⟨text⟩ := path
    subst empty
    rfl
  · intro bare
    by_contra written
    obtain ⟨relative, empty⟩ := Parts.mk.inj bare
    obtain ⟨c, more, others, shape⟩ := segments_of_relative relative written
    rw [components_eq, relative, shape, List.append_eq_nil_iff, List.filterMap_eq_nil_iff] at empty
    have idle := empty.2 _ List.mem_cons_self
    have dotted : c :: more = ['.'] := by
      unfold Component.ofSegment? at idle
      split at idle
      · simp_all
      · split at idle <;> contradiction
    simp [leading, dotted] at empty

/-! ## The parent -/

/-- The segments up to the last one with a component are a beginning that lacks idle segments
only. -/
theorem dropIdle_eq (segments : List Text) :
    dropIdle segments =
      segments.rdropWhile fun segment => (Component.ofSegment? segment).isNone :=
  rfl

/-- Dropping idle segments at the end drops no component. -/
theorem filterMap_dropIdle (segments : List Text) :
    (dropIdle segments).filterMap Component.ofSegment? =
      segments.filterMap Component.ofSegment? := by
  induction segments using List.reverseRecOn with
  | nil => rfl
  | append_singleton before last ih =>
    rw [dropIdle_eq, List.rdropWhile_concat]
    split
    · rename_i idle
      rw [← dropIdle_eq, ih, List.filterMap_append]
      simp [Option.isNone_iff_eq_none.mp idle]
    · rfl

/-- No segment of a path has a slash. -/
theorem not_mem_of_mem_inner {segment : Text} (listed : segment ∈ path.inner) :
    '/' ∉ segment :=
  Text.not_mem_of_mem_splitAt (List.mem_of_mem_drop listed)

/-- The last segment that is not idle stands for a component. -/
theorem ofSegment?_last {before : List Text} {last : Text}
    (ended : dropIdle segments = before ++ [last]) :
    ∃ component, Component.ofSegment? last = some component := by
  have nonempty : dropIdle segments ≠ [] := by simp [ended]
  have kept : ¬ (Component.ofSegment? ((dropIdle segments).getLast nonempty)).isNone = true :=
    List.rdropWhile_last_not (fun segment => (Component.ofSegment? segment).isNone) segments
      nonempty
  have final : (dropIdle segments).getLast nonempty = last := by simp [ended]
  rw [final] at kept
  exact Option.ne_none_iff_exists'.mp (by simpa using kept)

/-- A part of the segments after the leading `.` is written with it as it stands. -/
theorem leading_of_prefix {kept : List Text} (shown : path.inner ≠ [[]])
    (start : kept <+: path.inner) :
    (path.isAbsolute = true ∨ (path.lead ++ kept).head? ≠ some []) ∧
      leading path.isAbsolute (path.lead ++ kept) = path.lead.map fun _ => .current := by
  rcases path.lead_cases with ⟨none, plain, inside⟩ | ⟨relative, leads, _⟩
  · rw [none, List.nil_append, List.map_nil]
    rw [inside] at start shown
    cases kept with
    | nil => simp [leading]
    | cons first rest =>
      obtain ⟨others, shape⟩ : ∃ others, path.segments = first :: others := by
        obtain ⟨more, split⟩ := start
        exact ⟨rest ++ more, split.symm⟩
      rw [shape] at plain
      refine ⟨?_, plain⟩
      cases relative : path.isAbsolute with
      | true => exact Or.inl rfl
      | false =>
        right
        have written : path.text ≠ [] := by
          intro empty
          apply shown
          rw [Path.segments, relative, empty]
          rfl
        obtain ⟨c, more, _, named⟩ := segments_of_relative relative written
        rw [shape] at named
        simp [(List.cons.inj named).1]
  · rw [leads, relative]
    simp [leading]

/-- The parent of a path has its components but the last one. -/
theorem parts_parent (found : path.parent? = some parent) :
    parent.parts = ⟨path.isAbsolute, path.components.dropLast⟩ := by
  unfold parent? at found
  split at found
  · -- A leading `.` is the only component; what is left is the empty path.
    rename_i idle
    have bare : path.inner.filterMap Component.ofSegment? = [] := by
      rw [← filterMap_dropIdle, List.reverse_eq_nil_iff.mp idle]
      rfl
    rcases path.lead_cases with ⟨none, _, _⟩ | ⟨relative, leads, _⟩
    · simp [none] at found
    · obtain rfl : (⟨[]⟩ : Path) = parent := by simpa [leads] using found
      rw [components, leads, bare, relative]
      rfl
  · rename_i last before shape
    obtain rfl := Option.some.inj found
    have ended : dropIdle path.inner = before.reverse ++ [last] := by
      simpa using congrArg List.reverse shape
    obtain ⟨component, stands⟩ := ofSegment?_last ended
    have start : dropIdle before.reverse <+: path.inner := by
      have within := List.rdropWhile_prefix
        (fun segment => (Component.ofSegment? segment).isNone) path.inner
      rw [← dropIdle_eq, ended] at within
      exact ((List.rdropWhile_prefix _ before.reverse).trans (List.prefix_append _ _)).trans within
    have shown : path.inner ≠ [[]] := by
      intro blank
      rw [blank] at ended
      have empty : dropIdle [[]] = [] := rfl
      simp [empty] at ended
    have inside : path.inner.filterMap Component.ofSegment? =
        (dropIdle before.reverse).filterMap Component.ofSegment? ++ [component] := by
      rw [← filterMap_dropIdle path.inner, ended, List.filterMap_append, filterMap_dropIdle]
      simp [stands]
    obtain ⟨anchored, leads⟩ := leading_of_prefix shown start
    rw [parts_ofSegments path.isAbsolute ?_ anchored, leads, components, inside,
      ← List.append_assoc, List.dropLast_concat, List.filterMap_append]
    · have dots : path.lead.filterMap Component.ofSegment? = [] := by
        rcases path.lead_cases with ⟨none, _, _⟩ | ⟨_, leads, _⟩
        · rw [none]
          rfl
        · rw [leads]
          rfl
      rw [dots, List.nil_append]
    · intro segment listed
      rcases List.mem_append.mp listed with dot | kept
      · rcases path.lead_cases with ⟨none, _, _⟩ | ⟨_, leads, _⟩
        · rw [none] at dot
          contradiction
        · rw [leads, List.mem_singleton] at dot
          simp [dot]
      · exact not_mem_of_mem_inner (start.subset kept)

/-- A path without components has no parent, and any other has one. -/
theorem parent?_eq_none_iff : path.parent? = none ↔ path.components = [] := by
  unfold parent?
  rw [components, List.append_eq_nil_iff, List.map_eq_nil_iff, ← filterMap_dropIdle]
  split
  · rename_i idle
    rw [List.reverse_eq_nil_iff.mp idle]
    by_cases none : path.lead = [] <;> simp [none]
  · rename_i last before shape
    have ended : dropIdle path.inner = before.reverse ++ [last] := by
      simpa using congrArg List.reverse shape
    obtain ⟨component, stands⟩ := ofSegment?_last ended
    simp [ended, stands]

/-- Two written forms of one path have the same parent, or neither has one. -/
theorem parent?_congr (same : Same path other) :
    Option.Rel Same path.parent? other.parent? := by
  have components : path.components = other.components := congrArg Parts.components same
  have absolute : path.isAbsolute = other.isAbsolute := congrArg Parts.absolute same
  cases found : path.parent? with
  | none =>
    rw [parent?_eq_none_iff, components, ← parent?_eq_none_iff] at found
    rw [found]
    exact Option.Rel.none
  | some parent =>
    cases also : other.parent? with
    | none =>
      rw [parent?_eq_none_iff, ← components, ← parent?_eq_none_iff, found] at also
      contradiction
    | some second =>
      refine Option.Rel.some ?_
      rw [Same, parts_parent found, parts_parent also, components, absolute]

end Path

end Citations
