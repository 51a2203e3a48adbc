import Citations.Proofs.Path.Parent

/-!
# Walking along a path

A path is followed segment by segment; what counts are the names that lead to the place reached so
far, innermost first (`Path.walk`). A slash cuts a walk in two, so a part of a path can be put in
the place of another that leads the same way from everywhere. Paths that do so as a whole, and
start alike, are interchangeable: they have the same place wherever they start from. Repeated
slashes, a `.` and a name that a `..` takes back make no difference.

A normalized path writes the names of its walk, so its components are these names, and walking
along it finds them again.
-/
namespace Citations

namespace Path

variable {tail : Path} {names : List Text} {name segment before after detour : Text}

/-! ## Ordinary names -/

/-- A name that stands for itself as a segment. -/
structure Ordinary (name : Text) : Prop where
  /-- It is not empty. -/
  written : name ≠ []
  /-- It does not stand for the place itself. -/
  apart : name ≠ ['.']
  /-- It does not stand for the place above. -/
  forward : name ≠ ['.', '.']
  /-- It is one segment. -/
  whole : '/' ∉ name

/-- An ordinary name is the component that it writes. -/
theorem Ordinary.ofSegment? (ordinary : Ordinary name) :
    Component.ofSegment? name = some (.name name) := by
  have shown : ¬ (name = [] ∨ name = ['.']) := not_or.mpr ⟨ordinary.written, ordinary.apart⟩
  rw [Component.ofSegment?, if_neg shown, if_neg ordinary.forward]

/-- A segment that stands for a name is that name, and ordinary. -/
theorem ordinary_of_ofSegment? (whole : '/' ∉ segment)
    (stands : Component.ofSegment? segment = some (.name name)) : Ordinary name := by
  unfold Component.ofSegment? at stands
  split at stands
  · contradiction
  · rename_i shown
    have parts : segment ≠ [] ∧ segment ≠ ['.'] := not_or.mp shown
    split at stands
    · cases stands
    · rename_i forward
      obtain rfl : segment = name := Component.name.inj (Option.some.inj stands)
      exact ⟨parts.1, parts.2, forward, whole⟩

/-! ## Walks -/

/-- The names that lead to where a text leads from a place, innermost first. -/
def walk (names : List Text) (text : Text) : List Text :=
  ((Text.splitAt '/' text).filterMap Component.ofSegment?).foldl step names

/-- A slash cuts a walk in two. -/
theorem walk_slash (names : List Text) (before after : Text) :
    walk names (before ++ '/' :: after) = walk (walk names before) after := by
  rw [walk, Text.splitAt_append_cons, List.filterMap_append, List.foldl_append]
  rfl

/-- A slash at the front leads nowhere. -/
theorem walk_cons_slash (names : List Text) (after : Text) :
    walk names ('/' :: after) = walk names after :=
  walk_slash names [] after

/-- A name leads one step further. -/
theorem walk_name (ordinary : Ordinary name) (names : List Text) :
    walk names name = name :: names := by
  rw [walk, Text.splitAt_of_not_mem ordinary.whole, List.filterMap_cons, ordinary.ofSegment?]
  rfl

/-- The components of a path lead where its text does. -/
theorem foldl_components (path : Path) (names : List Text) :
    path.components.foldl step names = walk names path.text := by
  have start : (leading path.isAbsolute path.segments).foldl step names = names := by
    unfold leading
    split <;> rfl
  rw [components_eq, List.foldl_append, start, segments]
  split
  · rename_i absolute
    have first : path.text.head? = some '/' := of_decide_eq_true absolute
    obtain ⟨rest, shape⟩ := List.head?_eq_some_iff.mp first
    rw [shape, walk_cons_slash]
    rfl
  · rfl

/-- A walk from ordinary names leads to ordinary names. -/
theorem walk_ordinary (ordinary : ∀ name ∈ names, Ordinary name) (text : Text) :
    ∀ name ∈ walk names text, Ordinary name := by
  refine List.foldlRecOn (motive := fun reached => ∀ name ∈ reached, Ordinary name) _ step ordinary
    fun reached kept component listed => ?_
  obtain ⟨segment, cut, stands⟩ := List.mem_filterMap.mp listed
  cases component with
  | current => exact kept
  | parent => exact fun name inside => kept name (List.mem_of_mem_tail inside)
  | name text =>
    have added : Ordinary text := ordinary_of_ofSegment? (Text.not_mem_of_mem_splitAt cut) stands
    exact List.forall_mem_cons.mpr ⟨added, kept⟩

/-! ## Climbing -/

/-- The text of some steps up. -/
def climb (steps : Nat) : Text := (List.replicate steps "../".toList).flatten

/-- Each step up takes one name back, as long as there is one. -/
theorem walk_climb (steps : Nat) (names : List Text) (rest : Text) :
    walk names (climb steps ++ rest) = walk (names.drop steps) rest := by
  induction steps generalizing names with
  | zero => rfl
  | succ steps ih =>
    have shape : climb (steps + 1) ++ rest = ['.', '.'] ++ '/' :: (climb steps ++ rest) := by
      simp [climb, List.replicate_succ]
    have taken : walk names ['.', '.'] = names.tail := rfl
    rw [shape, walk_slash, taken, ih, List.drop_tail]

/-! ## Paths that lead the same way -/

/-- Two texts start alike and lead the same way from every place. -/
structure Interchangeable (left right : Text) : Prop where
  /-- Both start at the root, or neither does. -/
  start : isAbsolute ⟨left⟩ = isAbsolute ⟨right⟩
  /-- They lead to the same place. -/
  walk : ∀ names, Path.walk names left = Path.walk names right

/-- A segment begins between two parts of a path, and it is not the root. -/
def Between (before after : Text) : Prop :=
  before = [] ∧ isAbsolute ⟨after⟩ = false ∨ ∃ outer, before = outer ++ ['/']

/-- Where a path starts is decided by what is in front, if anything is. -/
theorem isAbsolute_append (written : before ≠ []) (after : Text) :
    isAbsolute ⟨before ++ after⟩ = isAbsolute ⟨before⟩ := by
  rw [isAbsolute, isAbsolute, List.head?_append_of_ne_nil before written]

/-- A slash may be doubled. -/
theorem interchangeable_doubled (before after : Text) :
    Interchangeable (before ++ '/' :: '/' :: after) (before ++ '/' :: after) := by
  constructor
  · cases before with
    | nil => rfl
    | cons c rest => rfl
  · intro names
    rw [walk_slash, walk_slash, walk_cons_slash]

/-- A way that leads back to where it starts may be put in front of a segment. -/
theorem interchangeable_detour (begins : Between before after) (relative : detour ≠ [])
    (rootless : isAbsolute ⟨detour⟩ = false) (back : ∀ names, walk names detour = names) :
    Interchangeable (before ++ (detour ++ '/' :: after)) (before ++ after) := by
  rcases begins with ⟨rfl, inner⟩ | ⟨outer, rfl⟩
  · constructor
    · rw [List.nil_append, List.nil_append, isAbsolute_append relative, rootless, inner]
    · intro names
      rw [List.nil_append, List.nil_append, walk_slash, back]
  · have written : outer ++ ['/'] ≠ [] := List.append_ne_nil_of_right_ne_nil outer (by decide)
    constructor
    · rw [isAbsolute_append written, isAbsolute_append written]
    · intro names
      rw [List.append_assoc, List.append_assoc, List.singleton_append, List.singleton_append,
        walk_slash, walk_slash, walk_slash, back]

/-- A `.` may be put in front of a segment. -/
theorem interchangeable_dotted (begins : Between before after) :
    Interchangeable (before ++ ("./".toList ++ after)) (before ++ after) :=
  interchangeable_detour begins (by decide : ['.'] ≠ []) rfl fun _ => rfl

/-- A name and the step back from it may be put in front of a segment. -/
theorem interchangeable_returned (begins : Between before after) (ordinary : Ordinary name) :
    Interchangeable (before ++ (name ++ ("/../".toList ++ after))) (before ++ after) := by
  have shape : name ++ ("/../".toList ++ after) = (name ++ "/..".toList) ++ '/' :: after := by
    simp
  have rootless : isAbsolute ⟨name⟩ = false := by
    refine decide_eq_false fun first => ordinary.whole ?_
    exact List.mem_of_mem_head? first
  rw [shape]
  refine interchangeable_detour begins (List.append_ne_nil_of_left_ne_nil ordinary.written _) ?_ ?_
  · rw [isAbsolute_append ordinary.written, rootless]
  · intro names
    have taken : walk (name :: names) ['.', '.'] = names := rfl
    exact (walk_slash names name ['.', '.']).trans ((walk_name ordinary names).symm ▸ taken)

/-! ## Written names -/

/-- A path that is written from ordinary names starts where it is meant to and has these names as
its components. -/
theorem parts_written (ordinary : ∀ name ∈ names, Ordinary name) (absolute : Bool) :
    (ofSegments absolute names).parts = ⟨absolute, names.map .name⟩ := by
  have clean : ∀ name ∈ names, '/' ∉ name := fun name listed => (ordinary name listed).whole
  have anchored : absolute = true ∨ names.head? ≠ some [] := by
    refine Or.inr fun first => ?_
    exact (ordinary [] (List.mem_of_mem_head? first)).written rfl
  have undotted : leading absolute names = [] := by
    refine if_neg fun dotted => ?_
    have first : names.head? = some ['.'] := of_decide_eq_true (Bool.and_eq_true_iff.mp dotted).2
    exact (ordinary ['.'] (List.mem_of_mem_head? first)).apart rfl
  have named : names.filterMap Component.ofSegment? = names.map .name := by
    rw [← List.filterMap_eq_map]
    exact List.filterMap_congr fun name listed => (ordinary name listed).ofSegment?
  rw [parts_ofSegments absolute clean anchored, undotted, named, List.nil_append]

/-- Names lead one step further each. -/
theorem foldl_names (known : List Text) :
    (names.map Component.name).foldl step known = names.reverse ++ known := by
  induction names generalizing known with
  | nil => rfl
  | cons name rest ih =>
    rw [List.map_cons, List.foldl_cons, ih, List.reverse_cons, List.append_assoc]
    rfl

/-- A path that is written from ordinary names leads along them. -/
theorem walk_written (ordinary : ∀ name ∈ names, Ordinary name) (absolute : Bool) :
    walk [] (ofSegments absolute names).text = names.reverse := by
  have components : (ofSegments absolute names).components = names.map .name :=
    congrArg Parts.components (parts_written ordinary absolute)
  rw [← foldl_components, components, foldl_names, List.append_nil]

/-- A normalized path writes the names of its walk. -/
theorem normalize_eq (path : Path) :
    path.normalize = ofSegments path.isAbsolute (walk [] path.text).reverse := by
  rw [normalize, foldl_components]

/-- A relative path is walked from where the base leads, and starts where the base does. -/
theorem normalize_join (base : Path) (relative : tail.isAbsolute = false) :
    (base.join tail).normalize =
      ofSegments base.isAbsolute (walk (walk [] base.text) tail.text).reverse := by
  obtain ⟨text⟩ := base
  obtain ⟨rest⟩ := tail
  rw [normalize_eq, join, relative]
  by_cases empty : text = []
  · subst empty
    have plain : (⟨[] ++ rest⟩ : Path) = ⟨rest⟩ := rfl
    rw [if_neg Bool.false_ne_true, if_pos (Or.inl rfl), plain, relative]
    rfl
  · by_cases slashed : text.getLast? = some '/'
    · obtain ⟨outer, rfl⟩ := List.getLast?_eq_some_iff.mp slashed
      have ended : walk [] (outer ++ ['/']) = walk [] outer := walk_slash [] outer []
      rw [if_neg Bool.false_ne_true, if_pos (Or.inr slashed), isAbsolute_append empty,
        List.append_assoc, List.singleton_append, walk_slash, ended]
    · rw [if_neg Bool.false_ne_true, if_neg (not_or.mpr ⟨empty, slashed⟩),
        isAbsolute_append empty, walk_slash]

end Path

end Citations
