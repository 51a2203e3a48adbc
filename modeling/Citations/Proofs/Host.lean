import Citations.Host

/-!
# Paths up to sameness, and files in memory

The sets of paths that discovery and tracking keep are lists in which membership ignores how a
path is written. Each operation on such a list is described by what it does to membership, so
later proofs never look at the list itself; `Path.Distinct` is the invariant that every source
is listed once. The same is done for the files of a host in memory and what they hold.
-/
namespace Citations

namespace Path

variable {path other : Path} {paths : List Path}

/-- Written forms of one path are the same as the same paths. -/
theorem decide_same_congr (same : Same path other) (known : Path) :
    decide (Same known path) = decide (Same known other) :=
  decide_eq_decide.mpr ⟨fun equal => equal.trans same, fun equal => equal.trans same.symm⟩

/-- Membership asks for some written form of the path. -/
theorem isIn_iff : path.isIn paths = true ↔ ∃ other ∈ paths, Same other path := by
  simp [isIn]

/-- A list holds its first path and what the rest holds. -/
theorem isIn_cons {first : Path} :
    path.isIn (first :: paths) = true ↔ Same first path ∨ path.isIn paths = true := by
  simp [isIn]

/-- A list put together from two holds what either holds. -/
theorem isIn_append {more : List Path} :
    path.isIn (paths ++ more) = true ↔ path.isIn paths = true ∨ path.isIn more = true := by
  rw [isIn, List.any_append, Bool.or_eq_true]
  rfl

/-- Membership does not depend on how the path is written. -/
theorem isIn_congr (same : Same path other) (paths : List Path) :
    path.isIn paths = other.isIn paths := by
  apply Bool.eq_iff_iff.mpr
  rw [isIn_iff, isIn_iff]
  constructor
  · rintro ⟨known, listed, equal⟩
    exact ⟨known, listed, equal.trans same⟩
  · rintro ⟨known, listed, equal⟩
    exact ⟨known, listed, equal.trans same.symm⟩

/-- A listed path is a member. -/
theorem isIn_of_mem (listed : path ∈ paths) : path.isIn paths = true :=
  isIn_iff.mpr ⟨path, listed, Same.refl path⟩

/-- What is no member is the same path as no member. -/
theorem not_same_of_isIn (member : other.isIn paths = true) (outside : path.isIn paths = false) :
    ¬ Same path other := by
  intro same
  rw [isIn_congr same, member] at outside
  contradiction

/-- A list with a path inserted holds that path and what it held. -/
theorem isIn_insertInto :
    other.isIn (path.insertInto paths) = true ↔ other.isIn paths = true ∨ Same path other := by
  unfold insertInto
  split
  · rename_i listed
    constructor
    · exact Or.inl
    · rintro (member | same)
      · exact member
      · rwa [← isIn_congr same]
  · simp [isIn, List.any_append]

/-- A list with a path removed holds what it held besides that path. -/
theorem isIn_removeFrom :
    other.isIn (path.removeFrom paths) = true ↔ other.isIn paths = true ∧ ¬ Same path other := by
  rw [isIn_iff, isIn_iff]
  simp only [removeFrom, List.mem_filter, Bool.not_eq_true', decide_eq_false_iff_not]
  constructor
  · rintro ⟨known, ⟨listed, apart⟩, equal⟩
    exact ⟨⟨known, listed, equal⟩, fun same => apart (equal.trans same.symm)⟩
  · rintro ⟨⟨known, listed, equal⟩, apart⟩
    exact ⟨known, ⟨listed, fun same => apart (same.symm.trans equal)⟩, equal⟩

/-- What is neither one path nor in a list is not in the list with that path in front. -/
theorem not_isIn_cons {first : Path} :
    (!path.isIn (first :: paths)) = (!decide (Same path first) && !path.isIn paths) := by
  have swapped : decide (Same first path) = decide (Same path first) :=
    decide_eq_decide.mpr ⟨Same.symm, Same.symm⟩
  rw [isIn, List.any_cons, ← isIn, Bool.not_or, swapped]

/-- Removing a path leaves the others in their order. -/
theorem removeFrom_eq_filter (path : Path) (paths : List Path) :
    path.removeFrom paths = paths.filter fun other => !other.isIn [path] := by
  refine List.filter_congr fun other _ => ?_
  rw [not_isIn_cons, isIn, List.any_nil, Bool.not_false, Bool.and_true]

/-- Removing a path that is not listed changes nothing. -/
theorem removeFrom_of_not_isIn (unlisted : path.isIn paths = false) :
    path.removeFrom paths = paths := by
  refine List.filter_eq_self.mpr fun other member => ?_
  have apart : ¬ Same path other := not_same_of_isIn (isIn_of_mem member) unlisted
  simpa using fun same : Same other path => apart same.symm

/-- Without anything to leave out, all paths are left. -/
theorem filter_not_isIn_nil (paths : List Path) :
    (paths.filter fun path => !path.isIn []) = paths :=
  List.filter_eq_self.mpr fun _ _ => rfl

/-- No path is listed twice, in whatever written forms. -/
def Distinct (paths : List Path) : Prop := paths.Pairwise fun left right => ¬ Same left right

/-- Inserting a path keeps a list without repetitions. -/
theorem Distinct.insertInto (distinct : Distinct paths) (path : Path) :
    Distinct (path.insertInto paths) := by
  unfold Path.insertInto
  split
  · exact distinct
  · rename_i unlisted
    refine List.pairwise_append.mpr ⟨distinct, List.pairwise_singleton _ _, ?_⟩
    intro known listed added isAdded same
    rw [List.mem_singleton.mp isAdded] at same
    exact unlisted (isIn_iff.mpr ⟨known, listed, same⟩)

/-- Removing a path keeps a list without repetitions. -/
theorem Distinct.removeFrom (distinct : Distinct paths) (path : Path) :
    Distinct (path.removeFrom paths) :=
  List.Pairwise.filter _ distinct

/-- Of paths that are all different, removing one removes it once and leaves the others. -/
theorem Distinct.countP_removeFrom (distinct : Distinct paths) (listed : path.isIn paths = true)
    {test : Path → Bool}
    (respects : ∀ left right : Path, Same left right → test left = test right) :
    (path.removeFrom paths).countP test + (if test path then 1 else 0) = paths.countP test := by
  induction paths with
  | nil => simp [isIn] at listed
  | cons first rest ih =>
    obtain ⟨apart, later⟩ := List.pairwise_cons.mp distinct
    by_cases here : Same first path
    · have elsewhere : path.isIn rest = false := by
        rw [← Bool.not_eq_true, isIn_iff]
        rintro ⟨other, member, same⟩
        exact apart other member (here.trans same.symm)
      have removed : path.removeFrom (first :: rest) = rest := by
        rw [Path.removeFrom, List.filter_cons_of_neg (by simp [here])]
        exact removeFrom_of_not_isIn elsewhere
      rw [removed, List.countP_cons, respects first path here]
    · have kept : path.removeFrom (first :: rest) = first :: path.removeFrom rest :=
        List.filter_cons_of_pos (by simp [here])
      have behind := ih later ((isIn_cons.mp listed).resolve_left here)
      rw [kept, List.countP_cons, List.countP_cons, ← behind]
      omega

/-- Choosing paths by a test that ignores how they are written chooses members. -/
theorem isIn_filter {test : Path → Bool}
    (respects : ∀ left right : Path, Same left right → test left = test right) :
    path.isIn (paths.filter test) = true ↔ path.isIn paths = true ∧ test path = true := by
  rw [isIn_iff, isIn_iff]
  constructor
  · rintro ⟨known, chosen, same⟩
    obtain ⟨listed, passes⟩ := List.mem_filter.mp chosen
    exact ⟨⟨known, listed, same⟩, by rwa [← respects known path same]⟩
  · rintro ⟨⟨known, listed, same⟩, passes⟩
    exact ⟨known, List.mem_filter.mpr ⟨listed, by rwa [respects known path same]⟩, same⟩

/-- Collecting the first occurrences keeps membership. -/
theorem isIn_distinct : path.isIn (distinct paths) = true ↔ path.isIn paths = true := by
  have collected : ∀ known : List Path,
      path.isIn (paths.foldl (fun known path => path.insertInto known) known) = true ↔
        path.isIn known = true ∨ path.isIn paths = true := by
    induction paths with
    | nil => simp [isIn]
    | cons first rest ih =>
      intro known
      rw [List.foldl_cons, ih, isIn_insertInto, or_assoc, isIn_cons]
  rw [distinct, collected]
  simp [isIn]

end Path

namespace Memory

variable {α : Type} {path other : Path}

/-- What a path is given does not depend on how it is written. -/
theorem lookup?_congr (same : Path.Same path other) (pairs : List (Path × α)) :
    lookup? pairs path = lookup? pairs other := by
  simp only [lookup?, Path.decide_same_congr same]

/-- A path whose pairs were left out is given nothing. -/
theorem lookup?_without_same (same : Path.Same path other) (pairs : List (Path × α)) :
    lookup? (without pairs path) other = none := by
  simp only [lookup?, without, Option.map_eq_none_iff, List.find?_eq_none, List.mem_filter,
    Bool.not_eq_true', decide_eq_false_iff_not, decide_eq_true_eq, and_imp]
  intro pair _ apart equal
  exact apart (equal.trans same.symm)

/-- Leaving out the pairs of a path changes nothing for other paths. -/
theorem lookup?_without_apart (apart : ¬ Path.Same path other) (pairs : List (Path × α)) :
    lookup? (without pairs path) other = lookup? pairs other := by
  unfold lookup? without
  rw [List.find?_filter]
  congr 2
  funext pair
  by_cases equal : Path.Same pair.1 other
  · have kept : ¬ Path.Same pair.1 path := fun same => apart (same.symm.trans equal)
    simp [equal, kept]
  · simp [equal]

/-- A written file holds its text. -/
theorem lookup?_write_same (memory : Memory) (text : Text) (same : Path.Same path other) :
    lookup? (memory.write path text).files other = some text := by
  simp [write, lookup?, same]

/-- Writing a file changes nothing for other files. -/
theorem lookup?_write_apart (memory : Memory) (text : Text) (apart : ¬ Path.Same path other) :
    lookup? (memory.write path text).files other = lookup? memory.files other := by
  rw [← lookup?_without_apart apart memory.files]
  simp [write, lookup?, apart]

end Memory

end Citations
