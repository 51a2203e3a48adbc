import Citations.Proofs.Host
import Citations.Proofs.Path.Parent
import Citations.Tracking.DirectoryWatch

/-!
# The counts of watched directories are exact

A directory is held exactly as long as tracked files lie in it, with their number as its count.
Every request keeps this, whatever the system answers, so no count is ever zero and none is
lowered below zero. The system is asked at the two edges of a count only: to report on a
directory when its count leaves zero, and to stop when it comes back to zero. When it refuses to
report, the file and the directory are taken back, and the state is the one before the request.
-/
namespace Citations

namespace DirectoryWatch

variable {state : DirectoryWatch} {path other directory : Path}
variable {system : DirectoryCall → Option Text} {outcome : Outcome}

/-! ## Files in directories -/

/-- Whether a file lies in a directory. -/
def lies (directory path : Path) : Bool :=
  (directory? path).any fun parent => decide (Path.Same parent directory)

/-- The number of tracked files that lie in a directory. -/
def files (state : DirectoryWatch) (directory : Path) : Nat :=
  state.tracked.countP (lies directory)

/-- Two written forms of one path have the same directory, or neither has one. -/
theorem directory?_congr (same : Path.Same path other) :
    Option.Rel Path.Same (directory? path) (directory? other) := by
  unfold directory?
  have parents := Path.parent?_congr same
  revert parents
  cases path.parent? <;> cases other.parent? <;> intro parents
  · exact Option.Rel.none
  · cases parents
  · cases parents
  · rename_i left right
    cases parents with
    | some alike =>
      have named : left.text = [] ↔ right.text = [] := by
        rw [Path.text_eq_nil_iff, Path.text_eq_nil_iff, show left.parts = right.parts from alike]
      by_cases bare : right.text = []
      · simp [Option.filter, named.mpr bare, bare]
      · have written : left.text ≠ [] := fun empty => bare (named.mp empty)
        simpa [Option.filter, written, bare] using Option.Rel.some alike

/-- Where a file lies does not depend on how its path is written. -/
theorem lies_congr (directory : Path) (same : Path.Same path other) :
    lies directory path = lies directory other := by
  have parents := directory?_congr same
  unfold lies
  revert parents
  cases directory? path <;> cases directory? other <;> intro parents
  · rfl
  · cases parents
  · cases parents
  · cases parents with
    | some alike =>
      exact decide_eq_decide.mpr ⟨fun within => alike.symm.trans within, fun within =>
        alike.trans within⟩

/-- A file lies in its directory and in no other. -/
theorem lies_eq (lives : directory? path = some directory) (other : Path) :
    lies other path = decide (Path.Same directory other) := by
  simp [lies, lives]

/-- The files of a directory are the same for all its written forms. -/
theorem files_congr (same : Path.Same directory other) (state : DirectoryWatch) :
    state.files directory = state.files other := by
  have alike : lies directory = lies other := by
    funext path
    unfold lies
    congr 1
    funext parent
    exact Path.decide_same_congr same parent
  rw [files, files, alike]

/-! ## Counts of directories -/

/-- A directory with a new count is found with it. -/
theorem held?_withCount_same (same : Path.Same directory other) (number : Nat)
    (directories : List (Path × Nat)) (tracked : List Path) :
    held? ⟨tracked, withCount directory number directories⟩ other = some number := by
  unfold held?
  induction directories with
  | nil => simp [withCount, same]
  | cons first rest ih =>
    by_cases here : Path.Same first.1 directory
    · simp [withCount, here, here.trans same]
    · have passed : ¬ Path.Same first.1 other := fun equal => here (equal.trans same.symm)
      simpa [withCount, here, passed] using ih

/-- A new count of one directory changes no other. -/
theorem held?_withCount_apart (apart : ¬ Path.Same directory other) (number : Nat)
    (directories : List (Path × Nat)) (tracked : List Path) :
    held? ⟨tracked, withCount directory number directories⟩ other =
      held? ⟨tracked, directories⟩ other := by
  unfold held?
  induction directories with
  | nil => simp [withCount, apart]
  | cons first rest ih =>
    by_cases here : Path.Same first.1 directory
    · have passed : ¬ Path.Same first.1 other := fun equal => apart (here.symm.trans equal)
      simp [withCount, here, passed]
    · by_cases found : Path.Same first.1 other
      · simp [withCount, here, found]
      · simpa [withCount, here, found] using ih

/-- The directories after one was given a count: it is a new last one if it was not held. -/
theorem map_withCount (directory : Path) (number : Nat) (directories : List (Path × Nat)) :
    (withCount directory number directories).map (·.1) =
      directory.insertInto (directories.map (·.1)) := by
  induction directories with
  | nil => rfl
  | cons first rest ih =>
    by_cases here : Path.Same first.1 directory
    · simp [withCount, here, Path.insertInto, Path.isIn]
    · have listed : directory.isIn (first.1 :: rest.map (·.1)) =
          directory.isIn (rest.map (·.1)) := by
        simp [Path.isIn, here]
      simp only [withCount, here, ↓reduceIte, List.map_cons, ih, Path.insertInto, listed]
      split <;> rfl

/-- The directories after one was dropped. -/
theorem map_without (directory : Path) (directories : List (Path × Nat)) :
    (without directory directories).map (·.1) = directory.removeFrom (directories.map (·.1)) := by
  simp [without, Path.removeFrom, List.filter_map, Function.comp_def]

/-- Dropping a directory that has just been added gives the directories without it. -/
theorem without_withCount (new : state.held? directory = none) (number : Nat) :
    without directory (withCount directory number state.directories) = state.directories := by
  obtain ⟨tracked, directories⟩ := state
  unfold held? at new
  induction directories with
  | nil => simp [withCount, without, Path.Same.refl]
  | cons first rest ih =>
    by_cases here : Path.Same first.1 directory
    · simp [here] at new
    · have behind := ih (by simpa [here] using new)
      unfold without at behind ⊢
      simpa [withCount, here] using behind

/-- A file that was added and is taken back together with its new directory leaves no trace. -/
theorem release_raise (untracked : path.isIn state.tracked = false)
    (new : state.held? directory = none) :
    (state.raise path directory).release path directory = state := by
  have files : path.removeFrom (state.tracked ++ [path]) = state.tracked := by
    calc path.removeFrom (state.tracked ++ [path])
        = path.removeFrom state.tracked ++ path.removeFrom [path] := List.filter_append ..
      _ = state.tracked ++ [] := by
        rw [Path.removeFrom_of_not_isIn untracked]
        simp [Path.removeFrom, Path.Same.refl]
      _ = state.tracked := List.append_nil _
  unfold release raise
  rw [files, without_withCount new]

/-! ## Exact counts -/

/-- The directories that are held, and their counts, are those of the tracked files. -/
structure Exact (state : DirectoryWatch) : Prop where
  /-- No file is tracked twice. -/
  once : Path.Distinct state.tracked
  /-- No directory is held twice. -/
  single : Path.Distinct (state.directories.map (·.1))
  /-- A tracked file has a directory. -/
  housed : ∀ path ∈ state.tracked, (directory? path).isSome = true
  /-- A directory is held exactly if a tracked file lies in it, and then with the number of the
  files that do. -/
  counted : ∀ directory : Path, state.held? directory =
    if state.files directory = 0 then none else some (state.files directory)

/-- The count of a directory is the number of its tracked files. -/
theorem Exact.count_eq (exact : Exact state) (directory : Path) :
    state.count directory = state.files directory := by
  unfold count
  rw [exact.counted]
  split
  · rename_i bare
    exact bare.symm
  · rfl

/-- A tracked file has a directory, however its path is written. -/
theorem Exact.directory?_isSome (exact : Exact state) (known : path.isIn state.tracked = true) :
    (directory? path).isSome = true := by
  obtain ⟨other, listed, same⟩ := Path.isIn_iff.mp known
  have alike := directory?_congr same
  have housed := exact.housed other listed
  revert alike housed
  cases directory? other <;> cases directory? path <;> intro alike housed
  · cases housed
  · cases housed
  · cases alike
  · rfl

/-- The directory of a tracked file holds a file. -/
theorem files_pos (known : path.isIn state.tracked = true)
    (lives : directory? path = some directory) : 0 < state.files directory := by
  obtain ⟨other, listed, same⟩ := Path.isIn_iff.mp known
  refine List.countP_pos_iff.mpr ⟨other, listed, ?_⟩
  rw [lies_congr directory same, lies_eq lives]
  exact decide_eq_true (Path.Same.refl directory)

/-- Nothing is tracked and no directory is held at the beginning. -/
theorem exact_initial : Exact initial where
  once := List.Pairwise.nil
  single := List.Pairwise.nil
  housed _ listed := nomatch listed
  counted _ := rfl

/-- One more file: its directory counts one more. -/
theorem files_raise (lives : directory? path = some directory) (state : DirectoryWatch)
    (other : Path) :
    (state.raise path directory).files other =
      state.files other + if Path.Same directory other then 1 else 0 := by
  simp [files, raise, List.countP_append, lies_eq lives]

/-- One file less: its directory counts one less. -/
theorem Exact.files_removed (exact : Exact state) {after : DirectoryWatch}
    (known : path.isIn state.tracked = true) (lives : directory? path = some directory)
    (tracked : after.tracked = path.removeFrom state.tracked) (other : Path) :
    after.files other + (if Path.Same directory other then 1 else 0) = state.files other := by
  have removed := exact.once.countP_removeFrom known fun _ _ => lies_congr other
  rw [lies_eq lives, ← tracked] at removed
  simpa [files] using removed

/-- Tracking one more file keeps the counts exact. -/
theorem Exact.raise (exact : Exact state) (unlisted : path.isIn state.tracked = false)
    (lives : directory? path = some directory) : Exact (state.raise path directory) where
  once := by
    have added : state.tracked ++ [path] = path.insertInto state.tracked := by
      rw [Path.insertInto, unlisted]
      rfl
    show Path.Distinct (state.tracked ++ [path])
    rw [added]
    exact exact.once.insertInto path
  single := by
    show Path.Distinct ((withCount _ _ _).map _)
    rw [map_withCount]
    exact exact.single.insertInto directory
  housed other listed := by
    rcases List.mem_append.mp listed with earlier | added
    · exact exact.housed other earlier
    · rw [List.mem_singleton.mp added, lives]
      rfl
  counted other := by
    rw [files_raise lives]
    by_cases same : Path.Same directory other
    · have number : state.count directory = state.files other := by
        rw [exact.count_eq, files_congr same]
      rw [if_pos same, if_neg (Nat.succ_ne_zero _), ← number]
      exact held?_withCount_same same _ _ _
    · simp only [same, ↓reduceIte, Nat.add_zero]
      rw [← exact.counted other]
      exact held?_withCount_apart same _ _ _

/-- Tracking a file less keeps the counts exact if its directory is given the number that is left
and no other directory changes. -/
theorem Exact.fewer (exact : Exact state) {after : DirectoryWatch} {left : Nat}
    (known : path.isIn state.tracked = true) (lives : directory? path = some directory)
    (number : state.files directory = left + 1)
    (tracked : after.tracked = path.removeFrom state.tracked)
    (single : Path.Distinct (after.directories.map (·.1)))
    (inside : ∀ other : Path, Path.Same directory other →
      after.held? other = if left = 0 then none else some left)
    (outside : ∀ other : Path, ¬ Path.Same directory other →
      after.held? other = state.held? other) : Exact after where
  once := by
    rw [tracked]
    exact exact.once.removeFrom path
  single := single
  housed other listed := by
    rw [tracked] at listed
    exact exact.housed other (List.mem_filter.mp listed).1
  counted other := by
    have removed := exact.files_removed known lives tracked other
    by_cases same : Path.Same directory other
    · rw [if_pos same, ← files_congr same state, number] at removed
      rw [inside other same, Nat.add_right_cancel removed]
    · rw [if_neg same, Nat.add_zero] at removed
      rw [outside other same, removed]
      exact exact.counted other

/-- Tracking a file less keeps the counts exact as long as its directory has others. -/
theorem Exact.lower (exact : Exact state) (known : path.isIn state.tracked = true)
    (lives : directory? path = some directory) {left : Nat} (more : 0 < left)
    (number : state.files directory = left + 1) : Exact (state.lower path directory left) := by
  refine exact.fewer known lives number rfl ?_ ?_ ?_
  · show Path.Distinct ((withCount _ _ _).map _)
    rw [map_withCount]
    exact exact.single.insertInto directory
  · intro other same
    rw [if_neg (Nat.ne_of_gt more)]
    exact held?_withCount_same same left state.directories _
  · intro other apart
    exact held?_withCount_apart apart left state.directories _

/-- When the last file of a directory goes and the directory with it, the counts stay exact. -/
theorem Exact.release (exact : Exact state) (known : path.isIn state.tracked = true)
    (lives : directory? path = some directory) (last : state.files directory = 1) :
    Exact (state.release path directory) := by
  refine exact.fewer known lives last rfl ?_ ?_ ?_
  · show Path.Distinct ((without _ _).map _)
    rw [map_without]
    exact exact.single.removeFrom directory
  · intro other same
    exact Memory.lookup?_without_same same state.directories
  · intro other apart
    exact Memory.lookup?_without_apart apart state.directories

/-! ## What a request leads to -/

/-- What a request to track a file leads to. -/
inductive Watched (system : DirectoryCall → Option Text) (state : DirectoryWatch) (path : Path) :
    Outcome → Prop where
  /-- The file has no directory. -/
  | homeless (bare : directory? path = none) :
    Watched system state path ⟨state, none, some (homeless path)⟩
  /-- The file is tracked. -/
  | known {directory : Path} (lives : directory? path = some directory)
      (listed : path.isIn state.tracked = true) : Watched system state path ⟨state, none, none⟩
  /-- The directory holds other files. -/
  | shared {directory : Path} (lives : directory? path = some directory)
      (unlisted : path.isIn state.tracked = false) (busy : 0 < state.files directory) :
    Watched system state path ⟨state.raise path directory, none, none⟩
  /-- The file is the first one of its directory, and the system reports on it from now on. -/
  | subscribed {directory : Path} (lives : directory? path = some directory)
      (unlisted : path.isIn state.tracked = false) (idle : state.files directory = 0)
      (granted : system (.subscribe directory) = none) :
    Watched system state path ⟨state.raise path directory, some (.subscribe directory), none⟩
  /-- The file is the first one of its directory, and the system refuses to report on it. -/
  | refused {directory : Path} {reason : Text} (lives : directory? path = some directory)
      (unlisted : path.isIn state.tracked = false) (idle : state.files directory = 0)
      (refusal : system (.subscribe directory) = some reason) :
    Watched system state path
      ⟨state, some (.subscribe directory), some (.unwatchable path reason)⟩

/-- What a request to stop tracking a file leads to. -/
inductive Unwatched (system : DirectoryCall → Option Text) (state : DirectoryWatch) (path : Path) :
    Outcome → Prop where
  /-- The file has no directory, so it is not tracked. -/
  | homeless (bare : directory? path = none) (unlisted : path.isIn state.tracked = false) :
    Unwatched system state path ⟨state, none, some (homeless path)⟩
  /-- The file is not tracked. -/
  | unknown {directory : Path} (lives : directory? path = some directory)
      (unlisted : path.isIn state.tracked = false) : Unwatched system state path ⟨state, none, none⟩
  /-- The directory holds other files. -/
  | shared {directory : Path} {left : Nat} (lives : directory? path = some directory)
      (listed : path.isIn state.tracked = true) (more : 0 < left)
      (number : state.files directory = left + 1) :
    Unwatched system state path ⟨state.lower path directory left, none, none⟩
  /-- The file is the last one of its directory. -/
  | last {directory : Path} (lives : directory? path = some directory)
      (listed : path.isIn state.tracked = true) (number : state.files directory = 1) :
    Unwatched system state path ⟨state.release path directory, some (.unsubscribe directory),
      (system (.unsubscribe directory)).map fun reason => .unwatchable path reason⟩

/-- A request to track a file does one of these things. -/
theorem Exact.watched (exact : Exact state) (system : DirectoryCall → Option Text) (path : Path) :
    Watched system state path (state.watch system path) := by
  unfold watch
  cases lives : directory? path with
  | none => exact .homeless lives
  | some directory =>
    cases listed : path.isIn state.tracked with
    | true => exact .known lives listed
    | false =>
      have number : (state.raise path directory).count directory = state.files directory + 1 := by
        rw [(exact.raise listed lives).count_eq, files_raise lives]
        simp [Path.Same.refl]
      simp only [Bool.false_eq_true, ↓reduceIte, number]
      by_cases busy : 0 < state.files directory
      · rw [if_pos (Nat.succ_lt_succ busy)]
        exact .shared lives listed busy
      · have idle : state.files directory = 0 := Nat.eq_zero_of_not_pos busy
        have new : state.held? directory = none := by rw [exact.counted, if_pos idle]
        rw [if_neg fun many => busy (Nat.lt_of_succ_lt_succ many)]
        cases answer : system (.subscribe directory) with
        | none => exact .subscribed lives listed idle answer
        | some reason =>
          simp only [release_raise listed new]
          exact .refused lives listed idle answer

/-- A request to stop tracking a file does one of these things: the directory of a tracked file
is always held, by one file at least. -/
theorem Exact.unwatched (exact : Exact state) (system : DirectoryCall → Option Text)
    (path : Path) : Unwatched system state path (state.unwatch system path) := by
  unfold unwatch
  cases lives : directory? path with
  | none =>
    have unlisted : path.isIn state.tracked = false := by
      rw [← Bool.not_eq_true]
      intro listed
      have housed := exact.directory?_isSome listed
      rw [lives] at housed
      cases housed
    exact .homeless lives unlisted
  | some directory =>
    cases listed : path.isIn state.tracked with
    | false => exact .unknown lives listed
    | true =>
      obtain ⟨left, number⟩ := Nat.exists_eq_succ_of_ne_zero (files_pos listed lives).ne'
      have held : state.held? directory = some (left + 1) := by
        rw [exact.counted, number]
        rfl
      simp only [held, Bool.not_true, Bool.false_eq_true, ↓reduceIte, Nat.add_sub_cancel]
      by_cases more : 0 < left
      · rw [if_pos more]
        exact .shared lives listed more number
      · rw [if_neg more]
        rw [Nat.eq_zero_of_not_pos more] at number
        exact .last lives listed number

/-! ## The edges of a count -/

/-- A count leaves zero with the first file of a directory only. -/
theorem Exact.leaves_zero_iff (exact : Exact state) (unlisted : path.isIn state.tracked = false)
    (lives : directory? path = some directory) (other : Path) :
    state.count other = 0 ∧ (state.raise path directory).count other = 1 ↔
      Path.Same directory other ∧ state.files directory = 0 := by
  rw [exact.count_eq, (exact.raise unlisted lives).count_eq, files_raise lives]
  by_cases same : Path.Same directory other
  · simp [same, files_congr same]
  · simp only [same, ↓reduceIte, false_and, iff_false]
    omega

/-- A count comes back to zero with the last file of a directory only. -/
theorem Exact.returns_to_zero_iff (exact : Exact state) {after : DirectoryWatch}
    (known : path.isIn state.tracked = true) (lives : directory? path = some directory)
    (kept : Exact after) (tracked : after.tracked = path.removeFrom state.tracked)
    (other : Path) :
    state.count other = 1 ∧ after.count other = 0 ↔
      Path.Same directory other ∧ state.files directory = 1 := by
  have removed := exact.files_removed known lives tracked other
  rw [exact.count_eq, kept.count_eq]
  by_cases same : Path.Same directory other
  · rw [files_congr same]
    simp only [same, ↓reduceIte, true_and] at removed ⊢
    omega
  · simp only [same, ↓reduceIte, false_and, iff_false] at removed ⊢
    omega

/-! ## Runs of requests -/

/-- A request to track a file or to stop tracking it. -/
inductive Request where
  /-- Track a file. -/
  | watch (path : Path)
  /-- Stop tracking it. -/
  | unwatch (path : Path)

/-- What a request leads to, with the answers of the system. -/
def perform (system : DirectoryCall → Option Text) (state : DirectoryWatch) : Request → Outcome
  | .watch path => state.watch system path
  | .unwatch path => state.unwatch system path

/-- A system that grants everything. -/
def granting : DirectoryCall → Option Text := fun _ => none

/-- A request and how the system answers at that moment. -/
structure Step where
  /-- The answers of the system. -/
  system : DirectoryCall → Option Text
  /-- The request. -/
  request : Request

/-- The state after requests, from nothing. -/
def run (steps : List Step) : DirectoryWatch :=
  steps.foldl (fun state step => (state.perform step.system step.request).state) initial

/-- A step asks the system this about a directory, in whatever written form. -/
def Outcome.Asks (outcome : Outcome) (call : Path → DirectoryCall) (directory : Path) : Prop :=
  ∃ asked : Path, outcome.call? = some (call asked) ∧ Path.Same asked directory

/-- What every request keeps to, in a state with these counts. -/
structure Faithful (system : DirectoryCall → Option Text) (state : DirectoryWatch)
    (request : Request) : Prop where
  /-- A tracked file is not tracked again: nothing changes and the system is not asked. -/
  known : ∀ path : Path, request = .watch path → path.isIn state.tracked = true →
    state.perform system request = ⟨state, none, none⟩
  /-- A file that is not tracked is not given up: nothing changes and the system is not asked. -/
  unknown : ∀ path : Path, request = .unwatch path → path.isIn state.tracked = false →
    (state.perform system request).state = state ∧ (state.perform system request).call? = none
  /-- A file is tracked after a request for it that did not fail, and the others stay. -/
  added : ∀ path : Path, request = .watch path → (state.perform system request).error? = none →
    (state.perform system request).state.tracked = path.insertInto state.tracked
  /-- A request to track a file that fails leaves files and counts as they were. -/
  failed : ∀ path : Path, request = .watch path → (state.perform system request).error? ≠ none →
    (state.perform system request).state = state
  /-- A file is no longer tracked after a request to stop, even one that fails, and the others
  stay. -/
  removed : ∀ path : Path, request = .unwatch path →
    (state.perform system request).state.tracked = path.removeFrom state.tracked
  /-- The count of the directory of a tracked file can be lowered. -/
  positive : ∀ path directory : Path, request = .unwatch path → path.isIn state.tracked = true →
    directory? path = some directory → ∃ left, state.held? directory = some (left + 1)
  /-- The state is that of a system that grants everything, unless a request to track fails. -/
  granted : (∃ path : Path, request = .unwatch path) ∨
      (state.perform system request).error? = none →
    (state.perform system request).state = (state.perform granting request).state
  /-- The system is asked to report on a directory exactly when its count goes from zero to one,
  or would if the system had agreed. -/
  subscribes : ∀ directory : Path, (state.perform system request).Asks .subscribe directory ↔
    state.count directory = 0 ∧ (state.perform granting request).state.count directory = 1
  /-- The system is asked to stop exactly when the count of a directory goes from one to zero. -/
  unsubscribes : ∀ directory : Path, (state.perform system request).Asks .unsubscribe directory ↔
    state.count directory = 1 ∧ (state.perform granting request).state.count directory = 0

/-- With a system that grants everything, a new file of a directory is tracked. -/
theorem watch_granting (unlisted : path.isIn state.tracked = false)
    (lives : directory? path = some directory) :
    (state.watch granting path).state = state.raise path directory := by
  unfold watch
  simp only [lives, unlisted, Bool.false_eq_true, ↓reduceIte, granting]
  split <;> rfl

/-- With a system that grants everything, a tracked file or one without a directory changes
nothing. -/
theorem watch_granting_idle (idle : path.isIn state.tracked = true ∨ directory? path = none) :
    (state.watch granting path).state = state := by
  unfold watch
  split
  · rfl
  · rename_i lives
    rw [if_pos (idle.resolve_right (by simp [lives]))]

/-- What happens to the files when one is no longer tracked does not depend on the system. -/
theorem unwatch_state (system other : DirectoryCall → Option Text) (state : DirectoryWatch)
    (path : Path) : (state.unwatch system path).state = (state.unwatch other path).state := by
  unfold unwatch
  repeat' split
  all_goals rfl

namespace Watched

/-- Tracking a file keeps the counts exact. -/
theorem exact (possible : Watched system state path outcome) (exact : Exact state) :
    Exact outcome.state := by
  cases possible with
  | homeless | known | refused => exact exact
  | shared lives unlisted | subscribed lives unlisted => exact exact.raise unlisted lives

/-- A file is tracked after a request that did not fail, and the others stay. -/
theorem tracked_eq (possible : Watched system state path outcome) (fine : outcome.error? = none) :
    outcome.state.tracked = path.insertInto state.tracked := by
  cases possible with
  | homeless | refused => cases fine
  | known _ listed =>
    rw [Path.insertInto, listed]
    rfl
  | shared _ unlisted | subscribed _ unlisted =>
    rw [Path.insertInto, unlisted]
    rfl

/-- A request that fails leaves everything as it was. -/
theorem state_eq (possible : Watched system state path outcome) (failure : outcome.error? ≠ none) :
    outcome.state = state := by
  cases possible with
  | homeless | known | refused => rfl
  | shared | subscribed => exact absurd rfl failure

/-- A request that does not fail leads where it leads with a system that grants everything. -/
theorem granted (possible : Watched system state path outcome) (fine : outcome.error? = none) :
    outcome.state = (state.watch granting path).state := by
  cases possible with
  | homeless | refused => cases fine
  | known _ listed => exact (watch_granting_idle (.inl listed)).symm
  | shared lives unlisted | subscribed lives unlisted => exact (watch_granting unlisted lives).symm

/-- The system is asked to report on a directory when its count leaves zero. -/
theorem subscribes (possible : Watched system state path outcome) (exact : Exact state)
    (other : Path) : outcome.Asks .subscribe other ↔
      state.count other = 0 ∧ (state.watch granting path).state.count other = 1 := by
  cases possible with
  | homeless bare =>
    rw [watch_granting_idle (.inr bare)]
    simp +contextual [Outcome.Asks]
  | known _ listed =>
    rw [watch_granting_idle (.inl listed)]
    simp +contextual [Outcome.Asks]
  | shared lives unlisted busy =>
    rw [watch_granting unlisted lives, exact.leaves_zero_iff unlisted lives]
    simp [Outcome.Asks, busy.ne']
  | subscribed lives unlisted idle | refused lives unlisted idle =>
    rw [watch_granting unlisted lives, exact.leaves_zero_iff unlisted lives]
    simp [Outcome.Asks, idle]

/-- The system is not asked to stop. -/
theorem not_unsubscribes (possible : Watched system state path outcome) (other : Path) :
    ¬ outcome.Asks .unsubscribe other := by
  cases possible <;> simp [Outcome.Asks]

/-- No count falls. -/
theorem le_count (possible : Watched system state path outcome) (exact : Exact state)
    (other : Path) : state.count other ≤ outcome.state.count other := by
  rw [exact.count_eq, (possible.exact exact).count_eq]
  cases possible with
  | homeless | known | refused => exact le_rfl
  | shared lives | subscribed lives =>
    rw [files_raise lives]
    exact Nat.le_add_right _ _

end Watched

namespace Unwatched

/-- Giving up a file keeps the counts exact. -/
theorem exact (possible : Unwatched system state path outcome) (exact : Exact state) :
    Exact outcome.state := by
  cases possible with
  | homeless | unknown => exact exact
  | shared lives listed more number => exact exact.lower listed lives more number
  | last lives listed number => exact exact.release listed lives number

/-- The file is no longer tracked, and the others stay. -/
theorem tracked_eq (possible : Unwatched system state path outcome) :
    outcome.state.tracked = path.removeFrom state.tracked := by
  cases possible with
  | homeless _ unlisted | unknown _ unlisted => exact (Path.removeFrom_of_not_isIn unlisted).symm
  | shared | last => rfl

/-- A file that is not tracked is not given up. -/
theorem unchanged (possible : Unwatched system state path outcome)
    (unlisted : path.isIn state.tracked = false) :
    outcome.state = state ∧ outcome.call? = none := by
  cases possible with
  | homeless | unknown => exact ⟨rfl, rfl⟩
  | shared _ listed | last _ listed =>
    rw [unlisted] at listed
    cases listed

/-- The system is asked to stop reporting on a directory when its count comes back to zero. -/
theorem unsubscribes (possible : Unwatched system state path outcome) (exact : Exact state)
    (other : Path) : outcome.Asks .unsubscribe other ↔
      state.count other = 1 ∧ outcome.state.count other = 0 := by
  have kept := possible.exact exact
  cases possible with
  | homeless | unknown => simp +contextual [Outcome.Asks]
  | shared lives listed more number =>
    rw [exact.returns_to_zero_iff listed lives kept rfl]
    simp [Outcome.Asks, number, more.ne']
  | last lives listed number =>
    rw [exact.returns_to_zero_iff listed lives kept rfl]
    simp [Outcome.Asks, number]

/-- The system is not asked to report on anything. -/
theorem not_subscribes (possible : Unwatched system state path outcome) (other : Path) :
    ¬ outcome.Asks .subscribe other := by
  cases possible <;> simp [Outcome.Asks]

/-- No count grows. -/
theorem count_le (possible : Unwatched system state path outcome) (exact : Exact state)
    (other : Path) : outcome.state.count other ≤ state.count other := by
  rw [exact.count_eq, (possible.exact exact).count_eq]
  cases possible with
  | homeless | unknown => exact le_rfl
  | shared lives listed | last lives listed =>
    exact Nat.le.intro (exact.files_removed listed lives rfl other)

end Unwatched

/-- A request to track a file is faithful. -/
theorem Exact.watch_faithful (exact : Exact state) (system : DirectoryCall → Option Text)
    (path : Path) : Faithful system state (.watch path) where
  known := by
    rintro _ ⟨rfl⟩ listed
    obtain ⟨directory, lives⟩ := Option.isSome_iff_exists.mp (exact.directory?_isSome listed)
    simp [perform, watch, lives, listed]
  unknown := by rintro _ ⟨⟩
  added := by
    rintro _ ⟨rfl⟩
    exact (exact.watched system path).tracked_eq
  failed := by
    rintro _ ⟨rfl⟩
    exact (exact.watched system path).state_eq
  removed := by rintro _ ⟨⟩
  positive := by rintro _ _ ⟨⟩
  granted := by
    rintro (⟨_, ⟨⟩⟩ | fine)
    exact (exact.watched system path).granted fine
  subscribes := (exact.watched system path).subscribes exact
  unsubscribes other := by
    have grown := (exact.watched granting path).le_count exact other
    refine iff_of_false ((exact.watched system path).not_unsubscribes other) ?_
    rintro ⟨one, zero⟩
    rw [one, show (state.watch granting path).state.count other = 0 from zero] at grown
    omega

/-- A request to stop tracking a file is faithful. -/
theorem Exact.unwatch_faithful (exact : Exact state) (system : DirectoryCall → Option Text)
    (path : Path) : Faithful system state (.unwatch path) where
  known := by rintro _ ⟨⟩
  unknown := by
    rintro _ ⟨rfl⟩
    exact (exact.unwatched system path).unchanged
  added := by rintro _ ⟨⟩
  failed := by rintro _ ⟨⟩
  removed := by
    rintro _ ⟨rfl⟩
    exact (exact.unwatched system path).tracked_eq
  positive := by
    rintro _ directory ⟨rfl⟩ listed lives
    obtain ⟨left, number⟩ := Nat.exists_eq_succ_of_ne_zero (files_pos listed lives).ne'
    refine ⟨left, ?_⟩
    rw [exact.counted, number]
    rfl
  granted _ := unwatch_state system granting state path
  subscribes other := by
    have fallen := (exact.unwatched granting path).count_le exact other
    refine iff_of_false ((exact.unwatched system path).not_subscribes other) ?_
    rintro ⟨zero, one⟩
    rw [zero, show (state.unwatch granting path).state.count other = 1 from one] at fallen
    omega
  unsubscribes other := by
    show _ ↔ _ ∧ (state.unwatch granting path).state.count other = 0
    rw [unwatch_state granting system]
    exact (exact.unwatched system path).unsubscribes exact other

/-- Every request keeps the counts exact. -/
theorem Exact.perform (exact : Exact state) (system : DirectoryCall → Option Text)
    (request : Request) : Exact (state.perform system request).state := by
  cases request with
  | watch path => exact (exact.watched system path).exact exact
  | unwatch path => exact (exact.unwatched system path).exact exact

/-- After every run of requests, whatever the system answers at each of them, the counts of the
directories are exact, and whatever is requested next is faithful to them. -/
theorem run_exact (steps : List Step) :
    Exact (run steps) ∧
      ∀ (system : DirectoryCall → Option Text) (request : Request),
        Faithful system (run steps) request := by
  have kept : Exact (run steps) := by
    induction steps using List.reverseRecOn with
    | nil => exact exact_initial
    | append_singleton earlier step ih =>
      rw [run, List.foldl_append]
      exact ih.perform step.system step.request
  refine ⟨kept, fun system request => ?_⟩
  cases request with
  | watch path => exact kept.watch_faithful system path
  | unwatch path => exact kept.unwatch_faithful system path

end DirectoryWatch

end Citations
