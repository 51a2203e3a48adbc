import Citations.Proofs.Store
import Citations.Tracking.Session

/-!
# What the operations of a session do

Reading a source again, starting to watch one and forgetting one are described by what they do
to the watched sources and to the entries of each source; everything else they leave alone.
Bringing a session in line with a discovery is a run of such operations, so a property that each
of them keeps is kept by the whole (`Session.reconcile_induction`), and the same holds for the
events that wait.
-/
namespace Citations.Session

variable {policy : Policy} {host : Host} {session : Session} {path other : Path}

/-! ## Reading a source -/

/-- A source is loaded when it can be read and its text can be parsed. -/
theorem load_eq_ok_iff {entries : List Entry} :
    load policy host path = .ok entries ↔
      ∃ text, host.read path = .ok text ∧ Source.parse path text policy.allowed = .ok entries := by
  unfold load
  cases host.read path with
  | error reason => simp
  | ok text => simp

/-- A source that can be read and parsed gets its entries; nothing else changes. -/
theorem reload_of_ok {entries : List Entry} (loaded : load policy host path = .ok entries) :
    reload policy host session path =
      { session with store := session.store.upsert path entries } := by
  simp only [reload, loaded]

/-- A source that cannot be read or parsed makes one notice; nothing else changes. -/
theorem reload_of_error {error : SourceError} (failed : load policy host path = .error error) :
    reload policy host session path = session.notify (.ofError error) := by
  simp only [reload, failed]

/-- Reading a source does not change which sources are watched. -/
@[simp] theorem reload_watched : (reload policy host session path).watched = session.watched := by
  unfold reload
  split <;> rfl

/-- Reading a source does not change the subscriptions. -/
@[simp] theorem reload_subscriptions :
    (reload policy host session path).subscriptions = session.subscriptions := by
  unfold reload
  split <;> rfl

/-- Reading a source does not change the waiting events. -/
@[simp] theorem reload_queue : (reload policy host session path).queue = session.queue := by
  unfold reload
  split <;> rfl

/-- Reading a source does not close a session. -/
@[simp] theorem reload_isOpen : (reload policy host session path).isOpen = session.isOpen := by
  unfold reload
  split <;> rfl

/-- Reading a source leaves the entries of other sources alone. -/
theorem entriesOf?_reload_apart (apart : ¬ Path.Same path other) :
    (reload policy host session path).store.entriesOf? other =
      session.store.entriesOf? other := by
  unfold reload
  split
  · exact Store.entriesOf?_upsert_apart apart _ _
  · rfl

/-- A source that was read successfully has the entries that were read. -/
theorem entriesOf?_reload_of_ok {entries : List Entry} (same : Path.Same path other)
    (loaded : load policy host path = .ok entries) :
    (reload policy host session path).store.entriesOf? other = some entries := by
  rw [reload_of_ok loaded]
  exact Store.entriesOf?_upsert_same same _ _

/-- A source that could not be read keeps the entries it had. -/
theorem entriesOf?_reload_of_error {error : SourceError}
    (failed : load policy host path = .error error) :
    (reload policy host session path).store.entriesOf? other =
      session.store.entriesOf? other := by
  rw [reload_of_error failed]
  rfl

/-- The error of a failed reading names the source. -/
theorem load_error_path {error : SourceError} (failed : load policy host path = .error error) :
    error.path = path := by
  unfold load at failed
  split at failed
  · obtain rfl := Except.error.inj failed
    rfl
  · exact Source.parse_error_path failed

/-- The notice of an error names the source of the error. -/
theorem path?_ofError (error : SourceError) : (Notice.ofError error).path? = some error.path := by
  cases error <;> rfl

/-! ## Watching and forgetting a source -/

/-- Asking for reports does not change which sources are watched. -/
@[simp] theorem subscribe_watched : (session.subscribe host path).watched = session.watched := by
  unfold subscribe
  split <;> rfl

/-- Asking for reports does not change the loaded entries. -/
@[simp] theorem subscribe_store : (session.subscribe host path).store = session.store := by
  unfold subscribe
  split <;> rfl

/-- Asking for reports does not change the waiting events. -/
theorem subscribe_queue : (session.subscribe host path).queue = session.queue := by
  unfold subscribe
  split <;> rfl

/-- Reports that the host grants are subscribed to. -/
theorem subscribe_of_granted (granted : host.refusal? path = none) :
    session.subscribe host path =
      { session with subscriptions := session.subscriptions ++ [path] } := by
  simp only [subscribe, granted]

/-- A watched source is not entered again. -/
theorem enter_of_watched (watched : path.isIn session.watched = true) :
    enter policy host session path = session := by
  simp only [enter, watched, ↓reduceIte]

/-- A source that is not watched yet is subscribed to, watched and read. -/
theorem enter_of_unwatched (unwatched : path.isIn session.watched = false) :
    enter policy host session path =
      reload policy host { session.subscribe host path with
        watched := path.insertInto session.watched } path := by
  simp only [enter, unwatched, Bool.false_eq_true, ↓reduceIte, subscribe_watched]

/-- Entering a source makes it watched and leaves the other sources as they were. -/
theorem isIn_watched_enter :
    other.isIn (enter policy host session path).watched = true ↔
      other.isIn session.watched = true ∨ Path.Same path other := by
  by_cases watched : path.isIn session.watched = true
  · rw [enter_of_watched watched]
    constructor
    · exact Or.inl
    · rintro (member | same)
      · exact member
      · rwa [← Path.isIn_congr same]
  · rw [enter_of_unwatched (Bool.eq_false_iff.mpr watched), reload_watched]
    exact Path.isIn_insertInto

/-- Entering a source does not touch the waiting events. -/
@[simp] theorem enter_queue : (enter policy host session path).queue = session.queue := by
  by_cases watched : path.isIn session.watched = true
  · rw [enter_of_watched watched]
  · rw [enter_of_unwatched (Bool.eq_false_iff.mpr watched), reload_queue, subscribe_queue]

/-- Entering a source leaves the entries of watched sources alone. -/
theorem entriesOf?_enter_of_watched (watched : other.isIn session.watched = true) :
    (enter policy host session path).store.entriesOf? other =
      session.store.entriesOf? other := by
  by_cases known : path.isIn session.watched = true
  · rw [enter_of_watched known]
  · have unwatched := Bool.eq_false_iff.mpr known
    have apart : ¬ Path.Same path other := Path.not_same_of_isIn watched unwatched
    rw [enter_of_unwatched unwatched, entriesOf?_reload_apart apart]
    simp

/-- Forgetting a source stops watching it and no other. -/
theorem isIn_watched_forget :
    other.isIn (session.forget path).watched = true ↔
      other.isIn session.watched = true ∧ ¬ Path.Same path other :=
  Path.isIn_removeFrom

/-- Forgetting a source leaves the entries of other sources alone. -/
theorem entriesOf?_forget_apart (apart : ¬ Path.Same path other) :
    (session.forget path).store.entriesOf? other = session.store.entriesOf? other :=
  Store.entriesOf?_evict_apart apart _

/-- A forgotten source has no slot. -/
theorem entriesOf?_forget_same (same : Path.Same path other) :
    (session.forget path).store.entriesOf? other = none :=
  Store.entriesOf?_evict_same same _

/-! ## Bringing a session in line with a discovery -/

variable {found : List Path}

/-- What entering any found source keeps, and forgetting any source that was not found keeps,
holds after a session was brought in line with a discovery. -/
theorem reconcile_induction {motive : Session → Prop} (start : motive session)
    (entering : ∀ session, motive session → ∀ path ∈ found, motive (enter policy host session path))
    (forgetting : ∀ session, motive session → ∀ path, path.isIn found = false →
      policy.forgetUnused = true → motive (session.forget path)) :
    motive (reconcile policy host session found) := by
  have entered : motive (found.foldl (enter policy host) session) :=
    List.foldlRecOn found (enter policy host) start entering
  unfold reconcile
  dsimp only
  split
  · rename_i forgets
    refine List.foldlRecOn _ forget entered ?_
    intro session kept path stale
    have unfound := (List.mem_filter.mp stale).2
    exact forgetting session kept path (by simpa using unfound) forgets
  · exact entered

/-- Entering found sources makes them watched and leaves the other sources as they were. -/
theorem isIn_watched_enterAll :
    other.isIn (found.foldl (enter policy host) session).watched = true ↔
      other.isIn session.watched = true ∨ other.isIn found = true := by
  induction found generalizing session with
  | nil => simp [Path.isIn]
  | cons first rest ih =>
    rw [List.foldl_cons, ih, isIn_watched_enter, or_assoc, Path.isIn_cons]

/-- Forgetting sources stops watching them and no others. -/
theorem isIn_watched_forgetAll {stale : List Path} :
    other.isIn (stale.foldl forget session).watched = true ↔
      other.isIn session.watched = true ∧ other.isIn stale = false := by
  induction stale generalizing session with
  | nil => simp [Path.isIn]
  | cons first rest ih =>
    rw [List.foldl_cons, ih, isIn_watched_forget, and_assoc, ← Bool.not_eq_true,
      ← Bool.not_eq_true, Path.isIn_cons, not_or]

/-- Forgetting sources leaves the entries of the others alone. -/
theorem entriesOf?_forgetAll_of_unlisted {stale : List Path} (unlisted : other.isIn stale = false) :
    (stale.foldl forget session).store.entriesOf? other = session.store.entriesOf? other := by
  refine List.foldlRecOn stale forget
    (motive := fun after => after.store.entriesOf? other = session.store.entriesOf? other) rfl ?_
  intro after kept path listed
  have apart : ¬ Path.Same path other := fun same =>
    Path.not_same_of_isIn (Path.isIn_of_mem listed) unlisted same.symm
  rw [entriesOf?_forget_apart apart, kept]

/-- Forgotten sources have no slot. -/
theorem entriesOf?_forgetAll_of_listed {stale : List Path} (listed : other.isIn stale = true) :
    (stale.foldl forget session).store.entriesOf? other = none := by
  induction stale generalizing session with
  | nil => simp [Path.isIn] at listed
  | cons first rest ih =>
    by_cases later : other.isIn rest = true
    · exact ih later
    · have same : Path.Same first other := (Path.isIn_cons.mp listed).resolve_right later
      rw [List.foldl_cons, entriesOf?_forgetAll_of_unlisted (Bool.eq_false_iff.mpr later),
        entriesOf?_forget_same same]

/-- Entering found sources leaves the entries of watched sources alone. -/
theorem entriesOf?_enterAll_of_watched (watched : other.isIn session.watched = true) :
    (found.foldl (enter policy host) session).store.entriesOf? other =
      session.store.entriesOf? other := by
  have kept := List.foldlRecOn found (enter policy host)
    (motive := fun after => other.isIn after.watched = true ∧
      after.store.entriesOf? other = session.store.entriesOf? other)
    ⟨watched, rfl⟩ ?_
  · exact kept.2
  · rintro after ⟨known, same⟩ path _
    exact ⟨isIn_watched_enter.mpr (Or.inl known), (entriesOf?_enter_of_watched known).trans same⟩

/-- A source is dropped by a discovery when unused sources are forgotten and it was not found. -/
def DroppedBy (policy : Policy) (found : List Path) (path : Path) : Prop :=
  policy.forgetUnused = true ∧ path.isIn found = false

/-- The stale sources after a discovery are the watched ones that were not found. -/
theorem isIn_stale {watched : List Path} :
    other.isIn (watched.filter fun path => !path.isIn found) = true ↔
      other.isIn watched = true ∧ other.isIn found = false := by
  rw [Path.isIn_filter fun left right same => by rw [Path.isIn_congr same], Bool.not_eq_true']

/-- After a discovery those sources are watched that were watched or found, less the dropped. -/
theorem isIn_watched_reconcile :
    other.isIn (reconcile policy host session found).watched = true ↔
      (other.isIn session.watched = true ∨ other.isIn found = true) ∧
        ¬ DroppedBy policy found other := by
  unfold reconcile DroppedBy
  dsimp only
  split
  · rename_i forgets
    rw [isIn_watched_forgetAll, ← Bool.not_eq_true (Path.isIn _ _), isIn_stale,
      isIn_watched_enterAll]
    cases other.isIn found <;> simp [forgets]
  · rename_i keeps
    rw [isIn_watched_enterAll]
    simp [keeps]

/-- A watched source that a discovery does not drop keeps its entries. -/
theorem entriesOf?_reconcile_of_kept (watched : other.isIn session.watched = true)
    (kept : ¬ DroppedBy policy found other) :
    (reconcile policy host session found).store.entriesOf? other =
      session.store.entriesOf? other := by
  unfold reconcile
  dsimp only
  split
  · rename_i forgets
    rw [entriesOf?_forgetAll_of_unlisted, entriesOf?_enterAll_of_watched watched]
    rw [← Bool.not_eq_true, isIn_stale]
    exact fun stale => kept ⟨forgets, stale.2⟩
  · exact entriesOf?_enterAll_of_watched watched

/-- A watched source that a discovery drops has no slot. -/
theorem entriesOf?_reconcile_of_dropped (watched : other.isIn session.watched = true)
    (dropped : DroppedBy policy found other) :
    (reconcile policy host session found).store.entriesOf? other = none := by
  unfold reconcile
  simp only [dropped.1, ↓reduceIte]
  refine entriesOf?_forgetAll_of_listed (isIn_stale.mpr ⟨?_, dropped.2⟩)
  exact isIn_watched_enterAll.mpr (Or.inl watched)

/-! ## Applying events -/

variable {event : Event} {events : List Event}

/-- An event for a source that is not watched has no effect. -/
theorem handle_of_unwatched (unwatched : event.path.isIn session.watched = false) :
    session.handle policy host event = session := by
  simp [handle, unwatched]

/-- An event for a watched source that says that it changed, or that is there, reads it. -/
theorem handle_of_present (watched : event.path.isIn session.watched = true)
    (present : event.kind = .changed ∨ host.doesExist event.path = true) :
    session.handle policy host event = reload policy host session event.path := by
  simp [handle, watched, present]

/-- The deletion of a watched source that is not there forgets it. -/
theorem handle_of_absent (watched : event.path.isIn session.watched = true)
    (deleted : event.kind = .deleted) (absent : host.doesExist event.path = false) :
    session.handle policy host event = session.forget event.path := by
  simp [handle, watched, deleted, absent]

/-- An event is ignored, reads its source or forgets it. -/
theorem handle_cases {motive : Session → Prop}
    (ignored : event.path.isIn session.watched = false → motive session)
    (read : event.path.isIn session.watched = true →
      (event.kind = .changed ∨ host.doesExist event.path = true) →
        motive (reload policy host session event.path))
    (forgotten : event.path.isIn session.watched = true → event.kind = .deleted →
      host.doesExist event.path = false → motive (session.forget event.path)) :
    motive (session.handle policy host event) := by
  by_cases watched : event.path.isIn session.watched = true
  · by_cases present : event.kind = .changed ∨ host.doesExist event.path = true
    · rw [handle_of_present watched present]
      exact read watched present
    · obtain ⟨changed, absent⟩ := not_or.mp present
      have deleted : event.kind = .deleted := by
        cases kind : event.kind with
        | changed => exact absurd kind changed
        | deleted => rfl
      rw [handle_of_absent watched deleted (Bool.eq_false_iff.mpr absent)]
      exact forgotten watched deleted (Bool.eq_false_iff.mpr absent)
  · rw [handle_of_unwatched (Bool.eq_false_iff.mpr watched)]
    exact ignored (Bool.eq_false_iff.mpr watched)

/-- An event does not touch the waiting events. -/
@[simp] theorem handle_queue : (session.handle policy host event).queue = session.queue :=
  handle_cases (motive := fun after => after.queue = session.queue) (fun _ => rfl)
    (fun _ _ => reload_queue) (fun _ _ _ => rfl)

/-- An event makes no source watched. -/
theorem isIn_watched_of_handle
    (watched : path.isIn (session.handle policy host event).watched = true) :
    path.isIn session.watched = true := by
  revert watched
  refine handle_cases (motive := fun after => path.isIn after.watched = true →
    path.isIn session.watched = true) (fun _ => id) (fun _ _ => ?_) (fun _ _ _ => ?_)
  · rw [reload_watched]
    exact id
  · exact fun watched => (isIn_watched_forget.mp watched).1

/-- Applying events in order is applying one after another. -/
theorem handleAll_fst :
    (handleAll policy host session events).1 = events.foldl (handle policy host) session := by
  induction events generalizing session with
  | nil => rfl
  | cons event rest ih => exact ih

/-- Draining a session applies its waiting events, none of which waits any longer. -/
theorem drain_fst :
    (drain policy host session).1 =
      session.queue.foldl (handle policy host) { session with queue := [] } :=
  handleAll_fst

/-- After draining a session no event waits. -/
theorem drain_queue : (drain policy host session).1.queue = [] := by
  rw [drain_fst]
  refine List.foldlRecOn session.queue (handle policy host) (b := { session with queue := [] })
    (motive := fun after => after.queue = []) rfl ?_
  intro after queue event _
  rw [handle_queue, queue]

end Citations.Session
