import Citations.Proofs.Tracking.Run

/-!
# Watched sources and loaded entries stay aligned

The watched sources and the slots of the store are separate lists that different operations
change. After every run they fit together: no source is watched twice or has two slots, only
watched sources have slots, and the entries of a slot come from its source and keep allowed
fields. Only activating a document makes a source watched, so a forgotten source does not come
back through events.
-/
namespace Citations

namespace Session

variable {policy : Policy} {session : Session} {allowed : List Text}

/-- Every source is listed once, and only watched sources have slots. -/
structure Tidy (session : Session) : Prop where
  /-- No source is watched twice. -/
  watchedDistinct : Path.Distinct session.watched
  /-- No source has two slots. -/
  sourcesDistinct : Path.Distinct session.store.sources
  /-- Only watched sources have slots. -/
  sourcesWatched : ∀ path : Path, path.isIn session.store.sources = true →
    path.isIn session.watched = true

/-- A session that watches nothing is tidy. -/
theorem tidy_initial : Tidy initial where
  watchedDistinct := List.Pairwise.nil
  sourcesDistinct := List.Pairwise.nil
  sourcesWatched := fun _ member => member

/-- A source that becomes watched has no slot yet, so the slots stay as they were. -/
theorem Tidy.entered (tidy : Tidy session) (host : Host) (path : Path) :
    Tidy (Incident.apply policy session (.entered host path)) := by
  have watched : (Incident.apply policy session (.entered host path)).watched =
      path.insertInto session.watched := by
    simp [Incident.apply]
  have store : (Incident.apply policy session (.entered host path)).store = session.store :=
    subscribe_store
  refine ⟨?_, ?_, ?_⟩
  · rw [watched]
    exact tidy.watchedDistinct.insertInto path
  · rw [store]
    exact tidy.sourcesDistinct
  · rw [store, watched]
    exact fun other slotted =>
      Path.isIn_insertInto.mpr (Or.inl (tidy.sourcesWatched other slotted))

/-- Reading a watched source fills its slot, or changes no slot. -/
theorem Tidy.loaded (tidy : Tidy session) (host : Host) {path : Path}
    (listed : path.isIn session.watched = true) : Tidy (reload policy host session path) := by
  cases outcome : load policy host path with
  | error error =>
    rw [reload_of_error outcome]
    exact ⟨tidy.watchedDistinct, tidy.sourcesDistinct, tidy.sourcesWatched⟩
  | ok entries =>
    rw [reload_of_ok outcome]
    refine ⟨tidy.watchedDistinct, ?_, ?_⟩
    · show Path.Distinct (session.store.upsert path entries).sources
      rw [Store.sources_upsert]
      exact tidy.sourcesDistinct.insertInto path
    · intro other slotted
      rw [Store.sources_upsert] at slotted
      rcases Path.isIn_insertInto.mp slotted with known | same
      · exact tidy.sourcesWatched other known
      · rwa [← Path.isIn_congr same]

/-- A source that is no longer watched takes its slot with it. -/
theorem Tidy.left (tidy : Tidy session) (path : Path) : Tidy (session.forget path) where
  watchedDistinct := tidy.watchedDistinct.removeFrom path
  sourcesDistinct := by
    show Path.Distinct (session.store.evict path).sources
    rw [Store.sources_evict]
    exact tidy.sourcesDistinct.removeFrom path
  sourcesWatched := by
    intro other slotted
    change other.isIn (session.store.evict path).sources = true at slotted
    rw [Store.sources_evict] at slotted
    obtain ⟨known, apart⟩ := Path.isIn_removeFrom.mp slotted
    exact isIn_watched_forget.mpr ⟨tidy.sourcesWatched other known, apart⟩

/-- Every possible incident keeps a session tidy. -/
theorem kept_tidy (policy : Policy) : Kept policy fun _ => Tidy where
  aside _ _ _ tidy := ⟨tidy.watchedDistinct, tidy.sourcesDistinct, tidy.sourcesWatched⟩
  step incident possible tidy := by
    cases incident with
    | entered host path => exact tidy.entered host path
    | loaded host path => exact tidy.loaded host possible
    | left path => exact tidy.left path

/-- A source that is not watched is given no entries. -/
theorem Tidy.entriesOf?_of_unwatched (tidy : Tidy session) {path : Path}
    (unwatched : path.isIn session.watched = false) : session.store.entriesOf? path = none := by
  rw [← Option.isNone_iff_eq_none, ← Option.not_isSome, ← Store.holds_eq_isSome,
    Store.holds_eq_isIn]
  cases slotted : path.isIn session.store.sources with
  | false => rfl
  | true =>
    rw [tidy.sourcesWatched path slotted] at unwatched
    contradiction

/-- The watched sources and the loaded entries fit together. -/
structure Aligned (allowed : List Text) (session : Session) : Prop where
  /-- No source is watched twice. -/
  watchedDistinct : Path.Distinct session.watched
  /-- No source has two slots. -/
  sourcesDistinct : Path.Distinct session.store.sources
  /-- Only watched sources have slots. -/
  sourcesWatched : ∀ path : Path, path.isIn session.store.sources = true →
    path.isIn session.watched = true
  /-- The entries of a slot name its source and keep allowed fields only. -/
  entriesBelong : ∀ slot ∈ session.store.slots, ∀ entry ∈ slot.entries,
    entry.BelongsTo slot.path allowed

/-- An aligned session is tidy. -/
theorem Aligned.tidy (aligned : Aligned allowed session) : Tidy session :=
  ⟨aligned.watchedDistinct, aligned.sourcesDistinct, aligned.sourcesWatched⟩

/-- A tidy session is aligned when the entries of every slot belong there. -/
theorem Tidy.aligned (tidy : Tidy session)
    (belong : ∀ slot ∈ session.store.slots, ∀ entry ∈ slot.entries,
      entry.BelongsTo slot.path allowed) : Aligned allowed session :=
  ⟨tidy.watchedDistinct, tidy.sourcesDistinct, tidy.sourcesWatched, belong⟩

/-- A session that watches nothing is aligned. -/
theorem aligned_initial (allowed : List Text) : Aligned allowed initial :=
  tidy_initial.aligned fun _ member => by cases member

/-- Notices and waiting events do not matter. -/
theorem Aligned.aside (aligned : Aligned allowed session) (notices : List Notice)
    (queue : List Event) (isOpen : Bool) :
    Aligned allowed { session with notices, queue, isOpen } :=
  ⟨aligned.watchedDistinct, aligned.sourcesDistinct, aligned.sourcesWatched,
    aligned.entriesBelong⟩

/-- A source that becomes watched leaves the slots as they were. -/
theorem Aligned.entered (aligned : Aligned allowed session) (host : Host) (path : Path) :
    Aligned allowed (Incident.apply policy session (.entered host path)) := by
  have store : (Incident.apply policy session (.entered host path)).store = session.store :=
    subscribe_store
  refine (aligned.tidy.entered host path).aligned ?_
  rw [store]
  exact aligned.entriesBelong

/-- Reading a watched source fills its slot with entries of its own, or changes nothing. -/
theorem Aligned.loaded (aligned : Aligned policy.allowed session) (host : Host) {path : Path}
    (listed : path.isIn session.watched = true) :
    Aligned policy.allowed (reload policy host session path) := by
  refine (aligned.tidy.loaded host listed).aligned ?_
  cases outcome : load policy host path with
  | error error =>
    rw [reload_of_error outcome]
    exact aligned.entriesBelong
  | ok entries =>
    obtain ⟨text, _, parsed⟩ := load_eq_ok_iff.mp outcome
    rw [reload_of_ok outcome]
    intro slot member entry inside
    rcases Store.mem_slots_upsert member with known | ⟨same, filled⟩
    · exact aligned.entriesBelong slot known entry inside
    · rw [filled] at inside
      have belongs := Source.parse_belongs parsed entry inside
      exact ⟨belongs.1.trans same.symm, belongs.2⟩

/-- A source that is no longer watched takes its slot and nothing else. -/
theorem Aligned.left (aligned : Aligned allowed session) (path : Path) :
    Aligned allowed (session.forget path) :=
  (aligned.tidy.left path).aligned fun slot member =>
    aligned.entriesBelong slot (List.mem_filter.mp member).1

/-- Every possible incident keeps a session aligned. -/
theorem kept_aligned (policy : Policy) : Kept policy fun _ => Aligned policy.allowed where
  aside notices queue isOpen aligned := aligned.aside notices queue isOpen
  step incident possible aligned := by
    cases incident with
    | entered host path => exact aligned.entered host path
    | loaded host path => exact aligned.loaded host possible
    | left path => exact aligned.left path

/-- Draining a session makes no source watched. -/
theorem isIn_watched_of_drain {host : Host} {path : Path}
    (watched : path.isIn (session.drain policy host).1.watched = true) :
    path.isIn session.watched = true := by
  rw [drain_fst] at watched
  revert watched
  refine List.foldlRecOn session.queue (handle policy host) (b := { session with queue := [] })
    (motive := fun after => path.isIn after.watched = true → path.isIn session.watched = true)
    id ?_
  intro after earlier event _ watched
  exact earlier (isIn_watched_of_handle watched)

end Session

namespace Engine

/-- Whether an operation activates a document. -/
def Operation.activates : Operation → Bool
  | .activate _ _ => true
  | _ => false

/-- Only activating a document makes a source watched. -/
theorem isIn_watched_of_perform {engine : Engine} {host : Host} {operation : Operation}
    {path : Path} (passive : operation.activates = false)
    (watched : path.isIn (engine.perform host operation).session.watched = true) :
    path.isIn engine.session.watched = true := by
  cases operation with
  | activate text document? => contradiction
  | handle event => exact Session.isIn_watched_of_handle watched
  | pump => exact Session.isIn_watched_of_drain watched
  | send event =>
    simp only [perform, Session.send] at watched
    split at watched <;> exact watched
  | next =>
    simp only [perform, next_fst] at watched
    exact watched
  | close => exact watched
  | suggest => exact watched
  | takeNotices => exact watched

/-- After every run the watched sources and the loaded entries are aligned, no further run makes
a source watched without activating a document, and an event for a source that is not watched
has no effect. -/
theorem run_aligned (settings : Settings) (current : Path) (root? : Option Path)
    (steps : List Step) :
    let engine := (initial settings current root?).run steps
    engine.session.Aligned settings.allowed ∧
      (∀ later : List Step, (∀ step ∈ later, step.operation.activates = false) →
        ∀ path : Path, path.isIn (engine.run later).session.watched = true →
          path.isIn engine.session.watched = true) ∧
      ∀ (host : Host) (event : Event), event.path.isIn engine.session.watched = false →
        engine.session.concerns event = false ∧ engine.handle host event = engine := by
  intro engine
  refine ⟨?_, ?_, ?_⟩
  · exact (Session.kept_aligned (initial settings current root?).policy).run [] steps
      (Session.aligned_initial settings.allowed)
  · intro later passive path
    refine List.foldlRecOn later _ (motive := fun after : Engine =>
      path.isIn after.session.watched = true → path.isIn engine.session.watched = true) id ?_
    intro after earlier step taken watched
    exact earlier (isIn_watched_of_perform (passive step taken) watched)
  · intro host event unwatched
    refine ⟨unwatched, ?_⟩
    rw [Engine.handle, Session.handle_of_unwatched unwatched]

end Engine

end Citations
