import Citations.Proofs.Tracking.Operations

/-!
# Draining depends only on what was reported

The events that wait while the host stays as it is may be reported in any order and more than
once. What they do to a source is decided by which events there are: a deletion of a source that
is not there ends its watch, whatever came before or comes after, and any other event reads it.
So two queues that report the same things leave the same sources watched, with the same entries.
-/
namespace Citations.Session

variable {policy : Policy} {host : Host} {session : Session} {event : Event}
variable {events left right : List Event} {path : Path} {kind : EventKind}

/-! ## What events report -/

/-- The sources that some event is about. -/
def subjects (events : List Event) : List Path := events.map (·.path)

/-- Whether an event ends the watch of its source: the source was deleted and is not there. -/
def ends (host : Host) (event : Event) : Bool :=
  event.kind = .deleted && !host.doesExist event.path

/-- The sources whose watch some event ends. -/
def ended (host : Host) (events : List Event) : List Path := subjects (events.filter (ends host))

/-- The watched sources whose watch some event ends. -/
def lost (host : Host) (session : Session) (events : List Event) : List Path :=
  (ended host events).filter fun path => path.isIn session.watched

/-- A source is lost when its watch ends and it was watched. -/
theorem isIn_lost :
    path.isIn (lost host session events) = true ↔
      path.isIn (ended host events) = true ∧ path.isIn session.watched = true :=
  Path.isIn_filter fun _ _ same => Path.isIn_congr same session.watched

/-! ## What a single event does -/

/-- An event loses its source and forgets it, or loses nothing and reads a watched source or does
nothing. -/
theorem handle_outcome (policy : Policy) (host : Host) (session : Session) (event : Event) :
    (lost host session [event] = [event.path] ∧
        session.handle policy host event = session.forget event.path) ∨
      (lost host session [event] = [] ∧
        ((event.path.isIn session.watched = true ∧
            session.handle policy host event = reload policy host session event.path) ∨
          (event.path.isIn session.watched = false ∧
            session.handle policy host event = session))) := by
  by_cases watched : event.path.isIn session.watched = true
  · by_cases final : event.kind = .deleted ∧ host.doesExist event.path = false
    · refine Or.inl ⟨?_, handle_of_absent watched final.1 final.2⟩
      simp [lost, ended, subjects, ends, final, watched]
    · have present : event.kind = .changed ∨ host.doesExist event.path = true := by
        cases kind : event.kind with
        | changed => exact Or.inl rfl
        | deleted => exact Or.inr (by simpa [kind] using final)
      refine Or.inr ⟨?_, Or.inl ⟨watched, handle_of_present watched present⟩⟩
      rcases present with changed | there
      · simp [lost, ended, subjects, ends, changed]
      · simp [lost, ended, subjects, ends, there]
  · have unwatched := Bool.eq_false_iff.mpr watched
    refine Or.inr ⟨?_, Or.inr ⟨unwatched, handle_of_unwatched unwatched⟩⟩
    refine List.filter_eq_nil_iff.mpr fun path member => ?_
    obtain ⟨only, chosen, rfl⟩ := List.mem_map.mp member
    rw [List.mem_singleton.mp (List.mem_filter.mp chosen).1, unwatched]
    exact Bool.false_ne_true

/-- An event leaves all but the source that it loses watched. -/
theorem watched_handle (policy : Policy) (host : Host) (session : Session) (event : Event) :
    (session.handle policy host event).watched =
      session.watched.filter fun path => !path.isIn (lost host session [event]) := by
  rcases handle_outcome policy host session event with
    ⟨lost, handled⟩ | ⟨none, ⟨_, handled⟩ | ⟨_, handled⟩⟩
  · rw [lost, handled, ← Path.removeFrom_eq_filter]
    rfl
  · rw [none, handled, Path.filter_not_isIn_nil, reload_watched]
  · rw [none, handled, Path.filter_not_isIn_nil]

/-- A source is watched after an event when it was before and the event does not lose it. -/
theorem isIn_watched_handle (policy : Policy) (host : Host) (session : Session) (event : Event)
    (path : Path) :
    path.isIn (session.handle policy host event).watched = true ↔
      path.isIn session.watched = true ∧ ¬ path.isIn (lost host session [event]) = true := by
  rw [watched_handle, Path.isIn_filter fun left right same => by rw [Path.isIn_congr same],
    Bool.not_eq_true', Bool.not_eq_true]

/-- An event leaves the subscriptions to all but the source that it loses. -/
theorem subscriptions_handle (policy : Policy) (host : Host) (session : Session) (event : Event) :
    (session.handle policy host event).subscriptions =
      session.subscriptions.filter fun path => !path.isIn (lost host session [event]) := by
  rcases handle_outcome policy host session event with
    ⟨lost, handled⟩ | ⟨none, ⟨_, handled⟩ | ⟨_, handled⟩⟩
  · rw [lost, handled, ← Path.removeFrom_eq_filter]
    rfl
  · rw [none, handled, Path.filter_not_isIn_nil, reload_subscriptions]
  · rw [none, handled, Path.filter_not_isIn_nil]

/-- The sources whose watch ends, with one more event in front. -/
theorem ended_cons (host : Host) (event : Event) (events : List Event) :
    ended host (event :: events) = ended host [event] ++ ended host events := by
  unfold ended subjects
  rw [← List.map_append, ← List.filter_append, List.singleton_append]

/-- What several events do not lose, neither the first nor the later ones lose. -/
theorem not_isIn_lost_cons (policy : Policy) (host : Host) (session : Session) (event : Event)
    (events : List Event) (path : Path) :
    (!path.isIn (lost host session (event :: events))) =
      (!path.isIn (lost host session [event]) &&
        !path.isIn (lost host (session.handle policy host event) events)) := by
  have still := isIn_watched_handle policy host session event path
  rw [Bool.eq_iff_iff, Bool.and_eq_true]
  simp only [Bool.not_eq_true', ← Bool.not_eq_true, isIn_lost, still]
  rw [ended_cons, Path.isIn_append]
  tauto

/-- What several events leave of a list of sources, they leave of it one after another. -/
theorem filter_lost_cons (policy : Policy) (host : Host) (session : Session) (event : Event)
    (events : List Event) (paths : List Path) :
    (paths.filter fun path => !path.isIn (lost host session (event :: events))) =
      (paths.filter fun path => !path.isIn (lost host session [event])).filter fun path =>
        !path.isIn (lost host (session.handle policy host event) events) := by
  rw [List.filter_filter]
  refine List.filter_congr fun path _ => ?_
  rw [not_isIn_lost_cons policy host session event events path, Bool.and_comm]

/-- What every event leaves of a list of sources, several events leave of it together. -/
theorem foldl_handle_eq_filter {sources : Session → List Path}
    (each : ∀ session event, sources (session.handle policy host event) =
      (sources session).filter fun path => !path.isIn (lost host session [event]))
    (events : List Event) (session : Session) :
    sources (events.foldl (handle policy host) session) =
      (sources session).filter fun path => !path.isIn (lost host session events) := by
  induction events generalizing session with
  | nil => exact (Path.filter_not_isIn_nil _).symm
  | cons event rest ih =>
    rw [List.foldl_cons, ih, each, filter_lost_cons policy host session event rest]

/-- What a source has once events were applied: nothing when they lose it, what its file gives
when one of them is about it, it is watched and it can be loaded, and otherwise what it had. -/
def settled (policy : Policy) (host : Host) (session : Session) (events : List Event)
    (path : Path) : Option (List Entry) :=
  if path.isIn (lost host session events) then none
  else if path.isIn (subjects events) && path.isIn session.watched then
    (load policy host path).toOption.or (session.store.entriesOf? path)
  else session.store.entriesOf? path

end Citations.Session
