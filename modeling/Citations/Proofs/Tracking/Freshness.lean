import Citations.Proofs.Discovery.Found
import Citations.Proofs.Tracking.Run

/-!
# No update is lost

An engine works on files in memory that are written and removed at any time, and every change of
a subscribed file makes one event that waits. However documents, changes and events follow one
another, a watched source is either loaded as its file is or an event for it waits, so once no
event waits the loaded entries are those of the files.
-/
namespace Citations

namespace Memory

variable {files : List (Path × Text)} {path : Path} {text : Text}

/-- A memory of files that can all be read and watched, each under its own path. -/
def ofFiles (files : List (Path × Text)) : Memory := ⟨files, [], [], []⟩

/-- Such a file is read as its text. -/
theorem read_ofFiles (found : lookup? files path = some text) :
    (ofFiles files).host.read path = .ok text := by
  have target : (ofFiles files).target path = path := rfl
  have unlocked : path.isIn (ofFiles files).locked = false := rfl
  have stored : lookup? (ofFiles files).files path = some text := found
  simp only [host, target, unlocked, stored, Bool.false_eq_true, ↓reduceIte]

end Memory

namespace Session

variable {policy : Policy} {allowed : List Text} {files after : List (Path × Text)}
variable {pending rest : List Event} {event : Event}
variable {session : Session} {store : Store} {path other : Path}

/-! ## What is known about a source -/

/-- A store knows the file of a source up to the pending events. -/
structure Tracked (allowed : List Text) (files : List (Path × Text)) (pending : List Event)
    (store : Store) (path : Path) : Prop where
  /-- When the file is missing, its deletion is pending. -/
  missing : Memory.lookup? files path = none →
    ∃ event ∈ pending, Path.Same event.path path ∧ event.kind = .deleted
  /-- When the file can be parsed, its entries are loaded or an event for it is pending. -/
  present : ∀ (text : Text) (entries : List Entry), Memory.lookup? files path = some text →
    Source.parse path text allowed = .ok entries →
      store.Holds path entries ∨ ∃ event ∈ pending, Path.Same event.path path

/-- What is known about a source depends on its own entries and its own events only. -/
theorem Tracked.transfer {later : Store} (tracked : Tracked allowed files pending store path)
    (slot : later.entriesOf? path = store.entriesOf? path)
    (waits : ∀ event ∈ pending, Path.Same event.path path → event ∈ rest) :
    Tracked allowed files rest later path where
  missing := by
    intro gone
    obtain ⟨event, listed, same, deleted⟩ := tracked.missing gone
    exact ⟨event, waits event listed same, same, deleted⟩
  present := by
    intro text entries found parsed
    rcases tracked.present text entries found parsed with held | pends
    · obtain ⟨given, had, alike⟩ := held
      exact Or.inl ⟨given, slot.trans had, alike⟩
    · obtain ⟨event, listed, same⟩ := pends
      exact Or.inr ⟨event, waits event listed same, same⟩

/-- Reading a source gives it the entries of its file, whatever path is used for it. -/
theorem tracked_reload (same : Path.Same path other)
    (missing : Memory.lookup? files other = none →
      ∃ event ∈ pending, Path.Same event.path other ∧ event.kind = .deleted) :
    Tracked policy.allowed files pending
      (reload policy (Memory.ofFiles files).host session path).store other where
  missing := missing
  present := by
    intro text entries found parsed
    obtain ⟨given, reparsed, alike⟩ := Source.parse_congr same.symm parsed
    have read : (Memory.ofFiles files).host.read path = .ok text := by
      apply Memory.read_ofFiles
      rw [Memory.lookup?_congr same, found]
    have loaded := load_eq_ok_iff.mpr ⟨text, read, reparsed⟩
    exact Or.inl ⟨given, entriesOf?_reload_of_ok same loaded, Entry.forall₂_same_symm alike⟩

/-! ## The invariant -/

/-- A session knows the files of its watched sources up to the pending events. -/
structure Fresh (allowed : List Text) (files : List (Path × Text)) (pending : List Event)
    (session : Session) : Prop where
  /-- Events can still be queued. -/
  isOpen : session.isOpen = true
  /-- Changes of watched sources are reported. -/
  subscribed : ∀ path : Path, path.isIn session.watched = true →
    path.isIn session.subscriptions = true
  /-- Watched sources are tracked. -/
  tracked : ∀ path : Path, path.isIn session.watched = true →
    Tracked allowed files pending session.store path

/-- A waiting event for another source waits behind the oldest one. -/
theorem mem_rest_of_apart {waiting : Event} (listed : waiting ∈ event :: pending)
    (apart : ¬ Path.Same event.path waiting.path) : waiting ∈ pending := by
  rcases List.mem_cons.mp listed with rfl | later
  · exact absurd (Path.Same.refl _) apart
  · exact later

/-- A session that watches nothing knows its files. -/
theorem fresh_initial (allowed : List Text) (files : List (Path × Text)) :
    Fresh allowed files [] initial where
  isOpen := rfl
  subscribed := fun _ watched => watched
  tracked := fun _ watched => absurd watched Bool.false_ne_true

/-- A file that changes is known as long as its change is reported to whoever subscribed. -/
theorem Fresh.changed (fresh : Fresh allowed files pending session)
    (elsewhere : ∀ other, ¬ Path.Same event.path other →
      Memory.lookup? after other = Memory.lookup? files other)
    (told : Memory.lookup? after event.path = none → event.kind = .deleted)
    (reported : event.path.isIn session.subscriptions = true → event ∈ rest)
    (waits : ∀ waiting ∈ pending, waiting ∈ rest) : Fresh allowed after rest session where
  isOpen := fresh.isOpen
  subscribed := fresh.subscribed
  tracked := by
    intro path watched
    by_cases same : Path.Same event.path path
    · -- The new event accounts for the file, whatever was known of it before.
      have subscribed := fresh.subscribed path watched
      rw [← Path.isIn_congr same] at subscribed
      have listed := reported subscribed
      refine ⟨fun gone => ⟨event, listed, same, ?_⟩, fun _ _ _ _ => Or.inr ⟨event, listed, same⟩⟩
      apply told
      rw [Memory.lookup?_congr same, gone]
    · have before := (fresh.tracked path watched).transfer rfl fun waiting listed _ =>
        waits waiting listed
      have still := elsewhere path same
      refine ⟨fun gone => before.missing ?_, fun text entries found => ?_⟩
      · rw [← still, gone]
      · apply before.present text entries
        rw [← still, found]

/-! ## What the operations of a session keep -/

/-- Entering a source whose file exists loads it as it is. -/
theorem Fresh.enter (fresh : Fresh policy.allowed files pending session)
    (there : (Memory.lookup? files path).isSome = true) :
    Fresh policy.allowed files pending
      (enter policy (Memory.ofFiles files).host session path) := by
  by_cases known : path.isIn session.watched = true
  · rwa [enter_of_watched known]
  · have granted : (Memory.ofFiles files).host.refusal? path = none := rfl
    have unwatched := Bool.eq_false_iff.mpr known
    rw [enter_of_unwatched unwatched, subscribe_of_granted granted]
    refine ⟨?_, ?_, ?_⟩
    · rw [reload_isOpen]
      exact fresh.isOpen
    · intro other watched
      rw [reload_watched] at watched
      rw [reload_subscriptions]
      show other.isIn (session.subscriptions ++ [path]) = true
      rw [Path.isIn, List.any_append, Bool.or_eq_true]
      rcases Path.isIn_insertInto.mp watched with before | same
      · exact Or.inl (fresh.subscribed other before)
      · exact Or.inr (Path.isIn_cons.mpr (Or.inl same))
    · intro other watched
      rw [reload_watched] at watched
      by_cases same : Path.Same path other
      · apply tracked_reload same
        intro gone
        rw [Memory.lookup?_congr same, gone] at there
        contradiction
      · have before := (Path.isIn_insertInto.mp watched).resolve_right same
        exact (fresh.tracked other before).transfer (entriesOf?_reload_apart same)
          fun _ listed _ => listed

/-- Reading a watched source again makes its oldest event unnecessary, unless that event is the
deletion of a file that is missing. -/
theorem Fresh.reload (fresh : Fresh policy.allowed files (event :: pending) session)
    (there : event.kind = .changed ∨ (Memory.lookup? files event.path).isSome = true) :
    Fresh policy.allowed files pending
      (reload policy (Memory.ofFiles files).host session event.path) := by
  refine ⟨?_, ?_, ?_⟩
  · rw [reload_isOpen]
    exact fresh.isOpen
  · intro path watched
    rw [reload_watched] at watched
    rw [reload_subscriptions]
    exact fresh.subscribed path watched
  · intro path watched
    rw [reload_watched] at watched
    have tracked := fresh.tracked path watched
    by_cases same : Path.Same event.path path
    · apply tracked_reload same
      intro gone
      -- The pending deletion is not the oldest event, which reports a change or finds the file.
      obtain ⟨waiting, listed, equal, deleted⟩ := tracked.missing gone
      rcases List.mem_cons.mp listed with rfl | later
      · rw [Memory.lookup?_congr same, gone, deleted] at there
        rcases there with kind | found <;> contradiction
      · exact ⟨waiting, later, equal, deleted⟩
    · refine tracked.transfer (entriesOf?_reload_apart same) fun waiting listed equal => ?_
      exact mem_rest_of_apart listed fun spelled => same (spelled.trans equal)

/-- Forgetting a source makes its events unnecessary. -/
theorem Fresh.forget (fresh : Fresh allowed files pending session) (path : Path)
    (waits : ∀ event ∈ pending, ¬ Path.Same path event.path → event ∈ rest) :
    Fresh allowed files rest (session.forget path) where
  isOpen := fresh.isOpen
  subscribed := by
    intro other watched
    obtain ⟨before, apart⟩ := isIn_watched_forget.mp watched
    exact Path.isIn_removeFrom.mpr ⟨fresh.subscribed other before, apart⟩
  tracked := by
    intro other watched
    obtain ⟨before, apart⟩ := isIn_watched_forget.mp watched
    refine (fresh.tracked other before).transfer (entriesOf?_forget_apart apart) ?_
    intro event listed same
    exact waits event listed fun equal => apart (equal.trans same)

/-- Applying the oldest event makes it unnecessary. -/
theorem Fresh.handle (fresh : Fresh policy.allowed files (event :: pending) session) :
    Fresh policy.allowed files pending
      (session.handle policy (Memory.ofFiles files).host event) := by
  apply handle_cases
  · intro unwatched
    refine ⟨fresh.isOpen, fresh.subscribed, fun path watched => ?_⟩
    have apart : ¬ Path.Same event.path path := Path.not_same_of_isIn watched unwatched
    refine (fresh.tracked path watched).transfer rfl fun waiting listed same => ?_
    exact mem_rest_of_apart listed fun spelled => apart (spelled.trans same)
  · exact fun _ there => fresh.reload there
  · intro _ _ _
    exact fresh.forget event.path fun waiting listed apart => mem_rest_of_apart listed apart

/-- Applying all pending events makes them unnecessary. -/
theorem Fresh.handleAll (fresh : Fresh policy.allowed files pending session) :
    Fresh policy.allowed files []
      (pending.foldl (Session.handle policy (Memory.ofFiles files).host) session) := by
  induction pending generalizing session with
  | nil => exact fresh
  | cons event rest ih => exact ih fresh.handle

/-- Draining a session makes its waiting events unnecessary. -/
theorem Fresh.drain (fresh : Fresh policy.allowed files session.queue session) :
    Fresh policy.allowed files [] (session.drain policy (Memory.ofFiles files).host).1 := by
  have emptied : Fresh policy.allowed files session.queue { session with queue := [] } :=
    ⟨fresh.isOpen, fresh.subscribed, fresh.tracked⟩
  rw [drain_fst]
  exact emptied.handleAll

/-- A discovery whose sources all exist keeps what a session knows, and its waiting events. -/
theorem Fresh.reconcile {found : List Path}
    (fresh : Fresh policy.allowed files session.queue session)
    (there : ∀ path ∈ found, (Memory.lookup? files path).isSome = true) :
    Fresh policy.allowed files
      (reconcile policy (Memory.ofFiles files).host session found).queue
      (reconcile policy (Memory.ofFiles files).host session found) := by
  refine (reconcile_induction (motive := fun after : Session => after.queue = session.queue ∧
    Fresh policy.allowed files after.queue after) ⟨rfl, fresh⟩ ?_ ?_).2
  · rintro after ⟨queue, known⟩ path listed
    rw [enter_queue]
    exact ⟨queue, known.enter (there path listed)⟩
  · rintro after ⟨queue, known⟩ path _ _
    exact ⟨queue, known.forget path fun _ listed _ => listed⟩

end Session

/-! ## Runs -/

/-- An engine and the files that it works on. -/
structure World where
  /-- The engine. -/
  engine : Engine
  /-- The files. -/
  files : List (Path × Text)

namespace World

/-- What can happen in a world. -/
inductive Move where
  /-- A document becomes the active one. -/
  | activate (text : Text) (document? : Option Path)
  /-- A file is written. -/
  | write (path : Path) (text : Text)
  /-- A file is removed. -/
  | remove (path : Path)
  /-- The oldest waiting event is applied. -/
  | deliver
  /-- All waiting events are applied. -/
  | pump

/-- The host that the files make up. -/
def host (world : World) : Host := (Memory.ofFiles world.files).host

/-- Let an event wait if its source is subscribed to. -/
def report (world : World) (event : Event) : World :=
  if event.path.isIn world.engine.session.subscriptions then
    { world with engine := world.engine.perform world.host (.send event) }
  else world

/-- Apply the oldest waiting event. -/
def deliver (world : World) : World :=
  match world.engine.session.next.2 with
  | .event event =>
    let taken := world.engine.perform world.host .next
    { world with engine := taken.perform world.host (.handle event) }
  | _ => world

/-- The world after a move. -/
def move (world : World) : Move → World
  | .activate text document? =>
    { world with engine := world.engine.perform world.host (.activate text document?) }
  | .write path text =>
    { world.report ⟨path, .changed⟩ with
      files := ((Memory.ofFiles world.files).write path text).files }
  | .remove path =>
    { world.report ⟨path, .deleted⟩ with
      files := ((Memory.ofFiles world.files).remove path).files }
  | .deliver => world.deliver
  | .pump => { world with engine := world.engine.perform world.host .pump }

/-- The world after some moves. -/
def run (world : World) (moves : List Move) : World := moves.foldl move world

variable {world : World}

/-- The engine of a world knows its files up to the waiting events. -/
def Fresh (world : World) : Prop :=
  Session.Fresh world.engine.settings.allowed world.files world.engine.session.queue
    world.engine.session

/-- Reporting an event lets it wait when its source is subscribed to, and does nothing else. -/
theorem report_engine (isOpen : world.engine.session.isOpen = true) (event : Event) :
    (world.report event).engine =
      { world.engine with
        session := { world.engine.session with
          queue := world.engine.session.queue ++
            if event.path.isIn world.engine.session.subscriptions then [event] else [] } } := by
  unfold report
  split
  · simp [Engine.perform, Session.send, isOpen]
  · simp

/-- Files whose changes are reported stay known. -/
theorem Fresh.report (fresh : world.Fresh) (event : Event) {after : List (Path × Text)}
    (elsewhere : ∀ other, ¬ Path.Same event.path other →
      Memory.lookup? after other = Memory.lookup? world.files other)
    (told : Memory.lookup? after event.path = none → event.kind = .deleted) :
    Fresh { world.report event with files := after } := by
  have known : Session.Fresh world.engine.settings.allowed after
      (world.engine.session.queue ++
        if event.path.isIn world.engine.session.subscriptions then [event] else [])
      world.engine.session := by
    apply Session.Fresh.changed fresh elsewhere told
    · intro subscribed
      rw [if_pos subscribed]
      exact List.mem_append_right _ List.mem_cons_self
    · exact fun waiting listed => List.mem_append_left _ listed
  show Session.Fresh (world.report event).engine.settings.allowed after
    (world.report event).engine.session.queue (world.report event).engine.session
  rw [report_engine known.isOpen]
  exact ⟨known.isOpen, known.subscribed, known.tracked⟩

/-- Applying the oldest waiting event keeps the files known. -/
theorem Fresh.deliver (fresh : world.Fresh) : world.deliver.Fresh := by
  unfold World.deliver Session.next
  cases waiting : world.engine.session.queue with
  | nil =>
    dsimp only
    split
    · rename_i taken
      split at taken <;> cases taken
    · exact fresh
  | cons event rest =>
    have taken : (world.engine.perform world.host .next).session =
        { world.engine.session with queue := rest } := by
      simp only [Engine.perform, Engine.next_fst, waiting, List.tail_cons]
    have known : Session.Fresh world.engine.policy.allowed world.files (event :: rest)
        (world.engine.perform world.host .next).session := by
      rw [taken, ← waiting]
      exact ⟨fresh.isOpen, fresh.subscribed, fresh.tracked⟩
    have applied : Session.Fresh world.engine.policy.allowed world.files rest
        (Session.handle world.engine.policy world.host
          (world.engine.perform world.host .next).session event) := known.handle
    have queue : (Session.handle world.engine.policy world.host
        (world.engine.perform world.host .next).session event).queue = rest := by
      rw [Session.handle_queue, taken]
    rw [← queue] at applied
    exact applied

/-- Every move keeps the files known. -/
theorem Fresh.move (fresh : world.Fresh) (move : Move) : (world.move move).Fresh := by
  cases move with
  | activate text document? =>
    let discovered := world.engine.discover world.host text document?
    let noticed : Session :=
      { world.engine.session with notices := world.engine.session.notices ++ discovered.2 }
    have known : Session.Fresh world.engine.policy.allowed world.files noticed.queue noticed :=
      ⟨fresh.isOpen, fresh.subscribed, fresh.tracked⟩
    have there : ∀ path ∈ discovered.1, (Memory.lookup? world.files path).isSome = true := by
      intro path listed
      have found : path.isIn discovered.1 = true := Path.isIn_of_mem listed
      exact Discovery.isSome_of_isIn_discover found
    exact known.reconcile there
  | write path text =>
    refine fresh.report ⟨path, .changed⟩ ?_ ?_
    · exact fun other apart => Memory.lookup?_write_apart _ text apart
    · intro gone
      rw [Memory.lookup?_write_same _ text (Path.Same.refl path)] at gone
      contradiction
  | remove path =>
    refine fresh.report ⟨path, .deleted⟩ ?_ fun _ => rfl
    exact fun other apart => Memory.lookup?_without_apart apart _
  | deliver => exact fresh.deliver
  | pump =>
    have drained : Session.Fresh world.engine.policy.allowed world.files []
        (world.engine.session.drain world.engine.policy world.host).1 := Session.Fresh.drain fresh
    rw [← Session.drain_queue] at drained
    exact drained

/-- No move changes the settings. -/
@[simp] theorem move_settings (world : World) (move : Move) :
    (world.move move).engine.settings = world.engine.settings := by
  have report : ∀ event, (world.report event).engine.settings = world.engine.settings := by
    intro event
    unfold World.report
    split
    · exact Engine.perform_settings _ _ _
    · rfl
  cases move with
  | activate text document? => exact Engine.perform_settings _ _ _
  | write path text => exact report _
  | remove path => exact report _
  | deliver =>
    show world.deliver.engine.settings = _
    unfold deliver
    split
    · rw [Engine.perform_settings, Engine.perform_settings]
    · rfl
  | pump => exact Engine.perform_settings _ _ _

/-- After every run of a world a watched source that is missing has its deletion waiting, and a
watched source that can be parsed is loaded as its file is or has an event waiting. So when no
event waits, no watched source is missing and all that can be parsed are loaded as they are. -/
theorem run_fresh (settings : Settings) (current : Path) (root? : Option Path)
    (files : List (Path × Text)) (moves : List Move) :
    let world := run ⟨Engine.initial settings current root?, files⟩ moves
    (∀ path : Path, path.isIn world.engine.session.watched = true →
      (Memory.lookup? world.files path = none →
        ∃ event ∈ world.engine.session.queue, Path.Same event.path path ∧
          event.kind = .deleted) ∧
      ∀ (text : Text) (entries : List Entry), Memory.lookup? world.files path = some text →
        Source.parse path text settings.allowed = .ok entries →
          world.engine.session.store.Holds path entries ∨
            ∃ event ∈ world.engine.session.queue, Path.Same event.path path) ∧
    (world.engine.session.queue = [] →
      ∀ path : Path, path.isIn world.engine.session.watched = true →
        ∃ text, Memory.lookup? world.files path = some text ∧
          ∀ entries, Source.parse path text settings.allowed = .ok entries →
            world.engine.session.store.Holds path entries) := by
  intro world
  have reached : world.engine.settings = settings ∧ world.Fresh := by
    refine List.foldlRecOn moves move (motive := fun world : World =>
      world.engine.settings = settings ∧ world.Fresh)
      ⟨rfl, Session.fresh_initial settings.allowed files⟩ ?_
    rintro before ⟨same, fresh⟩ step _
    exact ⟨(move_settings before step).trans same, fresh.move step⟩
  have tracked := reached.2.tracked
  rw [reached.1] at tracked
  refine ⟨?_, ?_⟩
  · exact fun path watched => ⟨(tracked path watched).missing, (tracked path watched).present⟩
  · intro quiet path watched
    rw [quiet] at tracked
    cases found : Memory.lookup? world.files path with
    | none =>
      obtain ⟨event, waits, _⟩ := (tracked path watched).missing found
      cases waits
    | some text =>
      refine ⟨text, rfl, ?_⟩
      intro entries parsed
      rcases (tracked path watched).present text entries found parsed with held | ⟨event, waits, _⟩
      · exact held
      · cases waits

end World

end Citations
