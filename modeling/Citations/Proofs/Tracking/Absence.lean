import Citations.Proofs.Discovery.Found
import Citations.Proofs.Tracking.Run

/-!
# How loaded sources are lost

A watched source with entries is lost in two ways: by an event that says it was deleted while its
file is missing, and by a discovery that does not find it while unused sources are forgotten. A
discovery only finds files that exist, so the second way does not tell a source that the document
no longer declares from one whose file is away for a moment: activating a document between the
two halves of a save that removes and writes the file anew loses its entries.
-/
namespace Citations

namespace Session

variable {policy : Policy} {host : Host} {session : Session} {path : Path}
variable {event : Event} {events : List Event}

/-- A source is watched and has a slot. -/
structure Tracks (session : Session) (path : Path) : Prop where
  /-- The source is watched. -/
  watched : path.isIn session.watched = true
  /-- The source has a slot. -/
  holds : session.store.holds path = true

/-- A source is not watched and has no slot. -/
structure Lost (session : Session) (path : Path) : Prop where
  /-- The source is not watched. -/
  unwatched : path.isIn session.watched = false
  /-- The source has no slot. -/
  empty : session.store.holds path = false

/-- A tracked source is not lost. -/
theorem Tracks.not_lost (tracks : Tracks session path) : ¬ Lost session path := by
  intro lost
  have watched := tracks.watched
  rw [lost.unwatched] at watched
  contradiction

/-- The deletion of a source whose file is missing. -/
def Ends (host : Host) (path : Path) (event : Event) : Prop :=
  event.kind = .deleted ∧ Path.Same event.path path ∧ host.doesExist event.path = false

/-! ## Events -/

/-- Reading a source loses no slot. -/
theorem holds_reload {other : Path} (held : session.store.holds path = true) :
    (reload policy host session other).store.holds path = true := by
  cases outcome : load policy host other with
  | error error =>
    rw [Store.holds_congr (entriesOf?_reload_of_error outcome)]
    exact held
  | ok entries =>
    by_cases same : Path.Same other path
    · rw [Store.holds_eq_isSome, entriesOf?_reload_of_ok same outcome]
      rfl
    · rw [Store.holds_congr (entriesOf?_reload_apart same)]
      exact held

/-- A forgotten source is lost. -/
theorem lost_forget {other : Path} (same : Path.Same other path) :
    Lost (session.forget other) path where
  unwatched := by
    rw [← Bool.not_eq_true, isIn_watched_forget]
    exact fun kept => kept.2 same
  empty := by
    rw [Store.holds_eq_isSome, entriesOf?_forget_same same]
    rfl

/-- Only an event that ends a source loses it. -/
theorem Tracks.handle (tracks : Tracks session path) (goes : ¬ Ends host path event) :
    Tracks (session.handle policy host event) path := by
  refine handle_cases (motive := fun after => Tracks after path) ?_ ?_ ?_
  · exact fun _ => tracks
  · intro _ _
    refine ⟨?_, holds_reload tracks.holds⟩
    rw [reload_watched]
    exact tracks.watched
  · intro _ deleted absent
    have apart : ¬ Path.Same event.path path := fun same => goes ⟨deleted, same, absent⟩
    refine ⟨isIn_watched_forget.mpr ⟨tracks.watched, apart⟩, ?_⟩
    rw [Store.holds_congr (entriesOf?_forget_apart apart)]
    exact tracks.holds

/-- An event that ends a source loses it. -/
theorem Tracks.handle_ends (tracks : Tracks session path) (ends : Ends host path event) :
    Lost (session.handle policy host event) path := by
  obtain ⟨deleted, same, absent⟩ := ends
  have watched : event.path.isIn session.watched = true := by
    rw [Path.isIn_congr same]
    exact tracks.watched
  rw [handle_of_absent watched deleted absent]
  exact lost_forget same

/-- No event brings a lost source back. -/
theorem Lost.handle (lost : Lost session path) : Lost (session.handle policy host event) path := by
  refine ⟨?_, ?_⟩
  · rw [← Bool.not_eq_true]
    intro watched
    have before := isIn_watched_of_handle watched
    rw [lost.unwatched] at before
    contradiction
  · refine handle_cases (motive := fun after => after.store.holds path = false) ?_ ?_ ?_
    · exact fun _ => lost.empty
    · intro watched _
      have apart : ¬ Path.Same event.path path := fun same =>
        Path.not_same_of_isIn watched lost.unwatched same.symm
      rw [Store.holds_congr (entriesOf?_reload_apart apart)]
      exact lost.empty
    · intro _ _ _
      by_cases same : Path.Same event.path path
      · exact (lost_forget same).empty
      · rw [Store.holds_congr (entriesOf?_forget_apart same)]
        exact lost.empty

/-- Events lose a source when one of them ends it. -/
theorem Tracks.handleAll (tracks : Tracks session path) :
    ((∀ event ∈ events, ¬ Ends host path event) →
      Tracks (events.foldl (Session.handle policy host) session) path) ∧
    ((∃ event ∈ events, Ends host path event) →
      Lost (events.foldl (Session.handle policy host) session) path) := by
  induction events generalizing session with
  | nil =>
    refine ⟨fun _ => tracks, ?_⟩
    rintro ⟨event, listed, _⟩
    cases listed
  | cons event rest ih =>
    by_cases ends : Ends host path event
    · -- The source is lost here, and the remaining events do not bring it back.
      refine ⟨fun none => absurd ends (none event List.mem_cons_self), fun _ => ?_⟩
      refine List.foldlRecOn rest (Session.handle policy host)
        (motive := fun after => Lost after path) (tracks.handle_ends ends) ?_
      exact fun after lost event _ => lost.handle
    · obtain ⟨kept, lost⟩ := ih (tracks.handle ends)
      refine ⟨fun none => kept fun event listed => none event (List.mem_cons_of_mem _ listed), ?_⟩
      rintro ⟨other, listed, other_ends⟩
      rcases List.mem_cons.mp listed with rfl | later
      · exact absurd other_ends ends
      · exact lost ⟨other, later, other_ends⟩

/-! ## Discoveries -/

variable {found : List Path}

/-- A discovery that does not drop a source keeps its entries. -/
theorem Tracks.reconcile (tracks : Tracks session path) (kept : ¬ DroppedBy policy found path) :
    Tracks (session.reconcile policy host found) path where
  watched := isIn_watched_reconcile.mpr ⟨Or.inl tracks.watched, kept⟩
  holds := by
    rw [Store.holds_congr (entriesOf?_reconcile_of_kept tracks.watched kept)]
    exact tracks.holds

/-- A discovery that drops a source loses it. -/
theorem Tracks.reconcile_dropped (tracks : Tracks session path)
    (dropped : DroppedBy policy found path) :
    Lost (session.reconcile policy host found) path where
  unwatched := by
    rw [← Bool.not_eq_true, isIn_watched_reconcile]
    exact fun kept => kept.2 dropped
  empty := by
    rw [Store.holds_eq_isSome, entriesOf?_reconcile_of_dropped tracks.watched dropped]
    rfl

end Session

namespace Engine

open Session (DroppedBy Ends Tracks Lost)

variable {engine : Engine} {host : Host} {path : Path}

/-- Whether an operation loses a tracked source. -/
def Operation.Loses (engine : Engine) (host : Host) (path : Path) : Operation → Prop
  | .activate text document? =>
    engine.settings.forgetsUnused = true ∧
      path.isIn (engine.discover host text document?).1 = false
  | .handle event => Ends host path event
  | .pump => ∃ event ∈ engine.session.queue, Ends host path event
  | _ => False

/-- A tracked source stays tracked unless the operation loses it. -/
theorem tracks_perform (tracks : Tracks engine.session path) {operation : Operation}
    (kept : ¬ operation.Loses engine host path) :
    Tracks (engine.perform host operation).session path := by
  cases operation with
  | activate text document? =>
    have noticed : Tracks { engine.session with notices := engine.session.notices ++
        (engine.discover host text document?).2 } path := ⟨tracks.watched, tracks.holds⟩
    exact noticed.reconcile kept
  | handle event => exact tracks.handle kept
  | pump =>
    have emptied : Tracks { engine.session with queue := [] } path :=
      ⟨tracks.watched, tracks.holds⟩
    show Tracks (engine.session.drain engine.policy host).1 path
    rw [Session.drain_fst]
    exact emptied.handleAll.1 fun event listed ends => kept ⟨event, listed, ends⟩
  | send event =>
    simp only [perform, Session.send]
    split
    · exact ⟨tracks.watched, tracks.holds⟩
    · exact tracks
  | next =>
    simp only [perform, next_fst]
    exact ⟨tracks.watched, tracks.holds⟩
  | close => exact ⟨tracks.watched, tracks.holds⟩
  | suggest => exact ⟨tracks.watched, tracks.holds⟩
  | takeNotices => exact ⟨tracks.watched, tracks.holds⟩

/-- An operation that loses a tracked source does so. -/
theorem lost_perform (tracks : Tracks engine.session path) {operation : Operation}
    (loses : operation.Loses engine host path) :
    Lost (engine.perform host operation).session path := by
  cases operation with
  | activate text document? =>
    have noticed : Tracks { engine.session with notices := engine.session.notices ++
        (engine.discover host text document?).2 } path := ⟨tracks.watched, tracks.holds⟩
    exact noticed.reconcile_dropped loses
  | handle event => exact tracks.handle_ends loses
  | pump =>
    have emptied : Tracks { engine.session with queue := [] } path :=
      ⟨tracks.watched, tracks.holds⟩
    show Lost (engine.session.drain engine.policy host).1 path
    rw [Session.drain_fst]
    exact emptied.handleAll.2 loses
  | send event => exact absurd loses id
  | next => exact absurd loses id
  | close => exact absurd loses id
  | suggest => exact absurd loses id
  | takeNotices => exact absurd loses id

/-- When unused sources are kept, activating a document leaves watched sources as they are. -/
theorem activate_of_keeps {text : Text} {document? : Option Path}
    (keeps : engine.settings.forgetsUnused = false)
    (watched : path.isIn engine.session.watched = true) :
    path.isIn (engine.activate host text document?).1.session.watched = true ∧
      (engine.activate host text document?).1.session.store.entriesOf? path =
        engine.session.store.entriesOf? path := by
  have kept : ¬ DroppedBy engine.policy (engine.discover host text document?).1 path := by
    rintro ⟨forgets, _⟩
    rw [policy, keeps] at forgets
    contradiction
  let noticed : Session := { engine.session with
    notices := engine.session.notices ++ (engine.discover host text document?).2 }
  have listed : path.isIn noticed.watched = true := watched
  exact ⟨Session.isIn_watched_reconcile.mpr ⟨Or.inl listed, kept⟩,
    Session.entriesOf?_reconcile_of_kept listed kept⟩

/-- When unused sources are forgotten, activating a document loses the watched sources that are
not discovered. -/
theorem activate_of_forgets {text : Text} {document? : Option Path}
    (forgets : engine.settings.forgetsUnused = true)
    (unfound : path.isIn (engine.discover host text document?).1 = false)
    (watched : path.isIn engine.session.watched = true) :
    path.isIn (engine.activate host text document?).1.session.watched = false ∧
      (engine.activate host text document?).1.session.store.entriesOf? path = none := by
  have dropped : DroppedBy engine.policy (engine.discover host text document?).1 path :=
    ⟨forgets, unfound⟩
  refine ⟨?_, Session.entriesOf?_reconcile_of_dropped watched dropped⟩
  rw [← Bool.not_eq_true]
  exact fun still => (Session.isIn_watched_reconcile.mp still).2 dropped

/-- Activating a document while the file of a tracked source is away keeps the source and its
entries exactly when unused sources are kept, whatever the document declares. In general a
tracked source is lost by an operation exactly when the operation applies an event that it was
deleted and its file is missing, or activates a document, unused sources are forgotten and the
source is not discovered. -/
theorem activate_removed (engine : Engine) (memory : Memory) (text : Text)
    (document? : Option Path) {path : Path} {entries : List Entry}
    (watched : path.isIn engine.session.watched = true)
    (held : engine.session.store.entriesOf? path = some entries) :
    let after := (engine.activate (memory.remove path).host text document?).1
    (engine.settings.forgetsUnused = false ↔
      path.isIn after.session.watched = true ∧
        after.session.store.entriesOf? path = some entries) ∧
    (engine.settings.forgetsUnused = true ↔
      path.isIn after.session.watched = false ∧ after.session.store.entriesOf? path = none) ∧
    ∀ (host : Host) (operation : Operation),
      (operation.Loses engine host path ↔ Lost (engine.perform host operation).session path) ∧
      (¬ operation.Loses engine host path ↔
        Tracks (engine.perform host operation).session path) := by
  intro after
  have unfound : path.isIn (engine.discover (memory.remove path).host text document?).1 = false :=
    Discovery.isIn_discover_remove memory
  have tracks : Tracks engine.session path := by
    refine ⟨watched, ?_⟩
    rw [Store.holds_eq_isSome, held]
    rfl
  have outcome : (engine.settings.forgetsUnused = false ∧
        path.isIn after.session.watched = true ∧
          after.session.store.entriesOf? path = some entries) ∨
      (engine.settings.forgetsUnused = true ∧
        path.isIn after.session.watched = false ∧
          after.session.store.entriesOf? path = none) := by
    cases choice : engine.settings.forgetsUnused with
    | false =>
      obtain ⟨still, same⟩ := activate_of_keeps choice watched
      exact Or.inl ⟨rfl, still, same.trans held⟩
    | true => exact Or.inr ⟨rfl, activate_of_forgets choice unfound watched⟩
  refine ⟨?_, ?_, ?_⟩
  · rcases outcome with ⟨keeps, still, same⟩ | ⟨forgets, gone, empty⟩
    · simp [keeps, still, same]
    · simp [forgets, gone]
  · rcases outcome with ⟨keeps, still, same⟩ | ⟨forgets, gone, empty⟩
    · simp [keeps, still]
    · simp [forgets, gone, empty]
  · intro host operation
    constructor
    · constructor
      · exact lost_perform tracks
      · intro lost
        by_contra kept
        exact (tracks_perform tracks kept).not_lost lost
    · constructor
      · exact tracks_perform tracks
      · exact fun kept loses => kept.not_lost (lost_perform tracks loses)

/-- A source. -/
def savedSource : Path := ⟨"/w/a.bib".toList⟩

/-- The file of the source. -/
def savedFiles : Memory := ⟨[(savedSource, "@misc{k, title={T}}".toList)], [], [], []⟩

/-- A document that declares the source. -/
def declaring : Text := "bibliography: [a.bib]".toList

/-- What an engine does first: the document becomes the active one. -/
def opening : List Step := [⟨savedFiles.host, .activate declaring none⟩]

/-- The engine that has the document open. -/
def opened : Engine := (initial {} ⟨"/".toList⟩ (some ⟨"/w".toList⟩)).run opening

/-- The entries of the source. -/
def savedEntries : List Entry :=
  [⟨"k".toList, savedSource, ⟨0, 0⟩, [("title".toList, "T".toList)]⟩]

/-- The open engine tracks the source. -/
theorem opened_tracks : savedSource.isIn opened.session.watched = true ∧
    opened.session.store.entriesOf? savedSource = some savedEntries := by
  decide +kernel

/-- The open engine loses the source when the document is activated while the file is away. -/
theorem activate_removed_opened :
    (savedSource.isIn opened.session.watched = true ∧
      opened.session.store.entriesOf? savedSource = some savedEntries) ∧
    let after := (opened.activate (savedFiles.remove savedSource).host declaring none).1
    savedSource.isIn after.session.watched = false ∧
      after.session.store.entriesOf? savedSource = none := by
  obtain ⟨watched, held⟩ := opened_tracks
  have forgets : opened.settings.forgetsUnused = true := by decide +kernel
  refine ⟨⟨watched, held⟩, ?_⟩
  exact (activate_removed opened savedFiles declaring none watched held).2.1.mp forgets

/-- It is not so that a source that a document declares, that is watched and that has entries
stays so when the document is activated while its file is away. -/
theorem not_keeps_declared : ¬ ∀ (settings : Settings) (current : Path) (root? : Option Path)
    (steps : List Step) (memory : Memory) (text : Text) (document? : Option Path) (path : Path)
    (entries : List Entry),
    let engine := (initial settings current root?).run steps
    path.isIn (engine.discover memory.host text document?).1 = true →
      path.isIn engine.session.watched = true →
        engine.session.store.entriesOf? path = some entries →
          let after := (engine.activate (memory.remove path).host text document?).1
          path.isIn after.session.watched = true ∧
            after.session.store.entriesOf? path = some entries := by
  intro keeps
  have declared : savedSource.isIn (opened.discover savedFiles.host declaring none).1 = true := by
    decide +kernel
  obtain ⟨watched, held⟩ := opened_tracks
  have kept := keeps {} ⟨"/".toList⟩ (some ⟨"/w".toList⟩) opening savedFiles declaring none
    savedSource savedEntries declared watched held
  have still : savedSource.isIn (opened.activate (savedFiles.remove savedSource).host
      declaring none).1.session.watched = true := kept.1
  have gone : savedSource.isIn (opened.activate (savedFiles.remove savedSource).host
      declaring none).1.session.watched = false := by
    decide +kernel
  exact Bool.false_ne_true (gone.symm.trans still)

end Engine

end Citations
