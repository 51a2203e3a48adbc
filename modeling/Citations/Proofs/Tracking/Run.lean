import Citations.Engine
import Citations.Proofs.Tracking.Operations

/-!
# Runs and their incidents

A run of an engine is a list of operations, each with the host as it was at that moment, so
anything may happen to the files between two operations. What a run does to a session comes down
to three kinds of incidents: a source becomes watched, a source is read, a source stops being
watched. The incidents of a run, in order, are its history, and a property of histories and
sessions that every possible incident keeps holds after every run (`Kept.run`).
-/
namespace Citations

namespace Session

/-- An elementary change of a session. -/
inductive Incident where
  /-- A source became watched. -/
  | entered (host : Host) (path : Path)
  /-- A source was read. -/
  | loaded (host : Host) (path : Path)
  /-- A source stopped being watched. -/
  | left (path : Path)

/-- The session after an incident. -/
def Incident.apply (policy : Policy) (session : Session) : Incident → Session
  | .entered host path =>
    let session := session.subscribe host path
    { session with watched := path.insertInto session.watched }
  | .loaded host path => reload policy host session path
  | .left path => session.forget path

/-- Whether an incident can happen to a session: only a source that is not watched becomes so,
and only watched sources are read. -/
def Incident.Possible (session : Session) : Incident → Prop
  | .entered _ path => path.isIn session.watched = false
  | .loaded _ path => path.isIn session.watched = true
  | .left _ => True

/-- The session after some incidents. -/
def replay (policy : Policy) (session : Session) (incidents : List Incident) : Session :=
  incidents.foldl (Incident.apply policy) session

/-- The incidents of steps that are taken one after another, each from where the last one led. -/
def along {α : Type} (step : Session → α → Session) (incidents : Session → α → List Incident) :
    Session → List α → List Incident
  | _, [] => []
  | session, x :: rest => incidents session x ++ along step incidents (step session x) rest

/-- The incidents of finding a source. -/
def entering (host : Host) (session : Session) (path : Path) : List Incident :=
  if path.isIn session.watched then [] else [.entered host path, .loaded host path]

/-- The incidents of bringing a session in line with a discovery. -/
def reconciling (policy : Policy) (host : Host) (session : Session) (found : List Path) :
    List Incident :=
  let entered := found.foldl (enter policy host) session
  along (enter policy host) (entering host) session found ++
    if policy.forgetUnused then
      (entered.watched.filter fun path => !path.isIn found).map .left
    else []

/-- The incidents of an event. -/
def handling (host : Host) (session : Session) (event : Event) : List Incident :=
  if event.path.isIn session.watched then
    if event.kind = .changed ∨ host.doesExist event.path then [.loaded host event.path]
    else [.left event.path]
  else []

/-- The incidents of applying the waiting events. -/
def draining (policy : Policy) (host : Host) (session : Session) : List Incident :=
  along (handle policy host) (handling host) { session with queue := [] } session.queue

/-- A property of histories and sessions that depends only on the watched sources, the
subscriptions and the loaded entries, and that every possible incident keeps. -/
structure Kept (policy : Policy) (motive : List Incident → Session → Prop) : Prop where
  /-- Notices and waiting events do not matter. -/
  aside : ∀ {history : List Incident} {session : Session} (notices : List Notice)
    (queue : List Event) (isOpen : Bool), motive history session →
      motive history { session with notices, queue, isOpen }
  /-- A possible incident keeps the property. -/
  step : ∀ {history : List Incident} {session : Session} (incident : Incident),
    incident.Possible session → motive history session →
      motive (history ++ [incident]) (incident.apply policy session)

namespace Kept

variable {policy : Policy} {host : Host} {session : Session} {history : List Incident}
variable {motive : List Incident → Session → Prop}

/-- Steps that each keep a property keep it together. -/
theorem along {α : Type} {step : Session → α → Session} {incidents : Session → α → List Incident}
    (each : ∀ {history : List Incident} {session : Session} (x : α), motive history session →
      motive (history ++ incidents session x) (step session x))
    (items : List α) (start : motive history session) :
    motive (history ++ Session.along step incidents session items) (items.foldl step session) := by
  induction items generalizing history session with
  | nil => simpa [Session.along] using start
  | cons x rest ih =>
    have next := ih (each x start)
    rwa [List.append_assoc] at next

/-- Finding a source keeps the property. -/
theorem enter (kept : Kept policy motive) (path : Path) (start : motive history session) :
    motive (history ++ entering host session path) (Session.enter policy host session path) := by
  by_cases watched : path.isIn session.watched = true
  · rw [enter_of_watched watched]
    simpa [entering, watched] using start
  · have unwatched := Bool.eq_false_iff.mpr watched
    have entered := kept.step (.entered host path) unwatched start
    have listed : path.isIn (Incident.apply policy session (.entered host path)).watched = true :=
      Path.isIn_insertInto.mpr (Or.inr (Path.Same.refl path))
    have loaded := kept.step (.loaded host path) listed entered
    rw [List.append_assoc] at loaded
    simp only [entering, Session.enter, unwatched, Bool.false_eq_true, ↓reduceIte]
    exact loaded

/-- Forgetting sources keeps the property. -/
theorem forgetAll (kept : Kept policy motive) (stale : List Path) (start : motive history session) :
    motive (history ++ stale.map .left) (stale.foldl forget session) := by
  induction stale generalizing history session with
  | nil => simpa using start
  | cons path rest ih =>
    have next := ih (kept.step (.left path) trivial start)
    rwa [List.append_assoc] at next

/-- Bringing a session in line with a discovery keeps the property. -/
theorem reconcile (kept : Kept policy motive) (found : List Path) (start : motive history session) :
    motive (history ++ reconciling policy host session found)
      (Session.reconcile policy host session found) := by
  have entered : motive
      (history ++ Session.along (Session.enter policy host) (entering host) session found)
      (found.foldl (Session.enter policy host) session) :=
    Kept.along (fun path => kept.enter path) found start
  unfold Session.reconcile reconciling
  dsimp only
  split
  · rw [← List.append_assoc]
    exact kept.forgetAll _ entered
  · rwa [List.append_nil]

/-- An event keeps the property. -/
theorem handle (kept : Kept policy motive) (event : Event) (start : motive history session) :
    motive (history ++ handling host session event)
      (Session.handle policy host session event) := by
  by_cases watched : event.path.isIn session.watched = true
  · by_cases present : event.kind = .changed ∨ host.doesExist event.path = true
    · simpa [handling, Session.handle, watched, present, Incident.apply] using
        kept.step (.loaded host event.path) watched start
    · simpa [handling, Session.handle, watched, present, Incident.apply] using
        kept.step (.left event.path) trivial start
  · simpa [handling, Session.handle, watched] using start

/-- Applying the waiting events keeps the property. -/
theorem drain (kept : Kept policy motive) (start : motive history session) :
    motive (history ++ draining policy host session) (Session.drain policy host session).1 := by
  rw [drain_fst]
  exact Kept.along (fun event => kept.handle event) session.queue
    (kept.aside session.notices [] session.isOpen start)

end Kept

end Session

namespace Engine

open Session (Incident)

/-- What changes the state of an engine. -/
inductive Operation where
  /-- A document became the active one. -/
  | activate (text : Text) (document? : Option Path)
  /-- An event came in. -/
  | handle (event : Event)
  /-- The waiting events are to be applied. -/
  | pump
  /-- An event is to wait. -/
  | send (event : Event)
  /-- The oldest waiting event is taken. -/
  | next
  /-- No more events will come. -/
  | close
  /-- All entries are listed. -/
  | suggest
  /-- The notices are taken. -/
  | takeNotices

/-- The engine after an operation. -/
def perform (engine : Engine) (host : Host) : Operation → Engine
  | .activate text document? => (engine.activate host text document?).1
  | .handle event => engine.handle host event
  | .pump => (engine.pump host).1
  | .send event => { engine with session := engine.session.send event }
  | .next => { engine with session := engine.session.next.1 }
  | .close => { engine with session := engine.session.close }
  | .suggest => engine.suggestions.1
  | .takeNotices => { engine with session := engine.session.takeNotices.1 }

/-- The incidents of an operation. -/
def incidents (engine : Engine) (host : Host) : Operation → List Incident
  | .activate text document? =>
    let (found, notices) := engine.discover host text document?
    let noticed := { engine.session with notices := engine.session.notices ++ notices }
    Session.reconciling engine.policy host noticed found
  | .handle event => Session.handling host engine.session event
  | .pump => Session.draining engine.policy host engine.session
  | _ => []

/-- An operation and the host as it is at that moment. -/
structure Step where
  /-- The host. -/
  host : Host
  /-- The operation. -/
  operation : Operation

/-- The engine after a run. -/
def run (engine : Engine) (steps : List Step) : Engine :=
  steps.foldl (fun engine step => engine.perform step.host step.operation) engine

/-- The incidents of a run in order. -/
def history (engine : Engine) : List Step → List Incident
  | [] => []
  | step :: rest =>
    engine.incidents step.host step.operation ++
      (engine.perform step.host step.operation).history rest

/-- No operation changes the settings. -/
@[simp] theorem perform_settings (engine : Engine) (host : Host) (operation : Operation) :
    (engine.perform host operation).settings = engine.settings := by
  cases operation <;> rfl

/-- No operation changes how sources are tracked. -/
@[simp] theorem perform_policy (engine : Engine) (host : Host) (operation : Operation) :
    (engine.perform host operation).policy = engine.policy := by
  simp [policy]

/-- Taking the oldest event leaves everything but the waiting events. -/
theorem next_fst (session : Session) :
    session.next.1 = { session with queue := session.queue.tail } := by
  obtain ⟨watched, store, subscriptions, notices, queue, isOpen⟩ := session
  cases queue <;> rfl

end Engine

namespace Session.Kept

variable {engine : Engine} {history : List Incident} {motive : List Incident → Session → Prop}
variable {policy : Policy} {session : Session}

/-- An event that is to wait keeps the property. -/
theorem send (kept : Kept policy motive) (event : Event) (start : motive history session) :
    motive history (session.send event) := by
  unfold Session.send
  split
  · exact kept.aside _ _ _ start
  · exact start

/-- Taking the oldest event keeps the property. -/
theorem next (kept : Kept policy motive) (start : motive history session) :
    motive history session.next.1 := by
  rw [Engine.next_fst]
  exact kept.aside _ _ _ start

/-- Every operation of an engine keeps the property. -/
theorem perform (kept : Kept engine.policy motive) (host : Host) (operation : Engine.Operation)
    (start : motive history engine.session) :
    motive (history ++ engine.incidents host operation)
      (engine.perform host operation).session := by
  cases operation with
  | activate text document? => exact kept.reconcile _ (kept.aside _ _ _ start)
  | handle event => exact kept.handle event start
  | pump => exact kept.drain start
  | send event =>
    simp only [Engine.incidents, List.append_nil]
    exact kept.send event start
  | next =>
    simp only [Engine.incidents, List.append_nil]
    exact kept.next start
  | close =>
    simp only [Engine.incidents, List.append_nil]
    exact kept.aside _ _ _ start
  | suggest =>
    simp only [Engine.incidents, List.append_nil]
    exact kept.aside _ _ _ start
  | takeNotices =>
    simp only [Engine.incidents, List.append_nil]
    exact kept.aside _ _ _ start

/-- Every run of an engine keeps the property. -/
theorem run (kept : Kept engine.policy motive) (history : List Incident)
    (steps : List Engine.Step) (start : motive history engine.session) :
    motive (history ++ engine.history steps) (engine.run steps).session := by
  induction steps generalizing engine history with
  | nil => simpa [Engine.history, Engine.run] using start
  | cons step rest ih =>
    have still : Kept (engine.perform step.host step.operation).policy motive := by
      rwa [Engine.perform_policy]
    -- The step may change the engine, but not the policy that the property is about.
    have later := ih still _ (kept.perform step.host step.operation start)
    rwa [List.append_assoc] at later

end Session.Kept

end Citations
