import Citations.Bibliography.Source
import Citations.Host
import Citations.Store

/-!
# Tracking sources

A session watches the sources that documents use and keeps their entries loaded. A source
becomes watched when a discovery finds it, is read again when an event says that it changed,
and stops being watched when it is deleted or, if unused sources are forgotten, when a discovery
no longer finds it; its entries go with it. A source that cannot be read or parsed keeps the
entries it had.

Every operation takes the host as it is at that moment and returns the next session. Notices
are kept in the session, oldest first, until they are taken.
-/
namespace Citations

/-- What happened to a source. -/
inductive EventKind where
  /-- It was written or replaced. -/
  | changed
  /-- It was removed. -/
  | deleted
  deriving DecidableEq, Repr

/-- A report that something happened to a source. -/
structure Event where
  /-- The source. -/
  path : Path
  /-- What happened. -/
  kind : EventKind
  deriving DecidableEq, Repr

/-- How sources are tracked. -/
structure Policy where
  /-- The names of the fields that entries keep. -/
  allowed : List Text
  /-- Whether a source that no document uses is dropped. -/
  forgetUnused : Bool

/-- The state of tracking. -/
structure Session where
  /-- The watched sources, in the order in which they became so. -/
  watched : List Path
  /-- The loaded entries. -/
  store : Store
  /-- The sources whose changes will be reported. -/
  subscriptions : List Path
  /-- The notices not yet taken, oldest first. -/
  notices : List Notice
  /-- The events not yet applied, oldest first. -/
  queue : List Event
  /-- Whether more events may come. -/
  isOpen : Bool

namespace Session

/-- The session that watches nothing. -/
def initial : Session := ⟨[], Store.empty, [], [], [], true⟩

/-- Add a notice. -/
def notify (session : Session) (notice : Notice) : Session :=
  { session with notices := session.notices ++ [notice] }

/-- The entries of a source as its file is now, or why there are none. -/
def load (policy : Policy) (host : Host) (path : Path) : Except SourceError (List Entry) :=
  match host.read path with
  | .error reason => .error (.unreadable path reason)
  | .ok text => Source.parse path text policy.allowed

/-- Read a source again. When that fails, a notice says so and its entries stay. -/
def reload (policy : Policy) (host : Host) (session : Session) (path : Path) : Session :=
  match load policy host path with
  | .ok entries => { session with store := session.store.upsert path entries }
  | .error error => session.notify (.ofError error)

/-- Whether a source can be loaded now. -/
def loads (policy : Policy) (host : Host) (path : Path) : Bool :=
  match load policy host path with
  | .ok _ => true
  | .error _ => false

/-- Ask for reports on a source. When that is refused, a notice says so. -/
def subscribe (host : Host) (session : Session) (path : Path) : Session :=
  match host.refusal? path with
  | none => { session with subscriptions := session.subscriptions ++ [path] }
  | some reason => session.notify (.ofError (.unwatchable path reason))

/-- Watch a source that is not watched yet, and load it. -/
def enter (policy : Policy) (host : Host) (session : Session) (path : Path) : Session :=
  if path.isIn session.watched then session
  else
    let session := session.subscribe host path
    reload policy host { session with watched := path.insertInto session.watched } path

/-- Stop watching a source and drop its entries. The subscription ends even when ending it is
reported as refused. -/
def forget (session : Session) (path : Path) : Session :=
  { session with
    subscriptions := path.removeFrom session.subscriptions
    watched := path.removeFrom session.watched
    store := session.store.evict path }

/-- Bring the watched sources in line with what a discovery found. -/
def reconcile (policy : Policy) (host : Host) (session : Session) (found : List Path) : Session :=
  let entered := found.foldl (enter policy host) session
  if policy.forgetUnused then
    (entered.watched.filter fun path => !path.isIn found).foldl forget entered
  else entered

/-- Apply an event. An event for a source that is not watched has no effect; a deleted source
that exists has been replaced. -/
def handle (policy : Policy) (host : Host) (session : Session) (event : Event) : Session :=
  if event.path.isIn session.watched then
    if event.kind = .changed ∨ host.doesExist event.path then reload policy host session event.path
    else session.forget event.path
  else session

/-- Whether an event is for a watched source. -/
def concerns (session : Session) (event : Event) : Bool := event.path.isIn session.watched

/-- Apply events in order, and count those for watched sources. -/
def handleAll (policy : Policy) (host : Host) : Session → List Event → Session × Nat
  | session, [] => (session, 0)
  | session, event :: rest =>
    let (last, count) := handleAll policy host (session.handle policy host event) rest
    (last, if session.concerns event then count + 1 else count)

/-- Apply the waiting events, and count those for watched sources. -/
def drain (policy : Policy) (host : Host) (session : Session) : Session × Nat :=
  handleAll policy host { session with queue := [] } session.queue

/-- Queue an event, unless the session is closed to events. -/
def send (session : Session) (event : Event) : Session :=
  if session.isOpen then { session with queue := session.queue ++ [event] } else session

/-- Close the session to events; those that wait remain. -/
def close (session : Session) : Session := { session with isOpen := false }

/-- What waiting for the next event comes to. -/
inductive Next where
  /-- The oldest waiting event. -/
  | event (event : Event)
  /-- None waits and none will come. -/
  | finished
  /-- None waits yet. -/
  | pending

/-- Take the next event without applying it. -/
def next (session : Session) : Session × Next :=
  match session.queue with
  | event :: rest => ({ session with queue := rest }, .event event)
  | [] => (session, if session.isOpen then .pending else .finished)

/-- Take the notices. -/
def takeNotices (session : Session) : Session × List Notice :=
  ({ session with notices := [] }, session.notices)

end Session

end Citations
