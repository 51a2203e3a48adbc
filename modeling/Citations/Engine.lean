import Citations.CrossRef.Scan
import Citations.Discovery.Basic
import Citations.Tracking.Session

/-!
# Engine

What an editor drives: it says which document is active and which events came in, and asks for
entries, labels and hovers. The engine joins the settings with a tracking session.
-/
namespace Citations

/-- The settings of an editor and the state of tracking. -/
structure Engine where
  /-- The settings. -/
  settings : Settings
  /-- The directory of the process. -/
  current : Path
  /-- The root of the workspace. -/
  root? : Option Path
  /-- The state of tracking. -/
  session : Session

namespace Engine

/-- The engine that tracks nothing. -/
def initial (settings : Settings) (current : Path) (root? : Option Path) : Engine :=
  ⟨settings, current, root?, Session.initial⟩

/-- How the settings want sources to be tracked. -/
def policy (engine : Engine) : Policy :=
  ⟨engine.settings.allowed, engine.settings.forgetsUnused⟩

/-- The bounds of a scan that the settings choose. -/
def scanner (engine : Engine) : Scanner :=
  ⟨engine.settings.lookback, engine.settings.previewLines⟩

/-- The sources that a document uses, and what there is to report. -/
def discover (engine : Engine) (host : Host) (text : Text) (document? : Option Path) :
    List Path × List Notice :=
  Discovery.discover engine.settings ⟨engine.current, engine.root?, document?⟩ host text

/-- Make a document the active one: discover its sources and bring tracking in line with
them. -/
def activate (engine : Engine) (host : Host) (text : Text) (document? : Option Path) :
    Engine × List Path :=
  let (found, notices) := engine.discover host text document?
  let noticed := { engine.session with notices := engine.session.notices ++ notices }
  ({ engine with session := Session.reconcile engine.policy host noticed found }, found)

/-- Apply an event. -/
def handle (engine : Engine) (host : Host) (event : Event) : Engine :=
  { engine with session := Session.handle engine.policy host engine.session event }

/-- Apply the waiting events, and count those for watched sources. -/
def pump (engine : Engine) (host : Host) : Engine × Nat :=
  let (session, count) := Session.drain engine.policy host engine.session
  ({ engine with session }, count)

/-- All entries; repeated keys are reported. -/
def suggestions (engine : Engine) : Engine × List Entry :=
  let session := engine.session
  ({ engine with session := { session with notices := session.notices ++ session.store.notices } },
    session.store.entries)

/-- The first entry with a key. -/
def entry? (engine : Engine) (key : Text) : Option Entry := engine.session.store.find? key

/-- The labelled elements of a document, if they can be reported. -/
def labels? (engine : Engine) (text : Text) (document? : Option Path) (mode : LabelMode) :
    Option (List CrossRef) :=
  engine.scanner.scan? text document? mode

end Engine

end Citations
