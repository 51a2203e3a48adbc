import Citations.Notice
import Citations.Text.Quoted

/-!
# Log records

A host that shows nothing logs its notices. Repeated keys are information, since the first entry
is used; whatever keeps a source from being used or watched is a warning and names the source.
-/
namespace Citations

/-- How much attention a record asks for. -/
inductive LogLevel where
  /-- Something worth knowing. -/
  | information
  /-- Something that keeps a part from working. -/
  | warning
  deriving DecidableEq, Repr

/-- What a record says besides its message. -/
inductive LogSubject where
  /-- The keys that are repeated. -/
  | keys (shown : Text)
  /-- The source in question. -/
  | path (shown : Text)
  deriving DecidableEq, Repr

/-- A record of a log. -/
structure LogRecord where
  /-- How much attention it asks for. -/
  level : LogLevel
  /-- The wording. -/
  message : Text
  /-- What it is about. -/
  subject : LogSubject
  deriving DecidableEq, Repr

/-- How a notice is logged. -/
def Notice.record (notice : Notice) : LogRecord :=
  let about := fun (source : Path) =>
    (⟨.warning, notice.message, .path source.text⟩ : LogRecord)
  match notice with
  | .duplicateKeys keys => ⟨.information, notice.message, .keys (Text.quotedList keys)⟩
  | .notFound source => about source
  | .unreadable source _ => about source
  | .malformed source _ => about source
  | .unwatched source _ => about source

end Citations
