import Citations.Command.Reach
import Citations.Disk.Snapshot

/-!
# The program

Looks at the files that a run asks about, runs it, and prints what it leaves behind. Following
the sources of a document means looking at them again and again.
-/
namespace Citations.Program

/-- Look at what is under a path. -/
def look (path : Path) : IO Sighting := do
  let name := String.ofList path.text
  try
    let real ← IO.FS.realPath name
    let about ← real.metadata
    let content : Except Text Text ←
      try
        match String.fromUTF8? (← IO.FS.readBinFile name) with
        | some text => pure (.ok text.toList)
        | none => pure (.error "stream did not contain valid UTF-8".toList)
      catch error => pure (.error error.toString.toList)
    return ⟨about.type == .file, ⟨real.toString.toList⟩, content⟩
  catch error => return ⟨false, path, .error error.toString.toList⟩

/-- The world as a snapshot shows it. -/
def world (home? : Option Path) (current : Path) (snapshot : Snapshot) : Command.World :=
  { host := snapshot.host, home?, current }

/-- Look at paths that were not looked at. -/
def lookAt (snapshot : Snapshot) (paths : List Path) : IO Snapshot :=
  (snapshot.unseen paths).foldlM (fun seen path => do return seen.add path (← look path)) snapshot

/-- Look at what a run asks about, for some rounds. -/
def explore (home? : Option Path) (current : Path) (arguments : List Text) :
    (rounds : Nat) → Snapshot → IO Snapshot
  | 0, snapshot => return snapshot
  | rounds + 1, snapshot => do
    explore home? current arguments rounds
      (← lookAt snapshot (Command.reach (world home? current snapshot) arguments))

/-- Log a record. -/
def log (record : LogRecord) : IO Unit := do
  let level := match record.level with
    | .information => "INFO"
    | .warning => "WARN"
  IO.eprintln (level ++ " " ++ String.ofList record.message)

/-- The events that tell one look at the sources from the next. -/
def events (before now : Snapshot) (sources : List Path) : List Event :=
  sources.filterMap fun source =>
    match before.find? source, now.find? source with
    | some old, some new =>
      if !new.isFile then (if old.isFile then some ⟨source, .deleted⟩ else none)
      else if old.isFile && (match old.content, new.content with
          | .ok left, .ok right => left = right
          | .error left, .error right => left = right
          | _, _ => false) then none
      else some ⟨source, .changed⟩
    | _, _ => none

/-- Follow the sources of a document until the process is interrupted. -/
partial def follow (engine : Engine) (workspace : Path) (before : Snapshot) : IO Unit := do
  IO.sleep 200
  let sources := engine.session.watched
  let now ← lookAt ⟨[]⟩ sources
  let mut engine := engine
  for event in events before now sources do
    engine := engine.handle now.host event
    IO.eprintln ("INFO Bibliography updated path=" ++
      String.ofList (workspace.relativeTo event.path).text)
  let (session, notices) := engine.session.takeNotices
  notices.forM fun notice => log notice.record
  follow { engine with session } workspace now

/-- Run the program. -/
def run (arguments : List String) : IO UInt32 := do
  let arguments := arguments.map String.toList
  let current : Path := ⟨(← IO.FS.realPath ".").toString.toList⟩
  let home? : Option Path := (← IO.getEnv "HOME").map fun home => ⟨home.toList⟩
  let snapshot ← explore home? current arguments 8 ⟨[]⟩
  match Command.start (world home? current snapshot) arguments with
  | .ended outcome =>
    outcome.log.forM log
    IO.print (String.ofList outcome.output)
    IO.eprint (String.ofList outcome.complaint)
    return outcome.code.toUInt32
  | .following engine workspace records =>
    records.forM log
    engine.session.watched.forM fun source =>
      IO.eprintln ("INFO Watching bibliography path=" ++
        String.ofList (workspace.relativeTo source).text)
    follow engine workspace (← lookAt ⟨[]⟩ engine.session.watched)
    return 0

end Citations.Program

/-- The command line. -/
def main (arguments : List String) : IO UInt32 := Citations.Program.run arguments
