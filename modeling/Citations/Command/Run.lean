import Citations.Command.Help
import Citations.Engine
import Citations.Log
import Citations.Settings.Layer

/-!
# Runs of the program

A run reads the settings of the user and of the workspace, then the document, and lists its keys
or its labels. Without settings that can be read, or without the document, it fails; a source
that cannot be used is only logged. Settings files are in one of several formats. Which format is
looked for first is not fixed, and the formats other than TOML and JSON have a reader of their own.
-/
namespace Citations.Command

/-- What a run leaves behind. -/
structure Outcome where
  /-- The exit code. -/
  code : Nat
  /-- What is printed. -/
  output : Text := []
  /-- What went wrong. -/
  complaint : Text := []
  /-- What is logged. -/
  log : List LogRecord := []

/-- What a run comes to. -/
inductive Progress where
  /-- It has ended. -/
  | ended (outcome : Outcome)
  /-- It follows the sources of a document. -/
  | following (engine : Engine) (workspace : Path) (log : List LogRecord)

/-- The world that a run sees. -/
structure World where
  /-- The files. -/
  host : Host
  /-- The directory of the user. -/
  home? : Option Path
  /-- The directory of the process. -/
  current : Path
  /-- The formats of settings files in the order in which they are looked for. Any order is one. -/
  formats : List SettingsFormat := SettingsFormat.all
  /-- No format is left out. -/
  complete : ∀ format, format ∈ formats := by
    intro format
    cases format <;> decide
  /-- What reads settings files in formats other than TOML and JSON. -/
  reader : SettingsReader := .unable

/-- The outcome of arguments that make no sense. -/
def misused : Outcome where
  code := 2
  complaint := "error: invalid arguments\n\n".toList ++ usage .program ++
    "\n\nFor more information, try '--help'.\n".toList

/-- The outcome of a run that cannot go on. -/
def failed (reason : Text) : Outcome where
  code := 1
  complaint := "Error: ".toList ++ reason ++ ['\n']

/-- The outcome of a run that counts past the last machine word. -/
def overrun : Outcome where
  code := 101
  complaint := "attempt to add with overflow\n".toList

/-- The path without an extension under which the settings of the user are. Without a directory of
the user the tilde that stands for it is a name as any other. -/
def userSettings (world : World) : Path :=
  (world.home?.getD (world.current.join ⟨['~']⟩)).join ⟨".config/citer/settings".toList⟩

/-- The path without an extension under which the settings of a workspace are. -/
def ownSettings (workspace : Path) : Path := workspace.append "/.citer".toList

/-- The paths without an extension under which settings are, the later over the earlier. -/
def settingsPaths (world : World) (workspace : Path) : List Path :=
  [userSettings world, ownSettings workspace]

/-- The settings files that may be under a path, in the order in which they are looked for. -/
def settingsFiles (world : World) (path : Path) : List (SettingsFormat × Path) :=
  world.formats.flatMap fun format =>
    format.fileExtensions.map fun extension => (format, path.append ('.' :: extension))

/-- The layer of settings under a path, if there is one. A file under the path itself has no
known format, and hides the others; a file that is not text counts as absent. -/
def settingsLayer? (world : World) (path : Path) : Option (Option Settings.Members) :=
  if world.host.doesExist path then some none
  else
    match (settingsFiles world path).find? fun file => world.host.doesExist file.2 with
    | none => some none
    | some (format, file) =>
      match world.host.read file with
      | .error _ => some none
      | .ok content => (Settings.layer? world.reader format content).map some

/-- The settings that hold in a workspace. -/
def settings? (world : World) (workspace : Path) : Option Settings := do
  let layers ← (settingsPaths world workspace).mapM (settingsLayer? world)
  Settings.ofLayers? (layers.filterMap id)

/-- The root of the workspace of a run. -/
def workspaceOf (world : World) (invocation : Invocation) : Path :=
  match invocation.workspace? with
  | some directory => world.current.join directory
  | none => world.current

/-- The records of the notices that a session holds. -/
def records (session : Session) : List LogRecord := session.takeNotices.2.map Notice.record

/-- A line with two columns. -/
def line (left right : Text) : Text := left ++ '\t' :: right ++ ['\n']

/-- The lines of entries: the key, and the source as seen from the workspace. -/
def keyLines (workspace : Path) (entries : List Entry) : Text :=
  entries.flatMap fun entry => line entry.key (workspace.relativeTo entry.source).text

/-- The lines of labels. -/
def labelLines (labels : List CrossRef) : Text :=
  labels.flatMap fun label => line label.reference label.detail

/-- Do what a verb says for a document that was read. -/
def perform (world : World) (settings : Settings) (workspace document : Path)
    (invocation : Invocation) (text : Text) : Progress :=
  let engine := Engine.initial settings world.current (some workspace)
  match invocation.verb with
  | .refs =>
    let mode := invocation.mode?.getD settings.labelMode
    match engine.labels? text (some document) mode with
    | none => .ended overrun
    | some labels => .ended { code := 0, output := labelLines labels }
  | .keys =>
    let (engine, _) := engine.activate world.host text (some document)
    let (engine, entries) := engine.suggestions
    .ended { code := 0, output := keyLines workspace entries, log := records engine.session }
  | .watch =>
    let (engine, _) := engine.activate world.host text (some document)
    .following { engine with session := engine.session.takeNotices.1 } workspace
      (records engine.session)

/-- Run what was asked for. -/
def run (world : World) (invocation : Invocation) : Progress :=
  let workspace := workspaceOf world invocation
  match settings? world workspace with
  | none => .ended (failed "invalid settings".toList)
  | some settings =>
    let document := world.current.join invocation.document
    match world.host.read document with
    | .error reason =>
      .ended (failed ("Failed to read ".toList ++ document.text ++
        "\n\nCaused by:\n    ".toList ++ reason))
    | .ok text => perform world settings workspace document invocation text

/-- Start the program with its arguments. -/
def start (world : World) (arguments : List Text) : Progress :=
  match read? {} arguments with
  | none => .ended misused
  | some .version => .ended { code := 0, output := versionText }
  | some (.help topic) => .ended { code := 0, output := helpText topic }
  | some (.run invocation) => run world invocation

end Citations.Command
