import Citations.Json.Reader
import Citations.Settings.Basic
import Citations.Settings.Place
import Citations.Toml.Reader

/-!
# Layers of settings

Settings are chosen in layers: what holds where nothing is chosen, the file of the user, the file
of the workspace. A later layer goes over an earlier one key by key. When every value can be read
as what its setting takes, the settings are complete; keys that name no setting are passed over.
-/
namespace Citations

/-- The formats of settings files. -/
inductive SettingsFormat where
  /-- TOML. -/
  | toml
  /-- A JSON object. -/
  | json
  /-- A JSON5 object. -/
  | json5
  /-- A YAML mapping. -/
  | yaml
  /-- Names and texts in sections. -/
  | ini
  /-- A RON map. -/
  | ron
  deriving DecidableEq, Repr

namespace SettingsFormat

/-- Every format. -/
def all : List SettingsFormat := [toml, json, yaml, ini, ron, json5]

/-- The extensions of files in a format. -/
def fileExtensions : SettingsFormat → List Text
  | toml => ["toml".toList]
  | json => ["json".toList]
  | json5 => ["json5".toList]
  | yaml => ["yaml".toList, "yml".toList]
  | ini => ["ini".toList]
  | ron => ["ron".toList]

end SettingsFormat

/-- A reader of settings files in formats other than TOML and JSON. What it gives has each name
once. -/
structure SettingsReader where
  /-- The members that a file gives, if it follows its format. -/
  read? : SettingsFormat → Text → Option Settings.Members
  /-- A name stands once in a file. -/
  distinct : ∀ {format : SettingsFormat} {content : Text} {members : Settings.Members},
    read? format content = some members → (members.map Prod.fst).Nodup

/-- The reader that knows no format. -/
def SettingsReader.unable : SettingsReader := ⟨fun _ _ => none, nofun⟩

namespace Settings

/-- The members that a settings file gives, if it follows its format. -/
def layer? (reader : SettingsReader) : SettingsFormat → Text → Option Members
  | .toml, content => (Toml.read? content).map Value.ofTomlMembers
  | .json, content =>
    match Json.read? content with
    | some (.object members) => some (Value.ofJsonMembers members)
    | _ => none
  | format, content => reader.read? format content

/-- The layer of what holds where nothing is chosen. A text that may be left out has no place in
it. -/
def baseLayer : Members :=
  [("citation_format".toList, .list (standardFormat.map .text)),
    ("default_bibs".toList, .list []),
    ("use_default_bib".toList, .bool false),
    ("forget_unused_bib".toList, .bool true),
    ("crossref_mode".toList, .text "Full".toList),
    ("lookback_chars".toList, .integer 800),
    ("table_preview_lines".toList, .integer 3),
    ("hover".toList, .bool true)]

/-- Lay a layer over another one. -/
def overlay (below layer : Members) : Members :=
  layer.foldl (fun members (key, value) => (Place.ofKey key).put value members) below

/-- The settings that members give. -/
def ofMembers? (members : Members) : Option Settings := do
  let required := fun {α : Type} (read : Value → Option α) (name : String) =>
    (member? name.toList members).bind read
  let optional := fun (name : String) =>
    match member? name.toList members with
    | none => some none
    | some value => value.optionalText?
  some {
    citationFormat := ← required Value.texts? "citation_format"
    rootFile? := ← optional "root_file"
    defaultBib? := ← optional "default_bib"
    defaultBibs := ← required Value.texts? "default_bibs"
    usesDefaults := ← required Value.bool? "use_default_bib"
    forgetsUnused := ← required Value.bool? "forget_unused_bib"
    labelMode := ← required Value.mode? "crossref_mode"
    lookback := ← required Value.size? "lookback_chars"
    previewLines := ← required Value.size? "table_preview_lines"
    showsHover := ← required Value.bool? "hover" }

/-- The settings that layers give, each over the ones before it. -/
def ofLayers? (layers : List Members) : Option Settings :=
  ofMembers? (layers.foldl overlay baseLayer)

end Settings

end Citations
