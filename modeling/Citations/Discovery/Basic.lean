import Citations.Discovery.Declaration
import Citations.Yaml.Plain
import Citations.Settings.Basic
import Citations.Host
import Citations.Notice

/-!
# Discovering sources

Four rules name the candidates of a document: its declaration on a line, its front matter, the
root file of the project, and the default sources. A candidate is resolved to an absolute path
and probed once, however often it is named; it is found under its own path or with an extension
added, or else reported. What is found is given by the form of its path under which changes are
reported, each source once.
-/
namespace Citations

/-- What relative paths are resolved against. -/
structure Surroundings where
  /-- The directory of the process. -/
  current : Path
  /-- The root of the workspace. -/
  root? : Option Path
  /-- The document. -/
  document? : Option Path

namespace Surroundings

/-- The absolute path of a candidate. -/
def resolve (surroundings : Surroundings) (candidate : Text) : Path :=
  Path.resolve surroundings.current surroundings.root? surroundings.document? candidate

end Surroundings

namespace Discovery

/-- The name under which sources are declared. -/
def field : Text := "bibliography".toList

/-- The sources that a YAML text declares. -/
def declared? (yaml : Text) : Option (List Text) := Yaml.textsOf? field yaml

/-- The candidates of the declaration on a line. -/
def inlineCandidates (surroundings : Surroundings) (text : Text) : List Path :=
  (Declaration.inlineItems text).map surroundings.resolve

/-- The candidates of the front matter. -/
def frontMatterCandidates (surroundings : Surroundings) (text : Text) : List Path :=
  (((Declaration.frontMatter? text).bind declared?).getD []).map fun entry =>
    surroundings.resolve (Declaration.unquote entry)

/-- The YAML of a root file: its front matter, or all of it. -/
def rootYaml? (text : Text) : Option Text :=
  if Declaration.hasFrontMatter text then Declaration.frontMatter? text else some text

/-- The candidates that a root file declares, relative to its directory. -/
def rootFileCandidates (surroundings : Surroundings) (host : Host) (file : Path) : List Path :=
  if host.doesExist file then
    match host.read file with
    | .error _ => []
    | .ok text =>
      let directory := file.parent?.getD ⟨[]⟩
      (((rootYaml? text).bind declared?).getD []).map fun entry =>
        surroundings.resolve (directory.join ⟨Declaration.unquote entry⟩).text
  else []

/-- The candidates of the root file that the settings name. -/
def rootCandidates (settings : Settings) (surroundings : Surroundings) (host : Host) :
    List Path :=
  match settings.rootFile? with
  | none => []
  | some file =>
    if file = [] then [] else rootFileCandidates surroundings host (surroundings.resolve file)

/-- The default candidates. -/
def defaultCandidates (settings : Settings) (surroundings : Surroundings) : List Path :=
  if settings.usesDefaults then
    ((settings.defaultBib?.toList ++ settings.defaultBibs).filter (· ≠ [])).map
      surroundings.resolve
  else []

/-- The candidates of all rules, in the order of the rules. -/
def candidates (settings : Settings) (surroundings : Surroundings) (host : Host) (text : Text) :
    List Path :=
  inlineCandidates surroundings text ++ frontMatterCandidates surroundings text ++
    rootCandidates settings surroundings host ++ defaultCandidates settings surroundings

/-- The source that a candidate stands for: a file under its own path, or under one with an
extension added. -/
def probe? (host : Host) (candidate : Path) : Option Path :=
  ([candidate, candidate.append ".json".toList, candidate.append ".bib".toList].find?
    host.doesExist).map host.canonical

/-- The sources that a document uses, and what there is to report. -/
def discover (settings : Settings) (surroundings : Surroundings) (host : Host) (text : Text) :
    List Path × List Notice :=
  let probed := Path.distinct (candidates settings surroundings host text)
  (Path.distinct (probed.filterMap (probe? host)),
    (probed.filter fun candidate => (probe? host candidate).isNone).map .notFound)

end Discovery

end Citations
