import Citations.Command.Run

/-!
# What a run looks at

The paths that a run asks its host about, as far as they can be told from what is known. Looking
at them tells more: the settings name the root file, the document and the root file name
candidates, and a candidate that exists has a form under which it is read. After a few rounds
nothing new is asked for.
-/
namespace Citations.Command

/-- The paths that a discovery asks about. -/
def discoveryReach (settings : Settings) (surroundings : Surroundings) (host : Host)
    (text : Text) : List Path :=
  let candidates := Discovery.candidates settings surroundings host text
  (settings.rootFile?.map surroundings.resolve).toList ++
    candidates.flatMap (fun candidate =>
      [candidate, candidate.append ".json".toList, candidate.append ".bib".toList]) ++
    candidates.filterMap (Discovery.probe? host)

/-- The paths that reading the settings asks about. -/
def settingsReach (world : World) (workspace : Path) : List Path :=
  (settingsPaths world workspace).flatMap fun path =>
    path :: (settingsFiles world path).map (·.2)

/-- The paths that a run asks about. -/
def runReach (world : World) (invocation : Invocation) : List Path :=
  let workspace := workspaceOf world invocation
  let document := world.current.join invocation.document
  let rest :=
    match settings? world workspace, world.host.read document with
    | some settings, .ok text =>
      discoveryReach settings ⟨world.current, some workspace, some document⟩ world.host text
    | _, _ => []
  settingsReach world workspace ++ document :: rest

/-- The paths that the program asks about, given its arguments. -/
def reach (world : World) (arguments : List Text) : List Path :=
  match read? {} arguments with
  | some (.run invocation) => runReach world invocation
  | _ => []

end Citations.Command
