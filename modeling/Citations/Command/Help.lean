import Citations.Command.Arguments

/-!
# Help texts

What the program says about itself.
-/
namespace Citations.Command

/-- The name of the program. -/
def programName : Text := "citer".toList

/-- The text of the version. -/
def versionText : Text := programName ++ " 0.1.0\n".toList

/-- What a verb does, in a line. -/
def Verb.about : Verb → Text
  | keys => "List the citation keys available to a document".toList
  | refs => "List the cross-reference labels defined in a document".toList
  | watch => "Track the bibliographies of a document until interrupted".toList

/-- How the program is called. -/
def usage : Topic → Text
  | .program => "Usage: citer [OPTIONS] <COMMAND>".toList
  | .verb verb => "Usage: citer ".toList ++ verb.word ++ " [OPTIONS] <DOCUMENT>".toList
  | .help => "Usage: citer help [COMMAND]...".toList

/-- The line of the workspace option. -/
def workspaceLine : Text :=
  ("  -w, --workspace <WORKSPACE>  Workspace root; " ++
    "relative bibliography paths resolve against it").toList

/-- The line of the mode option. -/
def modeLine : Text :=
  ("      --mode <MODE>            Overrides \x60crossref_mode\x60 from the settings " ++
    "[possible values: full, minimal, none]").toList

/-- The line of the help option. -/
def helpLine : Text := "  -h, --help                   Print help".toList

/-- The line of the version option. -/
def versionLine : Text := "  -V, --version                Print version".toList

/-- The help on a topic, line by line. -/
def helpLines (topic : Topic) : List Text :=
  match topic with
  | .program =>
    ["Citation and cross-reference lookup for Markdown documents".toList, [], usage topic, [],
      "Commands:".toList, "  keys   ".toList ++ Verb.keys.about,
      "  refs   ".toList ++ Verb.refs.about, "  watch  ".toList ++ Verb.watch.about,
      "  help   Print this message or the help of the given subcommand(s)".toList, [],
      "Options:".toList, workspaceLine, helpLine, versionLine]
  | .verb verb =>
    [verb.about, [], usage topic, [], "Arguments:".toList, "  <DOCUMENT>  ".toList, [],
      "Options:".toList] ++ (if verb = .refs then [modeLine] else []) ++ [workspaceLine, helpLine]
  | .help =>
    ["Print this message or the help of the given subcommand(s)".toList, [], usage topic, [],
      "Arguments:".toList, "  [COMMAND]...  Print help for the subcommand(s)".toList]

/-- The help on a topic. -/
def helpText (topic : Topic) : Text := (helpLines topic).flatMap (· ++ ['\n'])

end Citations.Command
