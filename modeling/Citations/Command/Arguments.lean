import Citations.CrossRef.Kind
import Citations.Path.Basic

/-!
# Arguments of the command line

The first word that is no option names a command, which takes a document. Options start with a
hyphen; those with a value take the next word, or what follows an equals sign or a short name.
After two hyphens every word is a document. Asking for help or the version ends the reading,
whatever comes after it.
-/
namespace Citations.Command

/-- What the program does. -/
inductive Verb where
  /-- List the keys that a document can cite. -/
  | keys
  /-- List the labels of a document. -/
  | refs
  /-- Follow the sources of a document. -/
  | watch
  deriving DecidableEq, Repr

/-- The word for a verb. -/
def Verb.word : Verb → Text
  | keys => "keys".toList
  | refs => "refs".toList
  | watch => "watch".toList

/-- The verb of a word. -/
def Verb.ofWord? (word : Text) : Option Verb := [keys, refs, watch].find? (·.word = word)

/-- What help is asked on. -/
inductive Topic where
  /-- The program. -/
  | program
  /-- A verb. -/
  | verb (verb : Verb)
  /-- The help. -/
  | help
  deriving DecidableEq, Repr

/-- What an option is about. -/
inductive Flag where
  /-- The root of the workspace. -/
  | workspace
  /-- How much of labels is listed. -/
  | mode
  /-- Help. -/
  | help
  /-- The version. -/
  | version
  deriving DecidableEq, Repr

/-- What the words after a verb, or before it, give. -/
structure Given where
  /-- The root of the workspace. -/
  workspace? : Option Path := none
  /-- How much of labels is listed. -/
  mode? : Option LabelMode := none
  /-- The document. -/
  document? : Option Path := none
  /-- The option whose value comes next. -/
  expecting? : Option Flag := none
  /-- Whether only documents follow. -/
  isLiteral : Bool := false

/-- A run of the program. -/
structure Invocation where
  /-- What to do. -/
  verb : Verb
  /-- The root of the workspace, if it is not the current directory. -/
  workspace? : Option Path
  /-- How much of labels is listed, if the settings do not decide. -/
  mode? : Option LabelMode
  /-- The document. -/
  document : Path
  deriving DecidableEq, Repr

/-- What the arguments ask for. -/
inductive Request where
  /-- The version. -/
  | version
  /-- Help. -/
  | help (topic : Topic)
  /-- A run. -/
  | run (invocation : Invocation)
  deriving DecidableEq, Repr

/-- The options before a verb, or after one. -/
def flags : Option Verb → List Flag
  | none => [.workspace, .help, .version]
  | some .refs => [.workspace, .mode, .help]
  | some _ => [.workspace, .help]

/-- The long name of an option. -/
def Flag.long : Flag → Text
  | workspace => "workspace".toList
  | mode => "mode".toList
  | help => "help".toList
  | version => "version".toList

/-- The short name of an option. -/
def Flag.short? : Flag → Option Char
  | workspace => some 'w'
  | mode => none
  | help => some 'h'
  | version => some 'V'

/-- The mode of a word. -/
def modeNamed? (word : Text) : Option LabelMode :=
  if word = "full".toList then some .full
  else if word = "minimal".toList then some .minimal
  else if word = "none".toList then some .none
  else none

/-- Whether a word looks like an option. A hyphen alone does not. -/
def isOption (word : Text) : Bool := word.head? = some '-' && word ≠ ['-']

/-- The option of a word, and the value that the word gives it. -/
def flag? (verb? : Option Verb) (word : Text) : Option (Flag × Option Text) :=
  match word with
  | '-' :: '-' :: rest => do
    let name := rest.takeWhile (· ≠ '=')
    let flag ← (flags verb?).find? (·.long = name)
    let value? := if name = rest then none else some (rest.drop (name.length + 1))
    -- help and version take no value
    if value?.isSome && (flag = .help || flag = .version) then none else some (flag, value?)
  | '-' :: c :: rest => do
    let flag ← (flags verb?).find? (·.short? = some c)
    let value := if rest.head? = some '=' then rest.tail else rest
    some (flag, if rest = [] then none else some value)
  | _ => none

/-- A path that is not empty. -/
def path? (value : Text) : Option Path := if value = [] then none else some ⟨value⟩

namespace Given

/-- Give an option a value, once. -/
def set? (given : Given) (flag : Flag) (value : Text) : Option Given :=
  match flag with
  | .workspace =>
    if given.workspace?.isSome then none
    else (path? value).map fun path => { given with workspace? := some path, expecting? := none }
  | .mode =>
    if given.mode?.isSome then none
    else (modeNamed? value).map fun mode =>
      { given with mode? := some mode, expecting? := none }
  | _ => none

/-- Give the document, once. -/
def setDocument? (given : Given) (value : Text) : Option Given :=
  if given.document?.isSome then none
  else (path? value).map fun path => { given with document? := some path }

/-- Take an option whose word may hold its value. -/
def take? (given : Given) (flag : Flag) : Option Text → Option Given
  | some value => given.set? flag value
  | none => some { given with expecting? := some flag }

end Given

/-- What help the words after `help` ask for. -/
def helpTopic? : List Text → Option Topic
  | [] => some .program
  | [word] => if word = "help".toList then some .help else (Verb.ofWord? word).map .verb
  | _ => none

/-- What the words after a verb ask for. -/
def readAfter? (verb : Verb) (outer? : Option Path) : Given → List Text → Option Request
  | given, [] =>
    if given.expecting?.isSome then none
    else given.document?.map fun document =>
      .run ⟨verb, given.workspace?.or outer?, given.mode?, document⟩
  | given, word :: rest =>
    if given.isLiteral then
      (given.setDocument? word).bind fun next => readAfter? verb outer? next rest
    else
      match given.expecting? with
      | some flag =>
        if isOption word then none
        else (given.set? flag word).bind fun next => readAfter? verb outer? next rest
      | none =>
        if word = ['-', '-'] then readAfter? verb outer? { given with isLiteral := true } rest
        else if isOption word then
          match flag? (some verb) word with
          | none => none
          | some (.help, _) => some (.help (.verb verb))
          | some (flag, value?) =>
            (given.take? flag value?).bind fun next => readAfter? verb outer? next rest
        else (given.setDocument? word).bind fun next => readAfter? verb outer? next rest

/-- What the words of a command line ask for; none if they make no sense. -/
def read? : Given → List Text → Option Request
  | _, [] => none
  | given, word :: rest =>
    match given.expecting? with
    | some flag =>
      if isOption word then none
      else (given.set? flag word).bind fun next => read? next rest
    | none =>
      if isOption word then
        match flag? none word with
        | none => none
        | some (.help, _) => some (.help .program)
        | some (.version, _) => some .version
        | some (flag, value?) => (given.take? flag value?).bind fun next => read? next rest
      else if word = "help".toList then (helpTopic? rest).map .help
      else (Verb.ofWord? word).bind fun verb => readAfter? verb given.workspace? {} rest

end Citations.Command
