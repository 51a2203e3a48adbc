import Citations.Proofs.Discovery.Resolution
import Citations.Proofs.Text.Pieces

/-!
# Blank entries

Each of the four rules lists entries, passes over some of them and resolves the others
(`Discovery.candidates_eq`). So an entry that is added to what one rule lists adds one candidate or
none (`Discovery.candidates_added`).

The declaration on a line passes over every entry that is blank, that is, of which nothing is left
without its quotes, and the default sources pass over those of which nothing is written. The front
matter and the root file pass over nothing: a blank entry there stands for the directory that the
entries are relative to, and this directory is looked for like any other candidate. It makes no
difference only if the directory is named before; where nothing changes, the directory was found or
reported anyway.
-/
namespace Citations

namespace Discovery

open Declaration Citations.Path Text

/-! ## What the rules list -/

/-- The rules by which sources are listed. -/
inductive Rule where
  /-- The declaration on a line of the document. -/
  | inline
  /-- The front matter of the document. -/
  | frontMatter
  /-- The root file. -/
  | rootFile
  /-- The default sources. -/
  | defaults
  deriving DecidableEq

namespace Rule

/-- The rules in their order. -/
def all : List Rule := [.inline, .frontMatter, .rootFile, .defaults]

/-- Whether a rule passes over an entry. -/
def ignores : Rule → Text → Bool
  | .inline, entry => decide (unquote (trim entry) = [])
  | .defaults, entry => decide (entry = [])
  | _, _ => false

/-- The entries that a rule does not pass over. -/
def heeded (rule : Rule) (entries : List Text) : List Text :=
  entries.filter fun entry => !rule.ignores entry

/-- Nothing is left of an entry without its quotes. The entries on a line stand among white space,
which is taken off first. -/
def Blank : Rule → Text → Prop
  | .inline, entry => unquote (trim entry) = []
  | _, entry => unquote entry = []

end Rule

/-- The entries in the brackets of the declaration on a line; there are none in brackets with
nothing but white space. -/
def inlineEntries (text : Text) : List Text :=
  match inlineFrom? true text with
  | none => []
  | some items => if trim items = [] then [] else splitAt ',' items

/-- The entries of the root file that the settings name. -/
def rootEntries (settings : Settings) (surroundings : Surroundings) (host : Host) : List Text :=
  match settings.rootFile? with
  | none => []
  | some file =>
    if file = [] then []
    else if host.doesExist (surroundings.resolve file) then
      match host.read (surroundings.resolve file) with
      | .error _ => []
      | .ok text => ((rootYaml? text).bind declared?).getD []
    else []

/-- The entries that each rule lists, as they are written. -/
def listed (settings : Settings) (surroundings : Surroundings) (host : Host) (text : Text) :
    Rule → List Text
  | .inline => inlineEntries text
  | .frontMatter => ((frontMatter? text).bind declared?).getD []
  | .rootFile => rootEntries settings surroundings host
  | .defaults =>
    if settings.usesDefaults then settings.defaultBib?.toList ++ settings.defaultBibs else []

/-- The directory of the root file, which its entries are relative to. -/
def rootDirectory (surroundings : Surroundings) (rootFile? : Option Text) : Path :=
  (surroundings.resolve (rootFile?.getD [])).parent?.getD ⟨[]⟩

/-- The candidate that an entry of a rule stands for, if it is not passed over. -/
def resolved (surroundings : Surroundings) (rootFile? : Option Text) : Rule → Text → Path
  | .inline, entry => surroundings.resolve (unquote (trim entry))
  | .frontMatter, entry => surroundings.resolve (unquote entry)
  | .rootFile, entry =>
    surroundings.resolve ((rootDirectory surroundings rootFile?).join ⟨unquote entry⟩).text
  | .defaults, entry => surroundings.resolve entry

/-- The candidates of a rule that lists some entries. -/
def named (surroundings : Surroundings) (rootFile? : Option Text) (rule : Rule)
    (entries : List Text) : List Path :=
  (rule.heeded entries).map (resolved surroundings rootFile? rule)

/-- The candidates of a rule. -/
def ruleCandidates (settings : Settings) (surroundings : Surroundings) (host : Host) (text : Text)
    (rule : Rule) : List Path :=
  named surroundings settings.rootFile? rule (listed settings surroundings host text rule)

variable {settings later : Settings} {surroundings : Surroundings} {host after : Host}
variable {text edited entry : Text} {rule : Rule} {path : Path}

/-- The rule on a line heeds none of the pieces of brackets with nothing but white space. -/
theorem heeded_of_trim_eq_nil {items : Text} (nothing : trim items = []) :
    Rule.inline.heeded (splitAt ',' items) = [] := by
  have blank : ∀ c ∈ items, isBlank c = true := by
    intro c inside
    rw [← List.takeWhile_append_dropWhile (p := isBlank) (l := items)] at inside
    rcases List.mem_append.mp inside with front | rest
    · exact List.mem_takeWhile_imp front
    · exact List.rdropWhile_eq_nil_iff.mp nothing c rest
  have outside : ',' ∉ items := fun inside => absurd (blank ',' inside) (by decide)
  have ignored : Rule.inline.ignores items = true := by
    change decide (unquote (trim items) = []) = true
    rw [nothing]
    rfl
  rw [splitAt_of_not_mem outside, Rule.heeded, List.filter_cons, ignored]
  rfl

/-- The candidates of the declaration on a line. -/
theorem inlineCandidates_eq (surroundings : Surroundings) (rootFile? : Option Text) (text : Text) :
    inlineCandidates surroundings text =
      named surroundings rootFile? .inline (inlineEntries text) := by
  rw [inlineCandidates, inlineItems, inlineEntries, named]
  cases inlineFrom? true text with
  | none => rfl
  | some items =>
    have pieces : (((splitAt ',' items).map fun item => unquote (trim item)).filter
        (· ≠ [])).map surroundings.resolve =
          (Rule.inline.heeded (splitAt ',' items)).map
            (resolved surroundings rootFile? .inline) := by
      rw [List.filter_map, List.map_map, Rule.heeded]
      congr 1
      refine List.filter_congr fun item _ => ?_
      change decide (unquote (trim item) ≠ []) = !decide (unquote (trim item) = [])
      exact decide_not
    change _ = List.map _ (Rule.inline.heeded (if trim items = [] then [] else splitAt ',' items))
    by_cases nothing : trim items = []
    · rw [if_pos nothing]
      rw [heeded_of_trim_eq_nil nothing] at pieces
      exact pieces
    · rw [if_neg nothing]
      exact pieces

/-- A rule that passes over nothing heeds everything. -/
theorem Rule.heeded_all (never : ∀ entry, rule.ignores entry = false) (entries : List Text) :
    rule.heeded entries = entries :=
  List.filter_eq_self.mpr fun entry _ => by rw [never, Bool.not_false]

/-- The candidates of the root file. -/
theorem rootCandidates_eq (settings : Settings) (surroundings : Surroundings) (host : Host) :
    rootCandidates settings surroundings host =
      named surroundings settings.rootFile? .rootFile (rootEntries settings surroundings host) := by
  rw [named, Rule.rootFile.heeded_all fun _ => rfl, rootCandidates, rootEntries]
  cases settings.rootFile? with
  | none => rfl
  | some file =>
    change (if file = [] then [] else rootFileCandidates surroundings host _) =
      List.map _ (if file = [] then [] else _)
    split
    · rfl
    · rw [rootFileCandidates]
      split
      · cases host.read (surroundings.resolve file) <;> rfl
      · rfl

/-- The candidates are those of the rules, one rule after the other. -/
theorem candidates_eq (settings : Settings) (surroundings : Surroundings) (host : Host)
    (text : Text) :
    candidates settings surroundings host text =
      Rule.all.flatMap (ruleCandidates settings surroundings host text) := by
  have frontMatter : frontMatterCandidates surroundings text =
      ruleCandidates settings surroundings host text .frontMatter := by
    rw [ruleCandidates, named, Rule.frontMatter.heeded_all fun _ => rfl]
    rfl
  have defaults : defaultCandidates settings surroundings =
      ruleCandidates settings surroundings host text .defaults := by
    have kept (entries : List Text) : Rule.defaults.heeded entries = entries.filter (· ≠ []) :=
      List.filter_congr fun entry _ => decide_not.symm
    rw [ruleCandidates, named, kept, defaultCandidates, listed]
    split <;> rfl
  rw [candidates, inlineCandidates_eq surroundings settings.rootFile?, frontMatter,
    rootCandidates_eq, defaults, List.append_assoc, List.append_assoc]
  simp [Rule.all, ruleCandidates, listed]

/-! ## One entry more -/

/-- One rule lists an entry more, and the others heed what they heeded before. -/
structure Adds (rule : Rule) (entry : Text) (old new : Rule → List Text) : Prop where
  /-- The entry stands somewhere among those of its rule. -/
  place : ∃ front back, old rule = front ++ back ∧ new rule = front ++ entry :: back
  /-- What the other rules list differs at most in entries that they pass over. -/
  others : ∀ other, other ≠ rule → other.heeded (new other) = other.heeded (old other)

/-- An edit of the front matter leaves the other rules alone, as long as the declaration on a line
stays. -/
theorem adds_of_frontMatter {front back : List Text}
    (old : ((frontMatter? text).bind declared?).getD [] = front ++ back)
    (new : ((frontMatter? edited).bind declared?).getD [] = front ++ entry :: back)
    (inline : inlineEntries edited = inlineEntries text) :
    Adds .frontMatter entry (listed settings surroundings host text)
      (listed settings surroundings host edited) := by
  refine ⟨⟨front, back, old, new⟩, ?_⟩
  intro other apart
  cases other with
  | inline => exact congrArg (Rule.heeded .inline) inline
  | frontMatter => contradiction
  | rootFile => rfl
  | defaults => rfl

/-- Settings and hosts that differ at most in what they list: the root file is the same one, and the
same files are there. -/
structure Alike (settings later : Settings) (host after : Host) : Prop where
  /-- The settings name the same root file. -/
  rootFile : later.rootFile? = settings.rootFile?
  /-- The same files exist. -/
  doesExist : after.doesExist = host.doesExist
  /-- Changes are reported under the same paths. -/
  canonical : after.canonical = host.canonical

/-- Every rule has its place among the rules. -/
theorem Rule.all_split (rule : Rule) :
    ∃ front back, Rule.all = front ++ rule :: back ∧ rule ∉ front ∧ rule ∉ back := by
  cases rule with
  | inline => exact ⟨[], [.frontMatter, .rootFile, .defaults], rfl, by decide, by decide⟩
  | frontMatter => exact ⟨[.inline], [.rootFile, .defaults], rfl, by decide, by decide⟩
  | rootFile => exact ⟨[.inline, .frontMatter], [.defaults], rfl, by decide, by decide⟩
  | defaults => exact ⟨[.inline, .frontMatter, .rootFile], [], rfl, by decide, by decide⟩

/-- The candidates of a rule are those of the parts of what it lists. -/
theorem named_append (surroundings : Surroundings) (rootFile? : Option Text) (rule : Rule)
    (front back : List Text) :
    named surroundings rootFile? rule (front ++ back) =
      named surroundings rootFile? rule front ++ named surroundings rootFile? rule back := by
  rw [named, Rule.heeded, List.filter_append, List.map_append]
  rfl

/-- An entry more adds the candidates that it stands for, which are one or none. -/
theorem candidates_added
    (added : Adds rule entry (listed settings surroundings host text)
      (listed later surroundings after edited))
    (same : later.rootFile? = settings.rootFile?) :
    ∃ front back, candidates settings surroundings host text = front ++ back ∧
      candidates later surroundings after edited =
        front ++ (named surroundings settings.rootFile? rule [entry] ++ back) := by
  obtain ⟨first, last, order, unlisted, unlistedAfter⟩ := rule.all_split
  obtain ⟨before, behind, old, new⟩ := added.place
  have kept (other : Rule) (apart : other ≠ rule) :
      ruleCandidates later surroundings after edited other =
        ruleCandidates settings surroundings host text other := by
    rw [ruleCandidates, named, same, added.others other apart]
    rfl
  have keptAll {rules : List Rule} (outside : rule ∉ rules) :
      rules.flatMap (ruleCandidates later surroundings after edited) =
        rules.flatMap (ruleCandidates settings surroundings host text) :=
    List.flatMap_congr fun other inside => kept other fun equal => outside (equal ▸ inside)
  have held : ruleCandidates settings surroundings host text rule =
      named surroundings settings.rootFile? rule before ++
        named surroundings settings.rootFile? rule behind := by
    rw [ruleCandidates, old, named_append]
  have gained : ruleCandidates later surroundings after edited rule =
      named surroundings settings.rootFile? rule before ++
        (named surroundings settings.rootFile? rule [entry] ++
          named surroundings settings.rootFile? rule behind) := by
    rw [ruleCandidates, same, new, named_append, ← List.singleton_append, named_append]
  refine ⟨first.flatMap (ruleCandidates settings surroundings host text) ++
      named surroundings settings.rootFile? rule before,
    named surroundings settings.rootFile? rule behind ++
      last.flatMap (ruleCandidates settings surroundings host text), ?_, ?_⟩
  · rw [candidates_eq, order, List.flatMap_append, List.flatMap_cons, held]
    simp only [List.append_assoc]
  · rw [candidates_eq, order, List.flatMap_append, List.flatMap_cons, keptAll unlisted,
      keptAll unlistedAfter, gained]
    simp only [List.append_assoc]

/-! ## One candidate more -/

/-- What is found and reported of some candidates. -/
def probed (host : Host) (listing : List Path) : List Path × List Notice :=
  (distinct ((distinct listing).filterMap (probe? host)),
    ((distinct listing).filter fun candidate => (probe? host candidate).isNone).map .notFound)

/-- The same files answer to the same candidates. -/
theorem probed_congr (world : Alike settings later host after) : probed after = probed host := by
  have same : probe? after = probe? host := by
    funext candidate
    rw [probe?, probe?, world.doesExist, world.canonical]
  funext listing
  rw [probed, probed, same]

/-- A candidate that is named before makes no difference. -/
theorem probed_repeated {front : List Path} (repeated : path.isIn front = true)
    (back : List Path) : probed host (front ++ path :: back) = probed host (front ++ back) := by
  have known : path.isIn (distinct front) = true := by
    rw [isIn_distinct]
    exact repeated
  have same : distinct (front ++ path :: back) = distinct (front ++ back) := by
    rw [distinct_append, distinct_append, firsts, if_pos known]
  rw [probed, probed, same]

/-- How an outcome changes when a path comes to be a candidate of a listing. -/
structure Gains (host : Host) (path : Path) (listing : List Path)
    (old new : List Path × List Notice) : Prop where
  /-- The path is accounted for at its place, and makes no difference if it is named before. -/
  account : ∃ front back, listing = front ++ back ∧
    Accounted host (front ++ path :: back) new.1 new.2 ∧ (path.isIn front = true → new = old)
  /-- If nothing changes, the path was found or reported before. -/
  unchanged : new = old → ∃ written, Same written path ∧
    (Represented host old.1 written ∨ .notFound written ∈ old.2)

/-- A candidate that is put among others is found or reported. -/
theorem gains_inserted (host : Host) (path : Path) (front back : List Path) :
    Gains host path (front ++ back) (probed host (front ++ back))
      (probed host (front ++ path :: back)) := by
  have account : Accounted host (front ++ path :: back) (probed host (front ++ path :: back)).1
      (probed host (front ++ path :: back)).2 := accounted_probed host _
  refine ⟨⟨front, back, rfl, account, fun repeated => probed_repeated repeated back⟩, ?_⟩
  intro unchanged
  obtain ⟨written, first, same⟩ := isIn_iff.mp
    (account.covered path (List.mem_append_right front List.mem_cons_self))
  rw [unchanged] at account
  exact ⟨written, same, (account.either written first).or⟩

/-! ## Blank entries -/

/-- Without a name, what the base leads to is resolved. -/
theorem resolve_nil (surroundings : Surroundings) :
    surroundings.resolve [] = surroundings.base.normalize := by
  rw [surroundings.resolve_eq, normalize_eq]
  rfl

/-- Behind a directory, an empty name stands for the directory. -/
theorem resolve_join_nil (surroundings : Surroundings) (directory : Path) :
    surroundings.resolve (directory.join ⟨[]⟩).text = surroundings.resolve directory.text := by
  obtain ⟨text⟩ := directory
  have relative : isAbsolute ⟨[]⟩ = false := rfl
  rw [Path.join, relative, if_neg Bool.false_ne_true]
  split
  · rw [List.append_nil]
  · rename_i unended
    have written : text ≠ [] := fun empty => unended (Or.inl empty)
    exact Surroundings.resolve_congr
      ⟨isAbsolute_append written _, fun names => walk_slash names text []⟩

/-- A blank entry of the declaration on a line adds nothing to what is found and reported, wherever
it stands, and neither does a default source of which nothing is written. A blank entry of the front
matter adds the base of relative candidates as a candidate, one of the root file the directory of
that file, and default quotes with nothing in them a file of that name. -/
theorem discover_blank (world : Alike settings later host after) (blank : rule.Blank entry)
    (added : Adds rule entry (listed settings surroundings host text)
      (listed later surroundings after edited)) :
    let old := discover settings surroundings host text
    let new := discover later surroundings after edited
    let listing := candidates settings surroundings host text
    (rule = .inline ∨ rule = .defaults ∧ entry = [] → new = old) ∧
    (rule = .frontMatter → Gains host surroundings.base.normalize listing old new) ∧
    (rule = .rootFile → Gains host
      (surroundings.resolve (rootDirectory surroundings settings.rootFile?).text)
      listing old new) ∧
    (rule = .defaults → entry ≠ [] → Gains host (surroundings.resolve entry) listing old new) := by
  intro old new listing
  obtain ⟨front, back, before, behind⟩ := candidates_added added world.rootFile
  have oldProbed : old = probed host (front ++ back) := before ▸ rfl
  have newProbed : new = probed host
      (front ++ (named surroundings settings.rootFile? rule [entry] ++ back)) := by
    rw [← behind, ← probed_congr world]
    rfl
  -- An entry that is heeded is one candidate more.
  have gains {place : Path}
      (stands : named surroundings settings.rootFile? rule [entry] = [place]) :
      Gains host place listing old new := by
    rw [stands] at newProbed
    have parts : listing = front ++ back := before
    rw [parts, oldProbed, newProbed]
    exact gains_inserted host place front back
  refine ⟨?_, ?_, ?_, ?_⟩
  · intro passed
    have ignored : rule.ignores entry = true := by
      rcases passed with rfl | ⟨rfl, rfl⟩
      · exact decide_eq_true blank
      · rfl
    have nothing : named surroundings settings.rootFile? rule [entry] = [] := by
      rw [named, Rule.heeded, List.filter_cons, ignored]
      rfl
    rw [newProbed, nothing, oldProbed]
    rfl
  · rintro rfl
    have bare : unquote entry = [] := blank
    apply gains
    rw [← resolve_nil, ← bare]
    rfl
  · rintro rfl
    have bare : unquote entry = [] := blank
    apply gains
    rw [← resolve_join_nil, ← bare]
    rfl
  · rintro rfl written
    have heeded : Rule.defaults.ignores entry = false := decide_eq_false written
    apply gains
    rw [named, Rule.heeded, List.filter_cons, heeded]
    rfl

/-- A blank item in a list in the front matter adds the workspace root to what is looked for. -/
theorem discover_blank_item :
    let surroundings : Surroundings := ⟨⟨"/".toList⟩, some ⟨"/w".toList⟩, none⟩
    let host := (Memory.mk [(⟨"/w/a.bib".toList⟩, [])] [] [] []).host
    let text := "---\nbibliography:\n- a.bib\n---".toList
    let edited := "---\nbibliography:\n- ''\n- a.bib\n---".toList
    Rule.frontMatter.Blank [] ∧
      Adds .frontMatter [] (listed {} surroundings host text)
        (listed {} surroundings host edited) ∧
      Gains host ⟨"/w".toList⟩ [⟨"/w/a.bib".toList⟩] (discover {} surroundings host text)
        (discover {} surroundings host edited) := by
  intro surroundings host text edited
  have blank : Rule.frontMatter.Blank [] := rfl
  have old : ((frontMatter? text).bind declared?).getD [] = [] ++ ["a.bib".toList] := by
    decide +kernel
  have new : ((frontMatter? edited).bind declared?).getD [] = [] ++ [] :: ["a.bib".toList] := by
    decide +kernel
  have added : Adds .frontMatter [] (listed {} surroundings host text)
      (listed {} surroundings host edited) := adds_of_frontMatter old new (by decide)
  have world : Alike {} {} host host := ⟨rfl, rfl, rfl⟩
  have gains : Gains host surroundings.base.normalize (candidates {} surroundings host text)
      (discover {} surroundings host text) (discover {} surroundings host edited) :=
    (discover_blank world blank added).2.1 rfl
  have base : surroundings.base.normalize = ⟨"/w".toList⟩ := by decide
  have listing : candidates {} surroundings host text = [⟨"/w/a.bib".toList⟩] := by
    decide +kernel
  rw [base, listing] at gains
  exact ⟨blank, added, gains⟩

/-- A blank value in the front matter stands for the workspace root, and with an extension for a
file beside it, which is found although the document names nothing. -/
theorem discover_blank_value :
    let surroundings : Surroundings := ⟨⟨"/".toList⟩, some ⟨"/w".toList⟩, none⟩
    let host := (Memory.mk [(⟨"/w.bib".toList⟩, [])] [] [] []).host
    let text := "---\n---\n".toList
    let edited := "---\nbibliography: ''\n---\n".toList
    Rule.frontMatter.Blank [] ∧
      Adds .frontMatter [] (listed {} surroundings host text)
        (listed {} surroundings host edited) ∧
      discover {} surroundings host text = ([], []) ∧
      discover {} surroundings host edited = ([⟨"/w.bib".toList⟩], []) := by
  intro surroundings host text edited
  have old : ((frontMatter? text).bind declared?).getD [] = [] ++ [] := by decide +kernel
  have new : ((frontMatter? edited).bind declared?).getD [] = [] ++ [[]] := by decide +kernel
  exact ⟨rfl, adds_of_frontMatter old new (by decide), by decide +kernel, by decide +kernel⟩

end Discovery

end Citations
