import Citations.Discovery.Basic
import Citations.Proofs.Host
import Mathlib.Data.List.Count
import Mathlib.Data.List.Nodup

/-!
# Every candidate is accounted for

A discovery looks at each candidate once, at its first occurrence. What a candidate stands for
is among the discovered sources, or the candidate is reported; sources that several candidates
stand for are listed once. Turning the default sources on only adds at the end, because they
come last.

Two candidates are the same when their paths are, however they are written, and so are two
sources; what is dropped as a repetition is therefore settled by components in both places.
-/
namespace Citations

namespace Path

variable {path : Path} {paths more known : List Path}

/-- The paths of a list that are the same as none before them, when `seen` come before the
list. -/
def firsts (seen : List Path) : List Path → List Path
  | [] => []
  | path :: rest =>
    if path.isIn seen then firsts seen rest else path :: firsts (path :: seen) rest

/-- First occurrences depend on which paths come before, not on their order. -/
theorem firsts_congr {left right : List Path}
    (same : ∀ path : Path, path.isIn left = path.isIn right) (paths : List Path) :
    firsts left paths = firsts right paths := by
  induction paths generalizing left right with
  | nil => rfl
  | cons path rest ih =>
    have later : ∀ other : Path, other.isIn (path :: left) = other.isIn (path :: right) := by
      intro other
      rw [isIn, isIn, List.any_cons, List.any_cons, ← isIn, ← isIn, same]
    rw [firsts, firsts, same, ih same, ih later]

/-- First occurrences are taken from the list in its order. -/
theorem firsts_sublist (seen paths : List Path) : (firsts seen paths).Sublist paths := by
  induction paths generalizing seen with
  | nil => exact List.Sublist.slnil
  | cons path rest ih =>
    rw [firsts]
    by_cases repeated : path.isIn seen = true
    · rw [if_pos repeated]
      exact (ih seen).cons path
    · rw [if_neg repeated]
      exact (ih (path :: seen)).cons_cons path

/-- Inserting paths one after another appends those that are new when they come. -/
theorem foldl_insertInto (known paths : List Path) :
    paths.foldl (fun known path => path.insertInto known) known = known ++ firsts known paths := by
  induction paths generalizing known with
  | nil => exact (List.append_nil known).symm
  | cons path rest ih =>
    rw [List.foldl_cons, ih, firsts, insertInto]
    split
    · rfl
    · have swapped : ∀ other : Path, other.isIn (known ++ [path]) = other.isIn (path :: known) := by
        intro other
        rw [Bool.eq_iff_iff, isIn_append, isIn_cons, isIn_cons, or_comm]
        simp [isIn]
      rw [firsts_congr swapped, List.append_assoc, List.singleton_append]

/-- The collected paths are the first occurrences. -/
theorem distinct_eq_firsts (paths : List Path) : distinct paths = firsts [] paths :=
  foldl_insertInto [] paths

/-- More paths only add to the first occurrences, at the end. -/
theorem distinct_append (paths more : List Path) :
    distinct (paths ++ more) = distinct paths ++ firsts (distinct paths) more := by
  rw [distinct, List.foldl_append, foldl_insertInto]
  rfl

/-- No path occurs first twice. -/
theorem distinct_distinct (paths : List Path) : Distinct (distinct paths) :=
  List.foldlRecOn paths _ List.Pairwise.nil fun _ kept path _ => kept.insertInto path

/-- Paths of which no two are the same are no path twice. -/
theorem Distinct.nodup (distinct : Distinct paths) : paths.Nodup :=
  List.Pairwise.imp (fun {left right} apart (equal : left = right) =>
    apart (equal ▸ Same.refl left)) distinct

end Path

namespace Discovery

variable {host : Host} {candidate source file : Path} {listing : List Path}

/-! ## What a candidate stands for -/

/-- A candidate stands for the file under its own path, else for the one with `.json` added,
else for the one with `.bib` added. -/
def StandsFor (host : Host) (candidate file : Path) : Prop :=
  host.doesExist file = true ∧
    (file = candidate ∨
      host.doesExist candidate = false ∧
        (file = candidate.append ".json".toList ∨
          host.doesExist (candidate.append ".json".toList) = false ∧
            file = candidate.append ".bib".toList))

/-- Probing a candidate finds the file that it stands for. -/
theorem probe?_eq_some_iff :
    probe? host candidate = some source ↔
      ∃ file, StandsFor host candidate file ∧ host.canonical file = source := by
  have searched : ∀ file, [candidate, candidate.append ".json".toList,
      candidate.append ".bib".toList].find? host.doesExist = some file ↔
        StandsFor host candidate file := by
    intro file
    unfold StandsFor
    cases own : host.doesExist candidate <;>
      cases json : host.doesExist (candidate.append ".json".toList) <;>
        grind
  simp only [probe?, Option.map_eq_some_iff, searched]

/-! ## The account of a discovery -/

/-- The file that a candidate stands for is among the discovered sources, in the form under
which changes are reported. -/
def Represented (host : Host) (found : List Path) (candidate : Path) : Prop :=
  ∃ file, StandsFor host candidate file ∧ (host.canonical file).isIn found = true

/-- What becomes of the candidates of a listing. -/
structure Accounted (host : Host) (listing found : List Path) (notices : List Notice) : Prop where
  /-- The sources are what the candidates stand for, at first occurrences. -/
  sources : found = Path.firsts [] ((Path.firsts [] listing).filterMap (probe? host))
  /-- The candidates that stand for nothing are reported in order, and nothing else is. -/
  reports : notices =
    ((Path.firsts [] listing).filter fun candidate => (probe? host candidate).isNone).map
      .notFound
  /-- Every candidate is looked at, in one of its written forms. -/
  covered : ∀ candidate ∈ listing, candidate.isIn (Path.firsts [] listing) = true
  /-- A candidate that stands for nothing is reported once, and any other one never. -/
  once : ∀ candidate ∈ Path.firsts [] listing,
    notices.count (.notFound candidate) = if (probe? host candidate).isNone then 1 else 0
  /-- A candidate is represented or reported, and not both. -/
  either : ∀ candidate ∈ Path.firsts [] listing,
    Xor (Represented host found candidate) (.notFound candidate ∈ notices)
  /-- A source is the reported form of a file that some candidate stands for. -/
  origin : ∀ source ∈ found, ∃ candidate ∈ listing, ∃ file,
    StandsFor host candidate file ∧ host.canonical file = source
  /-- No source is listed twice. -/
  distinct : Path.Distinct found

/-- Reports of paths are as many as the paths. -/
theorem count_map_notFound (candidate : Path) (missing : List Path) :
    (missing.map Notice.notFound).count (.notFound candidate) = missing.count candidate :=
  List.count_map_of_injective missing Notice.notFound
    (fun _ _ equal => Notice.notFound.inj equal) candidate

/-- A candidate is reported when probing it finds nothing. -/
theorem mem_map_notFound_iff (listed : candidate ∈ listing) :
    Notice.notFound candidate ∈
        (listing.filter fun candidate => (probe? host candidate).isNone).map .notFound ↔
      probe? host candidate = none := by
  simp [listed]

/-- A candidate is represented when probing it finds something. -/
theorem represented_iff (listed : candidate ∈ listing) :
    Represented host (Path.distinct (listing.filterMap (probe? host))) candidate ↔
      probe? host candidate ≠ none := by
  constructor
  · rintro ⟨file, stands, _⟩ missing
    have probed := probe?_eq_some_iff.mpr ⟨file, stands, rfl⟩
    rw [missing] at probed
    contradiction
  · intro there
    obtain ⟨source, probed⟩ := Option.ne_none_iff_exists'.mp there
    obtain ⟨file, stands, reported⟩ := probe?_eq_some_iff.mp probed
    refine ⟨file, stands, Path.isIn_distinct.mpr (Path.isIn_of_mem ?_)⟩
    rw [reported]
    exact List.mem_filterMap.mpr ⟨candidate, listed, probed⟩

/-- Probing each candidate once accounts for all of them. -/
theorem accounted_probed (host : Host) (listing : List Path) :
    Accounted host listing
      (Path.distinct ((Path.distinct listing).filterMap (probe? host)))
      (((Path.distinct listing).filter fun candidate => (probe? host candidate).isNone).map
        .notFound) := by
  have firsts : Path.firsts [] listing = Path.distinct listing :=
    (Path.distinct_eq_firsts listing).symm
  refine ⟨?_, ?_, ?_, ?_, ?_, ?_, Path.distinct_distinct _⟩
  · rw [firsts, Path.distinct_eq_firsts ((Path.distinct listing).filterMap (probe? host))]
  · rw [firsts]
  · intro candidate listed
    rw [firsts, Path.isIn_distinct]
    exact Path.isIn_of_mem listed
  · intro candidate listed
    rw [firsts] at listed
    rw [count_map_notFound]
    split
    · rename_i missing
      exact List.count_eq_one_of_mem ((Path.distinct_distinct listing).nodup.filter _)
        (List.mem_filter.mpr ⟨listed, missing⟩)
    · rename_i there
      exact List.count_eq_zero.mpr fun member => there (List.mem_filter.mp member).2
  · intro candidate listed
    rw [firsts] at listed
    rw [represented_iff listed, mem_map_notFound_iff listed]
    exact xor_not_left.mpr Iff.rfl
  · intro source listed
    rw [Path.distinct_eq_firsts] at listed
    obtain ⟨candidate, probed, found⟩ :=
      List.mem_filterMap.mp ((Path.firsts_sublist _ _).subset listed)
    rw [← firsts] at probed
    exact ⟨candidate, (Path.firsts_sublist _ _).subset probed, probe?_eq_some_iff.mp found⟩

/-- More candidates at the end only add sources and reports at the end. -/
theorem probed_append (host : Host) (listing more : List Path) :
    Path.distinct ((Path.distinct listing).filterMap (probe? host)) <+:
        Path.distinct ((Path.distinct (listing ++ more)).filterMap (probe? host)) ∧
      ((Path.distinct listing).filter fun candidate => (probe? host candidate).isNone).map
          Notice.notFound <+:
        ((Path.distinct (listing ++ more)).filter fun candidate =>
          (probe? host candidate).isNone).map Notice.notFound := by
  rw [Path.distinct_append, List.filterMap_append, Path.distinct_append, List.filter_append,
    List.map_append]
  exact ⟨List.prefix_append _ _, List.prefix_append _ _⟩

/-- Without defaults there are no default candidates, and the other rules do not ask. -/
theorem candidates_defaults (settings : Settings) (surroundings : Surroundings) (host : Host)
    (text : Text) :
    candidates { settings with usesDefaults := true } surroundings host text =
      candidates { settings with usesDefaults := false } surroundings host text ++
        defaultCandidates { settings with usesDefaults := true } surroundings := by
  have none : defaultCandidates { settings with usesDefaults := false } surroundings = [] := rfl
  rw [candidates, candidates, none, List.append_nil]
  rfl

/-- A discovery accounts for the candidates of the four rules, in the order of the rules, and
turning the default sources on adds sources and reports at the end only. -/
theorem discover_accounts (settings : Settings) (surroundings : Surroundings) (host : Host)
    (text : Text) :
    let outcome := discover settings surroundings host text
    let plain := discover { settings with usesDefaults := false } surroundings host text
    let full := discover { settings with usesDefaults := true } surroundings host text
    Accounted host
        (inlineCandidates surroundings text ++ frontMatterCandidates surroundings text ++
          rootCandidates settings surroundings host ++ defaultCandidates settings surroundings)
        outcome.1 outcome.2 ∧
      plain.1 <+: full.1 ∧ plain.2 <+: full.2 := by
  intro outcome plain full
  refine ⟨accounted_probed host _, ?_⟩
  have extended := probed_append host
    (candidates { settings with usesDefaults := false } surroundings host text)
    (defaultCandidates { settings with usesDefaults := true } surroundings)
  rw [← candidates_defaults] at extended
  exact extended

end Discovery

end Citations
