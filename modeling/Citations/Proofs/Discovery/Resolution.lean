import Citations.Proofs.Discovery.Accounting
import Citations.Proofs.Path.Walk

/-!
# Resolving a candidate

A candidate is walked from the root or from the directory that relative candidates are resolved
against, and the place reached is written as a path (`Surroundings.resolve_eq`). So the laws of
resolution are laws of walks (`Surroundings.resolve_lexical`): how a candidate is written does not
matter as long as it leads the same way, and a place that is written from the root is found again
from everywhere.

A resolved candidate starts at the root if the candidate does or the directory does. That directory
is the one that the caller gives or that of the document it gives, as it stands, so with a current
directory that starts at the root everything is resolved from the root exactly if what the caller
gives starts there too (`Grounded`). A document that is given by its name alone has an empty
directory, and then the current one does not come in.
-/
namespace Citations

open Citations.Path

namespace Surroundings

variable {surroundings other : Surroundings} {left right candidate before after name : Text}

/-! ## The walk of a candidate -/

/-- The directory that relative candidates are resolved against. -/
def base (surroundings : Surroundings) : Path :=
  surroundings.root?.getD ((surroundings.document?.bind parent?).getD surroundings.current)

/-- Whether the walk of a candidate starts at the root. -/
def isAnchored (surroundings : Surroundings) (candidate : Text) : Bool :=
  isAbsolute ⟨candidate⟩ || surroundings.base.isAbsolute

/-- The names that the walk of a candidate starts with, innermost first. -/
def start (surroundings : Surroundings) (candidate : Text) : List Text :=
  if isAbsolute ⟨candidate⟩ then [] else walk [] surroundings.base.text

/-- The names of the place that a candidate leads to, innermost first. -/
def place (surroundings : Surroundings) (candidate : Text) : List Text :=
  walk (surroundings.start candidate) candidate

/-- A resolved candidate writes the names of its place. -/
theorem resolve_eq (surroundings : Surroundings) (candidate : Text) :
    surroundings.resolve candidate =
      ofSegments (surroundings.isAnchored candidate) (surroundings.place candidate).reverse := by
  rw [Surroundings.resolve, Path.resolve, isAnchored, place, start]
  cases absolute : isAbsolute ⟨candidate⟩ with
  | true =>
    rw [if_pos rfl, if_pos rfl, normalize_eq, absolute]
    rfl
  | false =>
    rw [if_neg Bool.false_ne_true, if_neg Bool.false_ne_true, normalize_join _ absolute]
    rfl

/-- All names of a place are ordinary. -/
theorem place_ordinary (surroundings : Surroundings) (candidate : Text) :
    ∀ name ∈ (surroundings.place candidate).reverse, Ordinary name := by
  have none : ∀ name ∈ ([] : List Text), Ordinary name := List.forall_mem_nil _
  have started : ∀ name ∈ surroundings.start candidate, Ordinary name := by
    unfold start
    split
    · exact none
    · exact walk_ordinary none _
  intro name listed
  exact walk_ordinary started candidate name (List.mem_reverse.mp listed)

/-- A resolved candidate starts where its walk does, and its components are the names of its
place. -/
theorem parts_resolve (surroundings : Surroundings) (candidate : Text) :
    (surroundings.resolve candidate).parts =
      ⟨surroundings.isAnchored candidate, (surroundings.place candidate).reverse.map .name⟩ := by
  rw [resolve_eq, parts_written (surroundings.place_ordinary candidate)]

/-- The components of a resolved candidate are names. -/
theorem components_resolve (surroundings : Surroundings) (candidate : Text) :
    (surroundings.resolve candidate).components =
      (surroundings.place candidate).reverse.map .name :=
  congrArg Parts.components (surroundings.parts_resolve candidate)

/-- A resolved candidate starts at the root if the candidate or the base does. -/
theorem isAbsolute_resolve (surroundings : Surroundings) (candidate : Text) :
    (surroundings.resolve candidate).isAbsolute =
      (isAbsolute ⟨candidate⟩ || surroundings.base.isAbsolute) :=
  congrArg Parts.absolute (surroundings.parts_resolve candidate)

/-- Interchangeable candidates are resolved to the same path. -/
theorem resolve_congr (same : Interchangeable left right) :
    surroundings.resolve left = surroundings.resolve right := by
  rw [resolve_eq, resolve_eq, isAnchored, isAnchored, place, place, start, start, same.start,
    same.walk]

/-- A candidate that starts at the root is resolved without the surroundings. -/
theorem resolve_of_absolute (absolute : isAbsolute ⟨candidate⟩ = true) :
    surroundings.resolve candidate = ofSegments true (walk [] candidate).reverse := by
  rw [resolve_eq, isAnchored, place, start, absolute, Bool.true_or, if_pos rfl]

/-- A resolved candidate that starts at the root is resolved to itself. -/
theorem resolve_resolve (absolute : (surroundings.resolve candidate).isAbsolute = true) :
    other.resolve (surroundings.resolve candidate).text = surroundings.resolve candidate := by
  have anchored : surroundings.isAnchored candidate = true :=
    (surroundings.isAbsolute_resolve candidate).symm.trans absolute
  have again : walk [] (surroundings.resolve candidate).text = surroundings.place candidate := by
    rw [resolve_eq, walk_written (surroundings.place_ordinary candidate), List.reverse_reverse]
  have rooted : isAbsolute ⟨(surroundings.resolve candidate).text⟩ = true := absolute
  rw [resolve_of_absolute rooted, again, resolve_eq, anchored]

/-- Steps up that are at least as many as the names of a place lead to the root, if the place is
written from there. -/
theorem resolve_climb {steps : Nat}
    (absolute : (surroundings.resolve before).isAbsolute = true)
    (enough : (surroundings.resolve before).components.length ≤ steps) (rest : Text) :
    surroundings.resolve (before ++ '/' :: (climb steps ++ rest)) =
      surroundings.resolve ('/' :: rest) := by
  have ended : surroundings.resolve ('/' :: rest) = ofSegments true (walk [] rest).reverse := by
    rw [resolve_of_absolute rfl, walk_cons_slash]
  rw [ended]
  by_cases empty : before = []
  · have top : walk [] (climb steps ++ rest) = walk [] rest := by
      rw [walk_climb, List.drop_nil]
    rw [empty, List.nil_append, resolve_of_absolute rfl, walk_cons_slash, top]
  · have same : isAbsolute ⟨before ++ '/' :: (climb steps ++ rest)⟩ = isAbsolute ⟨before⟩ :=
      isAbsolute_append empty _
    have anchored : surroundings.isAnchored before = true :=
      (surroundings.isAbsolute_resolve before).symm.trans absolute
    have few : (surroundings.place before).length ≤ steps := by
      rw [components_resolve, List.length_map, List.length_reverse] at enough
      exact enough
    have top : walk (surroundings.place before) (climb steps ++ rest) = walk [] rest := by
      rw [walk_climb, List.drop_of_length_le few]
    rw [isAnchored] at anchored
    rw [place, start] at top
    rw [resolve_eq, isAnchored, place, start, same, walk_slash, top, anchored]

/-! ## Laws of resolution -/

/-- The laws that resolution obeys whatever is written and whatever it is resolved against. -/
structure Lexical (surroundings : Surroundings) : Prop where
  /-- Neither `.` nor `..` is left. -/
  named : ∀ candidate, ∀ component ∈ (surroundings.resolve candidate).components,
    ∃ name, component = .name name
  /-- A slash may be doubled. -/
  doubled : ∀ before after, surroundings.resolve (before ++ '/' :: '/' :: after) =
    surroundings.resolve (before ++ '/' :: after)
  /-- A `.` may be put in front of a segment. -/
  dotted : ∀ before after, Between before after →
    surroundings.resolve (before ++ ("./".toList ++ after)) =
      surroundings.resolve (before ++ after)
  /-- A name and the step back from it may be put in front of a segment. -/
  returned : ∀ before name after, Between before after → Ordinary name →
    surroundings.resolve (before ++ (name ++ ("/../".toList ++ after))) =
      surroundings.resolve (before ++ after)
  /-- A candidate that starts at the root is resolved alike everywhere. -/
  anchored : ∀ (other : Surroundings) candidate, isAbsolute ⟨candidate⟩ = true →
    surroundings.resolve candidate = other.resolve candidate
  /-- Steps up from the root stay there, at the front of a candidate and behind a part of it with
  at most as many names. -/
  topped : ∀ before steps rest, (surroundings.resolve before).isAbsolute = true →
    (surroundings.resolve before).components.length ≤ steps →
      surroundings.resolve (before ++ '/' :: (climb steps ++ rest)) =
        surroundings.resolve ('/' :: rest)
  /-- A path from the root is resolved to itself everywhere. -/
  settled : ∀ (other : Surroundings) candidate,
    (surroundings.resolve candidate).isAbsolute = true →
      other.resolve (surroundings.resolve candidate).text = surroundings.resolve candidate

/-- Resolution is lexical: it obeys the laws in all surroundings. -/
theorem resolve_lexical (surroundings : Surroundings) : Lexical surroundings where
  named := by
    intro candidate component listed
    rw [components_resolve] at listed
    obtain ⟨name, -, rfl⟩ := List.mem_map.mp listed
    exact ⟨name, rfl⟩
  doubled := fun before after => resolve_congr (interchangeable_doubled before after)
  dotted := fun _ _ begins => resolve_congr (interchangeable_dotted begins)
  returned := fun _ _ _ begins ordinary => resolve_congr (interchangeable_returned begins ordinary)
  anchored := fun _ _ absolute =>
    (resolve_of_absolute absolute).trans (resolve_of_absolute absolute).symm
  topped := fun _ _ rest absolute enough => resolve_climb absolute enough rest
  settled := fun _ _ => resolve_resolve

example :
    Path.resolve ⟨"/".toList⟩ (some ⟨"/w/book".toList⟩) none ".././x/..//../../a.bib".toList =
      ⟨"/a.bib".toList⟩ := by decide

end Surroundings

/-! ## Where resolved candidates start -/

/-- What the caller gives to resolve against starts at the root: the root of the workspace, or else
the document, unless the document has no components and so no directory. -/
def Grounded (surroundings : Surroundings) : Prop :=
  match surroundings.root?, surroundings.document? with
  | some root, _ => root.isAbsolute = true
  | none, some document => document.isAbsolute = true ∨ document.components = []
  | none, none => True

namespace Surroundings

/-- The base starts at the root exactly in grounded surroundings. -/
theorem isAbsolute_base_iff (surroundings : Surroundings)
    (placed : surroundings.current.isAbsolute = true) :
    surroundings.base.isAbsolute = true ↔ Grounded surroundings := by
  obtain ⟨current, root?, document?⟩ := surroundings
  cases root? with
  | some root => exact Iff.rfl
  | none =>
    cases document? with
    | none => exact iff_of_true placed trivial
    | some document =>
      change (document.parent?.getD current).isAbsolute = true ↔
        (document.isAbsolute = true ∨ document.components = [])
      cases found : document.parent? with
      | none =>
        have bare : document.components = [] := parent?_eq_none_iff.mp found
        exact iff_of_true placed (Or.inr bare)
      | some directory =>
        have held : document.components ≠ [] := by
          intro bare
          rw [parent?_eq_none_iff.mpr bare] at found
          contradiction
        have start : directory.isAbsolute = document.isAbsolute :=
          congrArg Parts.absolute (parts_parent found)
        rw [Option.getD_some, start, or_iff_left held]

end Surroundings

namespace Discovery

variable {settings : Settings} {surroundings : Surroundings} {host : Host} {text : Text}
variable {candidate file : Path}

/-- Every candidate is something resolved. -/
theorem exists_resolve_of_mem_candidates
    (listed : candidate ∈ candidates settings surroundings host text) :
    ∃ written, surroundings.resolve written = candidate := by
  have resolved {entries : List Text} {read : Text → Text}
      (mapped : candidate ∈ entries.map fun entry => surroundings.resolve (read entry)) :
      ∃ written, surroundings.resolve written = candidate := by
    obtain ⟨entry, -, rfl⟩ := List.mem_map.mp mapped
    exact ⟨read entry, rfl⟩
  rw [candidates, List.mem_append, List.mem_append, List.mem_append] at listed
  rcases listed with ((inline | frontMatter) | root) | defaults
  · exact resolved inline
  · exact resolved frontMatter
  · unfold rootCandidates at root
    split at root
    · contradiction
    · split at root
      · contradiction
      · unfold rootFileCandidates at root
        split at root
        · split at root
          · contradiction
          · exact resolved root
        · contradiction
  · unfold defaultCandidates at defaults
    split at defaults
    · exact resolved defaults
    · contradiction

/-- What a candidate from the root stands for starts at the root. -/
theorem StandsFor.isAbsolute (stands : StandsFor host candidate file)
    (absolute : candidate.isAbsolute = true) : file.isAbsolute = true := by
  have written : candidate.text ≠ [] := by
    intro empty
    rw [Path.isAbsolute, empty] at absolute
    contradiction
  have extended (suffix : Text) : (candidate.append suffix).isAbsolute = true :=
    (isAbsolute_append written suffix).trans absolute
  rcases stands.2 with rfl | ⟨-, rfl | ⟨-, rfl⟩⟩
  · exact absolute
  · exact extended _
  · exact extended _

/-- With a current directory from the root, a candidate is resolved to a path from the root exactly
if it starts there or the surroundings are grounded. In grounded surroundings, where the host reports
paths from the root under such paths, every discovered source starts at the root. -/
theorem resolve_grounded (surroundings : Surroundings)
    (placed : surroundings.current.isAbsolute = true) :
    (∀ candidate : Text, (surroundings.resolve candidate).isAbsolute = true ↔
      Path.isAbsolute ⟨candidate⟩ = true ∨ Grounded surroundings) ∧
    (Grounded surroundings → ∀ (settings : Settings) (host : Host) (text : Text),
      (∀ path : Path, path.isAbsolute = true → (host.canonical path).isAbsolute = true) →
        ∀ source ∈ (discover settings surroundings host text).1, source.isAbsolute = true) := by
  have resolved (candidate : Text) : (surroundings.resolve candidate).isAbsolute = true ↔
      Path.isAbsolute ⟨candidate⟩ = true ∨ Grounded surroundings := by
    rw [surroundings.isAbsolute_resolve, Bool.or_eq_true, surroundings.isAbsolute_base_iff placed]
  refine ⟨resolved, ?_⟩
  intro grounded settings host text kept source listed
  obtain ⟨candidate, named, file, stands, rfl⟩ :=
    (accounted_probed host (candidates settings surroundings host text)).origin source listed
  obtain ⟨written, rfl⟩ := exists_resolve_of_mem_candidates named
  have absolute : (surroundings.resolve written).isAbsolute = true :=
    (resolved written).mpr (Or.inr grounded)
  exact kept file (stands.isAbsolute absolute)

/-- A document with a path from the root grounds what it declares. -/
theorem resolve_grounded_document :
    let surroundings : Surroundings := ⟨⟨"/".toList⟩, none, some ⟨"/w/paper.md".toList⟩⟩
    let host := (Memory.mk [(⟨"/w/a.bib".toList⟩, [])] [] [] []).host
    Grounded surroundings ∧
      (surroundings.resolve "a.bib".toList).isAbsolute = true ∧
      (discover {} surroundings host "bibliography: [a]".toList).1 = [⟨"/w/a.bib".toList⟩] ∧
      ∀ source ∈ (discover {} surroundings host "bibliography: [a]".toList).1,
        source.isAbsolute = true := by
  have grounded : Grounded ⟨⟨"/".toList⟩, none, some ⟨"/w/paper.md".toList⟩⟩ :=
    Or.inl (by decide)
  have laws := resolve_grounded ⟨⟨"/".toList⟩, none, some ⟨"/w/paper.md".toList⟩⟩ (by decide)
  exact ⟨grounded, (laws.1 "a.bib".toList).mpr (Or.inr grounded), by decide,
    laws.2 grounded {} (Memory.mk [(⟨"/w/a.bib".toList⟩, [])] [] [] []).host _
      fun _ absolute => absolute⟩

/-- A document that is given by its name alone leaves what it declares relative, whatever the
current directory is. -/
theorem resolve_besideBareDocument :
    let surroundings : Surroundings := ⟨⟨"/".toList⟩, none, some ⟨"paper.md".toList⟩⟩
    let host := (Memory.mk [(⟨"a.bib".toList⟩, [])] [] [] []).host
    surroundings.current.isAbsolute = true ∧
      surroundings.resolve "a.bib".toList = ⟨"a.bib".toList⟩ ∧
      (surroundings.resolve "a.bib".toList).isAbsolute = false ∧
      (∀ path : Path, path.isAbsolute = true → (host.canonical path).isAbsolute = true) ∧
      (discover {} surroundings host "bibliography: [a.bib]".toList).1 = [⟨"a.bib".toList⟩] :=
  ⟨by decide, by decide, by decide, fun _ absolute => absolute, by decide⟩

end Discovery

end Citations
