import Citations.Proofs.Tracking.Alignment

/-!
# Entries come from the last good reading

The entries of a watched source are explained by the history of the run. A source has a slot
exactly when it was read successfully since it last became watched, and then its entries are
those of the last such reading: later failures do not lose them, and readings before the source
was forgotten do not bring them back.
-/
namespace Citations

namespace Session

variable {policy : Policy} {host : Host} {session : Session} {history stay : List Incident}
variable {incident : Incident} {path other : Path}

/-! ## What a history says about a source -/

/-- Whether a source became watched. -/
def Incident.Enters (path : Path) : Incident → Prop
  | .entered _ source => Path.Same source path
  | _ => False

/-- Whether a source was read and its text gave these entries. -/
def Incident.Loads (policy : Policy) (path : Path) (entries : List Entry) : Incident → Prop
  | .loaded host source => Path.Same source path ∧
      ∃ text, host.read source = .ok text ∧ Source.parse path text policy.allowed = .ok entries
  | _ => False

/-- The incidents since a source last became watched. -/
def SinceEntry (history : List Incident) (path : Path) (stay : List Incident) : Prop :=
  (∀ incident ∈ stay, ¬ incident.Enters path) ∧
    ∃ earlier entry, history = earlier ++ entry :: stay ∧ entry.Enters path

/-- A source that becomes watched starts over. -/
theorem SinceEntry.start (enters : incident.Enters path) :
    SinceEntry (history ++ [incident]) path [] :=
  ⟨fun _ member => absurd member List.not_mem_nil, history, incident, rfl, enters⟩

/-- Any other incident is one more since a source became watched. -/
theorem SinceEntry.append (since : SinceEntry history path stay)
    (passes : ¬ incident.Enters path) :
    SinceEntry (history ++ [incident]) path (stay ++ [incident]) := by
  obtain ⟨quiet, earlier, entry, split, enters⟩ := since
  refine ⟨?_, earlier, entry, ?_, enters⟩
  · intro inside member
    rcases List.mem_append.mp member with old | new
    · exact quiet inside old
    · rwa [List.mem_singleton.mp new]
  · rw [split, List.append_assoc, List.cons_append]

/-! ## The last good reading -/

/-- The entries that reading a source gave, as they were read. -/
def Incident.given? (policy : Policy) (path : Path) : Incident → Option (List Entry)
  | .loaded host source =>
    if Path.Same source path then (load policy host source).toOption else none
  | _ => none

/-- The entries that the last good reading of a source gave. -/
def lastGiven? (policy : Policy) (path : Path) (stay : List Incident) : Option (List Entry) :=
  stay.reverse.findSome? (Incident.given? policy path)

/-- A good reading replaces what earlier ones gave; anything else leaves it. -/
theorem lastGiven?_append (policy : Policy) (path : Path) (stay : List Incident)
    (incident : Incident) :
    lastGiven? policy path (stay ++ [incident]) =
      (incident.given? policy path).or (lastGiven? policy path stay) := by
  simp only [lastGiven?, List.reverse_append, List.reverse_singleton, List.singleton_append,
    List.findSome?_cons]
  cases incident.given? policy path <;> rfl

/-- A reading that gave entries is one whose text parses to them, however the path is written. -/
theorem Incident.Loads.given {entries : List Entry} (loads : incident.Loads policy path entries) :
    ∃ given, incident.given? policy path = some given ∧ List.Forall₂ Entry.Same given entries := by
  cases incident with
  | loaded host source =>
    obtain ⟨same, text, read, parsed⟩ := loads
    obtain ⟨given, reparsed, alike⟩ := Source.parse_congr same.symm parsed
    refine ⟨given, ?_, ?_⟩
    · have loaded : load policy host source = .ok given := load_eq_ok_iff.mpr ⟨text, read, reparsed⟩
      simp only [given?, same, ↓reduceIte, loaded, Except.toOption]
    · exact Entry.forall₂_same_symm alike
  | entered host source => exact absurd loads id
  | left source => exact absurd loads id

/-- A reading that gave something is one of a text that parses. -/
theorem Incident.loads_of_given {given : List Entry}
    (gives : incident.given? policy path = some given) :
    ∃ entries, incident.Loads policy path entries := by
  cases incident with
  | loaded host source =>
    simp only [given?] at gives
    split at gives
    · rename_i same
      cases outcome : load policy host source with
      | error error =>
        rw [outcome] at gives
        contradiction
      | ok entries =>
        obtain ⟨text, read, parsed⟩ := load_eq_ok_iff.mp outcome
        obtain ⟨others, reparsed, _⟩ := Source.parse_congr same parsed
        exact ⟨others, same, text, read, reparsed⟩
    · contradiction
  | entered host source => contradiction
  | left source => contradiction

/-- Without a reading that gave entries there is no last one. -/
theorem lastGiven?_isSome_iff :
    (lastGiven? policy path stay).isSome = true ↔
      ∃ incident ∈ stay, ∃ entries, incident.Loads policy path entries := by
  rw [Option.isSome_iff_exists]
  constructor
  · rintro ⟨given, last⟩
    obtain ⟨incident, member, gives⟩ := List.exists_of_findSome?_eq_some last
    exact ⟨incident, List.mem_reverse.mp member, Incident.loads_of_given gives⟩
  · rintro ⟨incident, member, entries, loads⟩
    obtain ⟨given, gives, _⟩ := loads.given
    have found : (incident.given? policy path).isSome = true := by
      rw [gives]
      rfl
    exact Option.isSome_iff_exists.mp
      (List.findSome?_isSome_iff.mpr ⟨incident, List.mem_reverse.mpr member, found⟩)

/-- A good reading without a later one is the last one. -/
theorem lastGiven?_of_split {before after : List Incident} {given : List Entry}
    (gives : incident.given? policy path = some given)
    (later : ∀ other ∈ after, ∀ entries, ¬ other.Loads policy path entries) :
    lastGiven? policy path (before ++ incident :: after) = some given := by
  refine List.findSome?_eq_some_iff.mpr
    ⟨after.reverse, incident, before.reverse, by simp, gives, ?_⟩
  intro other member
  cases gave : other.given? policy path with
  | none => rfl
  | some found =>
    obtain ⟨entries, loads⟩ := Incident.loads_of_given gave
    exact absurd loads (later other (List.mem_reverse.mp member) entries)

/-! ## The history explains the store -/

/-- A history explains a session: the slot of a watched source is what its last good reading
since it became watched gave. -/
structure Explains (policy : Policy) (history : List Incident) (session : Session) : Prop where
  /-- Only watched sources have slots. -/
  aligned : Aligned policy.allowed session
  /-- Watched sources have what they were last given. -/
  slots : ∀ path : Path, path.isIn session.watched = true →
    ∃ stay, SinceEntry history path stay ∧
      session.store.entriesOf? path = lastGiven? policy path stay

/-- The empty history explains the session that watches nothing. -/
theorem explains_initial (policy : Policy) : Explains policy [] initial where
  aligned := aligned_initial policy.allowed
  slots := fun _ member => absurd member Bool.false_ne_true

/-- A source that becomes watched has no slot and starts over. -/
theorem Explains.entered (explains : Explains policy history session) (host : Host)
    (source : Path) (fresh : source.isIn session.watched = false) :
    Explains policy (history ++ [.entered host source])
      (Incident.apply policy session (.entered host source)) := by
  refine ⟨explains.aligned.entered host source, ?_⟩
  intro path listed
  have store : (Incident.apply policy session (.entered host source)).store = session.store :=
    subscribe_store
  rw [store]
  by_cases same : Path.Same source path
  · -- What an earlier stay was given went with its slot, so nothing is left to explain.
    refine ⟨[], SinceEntry.start same, ?_⟩
    rw [Path.isIn_congr same] at fresh
    exact explains.aligned.tidy.entriesOf?_of_unwatched fresh
  · have inserted : path.isIn (source.insertInto session.watched) = true := by
      simpa [Incident.apply] using listed
    obtain ⟨stay, since, entries⟩ :=
      explains.slots path ((Path.isIn_insertInto.mp inserted).resolve_right same)
    have passes : ¬ (Incident.entered host source).Enters path := same
    refine ⟨stay ++ [.entered host source], since.append passes, ?_⟩
    rw [lastGiven?_append]
    exact entries

/-- Reading a watched source gives it new entries or leaves what it had. -/
theorem Explains.loaded (explains : Explains policy history session) (host : Host)
    (source : Path) (known : source.isIn session.watched = true) :
    Explains policy (history ++ [.loaded host source]) (reload policy host session source) := by
  refine ⟨explains.aligned.loaded host known, ?_⟩
  intro path listed
  rw [reload_watched] at listed
  obtain ⟨stay, since, entries⟩ := explains.slots path listed
  refine ⟨stay ++ [.loaded host source], since.append id, ?_⟩
  rw [lastGiven?_append, ← entries]
  by_cases same : Path.Same source path
  · cases outcome : load policy host source with
    | ok given =>
      rw [entriesOf?_reload_of_ok same outcome]
      simp [Incident.given?, same, outcome, Except.toOption]
    | error error =>
      rw [entriesOf?_reload_of_error outcome]
      simp [Incident.given?, same, outcome, Except.toOption]
  · rw [entriesOf?_reload_apart same]
    simp [Incident.given?, same]

/-- A source that is no longer watched leaves the others as they were. -/
theorem Explains.left (explains : Explains policy history session) (source : Path) :
    Explains policy (history ++ [.left source]) (session.forget source) := by
  refine ⟨explains.aligned.left source, ?_⟩
  intro path listed
  obtain ⟨known, apart⟩ := isIn_watched_forget.mp listed
  obtain ⟨stay, since, entries⟩ := explains.slots path known
  refine ⟨stay ++ [.left source], since.append id, ?_⟩
  rw [lastGiven?_append, entriesOf?_forget_apart apart]
  exact entries

/-- Every possible incident leaves a session that its history explains. -/
theorem kept_explains (policy : Policy) : Kept policy (Explains policy) where
  aside notices queue isOpen explains :=
    ⟨explains.aligned.aside notices queue isOpen, explains.slots⟩
  step incident possible explains := by
    cases incident with
    | entered host path => exact explains.entered host path possible
    | loaded host path => exact explains.loaded host path possible
    | left path => exact explains.left path

/-- What an explained session gives a watched source, in terms of the texts that were read. -/
theorem Explains.slot (explains : Explains policy history session)
    (listed : path.isIn session.watched = true) :
    ∃ stay, SinceEntry history path stay ∧
      (session.store.holds path = true ↔
        ∃ incident ∈ stay, ∃ entries, incident.Loads policy path entries) ∧
      ∀ before incident after entries, stay = before ++ incident :: after →
        incident.Loads policy path entries →
          (∀ later ∈ after, ∀ others, ¬ later.Loads policy path others) →
            session.store.Holds path entries := by
  obtain ⟨stay, since, slot⟩ := explains.slots path listed
  refine ⟨stay, since, ?_, ?_⟩
  · rw [Store.holds_eq_isSome, slot]
    exact lastGiven?_isSome_iff
  · intro before incident after entries split loads later
    obtain ⟨given, gives, alike⟩ := loads.given
    refine ⟨given, ?_, alike⟩
    rw [slot, split]
    exact lastGiven?_of_split gives later

/-! ## The history accounts for the run -/

/-- Incidents change the watched sources and the store in a way that depends on them only. -/
theorem Incident.apply_congr {left right : Session} (watched : left.watched = right.watched)
    (store : left.store = right.store) (incident : Incident) :
    (incident.apply policy left).watched = (incident.apply policy right).watched ∧
      (incident.apply policy left).store = (incident.apply policy right).store := by
  cases incident with
  | entered host path => simp [apply, watched, store]
  | loaded host path =>
    refine ⟨by simpa [apply] using watched, ?_⟩
    cases outcome : load policy host path with
    | ok entries => simp [apply, reload_of_ok outcome, store]
    | error error => simpa [apply, reload_of_error outcome, notify] using store
  | left path => simp [apply, forget, watched, store]

/-- The incidents of a run lead to its watched sources and loaded entries. -/
theorem kept_replay (policy : Policy) :
    Kept policy fun history session =>
      (replay policy initial history).watched = session.watched ∧
        (replay policy initial history).store = session.store where
  aside _ _ _ same := same
  step incident _ same := by
    rw [replay, List.foldl_append]
    exact Incident.apply_congr same.1 same.2 incident

end Session

namespace Engine

open Session (Incident SinceEntry)

/-- After every run a watched source has a slot exactly when it was read successfully since it
last became watched, with the entries of the last such reading. A reading that fails leaves the
store as it is and makes one notice, which names the source. -/
theorem run_explained (settings : Settings) (current : Path) (root? : Option Path)
    (steps : List Step) :
    let start := initial settings current root?
    let engine := start.run steps
    let history := start.history steps
    ((Session.replay start.policy Session.initial history).watched = engine.session.watched ∧
      (Session.replay start.policy Session.initial history).store = engine.session.store) ∧
    (∀ path : Path, path.isIn engine.session.watched = true →
      ∃ stay, SinceEntry history path stay ∧
        (engine.session.store.holds path = true ↔
          ∃ incident ∈ stay, ∃ entries, incident.Loads start.policy path entries) ∧
        ∀ before incident after entries, stay = before ++ incident :: after →
          incident.Loads start.policy path entries →
            (∀ later ∈ after, ∀ others, ¬ later.Loads start.policy path others) →
              engine.session.store.Holds path entries) ∧
    ∀ (host : Host) (session : Session) (path : Path) (error : SourceError),
      Session.load start.policy host path = .error error →
        (Session.reload start.policy host session path).store = session.store ∧
          ∃ notice : Notice, notice.path? = some path ∧
            (Session.reload start.policy host session path).notices =
              session.notices ++ [notice] := by
  intro start engine history
  refine ⟨?_, ?_, ?_⟩
  · exact (Session.kept_replay start.policy).run [] steps ⟨rfl, rfl⟩
  · intro path listed
    have explained : Session.Explains start.policy history engine.session :=
      (Session.kept_explains start.policy).run [] steps (Session.explains_initial start.policy)
    exact explained.slot listed
  · intro host session path error failed
    rw [Session.reload_of_error failed]
    refine ⟨rfl, .ofError error, ?_, rfl⟩
    rw [Session.path?_ofError, Session.load_error_path failed]

end Engine

end Citations
