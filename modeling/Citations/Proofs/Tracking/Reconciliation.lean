import Citations.Proofs.Tracking.Alignment

/-!
# What a discovery does to a session

A discovery tells a session which sources are used now. Sources that are not watched yet enter,
in the order of the discovery; when unused sources are forgotten, the watched ones that were not
found leave; all others stay exactly as they are and are not read. The watched sources, the
slots and the subscriptions after a discovery are given outright, and so are the incidents, of
which each asks the host at most once. The same discovery right after finds nothing to do.
-/
namespace Citations

namespace Store

variable {store : Store} {path : Path} {entries : List Entry}

/-- A source without a slot gets a new last one. -/
theorem slots_upsert_of_unheld (unheld : path.isIn store.sources = false) :
    (store.upsert path entries).slots = store.slots ++ [⟨path, entries⟩] := by
  obtain ⟨slots⟩ := store
  change path.isIn (slots.map (·.path)) = false at unheld
  show upsertSlot path entries slots = slots ++ [⟨path, entries⟩]
  induction slots with
  | nil => rfl
  | cons slot rest ih =>
    simp only [List.map_cons, Path.isIn, List.any_cons, Bool.or_eq_false_iff,
      decide_eq_false_iff_not] at unheld
    simp only [upsertSlot, unheld.1, ↓reduceIte, List.cons_append, ih unheld.2]

end Store

namespace Session

variable {policy : Policy} {host : Host} {session : Session} {found : List Path} {path : Path}

/-! ## Operations replay their incidents -/

/-- Incidents are replayed one part after another. -/
theorem replay_append (policy : Policy) (session : Session) (first second : List Incident) :
    replay policy session (first ++ second) =
      replay policy (replay policy session first) second :=
  List.foldl_append

/-- Steps that each replay their incidents replay them together. -/
theorem foldl_eq_replay {α : Type} {step : Session → α → Session}
    {incidents : Session → α → List Incident}
    (each : ∀ session x, step session x = replay policy session (incidents session x))
    (items : List α) (session : Session) :
    items.foldl step session = replay policy session (along step incidents session items) := by
  induction items generalizing session with
  | nil => rfl
  | cons x rest ih => rw [List.foldl_cons, ih, along, replay_append, ← each]

/-- Finding a source replays its incidents. -/
theorem enter_eq_replay (policy : Policy) (host : Host) (session : Session) (path : Path) :
    enter policy host session path = replay policy session (entering host session path) := by
  by_cases watched : path.isIn session.watched = true
  · rw [enter_of_watched watched]
    simp [entering, watched, replay]
  · rw [enter_of_unwatched (Bool.eq_false_iff.mpr watched)]
    simp [entering, watched, replay, Incident.apply]

/-- Forgetting sources replays that they left. -/
theorem forgetAll_eq_replay (policy : Policy) (stale : List Path) (session : Session) :
    stale.foldl forget session = replay policy session (stale.map .left) := by
  rw [replay, List.foldl_map]
  rfl

/-- Bringing a session in line with a discovery replays its incidents. -/
theorem reconcile_eq_replay (policy : Policy) (host : Host) (session : Session)
    (found : List Path) :
    reconcile policy host session found =
      replay policy session (reconciling policy host session found) := by
  have entered := foldl_eq_replay (enter_eq_replay policy host) found session
  unfold reconcile reconciling
  dsimp only
  split
  · rw [replay_append, ← entered, ← forgetAll_eq_replay]
  · rw [List.append_nil, entered]

/-! ## The sources that enter, stay and leave -/

/-- The found sources that are not watched yet. -/
def fresh (session : Session) (found : List Path) : List Path :=
  found.filter fun path => !path.isIn session.watched

/-- The watched sources that a discovery drops. -/
def stale (policy : Policy) (session : Session) (found : List Path) : List Path :=
  if policy.forgetUnused then session.watched.filter fun path => !path.isIn found else []

/-- The watched sources that a discovery leaves alone. -/
def kept (policy : Policy) (session : Session) (found : List Path) : List Path :=
  if policy.forgetUnused then session.watched.filter fun path => path.isIn found
  else session.watched

/-- The incidents of a source that enters: it becomes watched, and it is read. -/
def entrance (host : Host) (path : Path) : List Incident :=
  [.entered host path, .loaded host path]

/-- The slot of a source, if it can be loaded. -/
def slot? (policy : Policy) (host : Host) (path : Path) : Option Slot :=
  (load policy host path).toOption.map (⟨path, ·⟩)

/-- A source that is left alone was watched and is not dropped. -/
theorem isIn_kept :
    path.isIn (kept policy session found) = true ↔
      path.isIn session.watched = true ∧ ¬ DroppedBy policy found path := by
  unfold kept DroppedBy
  split
  · rename_i forgets
    rw [Path.isIn_filter fun left right same => Path.isIn_congr same found]
    simp [forgets]
  · rename_i keeps
    simp [keeps]

/-- A stale source was watched and is dropped. -/
theorem isIn_stale_iff :
    path.isIn (stale policy session found) = true ↔
      path.isIn session.watched = true ∧ DroppedBy policy found path := by
  unfold stale DroppedBy
  split
  · rename_i forgets
    rw [isIn_stale]
    simp [forgets]
  · rename_i keeps
    simp [keeps, Path.isIn]

/-- The first found source of several enters when it is not watched. -/
theorem fresh_cons_of_unwatched (unwatched : path.isIn session.watched = false) :
    session.fresh (path :: found) = path :: session.fresh found := by
  simp [fresh, unwatched]

/-- The first found source of several does not enter when it is watched. -/
theorem fresh_cons_of_watched (watched : path.isIn session.watched = true) :
    session.fresh (path :: found) = session.fresh found := by
  simp [fresh, watched]

/-- A source that entered makes no other found source less new. -/
theorem fresh_enter (apart : ∀ other ∈ found, ¬ Path.Same path other) :
    (enter policy host session path).fresh found = session.fresh found := by
  refine List.filter_congr fun other listed => ?_
  rw [Bool.not_inj_iff, Bool.eq_iff_iff, isIn_watched_enter]
  simp [apart other listed]

/-- A source that enters becomes the last watched one. -/
theorem watched_enter_of_unwatched (unwatched : path.isIn session.watched = false) :
    (enter policy host session path).watched = session.watched ++ [path] := by
  rw [enter_of_unwatched unwatched, reload_watched]
  simp [Path.insertInto, unwatched]

/-- Entering found sources appends the new ones in their order. -/
theorem watched_enterAll (distinct : Path.Distinct found) :
    (found.foldl (enter policy host) session).watched =
      session.watched ++ session.fresh found := by
  induction found generalizing session with
  | nil => simp [fresh]
  | cons path rest ih =>
    obtain ⟨apart, later⟩ := List.pairwise_cons.mp distinct
    rw [List.foldl_cons, ih later, fresh_enter apart]
    by_cases watched : path.isIn session.watched = true
    · rw [enter_of_watched watched, fresh_cons_of_watched watched]
    · have unwatched := Bool.eq_false_iff.mpr watched
      rw [watched_enter_of_unwatched unwatched, fresh_cons_of_unwatched unwatched,
        List.append_assoc, List.singleton_append]

/-- Entering found sources has the incidents of the new ones, in their order. -/
theorem along_entering (distinct : Path.Distinct found) :
    along (enter policy host) (entering host) session found =
      (session.fresh found).flatMap (entrance host) := by
  induction found generalizing session with
  | nil => rfl
  | cons path rest ih =>
    obtain ⟨apart, later⟩ := List.pairwise_cons.mp distinct
    rw [along, ih later, fresh_enter apart]
    by_cases watched : path.isIn session.watched = true
    · rw [fresh_cons_of_watched watched]
      simp [entering, watched]
    · have unwatched := Bool.eq_false_iff.mpr watched
      rw [fresh_cons_of_unwatched unwatched]
      simp [entering, unwatched, entrance]

/-- No new source is dropped again. -/
theorem filter_watched_enterAll (distinct : Path.Distinct found) :
    ((found.foldl (enter policy host) session).watched.filter fun path => !path.isIn found) =
      session.watched.filter fun path => !path.isIn found := by
  have entered : (session.fresh found).filter (fun path => !path.isIn found) = [] := by
    refine List.filter_eq_nil_iff.mpr fun path listed => ?_
    simp [Path.isIn_of_mem (List.mem_filter.mp listed).1]
  rw [watched_enterAll distinct, List.filter_append, entered, List.append_nil]

/-- The incidents of a discovery: the new sources enter, then the dropped ones leave. -/
theorem reconciling_eq (distinct : Path.Distinct found) :
    reconciling policy host session found =
      (session.fresh found).flatMap (entrance host) ++ (stale policy session found).map .left := by
  unfold reconciling stale
  dsimp only
  rw [along_entering distinct, filter_watched_enterAll distinct]
  split <;> simp

/-- A discovery lets the new sources enter and forgets the dropped ones. -/
theorem reconcile_eq (distinct : Path.Distinct found) :
    reconcile policy host session found =
      (stale policy session found).foldl forget (found.foldl (enter policy host) session) := by
  unfold reconcile stale
  dsimp only
  rw [filter_watched_enterAll distinct]
  split <;> rfl

/-! ## The session after a discovery -/

/-- Forgetting sources leaves the other watched ones in their order. -/
theorem watched_forgetAll (stale : List Path) (session : Session) :
    (stale.foldl forget session).watched =
      session.watched.filter fun path => !path.isIn stale := by
  induction stale generalizing session with
  | nil => simp [Path.isIn]
  | cons path rest ih =>
    simp only [List.foldl_cons, ih, forget, Path.removeFrom, List.filter_filter,
      Path.not_isIn_cons, Bool.and_comm]

/-- Forgetting sources leaves the other subscriptions in their order. -/
theorem subscriptions_forgetAll (stale : List Path) (session : Session) :
    (stale.foldl forget session).subscriptions =
      session.subscriptions.filter fun path => !path.isIn stale := by
  induction stale generalizing session with
  | nil => simp [Path.isIn]
  | cons path rest ih =>
    simp only [List.foldl_cons, ih, forget, Path.removeFrom, List.filter_filter,
      Path.not_isIn_cons, Bool.and_comm]

/-- Forgetting sources leaves the other slots in their order. -/
theorem slots_forgetAll (stale : List Path) (session : Session) :
    (stale.foldl forget session).store.slots =
      session.store.slots.filter fun slot => !slot.path.isIn stale := by
  induction stale generalizing session with
  | nil => simp [Path.isIn]
  | cons path rest ih =>
    simp only [List.foldl_cons, ih, forget, Store.evict, List.filter_filter,
      Path.not_isIn_cons, Bool.and_comm]

/-- Entering found sources appends subscriptions to the new ones that the host grants. -/
theorem subscriptions_enterAll (distinct : Path.Distinct found) :
    (found.foldl (enter policy host) session).subscriptions =
      session.subscriptions ++
        (session.fresh found).filter fun path => (host.refusal? path).isNone := by
  induction found generalizing session with
  | nil => simp [fresh]
  | cons path rest ih =>
    obtain ⟨apart, later⟩ := List.pairwise_cons.mp distinct
    rw [List.foldl_cons, ih later, fresh_enter apart]
    by_cases watched : path.isIn session.watched = true
    · rw [enter_of_watched watched, fresh_cons_of_watched watched]
    · have unwatched := Bool.eq_false_iff.mpr watched
      rw [enter_of_unwatched unwatched, reload_subscriptions, fresh_cons_of_unwatched unwatched]
      cases refused : host.refusal? path <;> simp [subscribe, refused, notify]

/-- Reading a source that has no slot gives it the last one, if it can be loaded. -/
theorem slots_reload_of_unheld (unheld : path.isIn session.store.sources = false) :
    (reload policy host session path).store.slots =
      session.store.slots ++ (slot? policy host path).toList := by
  cases outcome : load policy host path with
  | ok entries =>
    rw [reload_of_ok outcome]
    simp [slot?, outcome, Except.toOption, Store.slots_upsert_of_unheld unheld]
  | error error =>
    rw [reload_of_error outcome]
    simp [slot?, outcome, Except.toOption, notify]

/-- Finding a source keeps a session tidy. -/
theorem Tidy.enter (tidy : Tidy session) (host : Host) (path : Path) :
    Tidy (enter policy host session path) :=
  @Kept.enter policy host session [] (fun _ => Tidy) (kept_tidy policy) path tidy

/-- Entering found sources appends slots for the new ones that can be loaded. -/
theorem slots_enterAll (tidy : Tidy session) (distinct : Path.Distinct found) :
    (found.foldl (enter policy host) session).store.slots =
      session.store.slots ++ (session.fresh found).filterMap (slot? policy host) := by
  induction found generalizing session with
  | nil => simp [fresh]
  | cons path rest ih =>
    obtain ⟨apart, later⟩ := List.pairwise_cons.mp distinct
    rw [List.foldl_cons, ih (tidy.enter host path) later, fresh_enter apart]
    by_cases watched : path.isIn session.watched = true
    · rw [enter_of_watched watched, fresh_cons_of_watched watched]
    · have unwatched := Bool.eq_false_iff.mpr watched
      have unheld : path.isIn session.store.sources = false :=
        Bool.eq_false_iff.mpr fun held => watched (tidy.sourcesWatched path held)
      have entered : (enter policy host session path).store.slots =
          session.store.slots ++ (slot? policy host path).toList := by
        rw [enter_of_unwatched unwatched, slots_reload_of_unheld] <;> simp [unheld]
      rw [entered, fresh_cons_of_unwatched unwatched, List.filterMap_cons]
      cases slot? policy host path <;> simp

/-- No dropped source was found. -/
theorem filter_stale_of_found {paths : List Path} (listed : ∀ path ∈ paths, path ∈ found) :
    (paths.filter fun path => !path.isIn (stale policy session found)) = paths := by
  refine List.filter_eq_self.mpr fun path member => ?_
  rw [Bool.not_eq_true', ← Bool.not_eq_true, isIn_stale_iff]
  rintro ⟨_, _, unfound⟩
  rw [Path.isIn_of_mem (listed path member)] at unfound
  contradiction

/-- The watched sources that are not dropped are those that are left alone. -/
theorem filter_watched_stale :
    (session.watched.filter fun path => !path.isIn (stale policy session found)) =
      kept policy session found := by
  have same : ∀ path ∈ session.watched,
      (!path.isIn (stale policy session found)) = (!policy.forgetUnused || path.isIn found) := by
    intro path listed
    rw [Bool.eq_iff_iff, Bool.not_eq_true', ← Bool.not_eq_true, isIn_stale_iff, DroppedBy]
    simp only [Path.isIn_of_mem listed, true_and]
    cases policy.forgetUnused <;> simp
  rw [List.filter_congr same, kept]
  split <;> simp_all

/-- A discovery leaves the kept sources watched, and then the new ones. -/
theorem watched_reconcile (distinct : Path.Distinct found) :
    (reconcile policy host session found).watched =
      kept policy session found ++ session.fresh found := by
  have listed : ∀ path ∈ session.fresh found, path ∈ found :=
    fun path member => (List.mem_filter.mp member).1
  rw [reconcile_eq distinct, watched_forgetAll, watched_enterAll distinct, List.filter_append,
    filter_stale_of_found listed, filter_watched_stale]

/-- A discovery leaves the subscriptions to kept sources, and then those to the new ones. -/
theorem subscriptions_reconcile (distinct : Path.Distinct found) :
    (reconcile policy host session found).subscriptions =
      (session.subscriptions.filter fun path => !path.isIn (stale policy session found)) ++
        (session.fresh found).filter fun path => (host.refusal? path).isNone := by
  have listed : ∀ path ∈ (session.fresh found).filter fun path => (host.refusal? path).isNone,
      path ∈ found :=
    fun path member => (List.mem_filter.mp (List.mem_filter.mp member).1).1
  rw [reconcile_eq distinct, subscriptions_forgetAll, subscriptions_enterAll distinct,
    List.filter_append, filter_stale_of_found listed]

/-- A discovery leaves the slots of kept sources as they are, and then those of the new ones. -/
theorem slots_reconcile (tidy : Tidy session) (distinct : Path.Distinct found) :
    (reconcile policy host session found).store.slots =
      (session.store.slots.filter fun slot => !slot.path.isIn (stale policy session found)) ++
        (session.fresh found).filterMap (slot? policy host) := by
  have listed : ∀ slot ∈ (session.fresh found).filterMap (slot? policy host),
      (!slot.path.isIn (stale policy session found)) = true := by
    intro slot member
    obtain ⟨path, entered, made⟩ := List.mem_filterMap.mp member
    obtain ⟨entries, _, rfl⟩ := Option.map_eq_some_iff.mp made
    have kept : ((session.fresh found).filter fun path =>
        !path.isIn (stale policy session found)) = session.fresh found :=
      filter_stale_of_found fun path member => (List.mem_filter.mp member).1
    exact List.filter_eq_self.mp kept path entered
  rw [reconcile_eq distinct, slots_forgetAll, slots_enterAll tidy distinct,
    List.filter_append, List.filter_eq_self.mpr listed]

/-- A source that enters has the entries of its file, if it can be loaded. -/
theorem entriesOf?_enter_of_unwatched (tidy : Tidy session)
    (unwatched : path.isIn session.watched = false) :
    (enter policy host session path).store.entriesOf? path =
      (load policy host path).toOption := by
  rw [enter_of_unwatched unwatched]
  cases outcome : load policy host path with
  | ok entries => rw [entriesOf?_reload_of_ok (Path.Same.refl path) outcome, Except.toOption]
  | error error =>
    rw [entriesOf?_reload_of_error outcome, Except.toOption]
    simpa using tidy.entriesOf?_of_unwatched unwatched

/-- A new source has the entries of its file once all found sources have entered. -/
theorem entriesOf?_enterAll_of_fresh (tidy : Tidy session) (distinct : Path.Distinct found)
    (listed : path ∈ found) (unwatched : path.isIn session.watched = false) :
    (found.foldl (enter policy host) session).store.entriesOf? path =
      (load policy host path).toOption := by
  induction found generalizing session with
  | nil => cases listed
  | cons first rest ih =>
    obtain ⟨apart, later⟩ := List.pairwise_cons.mp distinct
    rcases List.mem_cons.mp listed with rfl | behind
    · have entered : path.isIn (enter policy host session path).watched = true :=
        isIn_watched_enter.mpr (Or.inr (Path.Same.refl path))
      rw [List.foldl_cons, entriesOf?_enterAll_of_watched entered,
        entriesOf?_enter_of_unwatched tidy unwatched]
    · have still : path.isIn (enter policy host session first).watched = false := by
        rw [← Bool.not_eq_true, isIn_watched_enter]
        simp [unwatched, apart path behind]
      exact ih (tidy.enter host first) later behind still

/-- A new source has the entries of its file after a discovery, if it can be loaded. -/
theorem entriesOf?_reconcile_of_fresh (tidy : Tidy session) (distinct : Path.Distinct found)
    (new : path ∈ session.fresh found) :
    (reconcile policy host session found).store.entriesOf? path =
      (load policy host path).toOption := by
  obtain ⟨listed, isNew⟩ := List.mem_filter.mp new
  have unwatched : path.isIn session.watched = false := by simpa using isNew
  have unlisted : path.isIn (stale policy session found) = false := by
    rw [← Bool.not_eq_true, isIn_stale_iff]
    rintro ⟨watched, _⟩
    rw [unwatched] at watched
    contradiction
  rw [reconcile_eq distinct, entriesOf?_forgetAll_of_unlisted unlisted,
    entriesOf?_enterAll_of_fresh tidy distinct listed unwatched]

/-- A discovery that finds nothing new and drops nothing has no incidents. -/
theorem reconciling_reconcile {names : List Text} {later : Host}
    (distinct : Path.Distinct found) :
    reconciling ⟨names, policy.forgetUnused⟩ later (reconcile policy host session found) found =
      [] := by
  have entered : (reconcile policy host session found).fresh found = [] := by
    refine List.filter_eq_nil_iff.mpr fun path listed => ?_
    have inside : path.isIn found = true := Path.isIn_of_mem listed
    have watched : path.isIn (reconcile policy host session found).watched = true :=
      isIn_watched_reconcile.mpr
        ⟨Or.inr inside, fun dropped => Bool.false_ne_true (dropped.2.symm.trans inside)⟩
    simp [watched]
  have dropped : stale ⟨names, policy.forgetUnused⟩ (reconcile policy host session found) found =
      [] := by
    unfold stale
    split
    · rename_i forgets
      refine List.filter_eq_nil_iff.mpr fun path listed unfound => ?_
      have left := (isIn_watched_reconcile.mp (Path.isIn_of_mem listed)).2
      exact left ⟨forgets, by simpa using unfound⟩
    · rfl
  rw [reconciling_eq distinct, entered, dropped]
  rfl

/-- What a discovery makes of a session. -/
structure Reconciled (policy : Policy) (host : Host) (before : Session) (found : List Path)
    (after : Session) : Prop where
  /-- The kept sources are watched in their old order, and then the new ones in the order of the
  discovery. -/
  watched : after.watched = kept policy before found ++ before.fresh found
  /-- A kept source has the entries that it had. -/
  kept : ∀ path : Path, path.isIn (kept policy before found) = true →
    after.store.entriesOf? path = before.store.entriesOf? path
  /-- A new source has the entries of its file, if it can be loaded. -/
  fresh : ∀ path ∈ before.fresh found,
    after.store.entriesOf? path = (load policy host path).toOption
  /-- A dropped source has no slot. -/
  stale : ∀ path : Path, path.isIn (stale policy before found) = true →
    after.store.holds path = false
  /-- The slots of kept sources are in their old order, before those of the new ones. -/
  slots : after.store.slots =
    (before.store.slots.filter fun slot => !slot.path.isIn (Session.stale policy before found)) ++
      (before.fresh found).filterMap (slot? policy host)
  /-- Each new source that the host grants is subscribed to once more. -/
  subscriptions : after.subscriptions =
    (before.subscriptions.filter fun path => !path.isIn (Session.stale policy before found)) ++
      (before.fresh found).filter fun path => (host.refusal? path).isNone
  /-- Each new source asks for reports once and is read once, each dropped one ends its reports
  once, and nothing else happens. -/
  incidents : reconciling policy host before found =
    (before.fresh found).flatMap (entrance host) ++
      (Session.stale policy before found).map .left
  /-- These incidents make up the whole change. -/
  replayed : after = replay policy before (reconciling policy host before found)
  /-- No source is new twice. -/
  freshDistinct : Path.Distinct (before.fresh found)
  /-- No source is dropped twice. -/
  staleDistinct : Path.Distinct (Session.stale policy before found)

/-- Without repetitions in what is found, a discovery does this to any tidy session. -/
theorem reconciled (tidy : Tidy session) (distinct : Path.Distinct found) :
    Reconciled policy host session found (reconcile policy host session found) where
  watched := watched_reconcile distinct
  kept path left := by
    obtain ⟨watched, undropped⟩ := isIn_kept.mp left
    exact entriesOf?_reconcile_of_kept watched undropped
  fresh path new := entriesOf?_reconcile_of_fresh tidy distinct new
  stale path left := by
    obtain ⟨watched, dropped⟩ := isIn_stale_iff.mp left
    rw [Store.holds_eq_isSome, entriesOf?_reconcile_of_dropped watched dropped]
    rfl
  slots := slots_reconcile tidy distinct
  subscriptions := subscriptions_reconcile distinct
  incidents := reconciling_eq distinct
  replayed := reconcile_eq_replay policy host session found
  freshDistinct := List.Pairwise.filter _ distinct
  staleDistinct := by
    unfold stale
    split
    · exact List.Pairwise.filter _ tidy.watchedDistinct
    · exact List.Pairwise.nil

/-! ## Reachable sessions -/

/-- What a session is asked to do. -/
inductive Request where
  /-- A discovery found these sources. -/
  | reconcile (found : List Path)
  /-- An event came in. -/
  | handle (event : Event)
  /-- The waiting events are to be applied. -/
  | drain
  /-- An event is to wait. -/
  | send (event : Event)
  /-- The oldest waiting event is taken. -/
  | next
  /-- No more events will come. -/
  | close
  /-- The notices are taken. -/
  | takeNotices

/-- A request, with the host and the allow-list as they are at that moment. -/
structure Turn where
  /-- The host. -/
  host : Host
  /-- The names of the fields that entries keep. -/
  allowed : List Text
  /-- The request. -/
  request : Request

/-- The session after a turn. -/
def answer (forgetUnused : Bool) (session : Session) (turn : Turn) : Session :=
  match turn.request with
  | .reconcile found => reconcile ⟨turn.allowed, forgetUnused⟩ turn.host session found
  | .handle event => session.handle ⟨turn.allowed, forgetUnused⟩ turn.host event
  | .drain => (session.drain ⟨turn.allowed, forgetUnused⟩ turn.host).1
  | .send event => session.send event
  | .next => session.next.1
  | .close => session.close
  | .takeNotices => session.takeNotices.1

/-- The session that some turns lead to. -/
def reached (forgetUnused : Bool) (turns : List Turn) : Session :=
  turns.foldl (answer forgetUnused) initial

/-- Every turn keeps what every possible incident keeps. -/
theorem Kept.answer {forgetUnused : Bool} {turn : Turn}
    {motive : List Incident → Session → Prop} (history : List Incident)
    (kept : Kept ⟨turn.allowed, forgetUnused⟩ motive) (start : motive history session) :
    ∃ incidents, motive (history ++ incidents) (answer forgetUnused session turn) := by
  obtain ⟨host, allowed, request⟩ := turn
  have unchanged {after : Session} (aside : motive history after) :
      ∃ incidents, motive (history ++ incidents) after :=
    ⟨[], by rwa [List.append_nil]⟩
  cases request with
  | reconcile found => exact ⟨_, kept.reconcile found start⟩
  | handle event => exact ⟨_, kept.handle event start⟩
  | drain => exact ⟨_, kept.drain start⟩
  | send event => exact unchanged (kept.send event start)
  | next => exact unchanged (kept.next start)
  | close => exact unchanged (kept.aside _ _ _ start)
  | takeNotices => exact unchanged (kept.aside _ _ _ start)

/-- Every session that turns lead to is tidy. -/
theorem tidy_reached (forgetUnused : Bool) (turns : List Turn) :
    Tidy (reached forgetUnused turns) := by
  refine List.foldlRecOn turns (answer forgetUnused) tidy_initial ?_
  intro session tidy turn _
  obtain ⟨_, after⟩ := (kept_tidy ⟨turn.allowed, forgetUnused⟩).answer [] tidy
  exact after

/-- Whatever a session went through and whatever the host refuses, a discovery watches and loads
the new sources, drops those that it has to and leaves the others alone, entries and order
included. The same discovery right after has no incidents and changes nothing, whatever became
of the files. -/
theorem reconcile_reached (forgetUnused : Bool) (turns : List Turn) (allowed : List Text)
    (host : Host) {found : List Path} (distinct : Path.Distinct found) :
    let policy : Policy := ⟨allowed, forgetUnused⟩
    let session := reached forgetUnused turns
    let after := reconcile policy host session found
    Reconciled policy host session found after ∧
      ∀ (later : Host) (names : List Text),
        reconciling ⟨names, forgetUnused⟩ later after found = [] ∧
          reconcile ⟨names, forgetUnused⟩ later after found = after := by
  intro policy session after
  refine ⟨reconciled (tidy_reached forgetUnused turns) distinct, ?_⟩
  intro later names
  have quiet : reconciling ⟨names, forgetUnused⟩ later after found = [] :=
    reconciling_reconcile distinct
  refine ⟨quiet, ?_⟩
  rw [reconcile_eq_replay, quiet]
  rfl

/-- A source that a document used before. -/
def formerSource : Path := ⟨"/w/a.bib".toList⟩

/-- A source that a document uses now. -/
def presentSource : Path := ⟨"/w/b.bib".toList⟩

/-- The files of both sources; the present one cannot be watched. -/
def bothFiles : Memory :=
  ⟨[(formerSource, "@misc{k}".toList), (presentSource, "@misc{l}".toList)], [], [],
    [presentSource]⟩

/-- The former source was discovered. -/
def formerTurns : List Turn := [⟨bothFiles.host, [], .reconcile [formerSource]⟩]

/-- A source that cannot be watched takes the place of another one and is loaded. -/
theorem reconcile_reached_replaced :
    Path.Distinct [presentSource] ∧
      let after := reconcile ⟨[], true⟩ bothFiles.host (reached true formerTurns) [presentSource]
      after.watched = [presentSource] ∧ after.subscriptions = [] ∧
        after.store.slots = [⟨presentSource, [⟨"l".toList, presentSource, ⟨0, 0⟩, []⟩]⟩] ∧
          reconcile ⟨[], true⟩ (bothFiles.remove presentSource).host after [presentSource] =
            after := by
  have distinct : Path.Distinct [presentSource] := List.pairwise_singleton _ _
  obtain ⟨outcome, again⟩ := reconcile_reached true formerTurns [] bothFiles.host distinct
  refine ⟨distinct, ?_, ?_, ?_, (again _ []).2⟩
  · rw [outcome.watched]
    decide +kernel
  · rw [outcome.subscriptions]
    decide +kernel
  · rw [outcome.slots]
    decide +kernel

end Session

end Citations
