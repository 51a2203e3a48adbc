import Citations.Proofs.Tracking.Draining
import Citations.Proofs.Tracking.Reconciliation
import Mathlib.Data.List.Induction

/-!
# Subscriptions follow the watched sources

A source is watched whether or not the host agrees to report on it, so the watched sources and
the subscriptions drift apart in one way only: a watched source has no subscription exactly if
the host refused one when the source entered. What the host grants or refuses later changes
nothing while the source stays watched, and a source that leaves takes its subscription with it
whatever the host answers. Each refusal makes a notice at the turn of the entry.
-/
namespace Citations.Session

variable {policy : Policy} {host : Host} {session : Session} {found : List Path}
variable {path other source : Path} {forgetUnused : Bool} {turn : Turn} {turns : List Turn}

/-! ## Only watched sources are subscribed to -/

/-- Every subscription is there once and belongs to a watched source. -/
structure Booked (session : Session) : Prop where
  /-- No source is subscribed to twice. -/
  once : Path.Distinct session.subscriptions
  /-- Only watched sources are subscribed to. -/
  watched : ∀ path : Path, path.isIn session.subscriptions = true →
    path.isIn session.watched = true

/-- A source that is not watched has no subscription. -/
theorem Booked.unsubscribed (booked : Booked session)
    (unwatched : path.isIn session.watched = false) : path.isIn session.subscriptions = false := by
  rw [← Bool.not_eq_true] at unwatched ⊢
  exact fun subscribed => unwatched (booked.watched path subscribed)

/-- A session that watches nothing has no subscriptions. -/
theorem booked_initial : Booked initial := ⟨List.Pairwise.nil, fun _ subscribed => subscribed⟩

/-- Reports that the host refuses make one notice. -/
theorem subscribe_of_refused {reason : Text} (refused : host.refusal? path = some reason) :
    session.subscribe host path = session.notify (.unwatched path reason) := by
  simp only [subscribe, refused, Notice.ofError]

/-- A source is subscribed to after asking for reports if it was before or the host grants it. -/
theorem isIn_subscriptions_subscribe :
    other.isIn (session.subscribe host path).subscriptions = true ↔
      other.isIn session.subscriptions = true ∨
        Path.Same path other ∧ host.refusal? path = none := by
  cases answer : host.refusal? path with
  | none =>
    rw [subscribe_of_granted answer, Path.isIn_append]
    simp [Path.isIn]
  | some reason =>
    rw [subscribe_of_refused answer]
    simp [notify]

/-- A source that becomes watched is subscribed to at most once. -/
theorem Booked.entered (booked : Booked session) (host : Host)
    (unwatched : path.isIn session.watched = false) :
    Booked (Incident.apply policy session (.entered host path)) where
  once := by
    show Path.Distinct (session.subscribe host path).subscriptions
    cases answer : host.refusal? path with
    | none =>
      have added : session.subscriptions ++ [path] = path.insertInto session.subscriptions := by
        rw [Path.insertInto, booked.unsubscribed unwatched]
        rfl
      rw [subscribe_of_granted answer]
      dsimp only
      rw [added]
      exact booked.once.insertInto path
    | some reason =>
      rw [subscribe_of_refused answer]
      exact booked.once
  watched := by
    intro other subscribed
    show other.isIn (path.insertInto (session.subscribe host path).watched) = true
    rw [subscribe_watched, Path.isIn_insertInto]
    rcases isIn_subscriptions_subscribe.mp subscribed with known | ⟨same, _⟩
    · exact Or.inl (booked.watched other known)
    · exact Or.inr same

/-- A source that is no longer watched takes its subscription with it. -/
theorem Booked.left (booked : Booked session) (path : Path) : Booked (session.forget path) where
  once := booked.once.removeFrom path
  watched other subscribed := by
    obtain ⟨known, apart⟩ := Path.isIn_removeFrom.mp subscribed
    exact isIn_watched_forget.mpr ⟨booked.watched other known, apart⟩

/-- Every possible incident keeps the subscriptions in order. -/
theorem kept_booked (policy : Policy) : Kept policy fun _ => Booked where
  aside _ _ _ booked := ⟨booked.once, booked.watched⟩
  step incident possible booked := by
    cases incident with
    | entered host path => exact booked.entered host possible
    | loaded host path =>
      refine ⟨?_, fun other => ?_⟩
      · rw [Incident.apply, reload_subscriptions]
        exact booked.once
      · rw [Incident.apply, reload_subscriptions, reload_watched]
        exact booked.watched other
    | left path => exact booked.left path

/-- Every session that turns lead to has its subscriptions in order. -/
theorem booked_reached (forgetUnused : Bool) (turns : List Turn) :
    Booked (reached forgetUnused turns) := by
  refine List.foldlRecOn turns (answer forgetUnused) booked_initial ?_
  intro session booked turn _
  obtain ⟨_, after⟩ := (kept_booked ⟨turn.allowed, forgetUnused⟩).answer [] booked
  exact after

/-! ## A source that stays watched keeps what it has -/

/-- Finding a source changes no subscription of another one. -/
theorem isIn_subscriptions_enter_apart (apart : ¬ Path.Same other path) :
    path.isIn (enter policy host session other).subscriptions =
      path.isIn session.subscriptions := by
  by_cases known : other.isIn session.watched = true
  · rw [enter_of_watched known]
  · rw [enter_of_unwatched (Bool.eq_false_iff.mpr known), reload_subscriptions, Bool.eq_iff_iff]
    exact isIn_subscriptions_subscribe.trans (by simp [apart])

/-- Finding a source changes no subscription of a watched one. -/
theorem isIn_subscriptions_enter_of_watched (watched : path.isIn session.watched = true) :
    path.isIn (enter policy host session other).subscriptions =
      path.isIn session.subscriptions := by
  by_cases known : other.isIn session.watched = true
  · rw [enter_of_watched known]
  · exact isIn_subscriptions_enter_apart
      (Path.not_same_of_isIn watched (Bool.eq_false_iff.mpr known))

/-- Finding sources changes no subscription of a watched one. -/
theorem isIn_subscriptions_enterAll_of_watched (watched : path.isIn session.watched = true) :
    path.isIn (found.foldl (enter policy host) session).subscriptions =
      path.isIn session.subscriptions := by
  have kept := List.foldlRecOn found (enter policy host)
    (motive := fun after => path.isIn after.watched = true ∧
      path.isIn after.subscriptions = path.isIn session.subscriptions) ⟨watched, rfl⟩ ?_
  · exact kept.2
  · rintro after ⟨known, same⟩ other _
    exact ⟨isIn_watched_enter.mpr (Or.inl known),
      (isIn_subscriptions_enter_of_watched known).trans same⟩

/-- Dropping the sources that were not found changes no subscription of the others. -/
theorem isIn_subscriptions_reconcile (undropped : ¬ DroppedBy policy found path) :
    path.isIn (reconcile policy host session found).subscriptions =
      path.isIn (found.foldl (enter policy host) session).subscriptions := by
  unfold reconcile
  dsimp only
  split
  · rename_i forgets
    have listed : path.isIn found = true := by
      rw [← Bool.not_eq_false]
      exact fun unfound => undropped ⟨forgets, unfound⟩
    rw [subscriptions_forgetAll, Bool.eq_iff_iff,
      Path.isIn_filter fun left right same => by rw [Path.isIn_congr same]]
    simp only [Bool.not_eq_true', ← Bool.not_eq_true, isIn_stale]
    simp [listed]
  · rfl

/-- A source is watched after events when it was before and they do not lose it. -/
theorem isIn_watched_handleAll (policy : Policy) (host : Host) (session : Session)
    (events : List Event) (path : Path) :
    path.isIn (events.foldl (handle policy host) session).watched = true ↔
      path.isIn session.watched = true ∧ (!path.isIn (lost host session events)) = true := by
  rw [foldl_handle_eq_filter (watched_handle policy host)]
  exact Path.isIn_filter fun left right same => by rw [Path.isIn_congr same]

/-- Events change no subscription of a source that stays watched. -/
theorem isIn_subscriptions_handleAll (events : List Event)
    (stays : path.isIn (events.foldl (handle policy host) session).watched = true) :
    path.isIn (events.foldl (handle policy host) session).subscriptions =
      path.isIn session.subscriptions := by
  have kept := ((isIn_watched_handleAll policy host session events path).mp stays).2
  rw [foldl_handle_eq_filter (subscriptions_handle policy host), Bool.eq_iff_iff,
    Path.isIn_filter fun left right same => by rw [Path.isIn_congr same]]
  exact and_iff_left kept

/-- A turn changes no subscription of a source that is watched before and after it. -/
theorem isIn_subscriptions_answer (watched : path.isIn session.watched = true)
    (stays : path.isIn (answer forgetUnused session turn).watched = true) :
    path.isIn (answer forgetUnused session turn).subscriptions =
      path.isIn session.subscriptions := by
  obtain ⟨host, allowed, request⟩ := turn
  cases request with
  | reconcile found =>
    have undropped := (isIn_watched_reconcile.mp stays).2
    exact (isIn_subscriptions_reconcile undropped).trans
      (isIn_subscriptions_enterAll_of_watched watched)
  | handle event => exact isIn_subscriptions_handleAll [event] stays
  | drain =>
    unfold answer at stays ⊢
    dsimp only at stays ⊢
    rw [drain_fst] at stays ⊢
    exact isIn_subscriptions_handleAll session.queue stays
  | send event =>
    unfold answer send
    dsimp only
    split <;> rfl
  | next =>
    unfold answer next
    dsimp only
    split <;> rfl
  | close | takeNotices => rfl

/-! ## A source that enters -/

/-- Something was noticed between two sessions. -/
def Noticed (before after : Session) (notice : Notice) : Prop :=
  ∃ added, after.notices = before.notices ++ added ∧ notice ∈ added

/-- Reading a source adds notices at most. -/
theorem notices_reload (policy : Policy) (host : Host) (session : Session) (path : Path) :
    session.notices <+: (reload policy host session path).notices := by
  unfold reload
  split
  · exact List.prefix_refl _
  · exact List.prefix_append _ _

/-- Asking for reports adds notices at most. -/
theorem notices_subscribe (host : Host) (session : Session) (path : Path) :
    session.notices <+: (session.subscribe host path).notices := by
  unfold subscribe
  split
  · exact List.prefix_refl _
  · exact List.prefix_append _ _

/-- Finding a source adds notices at most. -/
theorem notices_enter (policy : Policy) (host : Host) (session : Session) (path : Path) :
    session.notices <+: (enter policy host session path).notices := by
  by_cases watched : path.isIn session.watched = true
  · simp only [enter_of_watched watched, List.prefix_refl]
  · rw [enter_of_unwatched (Bool.eq_false_iff.mpr watched)]
    exact (notices_subscribe host session path).trans (notices_reload policy host
      { session.subscribe host path with watched := path.insertInto session.watched } path)

/-- Finding sources adds notices at most. -/
theorem notices_enterAll (policy : Policy) (host : Host) (found : List Path) (session : Session) :
    session.notices <+: (found.foldl (enter policy host) session).notices :=
  List.foldlRecOn found (enter policy host)
    (motive := fun after => session.notices <+: after.notices) (List.prefix_refl _)
    fun after known path _ => known.trans (notices_enter policy host after path)

/-- Forgetting sources makes no notice. -/
theorem notices_forgetAll (stale : List Path) (session : Session) :
    (stale.foldl forget session).notices = session.notices := by
  refine List.foldlRecOn stale forget (motive := fun after => after.notices = session.notices)
    rfl ?_
  intro after known path _
  exact known

/-- What a discovery has noticed is what entering the found sources has. -/
theorem notices_reconcile :
    (reconcile policy host session found).notices =
      (found.foldl (enter policy host) session).notices := by
  unfold reconcile
  dsimp only
  split
  · exact notices_forgetAll _ _
  · rfl

/-- What was noticed stays noticed as long as notices are only added. -/
theorem Noticed.mono {before middle after : Session} {notice : Notice}
    (noticed : Noticed before middle notice) (later : middle.notices <+: after.notices) :
    Noticed before after notice := by
  obtain ⟨added, notices, listed⟩ := noticed
  obtain ⟨more, appended⟩ := later
  refine ⟨added ++ more, ?_, List.mem_append_left more listed⟩
  rw [← appended, notices, List.append_assoc]

/-- What was noticed later was noticed since an earlier moment. -/
theorem Noticed.of_later {before middle after : Session} {notice : Notice}
    (noticed : Noticed middle after notice) (earlier : before.notices <+: middle.notices) :
    Noticed before after notice := by
  obtain ⟨added, notices, listed⟩ := noticed
  obtain ⟨more, appended⟩ := earlier
  refine ⟨more ++ added, ?_, List.mem_append_right more listed⟩
  rw [notices, ← appended, List.append_assoc]

/-- What entering a source comes to: it is subscribed to if the host grants it, and otherwise the
refusal is noticed. -/
structure Asked (host : Host) (source path : Path) (before after : Session) : Prop where
  /-- The source has a subscription exactly if the host granted one. -/
  subscribed : path.isIn after.subscriptions = (host.refusal? source).isNone
  /-- A refusal was noticed. -/
  noticed : ∀ reason : Text, host.refusal? source = some reason →
    Noticed before after (.unwatched source reason)

/-- A source that is not watched and has no subscription asks for one when it enters. -/
theorem asked_enter (unwatched : source.isIn session.watched = false)
    (unsubscribed : path.isIn session.subscriptions = false) (same : Path.Same source path) :
    Asked host source path session (enter policy host session source) where
  subscribed := by
    rw [enter_of_unwatched unwatched, reload_subscriptions, Bool.eq_iff_iff]
    refine isIn_subscriptions_subscribe.trans ?_
    simp [unsubscribed, same]
  noticed := by
    intro reason refused
    rw [enter_of_unwatched unwatched]
    refine Noticed.mono ?_ (notices_reload policy host _ source)
    rw [subscribe_of_refused refused]
    exact ⟨[.unwatched source reason], rfl, List.mem_singleton_self _⟩

/-- A source that is not watched and has no subscription asks for one, in the written form in
which it is found first, when found sources enter. -/
theorem asked_enterAll (unwatched : path.isIn session.watched = false)
    (unsubscribed : path.isIn session.subscriptions = false)
    (first : (found.find? fun other => Path.Same other path) = some source) :
    Asked host source path session (found.foldl (enter policy host) session) := by
  induction found generalizing session with
  | nil => cases first
  | cons other rest ih =>
    rw [List.foldl_cons]
    by_cases same : Path.Same other path
    · obtain rfl : other = source := by simpa [same] using first
      have asked : Asked host other path session (enter policy host session other) :=
        asked_enter (by rwa [Path.isIn_congr same]) unsubscribed same
      have entered : path.isIn (enter policy host session other).watched = true :=
        isIn_watched_enter.mpr (Or.inr same)
      refine ⟨?_, fun reason refused => ?_⟩
      · rw [isIn_subscriptions_enterAll_of_watched entered, asked.subscribed]
      · exact (asked.noticed reason refused).mono (notices_enterAll policy host rest _)
    · have later : (rest.find? fun other => Path.Same other path) = some source := by
        simpa [same] using first
      have still : path.isIn (enter policy host session other).watched = false := by
        rw [← Bool.not_eq_true, isIn_watched_enter]
        simp [unwatched, same]
      have none : path.isIn (enter policy host session other).subscriptions = false := by
        rw [← unsubscribed]
        exact isIn_subscriptions_enter_apart same
      have asked := ih still none later
      exact ⟨asked.subscribed, fun reason refused =>
        (asked.noticed reason refused).of_later (notices_enter policy host session other)⟩

/-- A source becomes watched by a discovery only, which asks the host for reports on it in the
written form in which it was found first. -/
theorem asked_answer (booked : Booked session) (unwatched : path.isIn session.watched = false)
    (enters : path.isIn (answer forgetUnused session turn).watched = true) :
    ∃ found source, turn.request = .reconcile found ∧
      (found.find? fun other => Path.Same other path) = some source ∧
        Asked turn.host source path session (answer forgetUnused session turn) := by
  have stays {after : Session} (enters : path.isIn after.watched = true)
      (same : after.watched = session.watched) : False := by
    rw [same, unwatched] at enters
    cases enters
  obtain ⟨host, allowed, request⟩ := turn
  cases request with
  | reconcile found =>
    obtain ⟨listed | listed, undropped⟩ := isIn_watched_reconcile.mp enters
    · rw [unwatched] at listed
      cases listed
    · obtain ⟨source, first⟩ : ∃ source,
          (found.find? fun other => Path.Same other path) = some source :=
        Option.isSome_iff_exists.mp (by rwa [List.isSome_find?])
      refine ⟨found, source, rfl, first, ?_⟩
      have asked : Asked host source path session
          (found.foldl (enter ⟨allowed, forgetUnused⟩ host) session) :=
        asked_enterAll unwatched (booked.unsubscribed unwatched) first
      refine ⟨(isIn_subscriptions_reconcile undropped).trans asked.subscribed, ?_⟩
      intro reason refused
      obtain ⟨added, notices, member⟩ := asked.noticed reason refused
      exact ⟨added, notices_reconcile.trans notices, member⟩
  | handle event =>
    rw [isIn_watched_of_handle enters] at unwatched
    cases unwatched
  | drain =>
    unfold answer at enters
    dsimp only at enters
    rw [drain_fst] at enters
    have watched : path.isIn session.watched = true :=
      ((isIn_watched_handleAll _ host _ session.queue path).mp enters).1
    rw [watched] at unwatched
    cases unwatched
  | send event =>
    refine (stays enters ?_).elim
    unfold answer send
    dsimp only
    split <;> rfl
  | next =>
    refine (stays enters ?_).elim
    unfold answer next
    dsimp only
    split <;> rfl
  | close | takeNotices => exact (stays enters rfl).elim

/-! ## Refusals do not decide what is watched -/

/-- Finding a source inserts it into the watched ones, whether or not it gets a subscription. -/
theorem watched_enter (policy : Policy) (host : Host) (session : Session) (path : Path) :
    (enter policy host session path).watched = path.insertInto session.watched := by
  by_cases watched : path.isIn session.watched = true
  · rw [enter_of_watched watched, Path.insertInto, if_pos watched]
  · rw [enter_of_unwatched (Bool.eq_false_iff.mpr watched), reload_watched]

/-- Finding sources inserts them into the watched ones. -/
theorem watched_foldl_enter (policy : Policy) (host : Host) (found : List Path)
    (session : Session) : (found.foldl (enter policy host) session).watched =
      found.foldl (fun known path => path.insertInto known) session.watched := by
  induction found generalizing session with
  | nil => rfl
  | cons path rest ih => rw [List.foldl_cons, ih, watched_enter, List.foldl_cons]

/-- Which sources a turn leaves watched does not depend on what the host refuses. -/
theorem watched_answer (forgetUnused : Bool) (session : Session) (turn : Turn)
    (refusal? : Path → Option Text) :
    (answer forgetUnused session
      { turn with host := { turn.host with refusal? := refusal? } }).watched =
        (answer forgetUnused session turn).watched := by
  obtain ⟨host, allowed, request⟩ := turn
  cases request with
  | reconcile found =>
    unfold answer reconcile
    dsimp only
    split
    · rw [watched_forgetAll, watched_forgetAll, watched_foldl_enter, watched_foldl_enter]
    · rw [watched_foldl_enter, watched_foldl_enter]
  -- Which events lose their source is up to the files that exist.
  | handle event =>
    unfold answer
    dsimp only
    rw [watched_handle, watched_handle]
    rfl
  | drain =>
    unfold answer
    dsimp only
    rw [drain_fst, drain_fst, foldl_handle_eq_filter (watched_handle _ _),
      foldl_handle_eq_filter (watched_handle _ _)]
    rfl
  | send | next | close | takeNotices => rfl

/-! ## The last entry of a source -/

/-- A turn at which a source became watched, and since which it has been watched. -/
structure LastEntry (forgetUnused : Bool) (turns : List Turn) (path : Path) (earlier : List Turn)
    (turn : Turn) (later : List Turn) : Prop where
  /-- The turn is one of the turns. -/
  parts : turns = earlier ++ turn :: later
  /-- The source was not watched before it. -/
  before : path.isIn (reached forgetUnused earlier).watched = false
  /-- The source was watched after it, and after all turns that followed. -/
  since : ∀ taken : List Turn, taken <+: later →
    path.isIn (reached forgetUnused (earlier ++ turn :: taken)).watched = true

/-- One more turn is answered last. -/
theorem reached_concat (forgetUnused : Bool) (turns : List Turn) (turn : Turn) :
    reached forgetUnused (turns ++ [turn]) =
      answer forgetUnused (reached forgetUnused turns) turn :=
  List.foldl_concat ..

/-- A watched source has a last entry. -/
theorem exists_lastEntry (watched : path.isIn (reached forgetUnused turns).watched = true) :
    ∃ earlier turn later, LastEntry forgetUnused turns path earlier turn later := by
  induction turns using List.reverseRecOn with
  | nil => cases watched
  | append_singleton before last ih =>
    by_cases known : path.isIn (reached forgetUnused before).watched = true
    · obtain ⟨earlier, turn, later, entry⟩ := ih known
      refine ⟨earlier, turn, later ++ [last], ?_, entry.before, fun taken part => ?_⟩
      · rw [entry.parts, List.append_assoc, List.cons_append]
      · rcases List.prefix_concat_iff.mp part with rfl | part
        · rwa [← List.cons_append, ← List.append_assoc, ← entry.parts]
        · exact entry.since taken part
    · refine ⟨before, last, [], rfl, Bool.eq_false_iff.mpr known, fun taken part => ?_⟩
      rwa [List.prefix_nil.mp part]

/-- A source keeps the subscription, or the lack of one, that it had right after its last
entry. -/
theorem LastEntry.isIn_subscriptions {earlier later : List Turn}
    (entry : LastEntry forgetUnused turns path earlier turn later) :
    path.isIn (reached forgetUnused turns).subscriptions =
      path.isIn (reached forgetUnused (earlier ++ [turn])).subscriptions := by
  rw [entry.parts]
  have since := entry.since
  clear entry
  -- Over the turns since the entry, each of which finds the source watched and leaves it so.
  induction later using List.reverseRecOn with
  | nil => rfl
  | append_singleton more last ih =>
    have before := since more (List.prefix_append _ _)
    have after := since (more ++ [last]) (List.prefix_refl _)
    rw [← ih fun taken part => since taken (part.trans (List.prefix_append _ _))]
    rw [← List.cons_append, ← List.append_assoc, reached_concat] at after ⊢
    exact isIn_subscriptions_answer before after

/-- How subscriptions and watched sources fit together after some turns. -/
structure Ledger (forgetUnused : Bool) (turns : List Turn) : Prop where
  /-- No source is subscribed to twice. -/
  once : Path.Distinct (reached forgetUnused turns).subscriptions
  /-- Only watched sources are subscribed to, so a source that left has no subscription. -/
  watched : ∀ path : Path, path.isIn (reached forgetUnused turns).subscriptions = true →
    path.isIn (reached forgetUnused turns).watched = true
  /-- A watched source entered at some turn and has been watched since. -/
  entered : ∀ path : Path, path.isIn (reached forgetUnused turns).watched = true →
    ∃ earlier turn later, LastEntry forgetUnused turns path earlier turn later
  /-- That turn was a discovery. The source has a subscription now exactly if the host granted
  one then, and if the host refused it, the refusal was noticed then. -/
  asked : ∀ (path : Path) (earlier : List Turn) (turn : Turn) (later : List Turn),
    LastEntry forgetUnused turns path earlier turn later →
      ∃ found source, turn.request = .reconcile found ∧
        (found.find? fun other => Path.Same other path) = some source ∧
        (path.isIn (reached forgetUnused turns).subscriptions = false ↔
          turn.host.refusal? source ≠ none) ∧
        ∀ reason : Text, turn.host.refusal? source = some reason →
          Noticed (reached forgetUnused earlier) (reached forgetUnused (earlier ++ [turn]))
            (.unwatched source reason)
  /-- Which sources enter and leave at the next turn does not depend on what the host refuses
  then, so no refusal keeps a source from entering or from leaving. -/
  indifferent : ∀ (turn : Turn) (refusal? : Path → Option Text),
    (answer forgetUnused (reached forgetUnused turns)
      { turn with host := { turn.host with refusal? := refusal? } }).watched =
        (answer forgetUnused (reached forgetUnused turns) turn).watched
  /-- A source that leaves at the next turn has no subscription after it. -/
  left : ∀ (turn : Turn) (path : Path), path.isIn (reached forgetUnused turns).watched = true →
    path.isIn (reached forgetUnused (turns ++ [turn])).watched = false →
      path.isIn (reached forgetUnused (turns ++ [turn])).subscriptions = false

/-- Whatever turns a session went through and whatever the host refused at each of them, a
watched source is without subscription exactly if the host refused one when it last entered, and
nothing else is subscribed to. -/
theorem ledger_reached (forgetUnused : Bool) (turns : List Turn) : Ledger forgetUnused turns where
  once := (booked_reached forgetUnused turns).once
  watched := (booked_reached forgetUnused turns).watched
  entered _ := exists_lastEntry
  asked := by
    intro path earlier turn later entry
    have enters := entry.since [] (List.nil_prefix)
    rw [reached_concat] at enters
    obtain ⟨found, source, request, first, asked⟩ :=
      asked_answer (booked_reached forgetUnused earlier) entry.before enters
    refine ⟨found, source, request, first, ?_, ?_⟩
    · rw [entry.isIn_subscriptions, reached_concat, asked.subscribed]
      exact Option.isNone_eq_false_iff.trans Option.isSome_iff_ne_none
    · rw [reached_concat]
      exact asked.noticed
  indifferent := watched_answer forgetUnused (reached forgetUnused turns)
  left turn _ _ gone := (booked_reached forgetUnused (turns ++ [turn])).unsubscribed gone

end Citations.Session
