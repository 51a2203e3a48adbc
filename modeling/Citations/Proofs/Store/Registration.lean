import Citations.Proofs.Store
import Mathlib.Data.List.Induction

/-!
# Sources in the order of their registration

A history is a sequence of changes: a source is given entries, or its slot is dropped. The store
that a history leaves is described by the history alone. The last change of a source says whether
it has a slot and with which entries. The slots stand in the order of the times at which their
sources were registered: a source is registered by the first change that gives it entries since
its slot was last dropped. Giving it other entries later does not move its slot, and a source
whose slot was dropped starts over at the end.

The two readings are kept apart on purpose: the store never records a time, and the history never
mentions a slot.
-/
namespace Citations

namespace Store

/-- A change of the store. -/
inductive Change where
  /-- A source is given entries. -/
  | upserted (path : Path) (entries : List Entry)
  /-- The slot of a source is dropped. -/
  | evicted (path : Path)
  deriving DecidableEq, Repr

namespace Change

/-- The source that a change is about. -/
def path : Change → Path
  | upserted path _ => path
  | evicted path => path

/-- The entries that a change gives to its source. -/
def given? : Change → Option (List Entry)
  | upserted _ entries => some entries
  | evicted _ => none

end Change

/-- The store after a change. -/
def apply (store : Store) : Change → Store
  | .upserted path entries => store.upsert path entries
  | .evicted path => store.evict path

/-- The store that a history leaves. -/
def replay (history : List Change) : Store := history.foldl apply empty

variable {store : Store} {history : List Change} {change : Change} {path other : Path}
variable {entries : List Entry} {time : Nat}

/-! ## What a history says -/

/-- The last change of a source. -/
def lastChange? (history : List Change) (path : Path) : Option Change :=
  history.reverse.find? fun change => Path.Same change.path path

/-- What the last change of a source gave it. -/
def lastGiven? (history : List Change) (path : Path) : Option (List Entry) :=
  (lastChange? history path).bind Change.given?

/-- The change at a time registers a source: it gives it entries, the source had no slot since
the last time it lost one, and it never loses its slot afterwards. -/
structure Registers (history : List Change) (path : Path) (time : Nat) : Prop where
  /-- The source is given entries, in the written form that its slot keeps. -/
  given : ∃ entries, history[time]? = some (.upserted path entries)
  /-- Whatever the source was given before was dropped before. -/
  first : ∀ earlier < time, ∀ former entries, history[earlier]? = some (.upserted former entries) →
    Path.Same former path → ∃ between, earlier < between ∧ between < time ∧
      ∃ dropped, history[between]? = some (.evicted dropped) ∧ Path.Same dropped path
  /-- The slot is not dropped later. -/
  kept : ∀ later, time < later → ∀ dropped, history[later]? = some (.evicted dropped) →
    ¬ Path.Same dropped path

/-! ## One more change -/

/-- A change of a source is its last one until the next. -/
theorem lastChange?_concat_same (same : Path.Same change.path path) (history : List Change) :
    lastChange? (history ++ [change]) path = some change := by
  simp [lastChange?, same]

/-- A change of another source is not the last one of this. -/
theorem lastChange?_concat_apart (apart : ¬ Path.Same change.path path) (history : List Change) :
    lastChange? (history ++ [change]) path = lastChange? history path := by
  simp [lastChange?, apart]

/-- A change after a history stands at the time that the history ends. -/
theorem getElem?_concat_eq_some {found : Change} :
    (history ++ [change])[time]? = some found ↔
      history[time]? = some found ∨ time = history.length ∧ change = found := by
  rcases Nat.lt_trichotomy time history.length with before | rfl | after
  · rw [List.getElem?_append_left before]
    refine ⟨Or.inl, fun listed => listed.resolve_right fun now => ?_⟩
    omega
  · rw [List.getElem?_concat_length, Option.some.injEq, List.getElem?_eq_none (Nat.le_refl _)]
    simp
  · have beyond : (history ++ [change]).length ≤ time := by
      rw [List.length_append, List.length_singleton]
      omega
    rw [List.getElem?_eq_none beyond, List.getElem?_eq_none (Nat.le_of_lt after)]
    refine ⟨Or.inl, fun listed => listed.resolve_right fun now => ?_⟩
    omega

/-- What stands in a history stands before its end. -/
theorem lt_length_of_getElem? {found : Change} (listed : history[time]? = some found) :
    time < history.length := by
  by_contra beyond
  rw [List.getElem?_eq_none (Nat.le_of_not_lt beyond)] at listed
  contradiction

/-- What a store gives for a source after a change: what the change gives, if it is about the
source, and else what the store gave. -/
theorem entriesOf?_apply (store : Store) (change : Change) (path : Path) :
    (store.apply change).entriesOf? path =
      if Path.Same change.path path then change.given? else store.entriesOf? path := by
  cases change with
  | upserted source entries =>
    by_cases same : Path.Same source path
    · simpa [apply, Change.path, Change.given?, same] using entriesOf?_upsert_same same store entries
    · simpa [apply, Change.path, same] using entriesOf?_upsert_apart same store entries
  | evicted source =>
    by_cases same : Path.Same source path
    · simpa [apply, Change.path, Change.given?, same] using entriesOf?_evict_same same store
    · simpa [apply, Change.path, same] using entriesOf?_evict_apart same store

/-- The last change of a history comes after the others. -/
theorem replay_concat (history : List Change) (change : Change) :
    replay (history ++ [change]) = (replay history).apply change := by
  rw [replay, List.foldl_append]
  rfl

/-- A history leaves each source what its last change gave it. -/
theorem entriesOf?_replay (history : List Change) (path : Path) :
    (replay history).entriesOf? path = lastGiven? history path := by
  induction history using List.reverseRecOn with
  | nil => rfl
  | append_singleton history change ih =>
    rw [replay_concat, entriesOf?_apply]
    split
    · rename_i same
      rw [lastGiven?, lastChange?_concat_same same]
      rfl
    · rename_i apart
      rw [lastGiven?, lastChange?_concat_apart apart, ih, lastGiven?]

/-- A change leaves the slots of other sources as they are and in their order. -/
theorem slots_apply_apart (store : Store) (change : Change) :
    ((store.apply change).slots.filter fun slot => !decide (Path.Same slot.path change.path)) =
      store.slots.filter fun slot => !decide (Path.Same slot.path change.path) := by
  cases change with
  | upserted path entries =>
    obtain ⟨slots⟩ := store
    show ((upsertSlot path entries slots).filter fun slot => !decide (Path.Same slot.path path)) =
      slots.filter fun slot => !decide (Path.Same slot.path path)
    induction slots with
    | nil => simp [upsertSlot, Path.Same.refl path]
    | cons slot rest ih =>
      by_cases here : Path.Same slot.path path
      · simp [upsertSlot, here]
      · simpa [upsertSlot, here] using ih
  | evicted path =>
    simp only [apply, evict, Change.path, List.filter_filter]
    exact List.filter_congr fun slot _ => Bool.and_self _

/-- No change gives a source a second slot. -/
theorem distinct_apply (distinct : Path.Distinct store.sources) (change : Change) :
    Path.Distinct (store.apply change).sources := by
  cases change with
  | upserted path entries =>
    rw [apply, sources_upsert]
    exact distinct.insertInto path
  | evicted path =>
    rw [apply, sources_evict]
    exact distinct.removeFrom path

/-- Where no source has two slots, each slot is found under its path. -/
theorem entriesOf?_of_mem {slot : Slot} (distinct : Path.Distinct store.sources)
    (member : slot ∈ store.slots) : store.entriesOf? slot.path = some slot.entries := by
  obtain ⟨slots⟩ := store
  show (slots.find? _).map _ = _
  induction slots with
  | nil => contradiction
  | cons first rest ih =>
    obtain ⟨apart, later⟩ := List.pairwise_cons.mp distinct
    rcases List.mem_cons.mp member with rfl | behind
    · simp [Path.Same.refl]
    · have elsewhere := apart slot.path (List.mem_map.mpr ⟨slot, behind, rfl⟩)
      simpa [elsewhere] using ih later behind

/-- A slot is dropped exactly when the store gets shorter. -/
theorem holds_eq_shorter (store : Store) (path : Path) :
    store.holds path = decide ((store.evict path).slots.length ≠ store.slots.length) := by
  obtain ⟨slots⟩ := store
  show slots.any _ = decide ((slots.filter _).length ≠ slots.length)
  rw [Bool.eq_iff_iff, decide_eq_true_eq, ne_eq, List.length_filter_eq_length_iff, List.any_eq_true]
  simp

/-! ## Times of registration -/

namespace Registers

/-- A source is registered at one time only. -/
theorem unique {first second : Nat} (left : Registers history path first)
    (right : Registers history other second) (same : Path.Same path other) : first = second := by
  -- The earlier of two registrations would have been dropped before the later one.
  have notBefore : ∀ {one two : Path} {early late : Nat}, Registers history one early →
      Registers history two late → Path.Same one two → ¬ early < late := by
    intro one two early late begins restarts alike before
    obtain ⟨entries, given⟩ := begins.given
    obtain ⟨between, after, _, dropped, gone, isTwo⟩ :=
      restarts.first early before one entries given alike
    exact begins.kept between after dropped gone (isTwo.trans alike.symm)
  have := notBefore left right same
  have := notBefore right left same.symm
  omega

/-- A registration stands before the end of its history. -/
theorem lt_length (registers : Registers history path time) : time < history.length :=
  lt_length_of_getElem? registers.given.choose_spec

/-- A change that does not drop its slot leaves a source registered where it was. -/
theorem concat (registers : Registers history path time)
    (stays : ∀ dropped, change = .evicted dropped → ¬ Path.Same dropped path) :
    Registers (history ++ [change]) path time where
  given := by
    obtain ⟨entries, given⟩ := registers.given
    exact ⟨entries, getElem?_concat_eq_some.mpr (Or.inl given)⟩
  first := by
    intro earlier before former entries listed same
    have old : history[earlier]? = some (.upserted former entries) := by
      refine (getElem?_concat_eq_some.mp listed).resolve_right fun now => ?_
      have := registers.lt_length
      omega
    obtain ⟨between, after, sooner, dropped, gone, isPath⟩ :=
      registers.first earlier before former entries old same
    exact ⟨between, after, sooner, dropped, getElem?_concat_eq_some.mpr (Or.inl gone), isPath⟩
  kept := by
    intro later after dropped listed
    rcases getElem?_concat_eq_some.mp listed with old | ⟨_, now⟩
    · exact registers.kept later after dropped old
    · exact stays dropped now

end Registers

/-- What a source without a slot was given earlier was dropped afterwards. -/
theorem exists_evicted (slotless : lastGiven? history path = none)
    (given : history[time]? = some (.upserted other entries)) (same : Path.Same other path) :
    ∃ later, time < later ∧ later < history.length ∧
      ∃ dropped, history[later]? = some (.evicted dropped) ∧ Path.Same dropped path := by
  induction history using List.reverseRecOn with
  | nil => simp at given
  | append_singleton history change ih =>
    by_cases here : Path.Same change.path path
    · -- The last change of the source dropped its slot.
      rw [lastGiven?, lastChange?_concat_same here, Option.bind_some] at slotless
      cases change with
      | upserted source entries => contradiction
      | evicted dropped =>
        have before : time < history.length := by
          rcases getElem?_concat_eq_some.mp given with old | ⟨_, now⟩
          · exact lt_length_of_getElem? old
          · contradiction
        exact ⟨history.length, before, by simp, dropped,
          getElem?_concat_eq_some.mpr (Or.inr ⟨rfl, rfl⟩), here⟩
    · rw [lastGiven?, lastChange?_concat_apart here] at slotless
      have old : history[time]? = some (.upserted other entries) := by
        refine (getElem?_concat_eq_some.mp given).resolve_right fun ⟨_, now⟩ => here ?_
        rw [now]
        exact same
      obtain ⟨later, after, inside, dropped, gone, isPath⟩ := ih slotless old
      exact ⟨later, after, by simp; omega, dropped,
        getElem?_concat_eq_some.mpr (Or.inl gone), isPath⟩

/-- A source without a slot that is given entries is registered right then. -/
theorem registers_concat (slotless : lastGiven? history path = none) (entries : List Entry) :
    Registers (history ++ [.upserted path entries]) path history.length where
  given := ⟨entries, getElem?_concat_eq_some.mpr (Or.inr ⟨rfl, rfl⟩)⟩
  first := by
    intro earlier before former others listed same
    have old : history[earlier]? = some (.upserted former others) := by
      refine (getElem?_concat_eq_some.mp listed).resolve_right fun now => ?_
      omega
    obtain ⟨later, after, inside, dropped, gone, isPath⟩ := exists_evicted slotless old same
    exact ⟨later, after, inside, dropped, getElem?_concat_eq_some.mpr (Or.inl gone), isPath⟩
  kept := by
    intro later after dropped listed
    have := lt_length_of_getElem? listed
    simp only [List.length_append, List.length_singleton] at this
    omega

/-- The sources of a store are those that a history registers, in the order of the times. -/
structure Timed (history : List Change) (sources : List Path) : Prop where
  /-- Every source is registered. -/
  registered : ∀ path ∈ sources, ∃ time, Registers history path time
  /-- An earlier source was registered earlier. -/
  ordered : sources.Pairwise fun left right =>
    ∀ first second, Registers history left first → Registers history right second → first < second

/-- Changes that drop none of some sources leave them registered in their order. -/
theorem Timed.concat {sources : List Path} (timed : Timed history sources)
    (stays : ∀ path ∈ sources, ∀ dropped, change = .evicted dropped → ¬ Path.Same dropped path) :
    Timed (history ++ [change]) sources where
  registered := by
    intro path listed
    obtain ⟨time, registers⟩ := timed.registered path listed
    exact ⟨time, registers.concat (stays path listed)⟩
  ordered := by
    refine timed.ordered.imp_of_mem fun {left right} hasLeft hasRight before first second => ?_
    -- The times are those of the shorter history, because a source has only one.
    obtain ⟨early, begins⟩ := timed.registered left hasLeft
    obtain ⟨late, follows⟩ := timed.registered right hasRight
    intro registersLeft registersRight
    rw [registersLeft.unique (begins.concat (stays left hasLeft)) (Path.Same.refl left),
      registersRight.unique (follows.concat (stays right hasRight)) (Path.Same.refl right)]
    exact before early late begins follows

/-- Fewer sources are in order as well. -/
theorem Timed.filter {sources : List Path} (timed : Timed history sources) (test : Path → Bool) :
    Timed history (sources.filter test) where
  registered := fun path listed => timed.registered path (List.mem_filter.mp listed).1
  ordered := timed.ordered.filter test

/-- A source without a slot that is given entries comes last. -/
theorem Timed.push {sources : List Path} (timed : Timed history sources)
    (slotless : lastGiven? history path = none) (entries : List Entry) :
    Timed (history ++ [.upserted path entries]) (sources ++ [path]) := by
  have kept : Timed (history ++ [.upserted path entries]) sources :=
    timed.concat fun _ _ _ isEvicted => by contradiction
  have new := registers_concat slotless entries
  constructor
  · intro source listed
    rcases List.mem_append.mp listed with old | last
    · exact kept.registered source old
    · rw [List.mem_singleton.mp last]
      exact ⟨history.length, new⟩
  · refine List.pairwise_append.mpr ⟨kept.ordered, List.pairwise_singleton _ _, ?_⟩
    intro left listed right last first second begins follows
    rw [List.mem_singleton.mp last] at follows
    obtain ⟨time, registers⟩ := timed.registered left listed
    have stays : Registers (history ++ [.upserted path entries]) left time :=
      registers.concat fun _ isEvicted => by contradiction
    rw [begins.unique stays (Path.Same.refl left), follows.unique new (Path.Same.refl path)]
    exact registers.lt_length

/-- The slots that a history leaves are in the order of registration. -/
theorem timed_replay (history : List Change) : Timed history (replay history).sources := by
  induction history using List.reverseRecOn with
  | nil => exact ⟨fun _ listed => absurd listed List.not_mem_nil, List.Pairwise.nil⟩
  | append_singleton history change ih =>
    rw [replay_concat]
    cases change with
    | upserted path entries =>
      rw [apply, sources_upsert, Path.insertInto]
      split
      · exact ih.concat fun _ _ _ isEvicted => by contradiction
      · rename_i unlisted
        refine ih.push ?_ entries
        rw [← entriesOf?_replay, ← Option.isNone_iff_eq_none, ← Option.not_isSome,
          ← holds_eq_isSome, holds_eq_isIn]
        simpa using unlisted
    | evicted path =>
      rw [apply, sources_evict, Path.removeFrom]
      refine (ih.filter _).concat fun source listed dropped isEvicted same => ?_
      obtain rfl := Change.evicted.inj isEvicted
      simpa [same.symm] using (List.mem_filter.mp listed).2

/-- No history gives a source two slots. -/
theorem distinct_replay (history : List Change) : Path.Distinct (replay history).sources := by
  induction history using List.reverseRecOn with
  | nil => exact List.Pairwise.nil
  | append_singleton history change ih =>
    rw [replay_concat]
    exact distinct_apply ih change

/-! ## The store of a history -/

/-- What a store answers, in terms of the history that led to it. -/
structure Reflects (history : List Change) (store : Store) : Prop where
  /-- The sources are those that were given entries last. -/
  listed : ∀ path : Path, path.isIn store.sources = true ↔
    ∃ source entries, lastChange? history path = some (.upserted source entries)
  /-- Each source is listed once. -/
  once : Path.Distinct store.sources
  /-- Every source was registered at some time. -/
  registered : ∀ path ∈ store.sources, ∃ time, Registers history path time
  /-- The sources are in the order of the times at which they were registered. -/
  ordered : store.sources.Pairwise fun left right =>
    ∀ first second, Registers history left first → Registers history right second → first < second
  /-- A source has what its last change gave it; other sources have nothing. -/
  given : ∀ path : Path, store.entriesOf? path = lastGiven? history path
  /-- All entries are those of the sources, in their order. -/
  entries : store.entries = store.sources.flatMap fun path => (lastGiven? history path).getD []
  /-- The store is empty when there are no entries, even if it has slots. -/
  empty : store.isEmpty = true ↔ store.entries = []
  /-- Dropping a slot drops one for the listed sources only. -/
  dropped : ∀ path : Path, store.holds path = true ↔ path.isIn store.sources = true
  /-- Where a slot is dropped the store gets shorter. -/
  shorter : ∀ path : Path, store.holds path = true ↔
    (store.evict path).slots.length ≠ store.slots.length
  /-- A change leaves the slots of other sources as they are and in their order. -/
  apart : ∀ change : Change,
    ((store.apply change).slots.filter fun slot => !decide (Path.Same slot.path change.path)) =
      store.slots.filter fun slot => !decide (Path.Same slot.path change.path)
  /-- Written forms with the same components are one source. -/
  componentwise : ∀ left right : Path, left.isAbsolute = right.isAbsolute →
    left.components = right.components →
      store.entriesOf? left = store.entriesOf? right ∧ store.evict left = store.evict right

/-- Written forms of one path drop the same slot. -/
theorem evict_congr (same : Path.Same path other) (store : Store) :
    store.evict path = store.evict other := by
  simp only [evict, Path.decide_same_congr same]

/-- Written forms of one path have the same last change. -/
theorem lastChange?_congr (same : Path.Same path other) (history : List Change) :
    lastChange? history path = lastChange? history other := by
  simp only [lastChange?, Path.decide_same_congr same]

/-- The entries of a source were given by its last change. -/
theorem isSome_lastGiven?_iff :
    (lastGiven? history path).isSome = true ↔
      ∃ source entries, lastChange? history path = some (.upserted source entries) := by
  rw [lastGiven?]
  cases lastChange? history path with
  | none => simp
  | some change => cases change <;> simp [Change.given?]

/-- Every history leaves a store that reflects it: the sources whose last change gave them
entries, with these entries, in the order in which they were registered. -/
theorem replay_reflects (history : List Change) : Reflects history (replay history) where
  listed path := by
    rw [← holds_eq_isIn, holds_eq_isSome, entriesOf?_replay]
    exact isSome_lastGiven?_iff
  once := distinct_replay history
  registered := (timed_replay history).registered
  ordered := (timed_replay history).ordered
  given := entriesOf?_replay history
  entries := by
    rw [Store.entries, sources, List.flatMap_map]
    refine List.flatMap_congr fun slot member => ?_
    rw [← entriesOf?_replay, entriesOf?_of_mem (distinct_replay history) member]
    rfl
  empty := by
    simp [isEmpty, Store.entries, List.flatMap_eq_nil_iff]
  dropped path := by rw [holds_eq_isIn]
  shorter path := by rw [holds_eq_shorter, decide_eq_true_eq]
  apart := slots_apply_apart (replay history)
  componentwise left right absolute components := by
    have same : Path.Same left right := by
      rw [Path.Same, Path.parts, Path.parts, absolute, components]
    refine ⟨?_, evict_congr same _⟩
    rw [entriesOf?_replay, entriesOf?_replay, lastGiven?, lastGiven?, lastChange?_congr same]

-- A source that comes back after its slot was dropped is listed last, in its new written form.
example :
    (replay [.upserted ⟨"/a".toList⟩ [], .upserted ⟨"/b".toList⟩ [], .evicted ⟨"/a".toList⟩,
      .upserted ⟨"//a".toList⟩ []]).sources = [⟨"/b".toList⟩, ⟨"//a".toList⟩] := by
  decide

end Store

end Citations
