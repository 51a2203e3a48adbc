import Citations.Engine
import Mathlib.Data.List.Duplicate
import Mathlib.Data.List.Induction
import Mathlib.Data.List.NodupEquivFin

/-!
# Repeated keys

Three answers of an engine are about the keys of its entries: the list of all entries, the entry
that a key stands for, and the report of repeated keys that comes with the list. Each goes through
the sources for itself, and they fit together. A key stands for the first entry of the list that has it. An entry of the list that
comes after that one is hidden, and the reported keys are those that some entry is hidden under,
each once and in the order in which they occur first.
-/
namespace Citations

namespace Store

variable {entries : List Entry} {keys : List Text} {key : Text} {place : Nat}

/-! ## Counting keys in one pass -/

/-- One more key at the end is a new first occurrence, or none. -/
theorem eraseDups_concat (keys : List Text) (key : Text) :
    (keys ++ [key]).eraseDups =
      if key ∈ keys then keys.eraseDups else keys.eraseDups ++ [key] := by
  rw [List.eraseDups_append]
  by_cases known : key ∈ keys <;> simp [List.removeAll, known, List.eraseDups_cons]

/-- First occurrences are in the order of their places. -/
theorem eraseDups_ordered (keys : List Text) :
    keys.eraseDups.Pairwise fun left right => keys.idxOf left < keys.idxOf right := by
  induction keys using List.reverseRecOn with
  | nil => exact List.Pairwise.nil
  | append_singleton keys key ih =>
    have before : ∀ listed ∈ keys.eraseDups, (keys ++ [key]).idxOf listed = keys.idxOf listed :=
      fun listed member => List.idxOf_append_of_mem (List.mem_eraseDups.mp member)
    have kept : keys.eraseDups.Pairwise fun left right =>
        (keys ++ [key]).idxOf left < (keys ++ [key]).idxOf right := by
      refine ih.imp_of_mem fun {left right} hasLeft hasRight less => ?_
      rwa [before left hasLeft, before right hasRight]
    rw [eraseDups_concat]
    split
    · exact kept
    · rename_i new
      refine List.pairwise_append.mpr ⟨kept, List.pairwise_singleton _ _, ?_⟩
      intro left member right last
      rw [List.mem_singleton.mp last, before left member, List.idxOf_append_of_notMem new]
      have := List.idxOf_lt_length_of_mem (List.mem_eraseDups.mp member)
      omega

/-- Counting one more key raises its number, or adds it at the end with one. -/
theorem Tally.add_map {names : List Text} {number : Text → Nat} (distinct : names.Nodup)
    (uncounted : key ∉ names → number key = 0) :
    Tally.add key (names.map fun name => (name, number name)) =
      (if key ∈ names then names else names ++ [key]).map fun name =>
        (name, number name + if name = key then 1 else 0) := by
  induction names with
  | nil => simp [Tally.add, uncounted]
  | cons name rest ih =>
    obtain ⟨apart, later⟩ := List.nodup_cons.mp distinct
    by_cases here : name = key
    · subst here
      have others : ∀ other ∈ rest, other ≠ name := fun other listed equal => apart (equal ▸ listed)
      simp +contextual [Tally.add, others]
    · have passed : key ≠ name := fun equal => here equal.symm
      have counted := ih later fun unlisted => uncounted (by simp [passed, unlisted])
      simp only [List.map_cons, Tally.add, here, ↓reduceIte, counted, List.mem_cons, passed,
        false_or]
      split <;> simp [here]

/-- One pass counts every key: the first occurrences, each with the number of all. -/
theorem tally_eq (entries : List Entry) :
    tally entries = (entries.map (·.key)).eraseDups.map fun key =>
      (key, (entries.map (·.key)).count key) := by
  induction entries using List.reverseRecOn with
  | nil => rfl
  | append_singleton entries entry ih =>
    have stepped : tally (entries ++ [entry]) = Tally.add entry.key (tally entries) := by
      rw [tally, List.foldl_append]
      rfl
    have distinct : (entries.map (·.key)).eraseDups.Nodup := by
      refine (eraseDups_ordered _).imp_of_mem fun {left right} _ _ less equal => ?_
      rw [equal] at less
      exact Nat.lt_irrefl _ less
    have new : entry.key ∉ (entries.map (·.key)).eraseDups →
        (entries.map (·.key)).count entry.key = 0 :=
      fun unlisted => List.count_eq_zero.mpr fun listed =>
        unlisted (List.mem_eraseDups.mpr listed)
    rw [stepped, ih, Tally.add_map distinct new, List.map_append, List.map_singleton,
      eraseDups_concat]
    simp only [List.mem_eraseDups, List.count_append, List.count_singleton]
    refine List.map_congr_left fun key _ => ?_
    by_cases same : key = entry.key
    · simp [same]
    · have apart : entry.key ≠ key := fun equal => same equal.symm
      simp [same, apart]

/-- The repeated keys are the first occurrences of the keys that occur twice. -/
theorem repeatedKeys_eq (entries : List Entry) :
    repeatedKeys entries = (entries.map (·.key)).eraseDups.filter fun key =>
      1 < (entries.map (·.key)).count key := by
  rw [repeatedKeys, tally_eq, List.filter_map, List.map_map]
  exact List.map_id _

/-- A key is repeated when two entries have it. -/
theorem mem_repeatedKeys_iff :
    key ∈ repeatedKeys entries ↔ 2 ≤ (entries.map (·.key)).count key := by
  rw [repeatedKeys_eq, List.mem_filter, List.mem_eraseDups, decide_eq_true_eq]
  refine ⟨And.right, fun twice => ⟨?_, twice⟩⟩
  exact List.count_pos_iff.mp (Nat.lt_of_lt_of_le Nat.zero_lt_two twice)

/-! ## The first entry with a key -/

/-- The place of the first entry that has a key. -/
def FirstAt (entries : List Entry) (key : Text) (place : Nat) : Prop :=
  (∃ entry, entries[place]? = some entry ∧ entry.key = key) ∧
    ∀ earlier < place, ∀ entry, entries[earlier]? = some entry → entry.key ≠ key

/-- The place of an entry with a key that is not the first one. -/
def HiddenAt (entries : List Entry) (key : Text) (place : Nat) : Prop :=
  (∃ entry, entries[place]? = some entry ∧ entry.key = key) ∧
    ∃ first, FirstAt entries key first ∧ first ≠ place

/-- The key of the entry at a place is the key at that place. -/
theorem getElem?_map_key :
    (entries.map (·.key))[place]? = some key ↔
      ∃ entry, entries[place]? = some entry ∧ entry.key = key := by
  rw [List.getElem?_map, Option.map_eq_some_iff]

/-- No key stands before its first occurrence. -/
theorem idxOf_le (listed : keys[place]? = some key) : keys.idxOf key ≤ place := by
  by_contra less
  have before : place < keys.findIdx (· == key) := Nat.lt_of_not_le less
  have other := List.not_of_lt_findIdx before
  rw [List.getElem?_eq_some_iff] at listed
  obtain ⟨_, same⟩ := listed
  simp [same] at other

/-- The first entry with a key stands where the key occurs first. -/
theorem firstAt_iff :
    FirstAt entries key place ↔
      key ∈ entries.map (·.key) ∧ (entries.map (·.key)).idxOf key = place := by
  constructor
  · rintro ⟨has, earlier⟩
    have listed := getElem?_map_key.mpr has
    have member := List.mem_of_getElem? listed
    refine ⟨member, Nat.le_antisymm (idxOf_le listed) (Nat.le_of_not_lt fun less => ?_)⟩
    obtain ⟨entry, found, same⟩ := getElem?_map_key.mp (List.getElem?_idxOf member)
    exact earlier _ less entry found same
  · rintro ⟨member, rfl⟩
    refine ⟨getElem?_map_key.mp (List.getElem?_idxOf member), fun earlier less entry found same => ?_⟩
    have := idxOf_le (getElem?_map_key.mpr ⟨entry, found, same⟩)
    omega

/-- Looking up a key finds the first entry that has it. -/
theorem find?_eq_some_iff_firstAt {entry : Entry} :
    entries.find? (·.key = key) = some entry ↔
      ∃ place, FirstAt entries key place ∧ entries[place]? = some entry := by
  rw [List.find?_eq_some_iff_getElem]
  constructor
  · rintro ⟨same, place, inside, rfl, earlier⟩
    refine ⟨place, ⟨⟨_, List.getElem?_eq_getElem inside, of_decide_eq_true same⟩, ?_⟩,
      List.getElem?_eq_getElem inside⟩
    intro before less entry listed
    obtain ⟨_, rfl⟩ := List.getElem?_eq_some_iff.mp listed
    simpa using earlier before less
  · rintro ⟨place, ⟨⟨other, listed, same⟩, earlier⟩, found⟩
    obtain rfl : other = entry := Option.some.inj (listed.symm.trans found)
    obtain ⟨inside, rfl⟩ := List.getElem?_eq_some_iff.mp found
    refine ⟨decide_eq_true same, place, inside, rfl, fun before less => ?_⟩
    have apart := earlier before less _ (List.getElem?_eq_getElem (Nat.lt_trans less inside))
    simpa using apart

/-- A key is repeated when some entry is hidden under it. -/
theorem mem_repeatedKeys_iff_hiddenAt :
    key ∈ repeatedKeys entries ↔ ∃ place, HiddenAt entries key place := by
  rw [mem_repeatedKeys_iff, ← List.replicate_sublist_iff]
  change [key, key].Sublist _ ↔ _
  rw [← List.duplicate_iff_sublist, List.duplicate_iff_exists_distinct_get]
  constructor
  · rintro ⟨early, late, before, isEarly, isLate⟩
    have atEarly := List.getElem?_eq_some_iff.mpr ⟨early.isLt, isEarly.symm⟩
    have atLate := List.getElem?_eq_some_iff.mpr ⟨late.isLt, isLate.symm⟩
    refine ⟨late, getElem?_map_key.mp atLate, _,
      firstAt_iff.mpr ⟨List.mem_of_getElem? atEarly, rfl⟩, ?_⟩
    have := idxOf_le atEarly
    have : early.val < late.val := before
    omega
  · rintro ⟨place, has, first, isFirst, apart⟩
    have atFirst := List.getElem?_eq_some_iff.mp (getElem?_map_key.mpr isFirst.1)
    have atPlace := List.getElem?_eq_some_iff.mp (getElem?_map_key.mpr has)
    obtain ⟨entry, listed, same⟩ := has
    have before : first < place :=
      Nat.lt_of_le_of_ne (Nat.le_of_not_lt fun less => isFirst.2 place less entry listed same) apart
    exact ⟨⟨first, atFirst.1⟩, ⟨place, atPlace.1⟩, before, atFirst.2.symm, atPlace.2.symm⟩

/-- Repeated keys are in the order of their first entries. -/
theorem repeatedKeys_ordered (entries : List Entry) :
    (repeatedKeys entries).Pairwise fun left right =>
      ∀ first second, FirstAt entries left first → FirstAt entries right second →
        first < second := by
  rw [repeatedKeys_eq]
  refine ((eraseDups_ordered (entries.map (·.key))).filter _).imp_of_mem ?_
  intro left right _ _ less first second isFirst isSecond
  rwa [← (firstAt_iff.mp isFirst).2, ← (firstAt_iff.mp isSecond).2]

/-! ## The report -/

/-- What a list of entries, a look-up of keys and a report of repeated keys have in common. -/
structure Consistent (entries : List Entry) (find? : Text → Option Entry)
    (notices : List Notice) : Prop where
  /-- A key stands for the first entry that has it. -/
  found : ∀ key entry, find? key = some entry ↔
    ∃ place, FirstAt entries key place ∧ entries[place]? = some entry
  /-- A key stands for nothing when no entry has it. -/
  missing : ∀ key, find? key = none ↔ ∀ entry ∈ entries, entry.key ≠ key
  /-- Without a repeated key nothing is reported. -/
  silent : (∀ key, (entries.map (·.key)).count key < 2) → notices = []
  /-- Repeated keys are reported once and together: each one that two entries have, in the order
  of the first entries, which is each one that hides an entry. -/
  reported : (∃ key, 2 ≤ (entries.map (·.key)).count key) →
    ∃ keys, notices = [.duplicateKeys keys] ∧ keys.Nodup ∧
      (∀ key, key ∈ keys ↔ 2 ≤ (entries.map (·.key)).count key) ∧
      (keys.Pairwise fun left right => ∀ first second, FirstAt entries left first →
        FirstAt entries right second → first < second) ∧
      ∀ key, key ∈ keys ↔ ∃ place, HiddenAt entries key place

/-- Repeated keys are different keys. -/
theorem nodup_repeatedKeys (entries : List Entry) : (repeatedKeys entries).Nodup := by
  refine (repeatedKeys_ordered entries).imp_of_mem fun {left right} hasLeft _ before same => ?_
  obtain ⟨_, _, first, isFirst, _⟩ := mem_repeatedKeys_iff_hiddenAt.mp hasLeft
  exact Nat.lt_irrefl first (before first first isFirst (same ▸ isFirst))

/-- Looking for a key source by source is looking for it among all entries. -/
theorem find?_eq (store : Store) (key : Text) :
    store.find? key = store.entries.find? (·.key = key) := by
  rw [find?, entries, List.find?_flatMap]

/-- What a store answers about keys is consistent. -/
theorem consistent (store : Store) : Consistent store.entries store.find? store.notices where
  found key entry := by rw [find?_eq, find?_eq_some_iff_firstAt]
  missing key := by simp [find?_eq, List.find?_eq_none]
  silent := by
    intro single
    have none : repeatedKeys store.entries = [] := by
      refine List.eq_nil_iff_forall_not_mem.mpr fun key listed => ?_
      have := single key
      have := mem_repeatedKeys_iff.mp listed
      omega
    rw [notices, none]
  reported := by
    rintro ⟨key, twice⟩
    refine ⟨repeatedKeys store.entries, ?_, nodup_repeatedKeys _, fun _ => mem_repeatedKeys_iff,
      repeatedKeys_ordered _, fun _ => mem_repeatedKeys_iff_hiddenAt⟩
    rw [notices]
    split
    · rename_i none
      have listed := mem_repeatedKeys_iff.mpr twice
      rw [none] at listed
      contradiction
    · rfl

end Store

namespace Engine

/-- An engine finds for a key what its list has first. -/
theorem entry?_eq (engine : Engine) (key : Text) :
    engine.entry? key = engine.suggestions.2.find? (·.key = key) :=
  engine.session.store.find?_eq key

/-- What an editor asks about the loaded entries. -/
inductive Query where
  /-- All of them. -/
  | suggestions
  /-- The one that a key stands for. -/
  | entry (key : Text)
  deriving DecidableEq, Repr

/-- The engine after a query. A look-up gives an entry and leaves the engine alone. -/
def ask (engine : Engine) : Query → Engine
  | .suggestions => engine.suggestions.1
  | .entry _ => engine

/-- Queries report repeated keys once for every time that all entries are listed, and change
nothing else. -/
theorem foldl_ask (engine : Engine) (queries : List Query) :
    queries.foldl ask engine =
      { engine with session := { engine.session with
          notices := engine.session.notices ++
            (List.replicate (queries.count .suggestions) engine.session.store.notices).flatten } } := by
  induction queries generalizing engine with
  | nil => simp
  | cons query rest ih =>
    cases query with
    | suggestions => simp [ih, ask, suggestions, List.replicate_succ]
    | entry key => simp [ih, ask]

/-- An engine lists the entries of all its sources, in the order of the sources. The entry that it
finds for a key and the report of repeated keys are consistent with this list. Each listing makes
the report, and a look-up makes none. -/
theorem suggestions_consistent (engine : Engine) :
    let listed := engine.session.store.slots.flatMap (·.entries)
    engine.suggestions.2 = listed ∧
    ∃ report, Store.Consistent listed engine.entry? report ∧
      ∀ queries : List Query, queries.foldl ask engine =
        { engine with session := { engine.session with
            notices := engine.session.notices ++
              (List.replicate (queries.count .suggestions) report).flatten } } :=
  ⟨rfl, engine.session.store.notices, engine.session.store.consistent, engine.foldl_ask⟩

/-- A key that one source has twice and a key that two sources have: both are reported, by first
occurrence, and stand for the first entry of the first source that has them. -/
theorem suggestions_consistent_shadowed :
    let first : Path := ⟨"/w/a.bib".toList⟩
    let second : Path := ⟨"/w/b.bib".toList⟩
    let entry (key : String) (source : Path) (line : Nat) : Entry :=
      ⟨key.toList, source, ⟨line, 0⟩, []⟩
    let slots : List Slot := [
      ⟨first, [entry "x" first 0, entry "k" first 1, entry "k" first 2]⟩,
      ⟨second, [entry "y" second 0, entry "x" second 1]⟩]
    let engine : Engine := ⟨{}, ⟨['/']⟩, none, { Session.initial with store := ⟨slots⟩ }⟩
    let listed := [entry "x" first 0, entry "k" first 1, entry "k" first 2, entry "y" second 0,
      entry "x" second 1]
    engine.suggestions.2 = listed ∧
    engine.entry? "k".toList = some (entry "k" first 1) ∧
    engine.entry? "x".toList = some (entry "x" first 0) ∧
    engine.entry? "y".toList = some (entry "y" second 0) ∧ engine.entry? "z".toList = none ∧
    Store.Consistent listed engine.entry? [.duplicateKeys ["x".toList, "k".toList]] := by
  intro first second entry slots engine listed
  obtain ⟨-, report, consistent, asked⟩ := suggestions_consistent engine
  have noticed : (engine.ask .suggestions).session.notices =
      [.duplicateKeys ["x".toList, "k".toList]] := by decide +kernel
  have once := congrArg (fun engine : Engine => engine.session.notices) (asked [.suggestions])
  have none : engine.session.notices = [] := rfl
  have made : (engine.ask .suggestions).session.notices = report := by simpa [none] using once
  rw [← made, noticed] at consistent
  exact ⟨by decide +kernel, by decide +kernel, by decide +kernel, by decide +kernel,
    by decide +kernel, consistent⟩

end Engine

end Citations
