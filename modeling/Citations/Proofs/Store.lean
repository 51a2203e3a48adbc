import Citations.Proofs.Bibliography.Source
import Citations.Proofs.Host
import Citations.Store

/-!
# Slots of the store

A store is described by what it gives for each path and by the list of its sources. Giving a
source entries inserts it into that list, dropping its slot removes it, and neither changes what
any other path is given.
-/
namespace Citations

namespace Store

variable {store : Store} {path other : Path} {entries : List Entry}

/-- A source has these entries, whatever the written form of their source. -/
def Holds (store : Store) (path : Path) (entries : List Entry) : Prop :=
  ∃ held, store.entriesOf? path = some held ∧ List.Forall₂ Entry.Same held entries

/-- Two sources have the same entries up to the written form of their source, or none has a
slot. -/
def Alike (left right : Option (List Entry)) : Prop :=
  Option.Rel (List.Forall₂ Entry.Same) left right

/-- What a source has is like itself. -/
theorem Alike.refl (entries : Option (List Entry)) : Alike entries entries := by
  cases entries with
  | none => exact Option.Rel.none
  | some entries => exact Option.Rel.some (Entry.forall₂_same_refl entries)

/-- Likeness is symmetric. -/
theorem Alike.symm {left right : Option (List Entry)} (alike : Alike left right) :
    Alike right left := by
  cases alike with
  | none => exact Option.Rel.none
  | some same => exact Option.Rel.some (Entry.forall₂_same_symm same)

/-- Likeness is transitive. -/
theorem Alike.trans {left middle right : Option (List Entry)} (first : Alike left middle)
    (second : Alike middle right) : Alike left right := by
  cases first with
  | none => exact second
  | some same =>
    cases second with
    | some next => exact Option.Rel.some (Entry.forall₂_same_trans same next)

/-- What the slots of a new entry list give: the new list for its path. -/
theorem find?_upsertSlot_same (same : Path.Same path other) (entries : List Entry)
    (slots : List Slot) :
    ((upsertSlot path entries slots).find? fun slot => Path.Same slot.path other).map
      (·.entries) = some entries := by
  induction slots with
  | nil => simp [upsertSlot, same]
  | cons slot rest ih =>
    by_cases here : Path.Same slot.path path
    · simp [upsertSlot, here, here.trans same]
    · have passed : ¬ Path.Same slot.path other := fun equal => here (equal.trans same.symm)
      simpa [upsertSlot, here, passed] using ih

/-- What the slots of a new entry list give: for other paths what they gave. -/
theorem find?_upsertSlot_apart (apart : ¬ Path.Same path other) (entries : List Entry)
    (slots : List Slot) :
    ((upsertSlot path entries slots).find? fun slot => Path.Same slot.path other).map
      (·.entries) =
        (slots.find? fun slot => Path.Same slot.path other).map (·.entries) := by
  induction slots with
  | nil => simp [upsertSlot, apart]
  | cons slot rest ih =>
    by_cases here : Path.Same slot.path path
    · have passed : ¬ Path.Same slot.path other := fun equal => apart (here.symm.trans equal)
      simp [upsertSlot, here, passed]
    · by_cases found : Path.Same slot.path other
      · simp [upsertSlot, here, found]
      · simpa [upsertSlot, here, found] using ih

/-- A source has the entries it was last given. -/
theorem entriesOf?_upsert_same (same : Path.Same path other) (store : Store)
    (entries : List Entry) : (store.upsert path entries).entriesOf? other = some entries :=
  find?_upsertSlot_same same entries store.slots

/-- Giving a source entries changes nothing for other sources. -/
theorem entriesOf?_upsert_apart (apart : ¬ Path.Same path other) (store : Store)
    (entries : List Entry) :
    (store.upsert path entries).entriesOf? other = store.entriesOf? other :=
  find?_upsertSlot_apart apart entries store.slots

/-- A source whose slot was dropped has none. -/
theorem entriesOf?_evict_same (same : Path.Same path other) (store : Store) :
    (store.evict path).entriesOf? other = none := by
  simp only [entriesOf?, evict, Option.map_eq_none_iff, List.find?_eq_none, List.mem_filter,
    Bool.not_eq_true', decide_eq_false_iff_not, decide_eq_true_eq, and_imp]
  intro slot _ apart equal
  exact apart (equal.trans same.symm)

/-- Dropping the slot of a source changes nothing for other sources. -/
theorem entriesOf?_evict_apart (apart : ¬ Path.Same path other) (store : Store) :
    (store.evict path).entriesOf? other = store.entriesOf? other := by
  unfold entriesOf? evict
  rw [List.find?_filter]
  congr 2
  funext slot
  by_cases equal : Path.Same slot.path other
  · have kept : ¬ Path.Same slot.path path := fun same => apart (same.symm.trans equal)
    simp [equal, kept]
  · simp [equal]

/-- A source has a slot exactly when it is among the sources of the store. -/
theorem holds_eq_isIn (store : Store) (path : Path) :
    store.holds path = path.isIn store.sources := by
  simp [holds, Path.isIn, sources, List.any_map, Function.comp_def]

/-- A source has a slot exactly when the store gives entries for it. -/
theorem holds_eq_isSome (store : Store) (path : Path) :
    store.holds path = (store.entriesOf? path).isSome := by
  rw [entriesOf?, Option.isSome_map, List.isSome_find?]
  rfl

/-- Two stores that give a source the same entries agree on whether it has a slot. -/
theorem holds_congr {before after : Store} (same : after.entriesOf? path = before.entriesOf? path) :
    after.holds path = before.holds path := by
  rw [holds_eq_isSome, same, holds_eq_isSome]

/-- Giving a source entries inserts it into the sources, which keep their order. -/
theorem sources_upsert (store : Store) (path : Path) (entries : List Entry) :
    (store.upsert path entries).sources = path.insertInto store.sources := by
  obtain ⟨slots⟩ := store
  show (upsertSlot path entries slots).map (·.path) = path.insertInto (slots.map (·.path))
  induction slots with
  | nil => rfl
  | cons slot rest ih =>
    by_cases here : Path.Same slot.path path
    · simp [upsertSlot, here, Path.insertInto, Path.isIn]
    · have listed : path.isIn (slot.path :: rest.map (·.path)) = path.isIn (rest.map (·.path)) := by
        simp [Path.isIn, here]
      simp only [upsertSlot, here, ↓reduceIte, List.map_cons, ih, Path.insertInto, listed]
      split <;> rfl

/-- Dropping a slot removes its source from the sources, which keep their order. -/
theorem sources_evict (store : Store) (path : Path) :
    (store.evict path).sources = path.removeFrom store.sources := by
  simp [sources, evict, Path.removeFrom, List.filter_map, Function.comp_def]

/-- A slot after a source was given entries is an earlier one or that of the source. -/
theorem mem_slots_upsert {slot : Slot} (mem : slot ∈ (store.upsert path entries).slots) :
    slot ∈ store.slots ∨ (Path.Same slot.path path ∧ slot.entries = entries) := by
  obtain ⟨slots⟩ := store
  change slot ∈ upsertSlot path entries slots at mem
  show slot ∈ slots ∨ _
  induction slots with
  | nil =>
    obtain rfl := List.mem_singleton.mp mem
    exact Or.inr ⟨Path.Same.refl path, rfl⟩
  | cons first rest ih =>
    by_cases here : Path.Same first.path path
    · simp only [upsertSlot, here, ↓reduceIte] at mem
      rcases List.mem_cons.mp mem with rfl | later
      · exact Or.inr ⟨here, rfl⟩
      · exact Or.inl (List.mem_cons_of_mem _ later)
    · simp only [upsertSlot, here, ↓reduceIte] at mem
      rcases List.mem_cons.mp mem with rfl | later
      · exact Or.inl List.mem_cons_self
      · exact (ih later).imp_left (List.mem_cons_of_mem _)

end Store

end Citations
