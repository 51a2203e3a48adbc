import Citations.Proofs.Bibliography.Leaves
import Citations.Proofs.Json.Order

/-!
# Nested values read as their scalars

A value without empty arrays and objects reads as its scalars with commas between them, in the order
in which they stand in it (`JsonList.flat_eq_flattening`): items one after another, and members by
their names, since that is how objects are kept. How the scalars are nested makes no difference.
An empty array or object would read as nothing between two commas, which is why there is none.

People are the exception: the items of an outermost array have `and` between them.
-/
namespace Citations.JsonList

/-! ## Values without empty parts -/

mutual

/-- No array and no object in a value is empty. -/
def Filled : Json → Prop
  | .array items => items ≠ [] ∧ ItemsFilled items
  | .object members => members ≠ [] ∧ MembersFilled members
  | _ => True

/-- No array and no object in the items of an array is empty. -/
def ItemsFilled : List Json → Prop
  | [] => True
  | item :: rest => Filled item ∧ ItemsFilled rest

/-- No array and no object in the members of an object is empty. -/
def MembersFilled : List (Text × Json) → Prop
  | [] => True
  | (_, value) :: rest => Filled value ∧ MembersFilled rest

end

/-- Items have no empty parts exactly if none of them has. -/
theorem itemsFilled_iff {items : List Json} : ItemsFilled items ↔ ∀ item ∈ items, Filled item := by
  induction items with
  | nil => simp [ItemsFilled]
  | cons item rest ih => rw [ItemsFilled, ih, List.forall_mem_cons]

mutual

/-- There is a scalar in a value without empty parts. -/
theorem leaves_ne_nil : ∀ value : Json, Filled value → leaves value ≠ []
  | .null, _ => List.cons_ne_nil _ _
  | .bool _, _ => List.cons_ne_nil _ _
  | .number _, _ => List.cons_ne_nil _ _
  | .text _, _ => List.cons_ne_nil _ _
  | .array items, filled => itemLeaves_ne_nil items filled.1 filled.2
  | .object members, filled => memberLeaves_ne_nil members filled.1 filled.2

/-- There is a scalar in some items without empty parts. -/
theorem itemLeaves_ne_nil :
    ∀ items : List Json, items ≠ [] → ItemsFilled items → itemLeaves items ≠ []
  | [], nonempty, _ => absurd rfl nonempty
  | item :: rest, _, filled =>
    List.append_ne_nil_of_left_ne_nil (leaves_ne_nil item filled.1) (itemLeaves rest)

/-- There is a scalar in some members without empty parts. -/
theorem memberLeaves_ne_nil :
    ∀ members : List (Text × Json), members ≠ [] → MembersFilled members → memberLeaves members ≠ []
  | [], nonempty, _ => absurd rfl nonempty
  | (_, value) :: rest, _, filled =>
    List.append_ne_nil_of_left_ne_nil (leaves_ne_nil value filled.1) (memberLeaves rest)

end

/-! ## What they read as -/

/-- What a scalar is spelled as: a text as it is, null not at all, and any other one as in JSON. -/
def spelling : Json → Text
  | .bool value => if value then "true".toList else "false".toList
  | .number value => value.text
  | .text value => value
  | _ => []

/-- The scalars of a value with commas between them. -/
def flattening (value : Json) : Text := Text.join ", ".toList ((leaves value).map spelling)

/-- The scalars of a value that comes first are followed by a comma if others follow. -/
theorem join_spelling {scalars others : List Json} {rest : List Text} (nonempty : scalars ≠ [])
    (empty : rest = [] ↔ others = [])
    (same : Text.join ", ".toList rest = Text.join ", ".toList (others.map spelling)) :
    Text.join ", ".toList (Text.join ", ".toList (scalars.map spelling) :: rest) =
      Text.join ", ".toList ((scalars ++ others).map spelling) := by
  have spelled : scalars.map spelling ≠ [] := fun none => nonempty (List.map_eq_nil_iff.mp none)
  by_cases last : rest = []
  · rw [last, empty.mp last, List.append_nil]
    rfl
  · have more : others.map spelling ≠ [] :=
      fun none => last (empty.mpr (List.map_eq_nil_iff.mp none))
    have behind : Text.join ", ".toList (Text.join ", ".toList (scalars.map spelling) :: rest) =
        Text.join ", ".toList (scalars.map spelling) ++ ", ".toList ++ Text.join ", ".toList rest :=
      Text.join_append ", ".toList (List.cons_ne_nil _ []) last
    rw [behind, same, List.map_append, Text.join_append ", ".toList spelled more]

/-- Items without empty parts read as nothing at all exactly if there is no scalar in them. -/
theorem flatItems_eq_nil_iff {items : List Json} (filled : ItemsFilled items) :
    flatItems items = [] ↔ itemLeaves items = [] := by
  cases items with
  | nil => exact iff_of_true rfl rfl
  | cons item rest =>
    exact iff_of_false (List.cons_ne_nil _ _)
      (itemLeaves_ne_nil _ (List.cons_ne_nil _ _) filled)

/-- Members without empty parts read as nothing at all exactly if there is no scalar in them. -/
theorem flatMembers_eq_nil_iff {members : List (Text × Json)} (filled : MembersFilled members) :
    flatMembers members = [] ↔ memberLeaves members = [] := by
  cases members with
  | nil => exact iff_of_true rfl rfl
  | cons member rest =>
    exact iff_of_false (List.cons_ne_nil _ _)
      (memberLeaves_ne_nil _ (List.cons_ne_nil _ _) filled)

mutual

/-- A value without empty parts reads as its scalars with commas between them. -/
theorem flat_eq_flattening : ∀ value : Json, Filled value → flat value = flattening value
  | .null, _ => rfl
  | .bool _, _ => rfl
  | .number _, _ => rfl
  | .text _, _ => rfl
  | .array items, filled => join_flatItems items filled.2
  | .object members, filled => join_flatMembers members filled.2

/-- Items without empty parts read, with commas between them, as their scalars do. -/
theorem join_flatItems : ∀ items : List Json, ItemsFilled items →
    Text.join ", ".toList (flatItems items) =
      Text.join ", ".toList ((itemLeaves items).map spelling)
  | [], _ => rfl
  | item :: rest, filled => by
    rw [flatItems, flat_eq_flattening item filled.1, itemLeaves]
    exact join_spelling (leaves_ne_nil item filled.1) (flatItems_eq_nil_iff filled.2)
      (join_flatItems rest filled.2)

/-- Members without empty parts read, with commas between them, as their scalars do. -/
theorem join_flatMembers : ∀ members : List (Text × Json), MembersFilled members →
    Text.join ", ".toList (flatMembers members) =
      Text.join ", ".toList ((memberLeaves members).map spelling)
  | [], _ => rfl
  | (name, value) :: rest, filled => by
    rw [flatMembers, flat_eq_flattening value filled.1, memberLeaves]
    exact join_spelling (leaves_ne_nil value filled.1) (flatMembers_eq_nil_iff filled.2)
      (join_flatMembers rest filled.2)

end

/-- The items of an array read one by one. -/
theorem flatItems_eq_map (items : List Json) : flatItems items = items.map flat := by
  induction items with
  | nil => rfl
  | cons item rest ih => rw [flatItems, ih, List.map_cons]

/-- People without empty parts read as the scalars of each of them. -/
theorem people_eq_join {items : List Json} (filled : ItemsFilled items) :
    people (.array items) = Text.join " and ".toList (items.map flattening) := by
  have each : items.map flat = items.map flattening := List.map_congr_left fun item listed =>
    flat_eq_flattening item (itemsFilled_iff.mp filled item listed)
  rw [people, flatItems_eq_map, each]

/-- A value without empty arrays and objects reads as its scalars with commas between them, and as
any other such value with the same scalars, however they are nested. An array of people reads as
the scalars of each item with `and` in front of every item but the first. In a value that was read
from a text the members of an object, and so their scalars, are in the order of their names. -/
theorem flat_filled (value : Json) (filled : Filled value) :
    flat value = flattening value ∧
    (∀ other, Filled other → leaves other = leaves value → flat other = flat value) ∧
    (∀ items, value = .array items →
      people value = Text.join " and ".toList (items.map flattening) ∧
      ∃ first others, items = first :: others ∧ people value =
        flattening first ++ others.flatMap fun person => " and ".toList ++ flattening person) ∧
    ∀ text, Json.read? text = some value → value.Ordered := by
  refine ⟨flat_eq_flattening value filled, ?_, ?_, fun text read => Json.read?_ordered read⟩
  · intro other others same
    rw [flat_eq_flattening other others, flat_eq_flattening value filled, flattening, same]
    rfl
  · rintro items rfl
    have joined : people (.array items) = Text.join " and ".toList (items.map flattening) :=
      people_eq_join filled.2
    obtain ⟨first, others, rfl⟩ := List.exists_cons_of_ne_nil filled.1
    refine ⟨joined, first, others, rfl, ?_⟩
    rw [joined, List.map_cons, Text.join_cons_eq, List.flatMap_map]

/-- Two people, the second with a name that is nested and one that is null. -/
theorem flat_filled_people :
    let value := Json.array [
      .object [("family".toList, .text "Smith".toList), ("given".toList, .text "Jane".toList)],
      .object [("family".toList, .array [.text "Doe".toList, .array [.null]]),
        ("number".toList, .number (.integer 2))]]
    Filled value ∧ flat value = "Smith, Jane, Doe, , 2".toList ∧
      people value = "Smith, Jane and Doe, , 2".toList := by
  intro value
  have filled : Filled value := by simp [value, Filled, ItemsFilled, MembersFilled]
  obtain ⟨flattened, -, joined, -⟩ := flat_filled value filled
  exact ⟨filled, flattened.trans (by decide), (joined _ rfl).1.trans (by decide)⟩

end Citations.JsonList
