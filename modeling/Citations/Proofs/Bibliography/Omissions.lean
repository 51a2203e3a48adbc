import Citations.Proofs.Bibliography.Projection
import Citations.Proofs.Text.Pieces

/-!
# Members that read as nothing

A field of a record in the list format is read from one member, the first with its name whatever the
case, or for the date also the time of issue (`JsonList.Holds`). A member that reads as nothing is
chosen like any other, and is passed over only after that. So taking it away changes an entry
exactly if it hides a field (`JsonList.Hides`): another member would be read in its place, or the
field is one of people, for which nothing is passed over and an empty field is kept.

The empty fields of an entry are thus the people that are given and read as nothing.
-/
namespace Citations

namespace JsonList

variable {before after members : List (Text × Json)} {name field : Text} {value other : Json}

/-! ## What is read from a record -/

/-- A field of people. -/
def IsPeople (field : Text) : Prop := field = "author".toList ∨ field = "editor".toList

instance (field : Text) : Decidable (IsPeople field) :=
  inferInstanceAs (Decidable (field = "author".toList ∨ field = "editor".toList))

/-- People read as nothing exactly if they would without being people. -/
theorem people_eq_nil_iff : people value = [] ↔ flat value = [] := by
  cases value with
  | array items =>
    rw [people, flat, Text.join_eq_nil_iff (by decide), Text.join_eq_nil_iff (by decide)]
  | _ => exact Iff.rfl

/-- A field that no member holds has no value. -/
theorem value?_of_unheld (unheld : memberFor? members field = none) :
    value? members field = none := by
  rw [value?, unheld]
  rfl

/-- The value of a field that a member holds. -/
theorem value?_of_held (held : memberFor? members field = some value) :
    value? members field =
      if IsPeople field then some (people value)
      else if flat value = [] then none else some (flat value) := by
  rw [value?, held]
  rfl

/-- A member that reads as nothing gives people an empty value, and every other field none. -/
theorem value?_of_empty (held : memberFor? members field = some value) (empty : flat value = []) :
    value? members field = if IsPeople field then some [] else none := by
  rw [value?_of_held held, if_pos empty, people_eq_nil_iff.mpr empty]

/-- A field has an empty value exactly if it is one of people and is held by a member that reads as
nothing. -/
theorem value?_eq_some_nil_iff :
    value? members field = some [] ↔
      IsPeople field ∧ ∃ value, memberFor? members field = some value ∧ flat value = [] := by
  cases held : memberFor? members field with
  | none => simp [value?_of_unheld held]
  | some value =>
    rw [value?_of_held held]
    by_cases about : IsPeople field
    · simp [about, people_eq_nil_iff]
    · by_cases empty : flat value = [] <;> simp [about, empty]

/-- A field other than people has no value exactly if each member that holds it reads as nothing. -/
theorem value?_eq_none_iff (other : ¬ IsPeople field) :
    value? members field = none ↔
      ∀ value, memberFor? members field = some value → flat value = [] := by
  cases held : memberFor? members field with
  | none => simp [value?_of_unheld held]
  | some value =>
    rw [value?_of_held held, if_neg other]
    by_cases empty : flat value = [] <;> simp [empty]

/-! ## A member among others -/

/-- The member with a name that stands between others is the one that a field is read from. -/
inductive Holds (before after : List (Text × Json)) (name : Text) : Text → Prop
  /-- It is the first with the name of the field. -/
  | named {field : Text} : Text.sameIgnoringCase name field = true →
    member? before field = none → Holds before after name field
  /-- It is the first with the time of issue, and there is no date. -/
  | issued : Text.sameIgnoringCase name "issued".toList = true →
    member? (before ++ after) "date".toList = none →
    member? before "issued".toList = none → Holds before after name "date".toList

/-- A member that reads as nothing is read although another is there that could be read in its
place; for people, although leaving them out would leave no empty text of people. -/
def Hides (before after : List (Text × Json)) (name field : Text) : Prop :=
  Holds before after name field ∧
    if IsPeople field then
      ∀ standIn, memberFor? (before ++ after) field = some standIn → flat standIn ≠ []
    else ∃ standIn, memberFor? (before ++ after) field = some standIn ∧ flat standIn ≠ []

/-- The first member with a name is among the first members, or else among the others. -/
theorem member?_append (before after : List (Text × Json)) (field : Text) :
    member? (before ++ after) field = (member? before field).or (member? after field) := by
  rw [member?, List.find?_append, Option.map_or]
  rfl

/-- The first member is the one with a name if it has the name. -/
theorem member?_cons (name : Text) (value : Json) (after : List (Text × Json)) (field : Text) :
    member? ((name, value) :: after) field =
      if Text.sameIgnoringCase name field = true then some value else member? after field := by
  rw [member?, List.find?_cons]
  cases Text.sameIgnoringCase name field <;> rfl

/-- A member with the name that is asked for is read if none before it has that name. -/
theorem member?_of_named (same : Text.sameIgnoringCase name field = true)
    (first : member? before field = none) :
    member? (before ++ (name, value) :: after) field = some value := by
  rw [member?_append, first, member?_cons, if_pos same]
  rfl

/-- A member makes no difference for a name that it does not have, or that one before it has. -/
theorem member?_of_unnamed
    (unnamed : ¬ (Text.sameIgnoringCase name field = true ∧ member? before field = none)) :
    member? (before ++ (name, value) :: after) field = member? (before ++ after) field := by
  rw [member?_append, member?_append]
  cases found : member? before field with
  | some earlier => rfl
  | none =>
    have other : ¬ Text.sameIgnoringCase name field = true := fun same => unnamed ⟨same, found⟩
    rw [member?_cons, if_neg other]

/-- A field is read from the member that holds it. -/
theorem memberFor?_of_holds (holds : Holds before after name field) :
    memberFor? (before ++ (name, value) :: after) field = some value := by
  cases holds with
  | named same first =>
    rw [memberFor?, member?_of_named same first]
    split <;> rfl
  | issued same dateless first =>
    have undated : ¬ (Text.sameIgnoringCase name "date".toList = true ∧
        member? before "date".toList = none) := by
      rintro ⟨dated, -⟩
      have names : "date".toList.map Char.toLower = "issued".toList.map Char.toLower :=
        (of_decide_eq_true dated).symm.trans (of_decide_eq_true same)
      exact absurd names (by decide)
    rw [memberFor?, if_pos rfl, member?_of_unnamed undated, dateless,
      member?_of_named same first]
    rfl

/-- A member makes no difference for a field that it does not hold. -/
theorem memberFor?_of_not_holds (free : ¬ Holds before after name field) :
    memberFor? (before ++ (name, value) :: after) field = memberFor? (before ++ after) field := by
  have unnamed : ¬ (Text.sameIgnoringCase name field = true ∧ member? before field = none) :=
    fun found => free (Holds.named found.1 found.2)
  rw [memberFor?, memberFor?, member?_of_unnamed unnamed]
  by_cases dated : field = "date".toList
  · subst dated
    rw [if_pos rfl, if_pos rfl]
    cases dateless : member? (before ++ after) "date".toList with
    | some date => rfl
    | none =>
      have unissued : ¬ (Text.sameIgnoringCase name "issued".toList = true ∧
          member? before "issued".toList = none) :=
        fun found => free (Holds.issued found.1 dateless found.2)
      rw [member?_of_unnamed unissued]
  · rw [if_neg dated, if_neg dated]

/-- Taking away a member that reads as nothing leaves the value of a field as it is, unless the
member hides the field. -/
theorem value?_insert_eq_iff (empty : flat value = []) :
    value? (before ++ (name, value) :: after) field = value? (before ++ after) field ↔
      ¬ Hides before after name field := by
  by_cases holds : Holds before after name field
  · rw [value?_of_empty (memberFor?_of_holds holds) empty, Hides, and_iff_right holds]
    by_cases about : IsPeople field
    · rw [if_pos about, if_pos about, eq_comm, value?_eq_some_nil_iff, and_iff_right about]
      simp
    · rw [if_neg about, if_neg about, eq_comm, value?_eq_none_iff about]
      simp
  · have same : value? (before ++ (name, value) :: after) field =
        value? (before ++ after) field := by
      rw [value?, value?, memberFor?_of_not_holds holds]
    exact iff_of_true same fun hides => holds hides.1

/-! ## Entries -/

/-- The key of a record does not depend on a member with another name. -/
theorem member?_id_insert (other : name ≠ "id".toList) :
    Json.member? "id".toList (before ++ (name, value) :: after) =
      Json.member? "id".toList (before ++ after) := by
  have skipped : decide (name = "id".toList) = false := decide_eq_false other
  rw [Json.member?, Json.member?, List.find?_append, List.find?_append, List.find?_cons, skipped]

/-- The entry of a record with a key. -/
theorem entry?_of_key {key : Text} (source : Path) (allowed : List Text)
    (keyed : Json.member? "id".toList members = some (.text key)) :
    entry? source allowed (.object members) =
      some ⟨key, source, ⟨0, 0⟩, selectFields allowed (value? members)⟩ := by
  rw [JsonList.entry?, keyed]

/-- A record without a text as its key has no entry. -/
theorem entry?_of_keyless (source : Path) (allowed : List Text)
    (keyless : ∀ key, Json.member? "id".toList members ≠ some (.text key)) :
    entry? source allowed (.object members) = none := by
  rw [JsonList.entry?]
  split
  · rename_i key keyed
    exact absurd keyed (keyless key)
  · rfl

/-- Taking away a member that reads as nothing, other than the key, leaves the entry of a record as
it is exactly if the member hides no allowed field, unless there is no entry anyway. The empty
fields of an entry are the allowed ones of people that are held by a member that reads as nothing,
so no other field of an entry is empty. -/
theorem entry?_omitted (empty : flat value = []) (other : name ≠ "id".toList) (source : Path)
    (allowed : List Text) (before after : List (Text × Json)) :
    (JsonList.entry? source allowed (.object (before ++ (name, value) :: after)) =
        entry? source allowed (.object (before ++ after)) ↔
      ((∃ key, Json.member? "id".toList (before ++ after) = some (.text key)) →
        ∀ field ∈ allowed, ¬ Hides before after name field)) ∧
    ∀ members entry, entry? source allowed (.object members) = some entry →
      ∀ field, (field, []) ∈ entry.fields ↔ field ∈ allowed ∧ IsPeople field ∧
        ∃ value, memberFor? members field = some value ∧ flat value = [] := by
  constructor
  · have same : Json.member? "id".toList (before ++ (name, value) :: after) =
        Json.member? "id".toList (before ++ after) := member?_id_insert other
    by_cases keyed : ∃ key, Json.member? "id".toList (before ++ after) = some (.text key)
    · obtain ⟨key, found⟩ := keyed
      have fields : selectFields allowed (value? (before ++ (name, value) :: after)) =
            selectFields allowed (value? (before ++ after)) ↔
          ∀ field ∈ allowed, ¬ Hides before after name field := by
        rw [selectFields_eq_iff]
        exact forall₂_congr fun field _ => value?_insert_eq_iff empty
      rw [entry?_of_key source allowed (same.trans found), entry?_of_key source allowed found,
        Option.some.injEq, Entry.mk.injEq, fields]
      exact ⟨fun equal _ => equal.2.2.2, fun free => ⟨rfl, rfl, rfl, free ⟨key, found⟩⟩⟩
    · have keyless : ∀ key, Json.member? "id".toList (before ++ after) ≠ some (.text key) :=
        fun key found => keyed ⟨key, found⟩
      rw [entry?_of_keyless source allowed (same ▸ keyless),
        entry?_of_keyless source allowed keyless]
      exact iff_of_true rfl fun found => absurd found keyed
  · intro members entry made field
    by_cases keyed : ∃ key, Json.member? "id".toList members = some (.text key)
    · obtain ⟨key, found⟩ := keyed
      rw [entry?_of_key source allowed found] at made
      obtain rfl := Option.some.inj made
      rw [mem_selectFields_iff, value?_eq_some_nil_iff]
    · rw [entry?_of_keyless source allowed fun key found => keyed ⟨key, found⟩] at made
      contradiction

/-- A date that reads as nothing makes no difference behind a date in capitals, although there is a
time of issue as well. -/
theorem entry?_omitted_date :
    let before := [("DATE".toList, Json.text "2020".toList)]
    let after := [("id".toList, Json.text "k".toList), ("issued".toList, Json.text "1999".toList)]
    let empty := Json.array [.null]
    flat empty = [] ∧ "date".toList ≠ "id".toList ∧
      entry? ⟨"/w/a.json".toList⟩ ["date".toList, "title".toList]
          (.object (before ++ ("date".toList, empty) :: after)) =
        entry? ⟨"/w/a.json".toList⟩ ["date".toList, "title".toList]
          (.object (before ++ after)) := by
  intro before after empty
  have nothing : flat empty = [] := by decide
  have other : "date".toList ≠ "id".toList := by decide
  refine ⟨nothing, other, ?_⟩
  refine (entry?_omitted nothing other _ _ before after).1.mpr fun _ field _ hides => ?_
  cases hides.1 with
  | named same first =>
    have names : "date".toList.map Char.toLower = field.map Char.toLower := of_decide_eq_true same
    have capital : Text.sameIgnoringCase "DATE".toList field = true :=
      decide_eq_true (names ▸ rfl)
    rw [member?_cons, if_pos capital] at first
    contradiction
  | issued same _ _ => exact absurd same (by decide)

end JsonList

namespace Source

/-- An author that reads as nothing takes the line of the people, which then shows nobody; without
that member the line is the editor's. -/
theorem parse_emptyAuthor :
    let source : Path := ⟨"/w/a.json".toList⟩
    let allowed := ["author".toList, "editor".toList]
    ∃ given omitted, parse source
        "[\x7b\"id\":\"k\",\"author\":\"\",\"editor\":\"E\"\x7d]".toList allowed = .ok [given] ∧
      parse source "[\x7b\"id\":\"k\",\"editor\":\"E\"\x7d]".toList allowed = .ok [omitted] ∧
      given.fields = [("author".toList, []), ("editor".toList, "E".toList)] ∧
      given.documentation = "Author: \nEditor: E".toList ∧
      omitted.fields = [("editor".toList, "E".toList)] ∧
      omitted.documentation = "Editor: E".toList := by
  refine ⟨⟨"k".toList, ⟨"/w/a.json".toList⟩, ⟨0, 0⟩,
      [("author".toList, []), ("editor".toList, "E".toList)]⟩,
    ⟨"k".toList, ⟨"/w/a.json".toList⟩, ⟨0, 0⟩, [("editor".toList, "E".toList)]⟩, ?_⟩
  decide +kernel

end Source

end Citations
