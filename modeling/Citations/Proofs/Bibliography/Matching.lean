import Citations.Proofs.Bibliography.Agreement

/-!
# Names of members in any case

Members of a record are matched with fields by their names, whatever the case of ASCII letters, and
the first one with the name counts. Where no two names of a record are equal but for their case, at
most one member has the name of a field, so neither the case of the names nor the order that the
members are kept in makes a difference (`JsonList.entry?_recased`). The name `id` is the exception:
the key of a record stands under that very name. What is said here is about the names of members;
the names inside a member's value are matched with nothing.

Every element of the array makes an entry on its own or makes none.
-/
namespace Citations

/-- A look-up by name in two lists with the same names and values, entry by entry. -/
theorem find?_forall₂ {α : Type} {related : Text × α → Text × α → Prop} {meant : Text → Bool}
    {items others : List (Text × α)} (same : List.Forall₂ related items others)
    (alike : ∀ left right, related left right → meant left.1 = meant right.1)
    (values : ∀ left right, related left right → left.2 = right.2) :
    (items.find? (meant ·.1)).map (·.2) = (others.find? (meant ·.1)).map (·.2) := by
  induction same with
  | nil => rfl
  | @cons left right rest more head _ ih =>
    rw [List.find?_cons, List.find?_cons, alike left right head]
    cases meant right.1 with
    | true => exact congrArg some (values left right head)
    | false => exact ih

namespace JsonList

variable {members others : List (Text × Json)} {items : List Json} {source : Path}
  {allowed : List Text}

/-! ## Records that differ in the case of names -/

/-- Two members with one value whose names differ at most in case. A name that is `id` in some case
is the same in both. -/
structure Recased (left right : Text × Json) : Prop where
  /-- The names differ at most in case. -/
  called : Text.sameIgnoringCase left.1 right.1 = true
  /-- A name like that of the key is kept as it is. -/
  kept : Text.sameIgnoringCase left.1 "id".toList = true → left.1 = right.1
  /-- The values are equal. -/
  value : left.2 = right.2

/-- Two records whose members differ at most in the case of their names. Since members are kept in
the order of their names, the members of the second may come in any order. -/
def RecasedRecord (members others : List (Text × Json)) : Prop :=
  ∃ recased, List.Forall₂ Recased members recased ∧ recased.Perm others

/-- Two elements of an array, the same or records that differ in the case of names. -/
inductive RecasedElement : Json → Json → Prop
  /-- Names are written in another case. -/
  | record {members others : List (Text × Json)} :
    RecasedRecord members others → RecasedElement (.object members) (.object others)
  /-- Nothing is changed. -/
  | same (element : Json) : RecasedElement element element

/-- No two names of a record are equal but for their case. -/
def Distinct (members : List (Text × Json)) : Prop :=
  (members.map fun member => Text.lowerAscii member.1).Nodup

/-- Names in another case are as distinct as before. -/
theorem Distinct.recased {recased : List (Text × Json)} (distinct : Distinct members)
    (same : List.Forall₂ Recased members recased) : Distinct recased := by
  have names : members.map (fun member => Text.lowerAscii member.1) =
      recased.map fun member => Text.lowerAscii member.1 := by
    rw [← List.forall₂_eq_eq_eq, List.forall₂_map_left_iff, List.forall₂_map_right_iff]
    exact same.imp fun _ _ pair => of_decide_eq_true pair.called
  rw [Distinct, ← names]
  exact distinct

/-- A member that is meant by one name, in some case, is found under any case of the names. -/
theorem find?_recased (meant : Text → Bool) (wanted : Text) (distinct : Distinct members)
    (same : RecasedRecord members others)
    (narrow : ∀ name, meant name = true → Text.lowerAscii name = wanted)
    (alike : ∀ left right, Recased left right → meant left.1 = meant right.1) :
    (members.find? (meant ·.1)).map (·.2) = (others.find? (meant ·.1)).map (·.2) := by
  obtain ⟨recased, pairs, perm⟩ := same
  have once : recased.countP (meant ·.1) ≤ 1 := by
    have atMost := List.nodup_iff_count_le_one.mp (distinct.recased pairs) wanted
    rw [List.count, List.countP_map] at atMost
    refine Nat.le_trans (List.countP_mono_left fun member _ isMeant => ?_) atMost
    rw [Function.comp_apply, beq_iff_eq]
    exact narrow member.1 isMeant
  rw [find?_forall₂ pairs alike fun _ _ pair => pair.value, find?_perm perm once]

/-- A field is found under any case of the names. -/
theorem member?_recased (distinct : Distinct members) (same : RecasedRecord members others)
    (name : Text) : member? members name = member? others name := by
  apply find?_recased (Text.sameIgnoringCase · name) (Text.lowerAscii name) distinct same
  · intro other isMeant
    exact of_decide_eq_true isMeant
  · intro left right pair
    have names : left.1.map Char.toLower = right.1.map Char.toLower :=
      of_decide_eq_true pair.called
    rw [Text.sameIgnoringCase, Text.sameIgnoringCase, names]

/-- The key is found under any case of the other names. -/
theorem member?_id_recased (distinct : Distinct members) (same : RecasedRecord members others) :
    Json.member? "id".toList members = Json.member? "id".toList others := by
  apply find?_recased (· = "id".toList) "id".toList distinct same
  · intro other isMeant
    rw [of_decide_eq_true isMeant]
    decide
  · intro left right pair
    have like : left.1 = "id".toList ∨ right.1 = "id".toList →
        Text.sameIgnoringCase left.1 "id".toList = true := by
      rintro (isKey | isKey)
      · rw [isKey]
        decide
      · rw [← isKey]
        exact pair.called
    by_cases isKey : left.1 = "id".toList ∨ right.1 = "id".toList
    · rw [pair.kept (like isKey)]
    · rw [not_or] at isKey
      rw [decide_eq_false isKey.1, decide_eq_false isKey.2]

/-- A record has the same entry under any case of its names. -/
theorem entry?_recased (distinct : Distinct members) (same : RecasedRecord members others)
    (source : Path) (allowed : List Text) :
    entry? source allowed (.object members) = entry? source allowed (.object others) := by
  have held (field : Text) : memberFor? members field = memberFor? others field := by
    rw [memberFor?, memberFor?, member?_recased distinct same, member?_recased distinct same]
  have values : value? members = value? others := funext fun field => by
    rw [value?, value?, held]
  rw [JsonList.entry?, JsonList.entry?, member?_id_recased distinct same, values]

/-- The elements of an array have the same entries under any case of the names in their records. -/
theorem filterMap_recased {items others : List Json}
    (same : List.Forall₂ RecasedElement items others)
    (distinct : ∀ members, .object members ∈ items → Distinct members) (source : Path)
    (allowed : List Text) :
    items.filterMap (JsonList.entry? source allowed) =
      others.filterMap (JsonList.entry? source allowed) := by
  induction same with
  | nil => rfl
  | @cons item other rest more head _ ih =>
    have later := ih fun members listed => distinct members (List.mem_cons_of_mem _ listed)
    have here : entry? source allowed item = entry? source allowed other := by
      cases head with
      | record recased =>
        exact entry?_recased (distinct _ List.mem_cons_self) recased source allowed
      | same => rfl
    rw [List.filterMap_cons, List.filterMap_cons, here, later]

/-! ## Elements and entries -/

/-- An element that makes an entry: an object with a text under `id`. -/
def isRecord : Json → Bool
  | .object members =>
    match Json.member? "id".toList members with
    | some (.text _) => true
    | _ => false
  | _ => false

/-- An entry is made of an element, from its members alone. -/
def MadeOf (source : Path) (allowed : List Text) (element : Json) (entry : Entry) : Prop :=
  ∃ members key, element = .object members ∧
    Json.member? "id".toList members = some (.text key) ∧
    entry = ⟨key, source, ⟨0, 0⟩, selectFields allowed (value? members)⟩

/-- An element makes an entry exactly if it is a record, and it makes the one of its members. -/
theorem entry?_madeOf (source : Path) (allowed : List Text) (element : Json) :
    (isRecord element = true ∧
      ∃ entry, entry? source allowed element = some entry ∧ MadeOf source allowed element entry) ∨
    (isRecord element = false ∧ entry? source allowed element = none) := by
  cases element with
  | object members =>
    rw [isRecord, JsonList.entry?]
    cases found : Json.member? "id".toList members with
    | none => exact Or.inr ⟨rfl, rfl⟩
    | some value =>
      cases value with
      | text key => exact Or.inl ⟨rfl, _, rfl, members, key, rfl, found, rfl⟩
      | _ => exact Or.inr ⟨rfl, rfl⟩
  | _ => exact Or.inr ⟨rfl, rfl⟩

/-- The entries are those of the records among the elements, one for each and in their order. -/
theorem forall₂_madeOf (source : Path) (allowed : List Text) (items : List Json) :
    List.Forall₂ (MadeOf source allowed) (items.filter isRecord)
      (items.filterMap (JsonList.entry? source allowed)) := by
  induction items with
  | nil => exact List.Forall₂.nil
  | cons item rest ih =>
    rcases entry?_madeOf source allowed item with ⟨keyed, entry, made, stands⟩ | ⟨keyless, none⟩
    · rw [List.filter_cons_of_pos keyed, List.filterMap_cons_some made]
      exact List.Forall₂.cons stands ih
    · rw [List.filter_cons_of_neg (by simp [keyless]), List.filterMap_cons_none none]
      exact ih

end JsonList

namespace Source

open JsonList

variable {source : Path} {text : Text} {items : List Json}

/-- The entries of an array are those of its elements. -/
theorem parse_of_array (format : SourceFormat.ofPath? source = some .list)
    (read : Json.read? text = some (.array items)) (allowed : List Text) :
    parse source text allowed = .ok (items.filterMap (JsonList.entry? source allowed)) := by
  rw [parse, format]
  dsimp only
  rw [parseList, read]
  rfl

/-- The entries of an array are those of its records, one for each and in their order, each made of
its record alone. They are the same for another array in which names of members are written in
another case, if no two names of a record are equal but for their case. The entries of two arrays
together are those of the first and then those of the second. -/
theorem parse_recased (format : SourceFormat.ofPath? source = some .list)
    (read : Json.read? text = some (.array items)) (allowed : List Text) :
    (∃ entries, parse source text allowed = .ok entries ∧
      List.Forall₂ (MadeOf source allowed) (items.filter isRecord) entries) ∧
    (∀ recased others, Json.read? recased = some (.array others) →
      (∀ members, .object members ∈ items → Distinct members) →
      List.Forall₂ RecasedElement items others →
      parse source recased allowed = parse source text allowed) ∧
    ∀ more whole others, Json.read? more = some (.array others) →
      Json.read? whole = some (.array (items ++ others)) →
      ∃ first second, parse source text allowed = .ok first ∧
        parse source more allowed = .ok second ∧
        parse source whole allowed = .ok (first ++ second) := by
  have parsed := parse_of_array format read allowed
  refine ⟨⟨_, parsed, forall₂_madeOf source allowed items⟩, ?_, ?_⟩
  · intro recased others reread distinct same
    rw [parsed, parse_of_array format reread allowed,
      filterMap_recased same distinct source allowed]
  · intro more whole others readMore readWhole
    refine ⟨_, _, parsed, parse_of_array format readMore allowed, ?_⟩
    rw [parse_of_array format readWhole allowed, List.filterMap_append]

/-- Small letters change the order that the members are kept in, and nothing else. -/
theorem parse_recased_small :
    let source : Path := ⟨"/w/a.json".toList⟩
    let allowed := ["date".toList, "doi".toList]
    let text := "[\x7b\"id\": \"k\", \"DOI\": \"d\", \"Issued\": \"2020\"\x7d]".toList
    let recased := "[\x7b\"id\": \"k\", \"doi\": \"d\", \"issued\": \"2020\"\x7d]".toList
    ∃ members others, SourceFormat.ofPath? source = some .list ∧
      Json.read? text = some (.array [.object members]) ∧
      Json.read? recased = some (.array [.object others]) ∧
      Distinct members ∧ RecasedRecord members others ∧
      members.map (·.1) = ["DOI".toList, "Issued".toList, "id".toList] ∧
      others.map (·.1) = ["doi".toList, "id".toList, "issued".toList] ∧
      parse source recased allowed = parse source text allowed := by
  intro source allowed text recased
  let doi : Json := .text "d".toList
  let issued : Json := .text "2020".toList
  let key : Json := .text "k".toList
  let members := [("DOI".toList, doi), ("Issued".toList, issued), ("id".toList, key)]
  let others := [("doi".toList, doi), ("id".toList, key), ("issued".toList, issued)]
  have format : SourceFormat.ofPath? source = some .list := by decide +kernel
  have read : Json.read? text = some (.array [.object members]) :=
    Json.read?_listText ("id".toList, "k".toList)
      [("DOI".toList, "d".toList), ("Issued".toList, "2020".toList)]
  have reread : Json.read? recased = some (.array [.object others]) :=
    Json.read?_listText ("id".toList, "k".toList)
      [("doi".toList, "d".toList), ("issued".toList, "2020".toList)]
  have distinct : Distinct members := by
    unfold Distinct
    decide
  have same : RecasedRecord members others := by
    refine ⟨[("doi".toList, doi), ("issued".toList, issued), ("id".toList, key)], ?_,
      (List.Perm.swap _ _ []).cons _⟩
    exact .cons ⟨by decide, by decide, rfl⟩ (.cons ⟨by decide, by decide, rfl⟩
      (.cons ⟨by decide, by decide, rfl⟩ .nil))
  refine ⟨members, others, format, read, reread, distinct, same, rfl, rfl, ?_⟩
  refine (parse_recased format read allowed).2.1 recased _ reread ?_ (.cons (.record same) .nil)
  intro found listed
  obtain rfl := Json.object.inj (List.mem_singleton.mp listed)
  exact distinct

end Source

end Citations
