import Citations.Bibliography.Source
import Citations.Proofs.Bibliography.RoundTrip
import Citations.Proofs.Json.Written
import Citations.Proofs.Text.Spaced

/-!
# Content that both formats can write

A record with a key and plain fields can be written as a block of the record format and as an
object of the list format. The record reader puts field names in small letters and renders
values, the list reader sorts the members of the object and looks names up whatever their case;
for plain fields both come to the same entry. Fields are plain when the formats treat them
alike: a list keeps the key under `id` and may give the date as `issued`, and braces,
backslashes and repeated white space are markup in the record format only.
-/
namespace Citations

/-! ## Texts without markup -/

namespace Braces

variable {text : Text}

/-- Nothing is replaced where no brace opens. -/
theorem stripOnce_of_bare (bare : ∀ c ∈ text, isInner c = true) : stripOnce text = text := by
  induction text with
  | nil => rw [stripOnce]
  | cons c rest ih =>
    have opens : c ≠ '\x7b' := by
      rintro rfl
      exact absurd (bare '\x7b' List.mem_cons_self) (by decide)
    have noGroup : group? (c :: rest) = none := by
      simp [group?, opens]
    rw [stripOnce]
    split
    · next found => rw [noGroup] at found; contradiction
    · rw [ih fun x listed => bare x (List.mem_cons_of_mem c listed)]

/-- A text without braces is left as it is. -/
theorem strip_of_bare (bare : ∀ c ∈ text, isInner c = true) : strip text = text := by
  rw [strip, stripOnce_of_bare bare]
  exact if_neg (Nat.lt_irrefl _)

end Braces

/-- The value of a plain field. -/
structure CommonValue where
  /-- The value as it reads. -/
  text : Text
  /-- It is there. -/
  nonempty : text ≠ []
  /-- Its white space is collapsed. -/
  spaced : text.Spaced
  /-- It has no braces and no backslashes. -/
  bare : ∀ c ∈ text, Braces.isInner c = true

/-- A plain field. -/
structure CommonField where
  /-- The name. -/
  name : Record.Word Record.isName
  /-- The name is not the one that a list keeps the key under. -/
  unkeyed : name.text ≠ "id".toList
  /-- The name, whatever its case, is not the one that a list may give the date under. -/
  unissued : Text.lowerAscii name.text ≠ "issued".toList
  /-- The value. -/
  value : CommonValue

namespace CommonField

/-- The name in small letters. -/
def label (field : CommonField) : Text := Text.lowerAscii field.name.text

/-- A field in a record, after the key or another field. -/
def recordText (field : CommonField) : Text :=
  ", ".toList ++ (field.name.text ++ (" = \x7b".toList ++ (field.value.text ++ "\x7d".toList)))

/-- A field as a member of an object. -/
def pair (field : CommonField) : Text × Text := (field.name.text, field.value.text)

end CommonField

/-- A key and plain fields. -/
structure CommonRecord where
  /-- The key. -/
  key : Record.Word (Record.isKey '\x7d')
  /-- The fields. -/
  fields : List CommonField
  /-- No two names are the same, whatever their case. -/
  distinct : (fields.map CommonField.label).Nodup

namespace CommonRecord

variable (record : CommonRecord)

/-- The record as a source in the record format. -/
def recordText : Text :=
  "@misc\x7b".toList ++ (record.key.text ++
    (record.fields.flatMap CommonField.recordText ++ "\x7d".toList))

/-- The record as a source in the list format. -/
def listText : Text :=
  Json.listText ("id".toList, record.key.text) (record.fields.map CommonField.pair)

/-- The value of the field with a name in small letters. -/
def value? (name : Text) : Option Text :=
  (record.fields.find? (·.label = name)).map (·.value.text)

end CommonRecord

/-! ## The record format -/

namespace CommonValue

/-- A text without braces and backslashes is balanced. -/
theorem balanced (value : CommonValue) : Record.Balanced value.text := by
  have bare := value.bare
  generalize value.text = text at bare
  induction text with
  | nil => exact .nil
  | cons c rest ih =>
    have inner := bare c List.mem_cons_self
    simp only [Braces.isInner, Bool.and_eq_true, bne_iff_ne] at inner
    have later := ih fun x listed => bare x (List.mem_cons_of_mem c listed)
    exact .plain inner.1.1 inner.1.2 inner.2 later

/-- A value reads as it stands. -/
theorem rendered (value : CommonValue) : Record.rendered [value.text] = value.text := by
  change Text.collapse (Braces.strip value.text) = value.text
  rw [Braces.strip_of_bare value.bare, Text.collapse_of_spaced value.spaced value.nonempty]

end CommonValue

/-- A field as it is written in a record. -/
def CommonField.written (field : CommonField) : Record.WrittenField where
  before := .space
  name := field.name
  after := .space
  value := .last ⟨.space, .group field.value.text field.value.balanced, .none⟩

namespace CommonRecord

variable (record : CommonRecord)

/-- The record as it is written. -/
def written : Record.WrittenRecord where
  beforeKind := .none
  kind := ⟨"misc".toList, by decide, List.all_eq_true.mp (by decide)⟩
  lettered := by decide
  ordinary := by decide
  afterKind := .none
  delimiters := .braces
  beforeKey := .none
  key := record.key
  afterKey := .none
  fields := record.fields.map CommonField.written
  trailing? := none

/-- The record alone as a source. -/
def source : Record.WrittenSource :=
  .next ⟨[], List.not_mem_nil, Or.inl rfl⟩ record.written (.rest [] List.not_mem_nil)

/-- The fields of a record follow one another. -/
theorem listing_written (fields : List CommonField) :
    Record.listing '\x7d' none (fields.map CommonField.written) =
      fields.flatMap CommonField.recordText ++ "\x7d".toList := by
  induction fields with
  | nil => rfl
  | cons field rest ih =>
    rw [List.map_cons, Record.listing, ih, List.flatMap_cons, List.append_assoc]
    simp [CommonField.written, CommonField.recordText, Record.WrittenField.text,
      Record.WrittenValue.text, Record.SpacedPart.text, Record.Part.text, Record.Layout.space,
      Record.Layout.none]

/-- The source is the text of the record. -/
theorem text_source : record.source.text = record.recordText := by
  have inside : record.written.inside = record.key.text ++
      Record.listing '\x7d' none (record.fields.map CommonField.written) := rfl
  have whole : record.source.text = '@' :: ("misc\x7b".toList ++ record.written.inside) ++ [] := rfl
  rw [whole, List.append_nil, inside, listing_written]
  rfl

/-- The record is read. -/
theorem readSource_recordText :
    Record.readSource record.recordText = ⟨[record.written.located 0], [], none⟩ := by
  rw [← text_source]
  refine Record.readFrom_written record.source 0 ?_
  rintro word - ⟨definition, listed, -⟩
  cases listed

/-- A field of the record reads as its value. -/
theorem value?_located (name : Text) :
    (record.written.located 0).value? name = record.value? name := by
  change ((record.fields.map CommonField.written).map Record.WrittenField.content |>.find?
    (·.1 = name)).map _ = _
  rw [List.map_map, List.find?_map, Option.map_map, value?]
  exact congrArg₂ Option.map (funext fun field => field.value.rendered) rfl

end CommonRecord

/-! ## The list format -/

/-- Where at most one item is meant, it is found in any order. -/
theorem find?_perm {α : Type} {meant : α → Bool} {items others : List α}
    (perm : items.Perm others) (once : items.countP meant ≤ 1) :
    items.find? meant = others.find? meant := by
  have filtered := perm.filter meant
  rw [List.countP_eq_length_filter] at once
  rw [← List.head?_filter, ← List.head?_filter]
  match found : items.filter meant with
  | [] => rw [found] at filtered; rw [filtered.symm.eq_nil]
  | [item] => rw [found] at filtered; rw [List.singleton_perm.mp filtered]
  | _ :: _ :: _ => rw [found] at once; simp at once

/-- A field as a member of an object that was read. -/
def CommonField.member (field : CommonField) : Text × Json :=
  (field.name.text, .text field.value.text)

/-- Whether a member has a name, whatever its case. -/
def isCalled (name : Text) (member : Text × Json) : Bool := Text.sameIgnoringCase member.1 name

namespace CommonRecord

variable (record : CommonRecord) {name : Text} {members : List (Text × Json)}

/-- What an object holds that the record was written as, in no particular order. -/
def content : List (Text × Json) :=
  ("id".toList, .text record.key.text) :: record.fields.map CommonField.member

/-- The object that the record was written as holds the key and the fields. -/
theorem read?_listText :
    ∃ members, Json.read? record.listText = some (.array [.object members]) ∧
      members.Perm record.content := by
  have names : (record.fields.map CommonField.pair).map (·.1) =
      record.fields.map (·.name.text) := by
    rw [List.map_map]
    rfl
  have labels : (record.fields.map (·.name.text)).map Text.lowerAscii =
      record.fields.map CommonField.label := by
    rw [List.map_map]
    rfl
  have unkeyed : "id".toList ∉ record.fields.map (·.name.text) := by
    intro listed
    obtain ⟨field, -, same⟩ := List.mem_map.mp listed
    exact field.unkeyed same
  have distinct : ((("id".toList, record.key.text) :: record.fields.map CommonField.pair).map
      (·.1)).Nodup := by
    rw [List.map_cons, names, List.nodup_cons]
    exact ⟨unkeyed, List.Nodup.of_map Text.lowerAscii (labels ▸ record.distinct)⟩
  have put : (Json.setMembers [] (("id".toList, record.key.text) ::
      record.fields.map CommonField.pair)).Perm ([] ++ (("id".toList, record.key.text) ::
        record.fields.map CommonField.pair).map fun pair => (pair.1, Json.text pair.2)) :=
    Json.setMembers_perm distinct
  rw [List.nil_append, List.map_cons, List.map_map] at put
  exact ⟨_, Json.read?_listText _ _, put⟩

/-- The key is found under its name. -/
theorem member?_id (holds : members.Perm record.content) :
    Json.member? "id".toList members = some (.text record.key.text) := by
  have once : record.content.countP (·.1 = "id".toList) ≤ 1 := by
    have none : (record.fields.map CommonField.member).countP (·.1 = "id".toList) = 0 := by
      refine List.countP_eq_zero.mpr fun found listed => ?_
      obtain ⟨field, -, rfl⟩ := List.mem_map.mp listed
      rw [decide_eq_true_eq]
      exact field.unkeyed
    rw [content, List.countP_cons, none]
    split <;> omega
  rw [Json.member?, ← find?_perm holds.symm once, content, List.find?_cons_of_pos (by simp)]
  rfl

/-- A field is found under its name in small letters. -/
theorem member?_label (holds : members.Perm record.content)
    (small : Text.lowerAscii name = name) (other : name ≠ "id".toList) :
    JsonList.member? members name = (record.value? name).map .text := by
  have called (found : Text × Json) :
      isCalled name found = decide (Text.lowerAscii found.1 = name) := by
    conv_rhs => rw [← small]
    rfl
  have id : ¬ isCalled name ("id".toList, .text record.key.text) := by
    rw [called, decide_eq_true_eq]
    exact fun equal => other equal.symm
  have labelled : isCalled name ∘ CommonField.member =
      fun field => decide (field.label = name) := funext fun field => called field.member
  have once : record.content.countP (isCalled name) ≤ 1 := by
    have atMost := List.nodup_iff_count_le_one.mp record.distinct name
    rw [List.count, List.countP_map] at atMost
    rw [content, List.countP_cons_of_neg id, List.countP_map, labelled]
    refine (List.countP_congr fun field _ => ?_).trans_le atMost
    rw [Function.comp_apply, beq_iff_eq, decide_eq_true_eq]
  change (members.find? (isCalled name)).map (·.2) = _
  rw [← find?_perm holds.symm once, content, List.find?_cons_of_neg id, List.find?_map,
    labelled, Option.map_map, value?, Option.map_map]
  rfl

/-- The list reader gives every field the value that it has. -/
theorem value?_members (holds : members.Perm record.content)
    (small : Text.lowerAscii name = name) (other : name ≠ "id".toList) :
    JsonList.value? members name = record.value? name := by
  have issued : record.value? "issued".toList = none := by
    have absent : record.fields.find? (·.label = "issued".toList) = none := by
      refine List.find?_eq_none.mpr fun field _ => ?_
      rw [decide_eq_true_eq]
      exact field.unissued
    rw [value?, absent, Option.map_none]
  have found : JsonList.memberFor? members name = (record.value? name).map .text := by
    unfold JsonList.memberFor?
    split
    · rw [record.member?_label holds small other,
        record.member?_label holds (by decide) (by decide), issued, Option.map_none,
        Option.or_none]
    · exact record.member?_label holds small other
  have nonempty : ∀ value, record.value? name = some value → value ≠ [] := by
    rintro value isValue
    obtain ⟨field, -, rfl⟩ := Option.map_eq_some_iff.mp isValue
    exact field.value.nonempty
  rw [JsonList.value?, found]
  cases isValue : record.value? name with
  | none => rfl
  | some value =>
    have flat : JsonList.flat (.text value) = value := by rw [JsonList.flat]
    change (if name = "author".toList ∨ name = "editor".toList then
        some (JsonList.flat (.text value))
      else if JsonList.flat (.text value) = [] then none
      else some (JsonList.flat (.text value))) = some value
    rw [flat, if_neg (nonempty value isValue), ite_self]

/-- The entry that the record is in a source. -/
def entry (source : Path) (position : Position) (allowed : List Text) : Entry :=
  ⟨record.key.text, source, position, selectFields allowed record.value?⟩

/-- The object stands for the entry of the record. -/
theorem entry?_members (holds : members.Perm record.content) (source : Path)
    {allowed : List Text} (small : ∀ name ∈ allowed, Text.lowerAscii name = name)
    (unkeyed : "id".toList ∉ allowed) :
    JsonList.entry? source allowed (.object members) =
      some (record.entry source ⟨0, 0⟩ allowed) := by
  have values : selectFields allowed (JsonList.value? members) =
      selectFields allowed record.value? := by
    refine List.filterMap_congr fun name listed => ?_
    have asked := List.mem_eraseDups.mp listed
    rw [record.value?_members holds (small name asked) fun same => unkeyed (same ▸ asked)]
  rw [JsonList.entry?, record.member?_id holds]
  simp only [values, entry]

end CommonRecord

/-! ## Both formats -/

namespace Source

variable {allowed : List Text} {source : Path}

/-- The record is parsed in the record format. -/
theorem parse_recordText (record : CommonRecord) (allowed : List Text)
    (format : SourceFormat.ofPath? source = some .records) :
    ∃ position, parse source record.recordText allowed =
      .ok [record.entry source position allowed] := by
  have values : (record.written.located 0).value? = record.value? :=
    funext record.value?_located
  refine ⟨(LineIndex.ofText record.recordText).position 0, ?_⟩
  have entries : parseRecords source record.recordText allowed = .ok
      [⟨record.key.text, source, (LineIndex.ofText record.recordText).position 0,
        selectFields allowed (record.written.located 0).value?⟩] := by
    have keyed : (record.written.located 0).key ≠ [] := record.key.nonempty
    simp only [parseRecords, record.readSource_recordText, List.filterMap_cons, List.filterMap_nil,
      entryOfRecord?, if_neg keyed]
    rfl
  rw [parse, format]
  dsimp only
  rw [entries, values]
  rfl

/-- A text that reads as the object of the record is parsed in the list format. -/
theorem parse_of_content (record : CommonRecord)
    (small : ∀ name ∈ allowed, Text.lowerAscii name = name) (unkeyed : "id".toList ∉ allowed)
    (format : SourceFormat.ofPath? source = some .list) {text : Text}
    {members : List (Text × Json)} (read : Json.read? text = some (.array [.object members]))
    (holds : members.Perm record.content) :
    parse source text allowed = .ok [record.entry source ⟨0, 0⟩ allowed] := by
  have entries : parseList source text allowed = .ok [record.entry source ⟨0, 0⟩ allowed] := by
    simp only [parseList, read, List.filterMap_cons, List.filterMap_nil,
      record.entry?_members holds source small unkeyed]
  rw [parse, format]
  dsimp only
  rw [entries]
  rfl

/-- The two formats agree on what both can write. A key and plain fields, their names in any
case, are one entry in either format: its key is the key, its fields are those that the
allow-list asks for, and its documentation is the same. In the list format this is so for every
text that reads as the object, whatever its blanks and escapes and the order of the members. -/
theorem formats_agree (record : CommonRecord)
    (small : ∀ name ∈ allowed, Text.lowerAscii name = name) (unkeyed : "id".toList ∉ allowed)
    {records list : Path} (isRecords : SourceFormat.ofPath? records = some .records)
    (isList : SourceFormat.ofPath? list = some .list) :
    ∃ first second : Entry,
      parse records record.recordText allowed = .ok [first] ∧
      parse list record.listText allowed = .ok [second] ∧
      (∀ text members, Json.read? text = some (.array [.object members]) →
        members.Perm record.content → parse list text allowed = .ok [second]) ∧
      first.key = record.key.text ∧ second.key = first.key ∧
      first.fields = selectFields allowed record.value? ∧ second.fields = first.fields ∧
      second.documentation = first.documentation := by
  obtain ⟨position, parsed⟩ := parse_recordText record allowed isRecords
  obtain ⟨members, read, holds⟩ := record.read?_listText
  have spelled {text : Text} {members : List (Text × Json)}
      (read : Json.read? text = some (.array [.object members]))
      (holds : members.Perm record.content) :=
    parse_of_content record small unkeyed isList read holds
  refine ⟨record.entry records position allowed, record.entry list ⟨0, 0⟩ allowed, parsed,
    spelled read holds, fun _ _ read holds => spelled read holds, ?_⟩
  exact ⟨rfl, rfl, rfl, rfl, rfl⟩

/-- A dated work, with quotes in its title. -/
def datedWork : CommonRecord where
  key := ⟨"doe20".toList, by decide, List.all_eq_true.mp (by decide)⟩
  fields :=
    [{ name := ⟨"Title".toList, by decide, List.all_eq_true.mp (by decide)⟩
       unkeyed := by decide
       unissued := by decide
       value := ⟨"A \"B\"".toList, by decide, by decide,
         List.all_eq_true.mp (by decide)⟩ },
     { name := ⟨"date".toList, by decide, List.all_eq_true.mp (by decide)⟩
       unkeyed := by decide
       unissued := by decide
       value := ⟨"2020".toList, by decide, by decide,
         List.all_eq_true.mp (by decide)⟩ }]
  distinct := by decide

/-- The dated work has the same fields in both formats, in the order of the allow-list. -/
theorem formats_agree_datedWork :
    let allowed := ["date".toList, "title".toList]
    let records : Path := ⟨"/w/a.bib".toList⟩
    let list : Path := ⟨"/w/a.json".toList⟩
    datedWork.recordText =
      "@misc\x7bdoe20, Title = \x7bA \"B\"\x7d, date = \x7b2020\x7d\x7d".toList ∧
    datedWork.listText =
      "[\x7b\"id\": \"doe20\", \"Title\": \"A \\\"B\\\"\", \"date\": \"2020\"\x7d]".toList ∧
    ∃ first second : Entry,
      parse records datedWork.recordText allowed = .ok [first] ∧
      parse list datedWork.listText allowed = .ok [second] ∧
      first.fields = [("date".toList, "2020".toList), ("title".toList, "A \"B\"".toList)] ∧
      second.fields = first.fields ∧ second.documentation = first.documentation := by
  intro allowed records list
  have small : ∀ name ∈ allowed, Text.lowerAscii name = name := by decide
  have unkeyed : "id".toList ∉ allowed := by decide
  have isRecords : SourceFormat.ofPath? records = some .records := by decide +kernel
  have isList : SourceFormat.ofPath? list = some .list := by decide +kernel
  obtain ⟨first, second, parsed, listed, -, -, -, fields, sameFields, sameText⟩ :=
    formats_agree datedWork small unkeyed isRecords isList
  have asked : selectFields allowed datedWork.value? =
      [("date".toList, "2020".toList), ("title".toList, "A \"B\"".toList)] := by decide +kernel
  exact ⟨by decide +kernel, by decide +kernel, first, second, parsed, listed,
    fields.trans asked, sameFields, sameText⟩

end Source

end Citations
