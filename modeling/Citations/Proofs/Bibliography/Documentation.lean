import Citations.Bibliography.Entry
import Mathlib.Data.List.Nodup
import Mathlib.Data.List.Perm.Basic

/-!
# One line for each field

The documentation of fields with different names has one line for each of them. At most three
fields go ahead: for each of three pairs of names the field with the first name, or else the one
with the second. All others follow in their order, also the second of a pair whose first is there.
Which fields go ahead and how the others are ordered decides the documentation
(`Arrangement`), so the fields that go ahead may stand anywhere in the list.
-/
namespace Citations.Documentation

variable {fields moved : List Field} {field : Field} {first second : Text}

/-- A field that goes ahead for a pair of names: it has the first name, or it has the second and no
field has the first. -/
def Heads (first second : Text) (fields : List Field) (field : Field) : Prop :=
  field ∈ fields ∧ (field.1 = first ∨ field.1 = second ∧ first ∉ fields.map (·.1))

/-- The fields of a list in the order of their lines. -/
@[ext]
structure Arrangement (fields : List Field) where
  /-- The field with the people. -/
  people? : Option Field
  /-- The field with the time of publication. -/
  time? : Option Field
  /-- The field with the link. -/
  link? : Option Field
  /-- The fields that do not go ahead. -/
  others : List Field
  /-- The people are the authors, or else the editors. -/
  people_iff : ∀ field, people? = some field ↔
    Heads "author".toList "editor".toList fields field
  /-- The time is a date, or else a year. -/
  time_iff : ∀ field, time? = some field ↔ Heads "date".toList "year".toList fields field
  /-- The link is an identifier, or else an address. -/
  link_iff : ∀ field, link? = some field ↔ Heads "doi".toList "url".toList fields field
  /-- The other fields keep their order. -/
  ordered : others.Sublist fields
  /-- No field is missing, and none is there twice. -/
  complete : (people?.toList ++ time?.toList ++ link?.toList ++ others).Perm fields

namespace Arrangement

/-- The fields that go ahead. -/
def heads (shape : Arrangement fields) : List Field :=
  shape.people?.toList ++ shape.time?.toList ++ shape.link?.toList

/-- The lines. The link has a line of its own form, in which an identifier becomes an address;
every other field has its name, beginning with a capital, and its value. -/
def lines (shape : Arrangement fields) : List Text :=
  let named : Field → Text := fun (name, value) => Text.capitalize name ++ ": ".toList ++ value
  let linked : Field → Text := fun (name, value) =>
    if name = "doi".toList then "Link: https://doi.org/".toList ++ value
    else "Link: ".toList ++ value
  (shape.people?.toList ++ shape.time?.toList).map named ++ shape.link?.toList.map linked ++
    shape.others.map named

/-- There is one line for each field. -/
theorem length_lines (shape : Arrangement fields) : shape.lines.length = fields.length := by
  have counted := shape.complete.length_eq
  simp only [List.length_append] at counted
  simp only [lines, List.length_append, List.length_map]
  exact counted

end Arrangement

/-! ## Fields with different names -/

/-- Where names are different, a field is known by its name. -/
theorem fieldValue?_eq_some_iff {name value : Text} (distinct : (fields.map (·.1)).Nodup) :
    fieldValue? name fields = some value ↔ (name, value) ∈ fields := by
  constructor
  · intro found
    obtain ⟨other, searched, rfl⟩ := Option.map_eq_some_iff.mp found
    have named : other.1 = name := by simpa using List.find?_some searched
    exact named ▸ List.mem_of_find?_eq_some searched
  · intro listed
    have there : (fields.find? (·.1 = name)).isSome = true :=
      List.find?_isSome.mpr ⟨(name, value), listed, by simp⟩
    obtain ⟨found, searched⟩ := Option.isSome_iff_exists.mp there
    have named : found.1 = name := by simpa using List.find?_some searched
    have same : found = (name, value) :=
      List.inj_on_of_nodup_map distinct (List.mem_of_find?_eq_some searched) listed named
    rw [fieldValue?, searched, same]
    rfl

/-- A name without a value is the name of no field. -/
theorem fieldValue?_eq_none_iff {name : Text} :
    fieldValue? name fields = none ↔ name ∉ fields.map (·.1) := by
  rw [fieldValue?, Option.map_eq_none_iff, List.find?_eq_none, List.mem_map]
  simp only [decide_eq_true_eq, not_exists, not_and]

/-- The first of two names that has a value is that of the field that goes ahead. -/
theorem firstOf?_eq_some_iff (distinct : (fields.map (·.1)).Nodup) :
    firstOf? [first, second] fields = some field ↔ Heads first second fields field := by
  have given {name : Text} : (fieldValue? name fields).map (name, ·) = some field ↔
      field ∈ fields ∧ field.1 = name := by
    rw [Option.map_eq_some_iff]
    constructor
    · rintro ⟨value, found, rfl⟩
      exact ⟨(fieldValue?_eq_some_iff distinct).mp found, rfl⟩
    · rintro ⟨listed, rfl⟩
      exact ⟨field.2, (fieldValue?_eq_some_iff distinct).mpr listed, rfl⟩
  have missing : (fieldValue? first fields).map (first, ·) = none ↔
      first ∉ fields.map (·.1) := by
    rw [Option.map_eq_none_iff, fieldValue?_eq_none_iff]
  have either : firstOf? [first, second] fields =
      ((fieldValue? first fields).map (first, ·)).or
        ((fieldValue? second fields).map (second, ·)) := by
    simp only [firstOf?, List.findSome?_cons, List.findSome?_nil]
    cases fieldValue? first fields <;> cases fieldValue? second fields <;> rfl
  rw [either, Option.or_eq_some_iff, given, given, missing, Heads]
  tauto

/-- Fields that go ahead for pairs without a common name are different. -/
theorem Heads.ne {third fourth : Text} {other : Field} (head : Heads first second fields field)
    (also : Heads third fourth fields other)
    (apart : ∀ name ∈ [first, second], name ∉ [third, fourth]) : field ≠ other := by
  rintro rfl
  have named : field.1 ∈ [first, second] := by
    rcases head.2 with same | same <;> simp [same]
  have again : field.1 ∈ [third, fourth] := by
    rcases also.2 with same | same <;> simp [same]
  exact apart _ named again

/-- Which field goes ahead does not depend on where the fields stand. -/
theorem heads_of_perm (perm : moved.Perm fields) :
    Heads first second moved field ↔ Heads first second fields field := by
  rw [Heads, Heads, perm.mem_iff, (perm.map (·.1)).mem_iff]

/-! ## The arrangement -/

namespace Arrangement

/-- A field that goes ahead is one of the list. -/
theorem mem_of_mem_heads (shape : Arrangement fields) (head : field ∈ shape.heads) :
    field ∈ fields :=
  shape.complete.subset (List.mem_append_left _ head)

/-- The fields that do not go ahead are what is left of the list without those that do. -/
theorem others_eq (shape : Arrangement fields) (distinct : (fields.map (·.1)).Nodup) :
    shape.others = fields.filter fun field => decide (field ∉ shape.heads) := by
  have whole : (shape.heads ++ shape.others).Nodup :=
    shape.complete.nodup_iff.mpr (List.Nodup.of_map _ distinct)
  have apart : ∀ field ∈ shape.others, field ∉ shape.heads := fun field later head =>
    (List.nodup_append.mp whole).2.2 field head field later rfl
  have kept : shape.others.filter (fun field => decide (field ∉ shape.heads)) = shape.others :=
    List.filter_eq_self.mpr fun field listed => by simpa using apart field listed
  have dropped : shape.heads.filter (fun field => decide (field ∉ shape.heads)) = [] :=
    List.filter_eq_nil_iff.mpr fun field listed => by simpa using listed
  have part := shape.ordered.filter fun field => decide (field ∉ shape.heads)
  have size := (shape.complete.filter fun field => decide (field ∉ shape.heads)).length_eq
  rw [List.filter_append] at size
  change (shape.heads.filter _ ++ shape.others.filter _).length = _ at size
  rw [dropped, kept, List.nil_append] at size
  rw [kept] at part
  exact part.eq_of_length size

/-- A list of fields has one arrangement only. -/
theorem unique (distinct : (fields.map (·.1)).Nodup) (shape other : Arrangement fields) :
    shape = other := by
  have people : shape.people? = other.people? := Option.ext fun field => by
    rw [shape.people_iff, other.people_iff]
  have time : shape.time? = other.time? := Option.ext fun field => by
    rw [shape.time_iff, other.time_iff]
  have link : shape.link? = other.link? := Option.ext fun field => by
    rw [shape.link_iff, other.link_iff]
  have heads : shape.heads = other.heads := by rw [Arrangement.heads, people, time, link]; rfl
  refine Arrangement.ext people time link ?_
  rw [shape.others_eq distinct, other.others_eq distinct, heads]

/-- The arrangement of a list whose fields were moved, where those that do not go ahead kept their
order. -/
def move (shape : Arrangement fields) (perm : moved.Perm fields)
    (ordered : shape.others.Sublist moved) : Arrangement moved where
  people? := shape.people?
  time? := shape.time?
  link? := shape.link?
  others := shape.others
  people_iff field := by rw [heads_of_perm perm, shape.people_iff]
  time_iff field := by rw [heads_of_perm perm, shape.time_iff]
  link_iff field := by rw [heads_of_perm perm, shape.link_iff]
  ordered := ordered
  complete := shape.complete.trans perm.symm

end Arrangement

/-- The fields whose lines come first, and no others, are those with a promoted name. -/
theorem filter_promoted_perm (distinct : (fields.map (·.1)).Nodup) :
    ((people? fields).toList ++ (time? fields).toList ++ (link? fields).toList).Perm
      (fields.filter fun field => (promoted fields).contains field.1) := by
  have people {field : Field} (found : field ∈ people? fields) :=
    (firstOf?_eq_some_iff distinct).mp found
  have time {field : Field} (found : field ∈ time? fields) :=
    (firstOf?_eq_some_iff distinct).mp found
  have link {field : Field} (found : field ∈ link? fields) :=
    (firstOf?_eq_some_iff distinct).mp found
  have single (head? : Option Field) : head?.toList.Nodup := by cases head? <;> simp
  have nodup : ((people? fields).toList ++ (time? fields).toList ++
      (link? fields).toList).Nodup := by
    refine List.nodup_append.mpr ⟨List.nodup_append.mpr ⟨single _, single _, ?_⟩, single _, ?_⟩
    · intro field inPeople other inTime
      exact (people (Option.mem_toList.mp inPeople)).ne (time (Option.mem_toList.mp inTime))
        (by decide)
    · intro field earlier other inLink
      rcases List.mem_append.mp earlier with inPeople | inTime
      · exact (people (Option.mem_toList.mp inPeople)).ne (link (Option.mem_toList.mp inLink))
          (by decide)
      · exact (time (Option.mem_toList.mp inTime)).ne (link (Option.mem_toList.mp inLink))
          (by decide)
  have listed : ∀ field ∈ (people? fields).toList ++ (time? fields).toList ++
      (link? fields).toList, field ∈ fields := by
    intro field head
    rcases List.mem_append.mp head with earlier | inLink
    · rcases List.mem_append.mp earlier with inPeople | inTime
      · exact (people (Option.mem_toList.mp inPeople)).1
      · exact (time (Option.mem_toList.mp inTime)).1
    · exact (link (Option.mem_toList.mp inLink)).1
  refine (List.perm_ext_iff_of_nodup nodup ((List.Nodup.of_map _ distinct).filter _)).mpr ?_
  intro field
  rw [List.mem_filter, List.contains_iff_mem, promoted, List.mem_map]
  constructor
  · intro head
    exact ⟨listed field head, field, head, rfl⟩
  · rintro ⟨inside, other, head, named⟩
    rwa [← List.inj_on_of_nodup_map distinct (listed other head) inside named]

/-- The arrangement that the documentation follows. -/
def arrangement (distinct : (fields.map (·.1)).Nodup) : Arrangement fields where
  people? := people? fields
  time? := time? fields
  link? := link? fields
  others := fields.filter fun field => !(promoted fields).contains field.1
  people_iff _ := firstOf?_eq_some_iff distinct
  time_iff _ := firstOf?_eq_some_iff distinct
  link_iff _ := firstOf?_eq_some_iff distinct
  ordered := List.filter_sublist
  complete := ((filter_promoted_perm distinct).append_right _).trans
    (List.filter_append_perm _ fields)

/-- The lines are those of any arrangement. -/
theorem lines_eq (distinct : (fields.map (·.1)).Nodup) (shape : Arrangement fields) :
    lines fields = shape.lines := by
  have linked : linkLine = fun (name, value) =>
      if name = "doi".toList then "Link: https://doi.org/".toList ++ value
      else "Link: ".toList ++ value := by
    funext ⟨name, value⟩
    dsimp only [linkLine]
    split <;> rfl
  rw [Arrangement.unique distinct shape (arrangement distinct), lines, Arrangement.lines,
    List.map_append, linked]
  rfl

/-- There are as many lines as fields. -/
theorem length_lines (distinct : (fields.map (·.1)).Nodup) :
    (lines fields).length = fields.length := by
  rw [lines_eq distinct (arrangement distinct), Arrangement.length_lines]

/-- The documentation of fields with different names shows every field on one line: people, time
and link first, and then the other fields in their order, the second of a pair among them if the
first is there. Where the fields of the first three lines stand in the list makes no difference. -/
theorem render_arranged (distinct : (fields.map (·.1)).Nodup) :
    ∃ shape : Arrangement fields,
      render fields = Text.join ['\n'] shape.lines ∧ shape.lines.length = fields.length ∧
      (∀ other : Arrangement fields, other = shape) ∧
      ∀ moved : List Field, moved.Perm fields → shape.others.Sublist moved →
        render moved = render fields := by
  refine ⟨arrangement distinct, ?_, Arrangement.length_lines _,
    fun other => Arrangement.unique distinct other _, ?_⟩
  · rw [render, lines_eq distinct (arrangement distinct)]
  · intro moved perm ordered
    have movedDistinct : (moved.map (·.1)).Nodup := (perm.map (·.1)).nodup_iff.mpr distinct
    have lines := (lines_eq movedDistinct ((arrangement distinct).move perm ordered)).trans
      (lines_eq distinct (arrangement distinct)).symm
    rw [render, render, lines]

/-- Fields with both names of every pair. -/
def bothNames : List Field :=
  [("title".toList, "T".toList), ("year".toList, "2020".toList), ("url".toList, "u".toList),
    ("editor".toList, "E".toList), ("doi".toList, "10.1/x".toList), ("author".toList, "A".toList),
    ("date".toList, "2020-05".toList)]

/-- The same fields, with those that go ahead between the others. -/
def bothNamesMoved : List Field :=
  [("doi".toList, "10.1/x".toList), ("title".toList, "T".toList), ("date".toList, "2020-05".toList),
    ("year".toList, "2020".toList), ("url".toList, "u".toList), ("author".toList, "A".toList),
    ("editor".toList, "E".toList)]

/-- The second name of every pair has a line of its own, and moving the first ones changes
nothing. -/
theorem render_arranged_bothNames :
    (bothNames.map (·.1)).Nodup ∧ render bothNamesMoved = render bothNames ∧
      render bothNames = ("Author: A\nDate: 2020-05\nLink: https://doi.org/10.1/x\nTitle: T\n" ++
        "Year: 2020\nUrl: u\nEditor: E").toList := by
  have distinct : (bothNames.map (·.1)).Nodup := by decide
  obtain ⟨shape, -, -, only, same⟩ := render_arranged distinct
  have others : shape.others = bothNames.filter fun field =>
      !(promoted bothNames).contains field.1 :=
    congrArg Arrangement.others (only (arrangement distinct)).symm
  have ordered : shape.others.Sublist bothNamesMoved := by
    rw [others]
    decide
  exact ⟨distinct, same bothNamesMoved (by decide) ordered, by decide +kernel⟩

end Citations.Documentation
