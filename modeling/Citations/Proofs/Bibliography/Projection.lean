import Citations.Proofs.Bibliography.Source

/-!
# An allow-list only chooses among fields

What a source says is settled before an allow-list is looked at: whether it can be read, which
records it has, where they stand, and what each of their fields reads as (`Source.items`). An
allow-list then chooses among the fields of each record, in its own order and without adding or
changing anything, so two readings of a source under two allow-lists differ in that choice only.

A shorter allow-list gives the fields of a longer one without those it leaves out. Their order
is that of the list that was used: a name that is repeated counts where it stands first, and in
a part of a list that may be elsewhere (`restrict_reorders`).
-/
namespace Citations

/-- A record of a source, before an allow-list chooses among its fields. -/
structure Item where
  /-- What the record is cited by. -/
  key : Text
  /-- Where it begins in its source. -/
  position : Position
  /-- What a field reads as, if the record has it. -/
  value? : Text → Option Text

namespace Item

/-- The record that a block stands for: there is none without a key. -/
def ofBlock? (index : LineIndex) (record : Record.Located) : Option Item :=
  if record.key = [] then none
  else some ⟨record.key, index.position record.offset, record.value?⟩

/-- The record that an element of an array stands for: an object with a text under `id`. -/
def ofElement? : Json → Option Item
  | .object members =>
    match Json.member? "id".toList members with
    | some (.text key) => some ⟨key, ⟨0, 0⟩, JsonList.value? members⟩
    | _ => none
  | _ => none

/-- The entry that an allow-list makes of a record. -/
def entry (source : Path) (allowed : List Text) (item : Item) : Entry :=
  ⟨item.key, source, item.position, selectFields allowed item.value?⟩

end Item

namespace Source

variable {source : Path} {text : Text} {allowed first second : List Text}

/-! ## What a source says -/

/-- The records of a source, or the error that it makes. -/
def items (source : Path) (text : Text) : Except SourceError (List Item) :=
  match SourceFormat.ofPath? source with
  | some .records =>
    let index := LineIndex.ofText text
    let reading := Record.readSource text
    match reading.failure? with
    | some offset =>
      .error (.malformed source (ParseFault.invalidRecord (index.lineOf offset + 1)).message)
    | none => .ok (reading.records.filterMap (Item.ofBlock? index))
  | some .list =>
    match Json.read? text with
    | none => .error (.malformed source ParseFault.invalidJson.message)
    | some (.array elements) => .ok (elements.filterMap Item.ofElement?)
    | some _ => .error (.malformed source ParseFault.notAnArray.message)
  | none => .error (.unsupported source)

/-- The entry of a block is what the allow-list makes of its record. -/
theorem entryOfRecord?_eq (source : Path) (index : LineIndex) (allowed : List Text)
    (record : Record.Located) :
    entryOfRecord? source index allowed record =
      (Item.ofBlock? index record).map (Item.entry source allowed) := by
  unfold entryOfRecord? Item.ofBlock?
  split <;> rfl

/-- The entry of an element is what the allow-list makes of its record. -/
theorem entryOfElement?_eq (source : Path) (allowed : List Text) (element : Json) :
    JsonList.entry? source allowed element =
      (Item.ofElement? element).map (Item.entry source allowed) := by
  cases element with
  | object members =>
    unfold JsonList.entry? Item.ofElement?
    dsimp only
    cases Json.member? "id".toList members with
    | none => rfl
    | some value => cases value <;> rfl
  | _ => rfl

/-- The allow-list is looked at only after a source was read. -/
theorem parse_eq_items (source : Path) (text : Text) (allowed : List Text) :
    parse source text allowed = (items source text).map (List.map (Item.entry source allowed)) := by
  unfold parse items
  cases SourceFormat.ofPath? source with
  | none => rfl
  | some format =>
    cases format with
    | records =>
      unfold parseRecords
      dsimp only
      cases (Record.readSource text).failure? with
      | some offset => rfl
      | none =>
        simp only [Except.mapError, Except.map, List.map_filterMap,
          ← entryOfRecord?_eq source (LineIndex.ofText text) allowed]
    | list =>
      unfold parseList
      cases Json.read? text with
      | none => rfl
      | some value =>
        cases value <;>
          simp only [Except.mapError, Except.map, List.map_filterMap,
            ← entryOfElement?_eq source allowed]

end Source

/-! ## What an allow-list chooses -/

section Choosing

variable {first second : List Text} {value? : Text → Option Text}

/-- The chosen names are those of the list that have a value, each where it stands first. -/
theorem map_fst_selectFields (allowed : List Text) (value? : Text → Option Text) :
    (selectFields allowed value?).map (·.1) =
      allowed.eraseDups.filter fun name => (value? name).isSome := by
  unfold selectFields
  induction allowed.eraseDups with
  | nil => rfl
  | cons name rest ih =>
    cases found : value? name <;> simp [found, ih]

/-- Choosing by names finds under a name what the record has there, if the name is listed. -/
theorem fieldValue?_filterMap (name : Text) (names : List Text) (value? : Text → Option Text) :
    fieldValue? name (names.filterMap fun name => (value? name).map (name, ·)) =
      if name ∈ names then value? name else none := by
  induction names with
  | nil => rfl
  | cons other rest ih =>
    by_cases same : other = name
    · subst same
      cases found : value? other with
      | some value => simp [fieldValue?, found]
      | none =>
        -- A name without a value leaves no field, wherever else it is listed.
        rw [List.filterMap_cons, found, Option.map_none, ih, found, ite_self, ite_self]
    · have apart : name ≠ other := fun equal => same equal.symm
      cases found : value? other with
      | some value =>
        simpa [fieldValue?, found, same, apart] using ih
      | none =>
        rw [List.filterMap_cons, found, Option.map_none, ih]
        simp [apart]

/-- A chosen field has the value of the record, and no other field has one. -/
theorem fieldValue?_selectFields (name : Text) (allowed : List Text)
    (value? : Text → Option Text) :
    fieldValue? name (selectFields allowed value?) =
      if name ∈ allowed then value? name else none := by
  rw [selectFields, fieldValue?_filterMap]
  simp only [List.mem_eraseDups]

/-- The same fields are chosen exactly if the allowed names have the same values. -/
theorem selectFields_eq_iff {allowed : List Text} {left right : Text → Option Text} :
    selectFields allowed left = selectFields allowed right ↔
      ∀ name ∈ allowed, left name = right name := by
  constructor
  · intro same name listed
    have values := congrArg (fieldValue? name) same
    rw [fieldValue?_selectFields, fieldValue?_selectFields, if_pos listed, if_pos listed] at values
    exact values
  · intro same
    refine List.filterMap_congr fun name listed => ?_
    rw [same name (List.mem_eraseDups.mp listed)]

/-- Leaving out the fields that are not named is choosing from fewer names. -/
theorem filter_selectFields (first second : List Text) (value? : Text → Option Text) :
    ((selectFields second value?).filter fun field => decide (field.1 ∈ first)) =
      (second.eraseDups.filter fun name => decide (name ∈ first)).filterMap fun name =>
        (value? name).map (name, ·) := by
  unfold selectFields
  induction second.eraseDups with
  | nil => rfl
  | cons name rest ih =>
    cases found : value? name with
    | none => by_cases listed : name ∈ first <;> simp [found, listed, ih]
    | some value => by_cases listed : name ∈ first <;> simp [found, listed, ih]

/-- The first occurrences of names are no name twice. -/
theorem nodup_eraseDups (names : List Text) : names.eraseDups.Nodup := by
  induction length : names.length using Nat.strongRecOn generalizing names with
  | ind bound ih =>
    cases names with
    | nil => exact List.nodup_nil
    | cons name rest =>
      rw [List.eraseDups_cons, List.nodup_cons, List.mem_eraseDups]
      refine ⟨by simp, ih _ ?_ _ rfl⟩
      rw [← length]
      exact Nat.lt_succ_of_le (List.length_filter_le _ rest)

/-- Names that are all listed elsewhere are, up to their order, those that the other list shares
with them. -/
theorem eraseDups_perm (inside : first ⊆ second) :
    first.eraseDups.Perm (second.eraseDups.filter fun name => decide (name ∈ first)) := by
  rw [List.perm_ext_iff_of_nodup (nodup_eraseDups first) ((nodup_eraseDups second).filter _)]
  intro name
  simp only [List.mem_eraseDups, List.mem_filter, decide_eq_true_eq]
  exact ⟨fun listed => ⟨inside listed, listed⟩, And.right⟩

/-- Names whose first occurrences are in the order of another list are those that the other list
shares with them. -/
theorem eraseDups_eq_filter (ordered : first.eraseDups.Sublist second.eraseDups) :
    first.eraseDups = second.eraseDups.filter fun name => decide (name ∈ first) := by
  have kept := ordered.filter fun name => decide (name ∈ first)
  have all : (first.eraseDups.filter fun name => decide (name ∈ first)) = first.eraseDups :=
    List.filter_eq_self.mpr fun name listed => by simpa using List.mem_eraseDups.mp listed
  have inside : first ⊆ second := fun name listed =>
    List.mem_eraseDups.mp (ordered.subset (List.mem_eraseDups.mpr listed))
  rw [all] at kept
  exact kept.eq_of_length (eraseDups_perm inside).length_eq

/-- Names that are not repeated are their first occurrences. -/
theorem eraseDups_of_nodup {names : List Text} (distinct : names.Nodup) :
    names.eraseDups = names := by
  induction names with
  | nil => rfl
  | cons name rest ih =>
    obtain ⟨apart, later⟩ := List.nodup_cons.mp distinct
    have others : (rest.filter fun other => !other == name) = rest := by
      refine List.filter_eq_self.mpr fun other listed => ?_
      simpa using fun equal : other = name => apart (equal ▸ listed)
    rw [List.eraseDups_cons, others, ih later]

/-- Fewer names choose the same fields, up to their order. -/
theorem selectFields_perm (inside : first ⊆ second) (value? : Text → Option Text) :
    (selectFields first value?).Perm
      ((selectFields second value?).filter fun field => decide (field.1 ∈ first)) := by
  rw [filter_selectFields]
  exact (eraseDups_perm inside).filterMap _

/-- Fewer names in the same order choose the same fields. -/
theorem selectFields_eq_filter (ordered : first.eraseDups.Sublist second.eraseDups)
    (value? : Text → Option Text) :
    selectFields first value? =
      (selectFields second value?).filter fun field => decide (field.1 ∈ first) := by
  rw [filter_selectFields, ← eraseDups_eq_filter ordered]
  rfl

end Choosing

/-! ## Two readings of one source -/

namespace Entry

/-- The entry with the fields of an allow-list only. -/
def restrict (allowed : List Text) (entry : Entry) : Entry :=
  { entry with fields := entry.fields.filter fun field => decide (field.1 ∈ allowed) }

/-- An entry shows of a record what an allow-list asks for, and nothing else. -/
structure Shows (source : Path) (allowed : List Text) (item : Item) (entry : Entry) : Prop where
  /-- The key is that of the record. -/
  key : entry.key = item.key
  /-- The entry names its source. -/
  source : entry.source = source
  /-- The entry stands where the record does. -/
  position : entry.position = item.position
  /-- The names are those of the list that have a value, each where it stands first. -/
  names : entry.fields.map (·.1) =
    allowed.eraseDups.filter fun name => (item.value? name).isSome
  /-- Under a name of the list the entry has what the record has. -/
  values : ∀ name ∈ allowed, entry.field? name = item.value? name
  /-- The documentation is that of these fields. -/
  documentation : entry.documentation = Documentation.render
    (allowed.eraseDups.filterMap fun name => (item.value? name).map (name, ·))

/-- Two entries that differ in which fields they show only. -/
structure Agrees (first second : List Text) (left right : Entry) : Prop where
  /-- The keys are equal. -/
  key : left.key = right.key
  /-- The sources are equal. -/
  source : left.source = right.source
  /-- The positions are equal. -/
  position : left.position = right.position
  /-- A name in both lists has one value. -/
  shared : ∀ name ∈ first, name ∈ second → left.field? name = right.field? name
  /-- Fewer names show the same fields, up to their order. -/
  dropped : first ⊆ second → left.fields.Perm (right.restrict first).fields

end Entry

/-- The entry of a record shows what the allow-list asks for. -/
theorem Item.shows_entry (source : Path) (allowed : List Text) (item : Item) :
    (item.entry source allowed).Shows source allowed item where
  key := rfl
  source := rfl
  position := rfl
  names := map_fst_selectFields allowed item.value?
  values name listed := by
    rw [Entry.field?, entry, fieldValue?_selectFields, if_pos listed]
  documentation := rfl

/-- The entries of a record under two allow-lists differ in which fields they show only. -/
theorem Item.agrees_entry (source : Path) (first second : List Text) (item : Item) :
    Entry.Agrees first second (item.entry source first) (item.entry source second) where
  key := rfl
  source := rfl
  position := rfl
  shared name listed also := by
    rw [(item.shows_entry source first).values name listed,
      (item.shows_entry source second).values name also]
  dropped inside := selectFields_perm inside item.value?

/-- With fewer names in the same order, the entry of a record is that of more names without the
fields that are left out. -/
theorem Item.entry_eq_restrict {first second : List Text}
    (ordered : first.eraseDups.Sublist second.eraseDups) (source : Path) (item : Item) :
    item.entry source first = (item.entry source second).restrict first := by
  rw [Entry.restrict, entry, selectFields_eq_filter ordered]
  rfl

namespace Source

/-- With fewer names in the same order, reading a source is reading it with more names and leaving
out the other fields. -/
theorem parse_eq_restrict (source : Path) (text : Text) {first second : List Text}
    (ordered : first.eraseDups.Sublist second.eraseDups) :
    parse source text first =
      (parse source text second).map (List.map (Entry.restrict first)) := by
  rw [parse_eq_items source text first, parse_eq_items source text second]
  cases items source text with
  | error error => rfl
  | ok records =>
    simp only [Except.map, List.map_map]
    refine congrArg Except.ok (List.map_congr_left fun item _ => ?_)
    exact item.entry_eq_restrict ordered source

/-- Under two allow-lists a source makes the same error, or gives entries for the same records,
which show of them what each list asks for. With fewer names in the same order, as in a part of
names that are not repeated, reading a source is reading it with more names and leaving out the
other fields. -/
theorem parse_projects (source : Path) (text : Text) (first second : List Text) :
    ((∃ error, parse source text first = .error error ∧
        parse source text second = .error error) ∨
      ∃ records entries others, items source text = .ok records ∧
        parse source text first = .ok entries ∧ parse source text second = .ok others ∧
        List.Forall₂ (Entry.Shows source first) records entries ∧
        List.Forall₂ (Entry.Shows source second) records others ∧
        List.Forall₂ (Entry.Agrees first second) entries others) ∧
      (first.eraseDups.Sublist second.eraseDups ∨ first.Sublist second ∧ second.Nodup →
        parse source text first =
          (parse source text second).map (List.map (Entry.restrict first))) := by
  refine ⟨?_, ?_⟩
  · rw [parse_eq_items source text first, parse_eq_items source text second]
    cases items source text with
    | error error => exact Or.inl ⟨error, rfl, rfl⟩
    | ok records =>
      refine Or.inr ⟨records, _, _, rfl, rfl, rfl, ?_, ?_, ?_⟩
      · rw [List.forall₂_map_right_iff, List.forall₂_same]
        exact fun item _ => item.shows_entry source first
      · rw [List.forall₂_map_right_iff, List.forall₂_same]
        exact fun item _ => item.shows_entry source second
      · rw [List.forall₂_map_left_iff, List.forall₂_map_right_iff, List.forall₂_same]
        exact fun item _ => item.agrees_entry source first second
  · rintro (ordered | ⟨part, distinct⟩)
    · exact parse_eq_restrict source text ordered
    · refine parse_eq_restrict source text ?_
      rwa [eraseDups_of_nodup distinct, eraseDups_of_nodup (distinct.sublist part)]

/-- A source with one record. -/
def journalSource : Text := "@misc{k, title = {T}, journal = {J}}".toList

/-- Two names. -/
def journalFirst : List Text := ["journal".toList, "title".toList]

/-- The same names after a repetition of the second one. -/
def titleRepeated : List Text := "title".toList :: journalFirst

/-- A part of an allow-list may put the fields into another order: here it leaves out where a
repeated name stands first. -/
theorem restrict_reorders :
    journalFirst.Sublist titleRepeated ∧
      parse ⟨"/w/a.bib".toList⟩ journalSource journalFirst ≠
        (parse ⟨"/w/a.bib".toList⟩ journalSource titleRepeated).map
          (List.map (Entry.restrict journalFirst)) := by
  refine ⟨List.sublist_cons_self _ _, ?_⟩
  decide +kernel

end Source

end Citations
