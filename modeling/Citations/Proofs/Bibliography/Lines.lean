import Citations.Hover
import Citations.Proofs.Bibliography.Documentation
import Citations.Proofs.Bibliography.Leaves
import Citations.Proofs.Bibliography.Projection
import Citations.Proofs.Bibliography.Rendering
import Mathlib.Data.List.TFAE
import Mathlib.Tactic.TFAE

/-!
# Where the lines of a documentation end

A field is meant to take one line of the documentation, which hovering shows with a hard break
after each line. That is so exactly if no value has a line feed. In the record format none has,
because the white space of a value is collapsed. In the list format the texts of a value are taken
as they are, so a value has a line feed exactly if one of them has, and then its line is broken.
-/
namespace Citations

/-! ## Capital letters -/

namespace Text

variable {c : Char} {name : Text}

/-- The image of a character under a table of ranges is no line feed if no range is mapped so far
down. -/
theorem ne_lineFeed_of_image? {ranges : List CaseRange} {image : Char}
    (beyond : ∀ range ∈ ranges, 10 < range.target) (found : image? ranges c = some image) :
    image ≠ '\n' := by
  obtain ⟨range, searched, rfl⟩ := Option.map_eq_some_iff.mp found
  have target := beyond range (List.mem_of_find?_eq_some searched)
  intro same
  by_cases valid : (range.target + (c.toNat - range.source.first)).isValidChar
  · have code : (Char.ofNat (range.target + (c.toNat - range.source.first))).toNat =
        range.target + (c.toNat - range.source.first) := congrArg Char.toNat (dif_pos valid)
    have feed : '\n'.toNat = 10 := rfl
    rw [same, feed] at code
    omega
  · have code : (Char.ofNat (range.target + (c.toNat - range.source.first))).toNat = 0 :=
      congrArg Char.toNat (dif_neg valid)
    rw [same] at code
    exact absurd code (by decide)

/-- The capital form of a character has a line feed for the line feed only. -/
theorem lineFeed_notMem_upperChar (other : c ≠ '\n') : '\n' ∉ upperChar c := by
  have ranges : ∀ range ∈ upperRanges, 10 < range.target := by decide +kernel
  have expansions : ∀ expansion ∈ upperExpansions, '\n' ∉ expansion.2.map Char.ofNat := by
    decide +kernel
  have ascii : ∀ code < 128, (Char.ofNat code).toUpper = '\n' → Char.ofNat code = '\n' := by decide
  intro inside
  unfold upperChar at inside
  split at inside
  · next small =>
    have same := ascii c.toNat small
    rw [Char.ofNat_toNat] at same
    exact other (same (List.mem_singleton.mp inside).symm)
  · split at inside
    · next code codes found => exact expansions _ (List.mem_of_find?_eq_some found) inside
    · have same := List.mem_singleton.mp inside
      cases found : image? upperRanges c with
      | none =>
        rw [found] at same
        exact other same.symm
      | some image =>
        rw [found] at same
        exact ne_lineFeed_of_image? ranges found same.symm

/-- A capital at the beginning of a name makes no line feed. -/
theorem lineFeed_notMem_capitalize (clean : '\n' ∉ name) : '\n' ∉ capitalize name := by
  cases name with
  | nil => exact clean
  | cons c rest =>
    rw [List.mem_cons, not_or] at clean
    rw [capitalize, List.mem_append, not_or]
    exact ⟨lineFeed_notMem_upperChar fun same => clean.1 same.symm, clean.2⟩

end Text

/-! ## Hard breaks -/

namespace Hover

variable {text : Text} {texts : List Text}

/-- A text without line feeds has no hard breaks. -/
theorem hardBreaks_of_notMem (clean : '\n' ∉ text) : hardBreaks text = text := by
  have alone : ∀ c ∈ text, (if c = '\n' then [' ', ' ', '\n'] else [c]) = [c] := by
    intro c listed
    have other : c ≠ '\n' := by
      rintro rfl
      exact clean listed
    rw [if_neg other]
  rw [hardBreaks, Text.replaceChar, List.flatMap_congr alone, List.flatMap_singleton']

/-- The hard breaks of two texts together are those of each of them. -/
theorem hardBreaks_append (left right : Text) :
    hardBreaks (left ++ right) = hardBreaks left ++ hardBreaks right :=
  List.flatMap_append

/-- The hard breaks of several texts are those of each of them. -/
theorem hardBreaks_flatten (texts : List Text) :
    hardBreaks texts.flatten = (texts.map hardBreaks).flatten := by
  induction texts with
  | nil => rfl
  | cons first rest ih => rw [List.flatten_cons, hardBreaks_append, ih, List.map_cons,
      List.flatten_cons]

/-- The hard breaks of joined texts are between them and in each of them. -/
theorem hardBreaks_join (texts : List Text) :
    hardBreaks (Text.join ['\n'] texts) = Text.join [' ', ' ', '\n'] (texts.map hardBreaks) := by
  induction texts with
  | nil => rfl
  | cons first rest ih =>
    cases rest with
    | nil => rfl
    | cons next more =>
      rw [Text.join, hardBreaks_append, hardBreaks_append, ih]
      rfl

/-- A hard break takes two characters more than a line feed. -/
theorem length_hardBreaks (text : Text) :
    (hardBreaks text).length = text.length + 2 * text.count '\n' := by
  induction text with
  | nil => rfl
  | cons c rest ih =>
    have first : (hardBreaks [c]).length = 1 + 2 * [c].count '\n' := by
      by_cases same : c = '\n'
      · rw [same]
        decide
      · simp [hardBreaks, Text.replaceChar, same]
    have parts : c :: rest = [c] ++ rest := rfl
    rw [parts, hardBreaks_append, List.length_append, first, ih, List.length_append,
      List.count_append, List.length_singleton]
    omega

/-- Joined texts have hard breaks between them only exactly if none of them has a line feed. -/
theorem hardBreaks_join_iff :
    hardBreaks (Text.join ['\n'] texts) = Text.join [' ', ' ', '\n'] texts ↔
      ∀ text ∈ texts, '\n' ∉ text := by
  rw [hardBreaks_join]
  constructor
  · intro same
    have lengths := congrArg List.length same
    rw [Text.length_join, Text.length_join, List.length_map, ← hardBreaks_flatten,
      length_hardBreaks] at lengths
    have none : texts.flatten.count '\n' = 0 := by omega
    intro text listed inside
    exact List.count_eq_zero.mp none (List.mem_flatten.mpr ⟨text, listed, inside⟩)
  · intro clean
    rw [List.map_congr_left fun text listed => hardBreaks_of_notMem (clean text listed),
      List.map_id']

end Hover

/-! ## The lines of some fields -/

namespace Documentation

variable {fields : List Field} {field : Field}

/-- The line of a field has the line feeds of its value. -/
theorem count_line (clean : '\n' ∉ field.1) : (line field).count '\n' = field.2.count '\n' := by
  have name := List.count_eq_zero.mpr (Text.lineFeed_notMem_capitalize clean)
  have mark : ": ".toList.count '\n' = 0 := by decide
  rw [line, List.count_append, List.count_append, name, mark, Nat.zero_add]

/-- The line of a link has the line feeds of its value. -/
theorem count_linkLine (field : Field) : (linkLine field).count '\n' = field.2.count '\n' := by
  have mark : ("Link: ".toList ++
      if field.1 = "doi".toList then "https://doi.org/".toList else []).count '\n' = 0 := by
    split <;> decide
  change (_ ++ field.2).count '\n' = _
  rw [List.count_append, mark, Nat.zero_add]

/-- A line shows a field, with its name or as the link. -/
theorem mem_lines {shown : Text} (listed : shown ∈ lines fields)
    (distinct : (fields.map (·.1)).Nodup) :
    ∃ field ∈ fields, shown = line field ∨ shown = linkLine field := by
  have head {field : Field} (ahead : field ∈ (arrangement distinct).heads) : field ∈ fields :=
    (arrangement distinct).mem_of_mem_heads ahead
  simp only [lines, List.mem_append, List.mem_map] at listed
  rcases listed with ((⟨field, there, rfl⟩ | ⟨field, there, rfl⟩) | ⟨field, there, rfl⟩) |
    ⟨field, there, rfl⟩
  · exact ⟨field, head (List.mem_append_left _ (List.mem_append_left _ there)), Or.inl rfl⟩
  · exact ⟨field, head (List.mem_append_left _ (List.mem_append_right _ there)), Or.inl rfl⟩
  · exact ⟨field, head (List.mem_append_right _ there), Or.inr rfl⟩
  · exact ⟨field, List.mem_of_mem_filter there, Or.inl rfl⟩

/-- Lines with the line feeds of the values they show have them also together. -/
theorem count_flatten_map {shown : List Field} {showing : Field → Text}
    (counted : ∀ field ∈ shown, (showing field).count '\n' = field.2.count '\n') :
    (shown.map showing).flatten.count '\n' = (shown.map (·.2)).flatten.count '\n' := by
  rw [List.count_flatten, List.count_flatten, List.map_map, List.map_map]
  exact congrArg List.sum (List.map_congr_left counted)

/-- The lines have the line feeds of the values. -/
theorem count_lines (distinct : (fields.map (·.1)).Nodup)
    (clean : ∀ field ∈ fields, '\n' ∉ field.1) :
    (lines fields).flatten.count '\n' = (fields.map (·.2)).flatten.count '\n' := by
  have complete : ((people? fields).toList ++ (time? fields).toList ++ (link? fields).toList ++
      fields.filter fun field => !(promoted fields).contains field.1).Perm fields :=
    (arrangement distinct).complete
  have listed {shown : List Field} (part : shown ⊆ (people? fields).toList ++
      (time? fields).toList ++ (link? fields).toList ++
        fields.filter fun field => !(promoted fields).contains field.1) :
      ∀ field ∈ shown, (line field).count '\n' = field.2.count '\n' := fun field there =>
    count_line (clean field (complete.subset (part there)))
  rw [← (complete.map (·.2)).flatten.count_eq]
  simp only [lines, List.map_append, List.flatten_append, List.count_append]
  rw [count_flatten_map (listed fun _ => by simp +contextual),
    count_flatten_map (listed fun _ => by simp +contextual),
    count_flatten_map (listed fun _ => by simp +contextual),
    count_flatten_map fun field _ => count_linkLine field]

/-- No line has a line feed exactly if no value has one. -/
theorem lines_clean_iff (distinct : (fields.map (·.1)).Nodup)
    (clean : ∀ field ∈ fields, '\n' ∉ field.1) :
    (∀ shown ∈ lines fields, '\n' ∉ shown) ↔ ∀ field ∈ fields, '\n' ∉ field.2 := by
  have shown : (∀ shown ∈ lines fields, '\n' ∉ shown) ↔
      (lines fields).flatten.count '\n' = 0 := by
    rw [List.count_eq_zero, List.mem_flatten]
    exact ⟨fun none ⟨shown, listed, inside⟩ => none shown listed inside,
      fun none shown listed inside => none ⟨shown, listed, inside⟩⟩
  have values : (∀ field ∈ fields, '\n' ∉ field.2) ↔
      (fields.map (·.2)).flatten.count '\n' = 0 := by
    rw [List.count_eq_zero, ← List.flatMap_def, List.mem_flatMap]
    exact ⟨fun none ⟨field, listed, inside⟩ => none field listed inside,
      fun none field listed inside => none ⟨field, listed, inside⟩⟩
  rw [shown, values, count_lines distinct clean]

end Documentation

/-! ## The lines of an entry -/

namespace Entry

open Documentation

/-- The lines of the documentation, cut at line feeds. The empty documentation has none. -/
def shownLines (entry : Entry) : List Text :=
  if entry.documentation = [] then [] else Text.splitAt '\n' entry.documentation

variable {entry : Entry}

/-- The lines that are shown are those of the fields, cut at the line feeds in them. -/
theorem shownLines_eq (distinct : (entry.fields.map (·.1)).Nodup) :
    entry.shownLines = (lines entry.fields).flatMap (Text.splitAt '\n') := by
  have counted := length_lines distinct
  unfold shownLines Entry.documentation render
  cases shape : lines entry.fields with
  | nil => rfl
  | cons first rest =>
    have listed : first ∈ lines entry.fields := shape ▸ List.mem_cons_self
    have colon : ':' ∈ first := by
      obtain ⟨field, -, rfl | rfl⟩ := mem_lines listed distinct
      · exact List.mem_append_left _ (List.mem_append_right _ (by decide))
      · exact List.mem_append_left _ (List.mem_append_left _ (by decide))
    have nonempty : Text.join ['\n'] (first :: rest) ≠ [] :=
      List.ne_nil_of_mem (Text.mem_join List.mem_cons_self colon)
    rw [if_neg nonempty, Text.splitAt_join_eq_flatMap '\n' (List.cons_ne_nil first rest)]

/-- There is a line for each field and one more for each line feed in a value. -/
theorem length_shownLines (distinct : (entry.fields.map (·.1)).Nodup)
    (clean : ∀ field ∈ entry.fields, '\n' ∉ field.1) :
    entry.shownLines.length =
      entry.fields.length + (entry.fields.map (·.2)).flatten.count '\n' := by
  rw [shownLines_eq distinct, Text.length_flatMap_splitAt, length_lines distinct,
    count_lines distinct clean]

/-- Every field is shown on one line, and hovering breaks between fields only, exactly if no value
has a line feed. -/
theorem lined_tfae (distinct : (entry.fields.map (·.1)).Nodup)
    (clean : ∀ field ∈ entry.fields, '\n' ∉ field.1) :
    [∀ field ∈ entry.fields, '\n' ∉ field.2,
      entry.shownLines.length = entry.fields.length,
      entry.shownLines = lines entry.fields,
      Hover.hardBreaks entry.documentation =
        Text.join [' ', ' ', '\n'] (lines entry.fields)].TFAE := by
  tfae_have 1 → 3 := by
    intro values
    have alone : ∀ shown ∈ lines entry.fields, Text.splitAt '\n' shown = [shown] :=
      fun shown listed =>
        Text.splitAt_of_not_mem ((lines_clean_iff distinct clean).mpr values shown listed)
    rw [shownLines_eq distinct, List.flatMap_congr alone, List.flatMap_singleton']
  tfae_have 3 → 2 := by
    intro same
    rw [same, length_lines distinct]
  tfae_have 2 → 1 := by
    intro counted
    rw [length_shownLines distinct clean] at counted
    have none : (entry.fields.map (·.2)).flatten.count '\n' = 0 := by omega
    intro field listed inside
    exact List.count_eq_zero.mp none
      (List.mem_flatten.mpr ⟨field.2, List.mem_map_of_mem listed, inside⟩)
  tfae_have 1 ↔ 4 := by
    rw [← lines_clean_iff distinct clean]
    exact Hover.hardBreaks_join_iff.symm
  tfae_finish

end Entry

/-! ## The values of a source -/

/-- The chosen names are different. -/
theorem nodup_selectFields (allowed : List Text) (value? : Text → Option Text) :
    ((selectFields allowed value?).map (·.1)).Nodup := by
  rw [map_fst_selectFields]
  exact (nodup_eraseDups allowed).filter _

/-- What the value of a field reads as in a record has no line feed. -/
theorem Record.lineFeed_notMem_rendered (parts : List Text) : '\n' ∉ rendered parts := by
  intro inside
  have spaced : Text.Spaced (rendered parts) := Text.spaced_collapse _
  exact absurd (spaced.plain '\n' inside (by decide)) (by decide)

namespace Source

open Documentation

variable {source : Path} {text : Text} {allowed : List Text} {entries : List Entry} {entry : Entry}

/-- An entry of a source is made of one of its records. -/
theorem exists_item (parsed : parse source text allowed = .ok entries) (listed : entry ∈ entries) :
    ∃ records item, items source text = .ok records ∧ item ∈ records ∧
      item.entry source allowed = entry := by
  rw [parse_eq_items] at parsed
  cases found : items source text with
  | error fault =>
    rw [found] at parsed
    contradiction
  | ok records =>
    rw [found] at parsed
    obtain rfl := Except.ok.inj parsed
    obtain ⟨item, inside, same⟩ := List.mem_map.mp listed
    exact ⟨records, item, rfl, inside, same⟩

/-- In the record format no value has a line feed. -/
theorem lineFeed_notMem_of_records (format : SourceFormat.ofPath? source = some .records)
    (parsed : parse source text allowed = .ok entries) (listed : entry ∈ entries) :
    ∀ field ∈ entry.fields, '\n' ∉ field.2 := by
  obtain ⟨records, item, read, inside, rfl⟩ := exists_item parsed listed
  simp only [items, format] at read
  split at read
  · contradiction
  · obtain rfl := Except.ok.inj read
    obtain ⟨block, -, made⟩ := List.mem_filterMap.mp inside
    unfold Item.ofBlock? at made
    split at made
    · contradiction
    · obtain rfl := Option.some.inj made
      intro field chosen
      obtain ⟨written, -, value⟩ := Option.map_eq_some_iff.mp (mem_selectFields_iff.mp chosen).2
      exact value ▸ Record.lineFeed_notMem_rendered written.2

/-- In the list format a value has a line feed exactly if one of the texts has that the member has
which holds the field. -/
theorem lineFeed_mem_iff_of_list (format : SourceFormat.ofPath? source = some .list)
    (parsed : parse source text allowed = .ok entries) (listed : entry ∈ entries) :
    ∃ elements members, Json.read? text = some (.array elements) ∧ .object members ∈ elements ∧
      JsonList.entry? source allowed (.object members) = some entry ∧
      ∀ field ∈ entry.fields, ∃ member, JsonList.memberFor? members field.1 = some member ∧
        ('\n' ∈ field.2 ↔ JsonList.Broken (JsonList.leaves member)) := by
  obtain ⟨records, item, read, inside, rfl⟩ := exists_item parsed listed
  simp only [items, format] at read
  split at read
  · contradiction
  · next elements array =>
    obtain rfl := Except.ok.inj read
    obtain ⟨element, there, made⟩ := List.mem_filterMap.mp inside
    have same := entryOfElement?_eq source allowed element
    rw [made, Option.map_some] at same
    cases element with
    | object members =>
      refine ⟨elements, members, array, there, same, fun field chosen => ?_⟩
      have value := (mem_selectFields_iff.mp chosen).2
      unfold Item.ofElement? at made
      dsimp only at made
      split at made
      · obtain rfl := Option.some.inj made
        exact JsonList.lineFeed_mem_value?_iff value
      · contradiction
    | _ => contradiction
  · contradiction

/-- What an entry of a source shows, for an allow-list of names without line feeds. In the record
format no value has a line feed; in the list format one has exactly if a text has that it is made
of. No value has one exactly if the documentation has as many lines as there are fields, exactly if
its lines are those of the fields, each with a name and a value, and exactly if hovering breaks
between these only. -/
theorem parse_lined (clean : ∀ name ∈ allowed, '\n' ∉ name)
    (parsed : parse source text allowed = .ok entries) (listed : entry ∈ entries) :
    (SourceFormat.ofPath? source = some .records → ∀ field ∈ entry.fields, '\n' ∉ field.2) ∧
    (SourceFormat.ofPath? source = some .list →
      ∃ elements members, Json.read? text = some (.array elements) ∧ .object members ∈ elements ∧
        JsonList.entry? source allowed (.object members) = some entry ∧
        ∀ field ∈ entry.fields, ∃ member, JsonList.memberFor? members field.1 = some member ∧
          ('\n' ∈ field.2 ↔ JsonList.Broken (JsonList.leaves member))) ∧
    [∀ field ∈ entry.fields, '\n' ∉ field.2,
      entry.shownLines.length = entry.fields.length,
      entry.shownLines = lines entry.fields,
      Hover.hardBreaks entry.documentation =
        Text.join [' ', ' ', '\n'] (lines entry.fields)].TFAE ∧
    ∀ shown ∈ lines entry.fields, ∃ field ∈ entry.fields,
      shown = line field ∨ shown = linkLine field := by
  have belongs := parse_belongs parsed entry listed
  have distinct : (entry.fields.map (·.1)).Nodup := by
    obtain ⟨records, item, -, -, rfl⟩ := exists_item parsed listed
    exact nodup_selectFields allowed item.value?
  have names : ∀ field ∈ entry.fields, '\n' ∉ field.1 := fun field there =>
    clean field.1 (belongs.2 field there)
  exact ⟨fun format => lineFeed_notMem_of_records format parsed listed,
    fun format => lineFeed_mem_iff_of_list format parsed listed,
    Entry.lined_tfae distinct names, fun shown there => mem_lines there distinct⟩

/-- A record with a title on two lines is one entry, whose two fields are shown on two lines. -/
theorem parse_lined_twoLines :
    let source : Path := ⟨"/w/a.bib".toList⟩
    let text := "@misc\x7bk, title = \x7bOn\n  lines\x7d, doi = \x7b10.1/x\x7d\x7d".toList
    let allowed := ["title".toList, "doi".toList]
    ∃ entry, (∀ name ∈ allowed, '\n' ∉ name) ∧ parse source text allowed = .ok [entry] ∧
      entry.fields = [("title".toList, "On lines".toList), ("doi".toList, "10.1/x".toList)] ∧
      entry.shownLines = lines entry.fields ∧
      lines entry.fields = ["Link: https://doi.org/10.1/x".toList, "Title: On lines".toList] := by
  intro source text allowed
  have clean : ∀ name ∈ allowed, '\n' ∉ name := by decide
  have format : SourceFormat.ofPath? source = some .records := by decide +kernel
  have parsed : parse source text allowed = .ok [⟨"k".toList, source, ⟨0, 0⟩,
      [("title".toList, "On lines".toList), ("doi".toList, "10.1/x".toList)]⟩] := by decide +kernel
  obtain ⟨values, -, lined, -⟩ := parse_lined clean parsed List.mem_cons_self
  have shown := (lined.out 0 2).mp (values format)
  exact ⟨_, clean, parsed, rfl, shown, by decide +kernel⟩

/-- A text with a line feed is taken as it is in the list format: its one field takes two lines, and
hovering breaks inside it. -/
theorem parse_unlined :
    ∃ entry, parse ⟨"/w/a.json".toList⟩
        "[\x7b\"id\":\"k\",\"title\":\"a\\nb\"\x7d]".toList ["title".toList] = .ok [entry] ∧
      entry.fields = [("title".toList, "a\nb".toList)] ∧
      entry.shownLines = ["Title: a".toList, "b".toList] ∧
      Hover.hardBreaks entry.documentation = "Title: a  \nb".toList := by
  refine ⟨⟨"k".toList, ⟨"/w/a.json".toList⟩, ⟨0, 0⟩, [("title".toList, "a\nb".toList)]⟩, ?_⟩
  decide +kernel

end Source

end Citations
