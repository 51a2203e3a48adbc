import Citations.Bibliography.Source
import Citations.Proofs.Bibliography.Reading
import Citations.Proofs.Text.Positions

/-!
# Sources put together

A source that can be read and that is empty or ends in a line feed can be followed by text that
begins with an at sign: no record, comment or free text of the first reaches into the second.
What is read is what the first gives, unchanged, and then what the second gives with the
abbreviations of the first in force, that many lines further down. If the second cannot be read,
neither can the two together, and the line that is reported moves in the same way.
-/
namespace Citations

namespace Record

variable {abbreviations : Abbreviations} {offset : Nat} {text more : Text}

/-! ## The next block -/

/-- Characters that an at sign ends are taken as before when a text with one follows. -/
theorem dropWhile_append_of_head {p : Char → Bool} (begins : more.head? = some '@')
    (stops : p '@' = false) (text : Text) :
    (text ++ more).dropWhile p = text.dropWhile p ++ more := by
  cases more with
  | nil => contradiction
  | cons c tail =>
    obtain rfl : c = '@' := by simpa using begins
    rw [List.dropWhile_append]
    split
    · rename_i taken
      rw [List.isEmpty_iff.mp taken, List.dropWhile_cons_of_neg (by simp [stops])]
      rfl
    · rfl

/-- The first character passes a test that an at sign fails as before when a text with one
follows. -/
theorem any_head?_append {p : Char → Bool} (begins : more.head? = some '@')
    (stops : p '@' = false) (text : Text) : (text ++ more).head?.any p = text.head?.any p := by
  cases text with
  | nil => rw [List.nil_append, begins, List.head?_nil, Option.any_some, stops, Option.any_none]
  | cons c tail => rfl

/-- An at sign starts a block or not whatever begins with another at sign after it. -/
theorem starts_append (begins : more.head? = some '@') (text : Text) :
    starts (text ++ more) = starts text := by
  simp only [starts, Text.trimStart]
  rw [dropWhile_append_of_head begins (by decide), any_head?_append begins (by decide),
    dropWhile_append_of_head begins (by decide), dropWhile_append_of_head begins (by decide),
    any_head?_append begins (by decide)]

/-- Whether an at sign may start a block here. -/
def Gap.isOpen : Gap → Bool
  | .comment => false
  | .blank | .prose => true

/-- What the text is made of after a character that starts no block. -/
def Gap.after (c : Char) : Gap → Gap
  | .blank =>
    if Text.isBlank c then .blank
    else if c = '%' then .comment
    else if c = '@' then .blank else .prose
  | .comment => if c = '\n' then .blank else .comment
  | .prose => if c = '\n' then .blank else if c = '@' then .blank else .prose

/-- A new line is blank, whatever the last one was. -/
theorem Gap.after_newline (gap : Gap) : gap.after '\n' = .blank := by
  cases gap <;> rfl

/-- Seeking goes from character to character, up to an at sign that starts a block. -/
theorem seek_cons (gap : Gap) (c : Char) (text : Text) :
    seek gap (c :: text) =
      if gap.isOpen ∧ c = '@' ∧ starts text then c :: text else seek (gap.after c) text := by
  have sign : Text.isBlank '@' = false := by decide
  cases gap <;> simp only [seek, Gap.isOpen, Gap.after] <;> split_ifs <;> simp_all

/-- What is sought is the end of the text. -/
theorem seek_suffix (gap : Gap) (text : Text) : seek gap text <:+ text := by
  induction text generalizing gap with
  | nil => exact seek.eq_1 gap ▸ List.suffix_rfl
  | cons c rest ih =>
    rw [seek_cons]
    split
    · exact List.suffix_rfl
    · exact (ih _).trans (List.suffix_cons c rest)

/-- An at sign is sought in the same way in free text and on a blank line. -/
theorem seek_of_head {gap : Gap} (begins : text.head? = some '@') (opened : gap.isOpen) :
    seek gap text = seek .blank text := by
  cases text with
  | nil => contradiction
  | cons c rest =>
    obtain rfl : c = '@' := by simpa using begins
    cases gap with
    | blank => rfl
    | comment => contradiction
    | prose => rw [seek_cons, seek_cons]; rfl

/-- What is sought in a finished text that another record follows: a block in the first text, or
else in the second, which begins on a new line. -/
theorem seek_append (begins : more.head? = some '@') (gap : Gap)
    (ended : text = [] ∧ gap.isOpen ∨ text.getLast? = some '\n') :
    seek gap (text ++ more) =
      if seek gap text = [] then seek .blank more else seek gap text ++ more := by
  induction text generalizing gap with
  | nil =>
    have opened : gap.isOpen := by simpa using ended
    rw [List.nil_append, if_pos (seek.eq_1 gap)]
    exact seek_of_head begins opened
  | cons c rest ih =>
    -- A comment may be open anywhere but at the end, where the last line feed has closed it.
    have later : rest = [] ∧ (gap.after c).isOpen ∨ rest.getLast? = some '\n' := by
      cases rest with
      | nil =>
        obtain rfl : c = '\n' := by simpa using ended
        exact Or.inl ⟨rfl, by rw [Gap.after_newline]; rfl⟩
      | cons next others => exact Or.inr (by simpa using ended)
    rw [List.cons_append, seek_cons, seek_cons, starts_append begins]
    split
    · rfl
    · exact ih _ later

/-! ## Block after block -/

/-- Reading depends on the blocks that are sought and on where the text ends. -/
theorem readFrom_congr {other : Text} {place : Nat} (same : seek .blank text = seek .blank other)
    (ends : offset + text.length = place + other.length) :
    readFrom abbreviations offset text = readFrom abbreviations place other := by
  cases found : seek .blank text with
  | nil => rw [readFrom_of_end found, readFrom_of_end (same ▸ found)]
  | cons sign body =>
    have found' := same ▸ found
    have longer := (seek_suffix .blank text).length_le
    have longer' := (seek_suffix .blank other).length_le
    rw [found, List.length_cons] at longer
    rw [found', List.length_cons] at longer'
    have start : offset + (text.length - (body.length + 1)) =
        place + (other.length - (body.length + 1)) := by omega
    cases read : block? abbreviations body with
    | none => rw [readFrom_of_failure found read, readFrom_of_failure found' read, start]
    | some taken =>
      obtain ⟨block, rest⟩ := taken
      have shorter := block?_length read
      have next : offset + (text.length - rest.length) =
          place + (other.length - rest.length) := by omega
      rw [readFrom_of_block found read, readFrom_of_block found' read, start, next]

/-- What is read first and what is read after it. -/
def Reading.followedBy (first later : Reading) : Reading :=
  { later with records := first.records ++ later.records }

/-- A block behind some text is read where its at sign stands, and then what follows it. -/
theorem readFrom_behind {front taken rest : Text} {block : Block}
    (found : seek .blank (front ++ '@' :: (taken ++ rest)) = '@' :: (taken ++ rest))
    (read : block? abbreviations (taken ++ rest) = some (block, rest)) :
    readFrom abbreviations offset (front ++ '@' :: (taken ++ rest)) =
      Reading.followedBy ⟨block.records (offset + front.length), [], none⟩
        (readFrom (block.define abbreviations) (offset + (front ++ '@' :: taken).length) rest) := by
  have start : offset + ((front ++ '@' :: (taken ++ rest)).length -
      ((taken ++ rest).length + 1)) = offset + front.length := by
    simp only [List.length_append, List.length_cons]
    omega
  have next : offset + ((front ++ '@' :: (taken ++ rest)).length - rest.length) =
      offset + (front ++ '@' :: taken).length := by
    simp only [List.length_append, List.length_cons]
    omega
  rw [readFrom_of_block found read, start, next]
  rfl

/-- Reading a finished text and another one that begins with an at sign: the first is read as
before, and then the second with the abbreviations that are in force. -/
theorem readFrom_append (begins : more.head? = some '@') (ended : text.Ended)
    (accepted : (readFrom abbreviations offset text).failure? = none) :
    readFrom abbreviations offset (text ++ more) =
      (readFrom abbreviations offset text).followedBy
        (readFrom (readFrom abbreviations offset text).abbreviations
          (offset + text.length) more) := by
  fun_induction readFrom abbreviations offset text with
  | case1 abbreviations offset text found =>
    -- The first text has no block left, so what is sought lies in the second.
    have same : seek .blank (text ++ more) = seek .blank more := by
      rw [seek_append begins .blank (ended.imp (⟨·, rfl⟩) id), if_pos found]
    rw [readFrom_congr same (by rw [List.length_append, Nat.add_assoc])]
    rfl
  | case2 => contradiction
  | case3 abbreviations offset text sign body found start block rest read later ih =>
    have remains := found ▸ seek_suffix .blank text
    have settled := block?_settled read
    have restEnded : rest.Ended :=
      ended.suffix (settled.suffix.trans ((List.suffix_cons sign body).trans remains))
    have same : seek .blank (text ++ more) = sign :: (body ++ more) := by
      rw [seek_append begins .blank (ended.imp (⟨·, rfl⟩) id), found, if_neg (by simp)]
      rfl
    have longer := remains.length_le
    have shorter := settled.suffix.length_le
    rw [List.length_cons] at longer
    have place : offset + ((text ++ more).length - ((body ++ more).length + 1)) = start := by
      simp only [List.length_append, start, List.length_cons]
      omega
    have next : offset + ((text ++ more).length - (rest ++ more).length) =
        offset + (text.length - rest.length) := by
      simp only [List.length_append]
      omega
    have finish : offset + (text.length - rest.length) + rest.length = offset + text.length := by
      omega
    rw [readFrom_of_block same (settled.append more), place, next, ih restEnded accepted, finish]
    simp only [Reading.followedBy, List.append_assoc, later]

/-- The same record at a place that many characters further on. -/
def Located.moved (characters : Nat) (record : Located) : Located :=
  { record with offset := characters + record.offset }

/-- The same reading at a place that many characters further on. -/
def Reading.moved (characters : Nat) (reading : Reading) : Reading :=
  { reading with
    records := reading.records.map (Located.moved characters)
    failure? := reading.failure?.map (characters + ·) }

/-- A text that stands further on in its source is read in the same way. -/
theorem readFrom_moved (characters : Nat) :
    readFrom abbreviations (characters + offset) text =
      (readFrom abbreviations offset text).moved characters := by
  fun_induction readFrom abbreviations offset text with
  | case1 abbreviations offset text found => rw [readFrom_of_end found]; rfl
  | case2 abbreviations offset text sign body found start failed =>
    rw [readFrom_of_failure found failed, Nat.add_assoc]
    rfl
  | case3 abbreviations offset text sign body found start block rest read later ih =>
    have first : block.records (characters + start) =
        (block.records start).map (Located.moved characters) := by
      cases block <;> rfl
    rw [readFrom_of_block found read, Nat.add_assoc, Nat.add_assoc, ih]
    simp only [Reading.moved, List.map_append, ← first, later]
    rfl

/-- Two sources put together are read as the first and then as the second, which stands further
on and has the abbreviations of the first. -/
theorem readSource_append (begins : more.head? = some '@') (ended : text.Ended)
    (accepted : (readSource text).failure? = none) :
    readSource (text ++ more) =
      (readSource text).followedBy
        ((readFrom (readSource text).abbreviations 0 more).moved text.length) := by
  unfold readSource at accepted ⊢
  rw [readFrom_append begins ended accepted, ← readFrom_moved, Nat.add_comm]

/-- The records that a block adds stand where it begins. -/
theorem Block.offset_records {block : Block} {record : Located}
    (listed : record ∈ block.records offset) : record.offset = offset := by
  cases block with
  | record key fields => rw [List.mem_singleton.mp listed]
  | abbreviation | ignored => cases listed

/-- A record stands inside the text that it is read from. -/
theorem offset_lt_of_mem_readFrom {record : Located}
    (listed : record ∈ (readFrom abbreviations offset text).records) :
    record.offset < offset + text.length := by
  fun_induction readFrom abbreviations offset text with
  | case1 => cases listed
  | case2 => cases listed
  | case3 abbreviations offset text sign body found start block rest read later ih =>
    have longer := (found ▸ seek_suffix .blank text : sign :: body <:+ text).length_le
    have shorter := block?_length read
    rw [List.length_cons] at longer
    rcases List.mem_append.mp listed with here | further
    · rw [Block.offset_records here]
      simp only [start, List.length_cons]
      omega
    · have := ih further
      omega

end Record

/-! ## Entries -/

/-- The same entry that many lines further down in its source. -/
def Entry.below (breaks : Nat) (entry : Entry) : Entry :=
  { entry with position := entry.position.below breaks }

/-- The same fault that many lines further down in its source. -/
def ParseFault.below (breaks : Nat) : ParseFault → ParseFault
  | .invalidRecord line => .invalidRecord (breaks + line)
  | fault => fault

namespace Source

open Record

variable {source : Path} {allowed : List Text} {first second : Text} {entries : List Entry}

/-- The entries of a source in the record format that is read with some abbreviations in
force. -/
def parseAfter (abbreviations : Abbreviations) (source : Path) (text : Text)
    (allowed : List Text) : Except ParseFault (List Entry) :=
  let index := LineIndex.ofText text
  let reading := Record.readFrom abbreviations 0 text
  match reading.failure? with
  | some offset => .error (.invalidRecord (index.lineOf offset + 1))
  | none => .ok (reading.records.filterMap (entryOfRecord? source index allowed))

/-- A record of the first of two texts gives the entry that it gave. -/
theorem entryOfRecord?_append_of_lt (ended : first.Ended) {record : Located}
    (inside : record.offset < first.length) :
    entryOfRecord? source (.ofText (first ++ second)) allowed record =
      entryOfRecord? source (.ofText first) allowed record := by
  rw [entryOfRecord?, entryOfRecord?, LineIndex.position_append_of_lt ended inside]

/-- A record of the second of two texts gives its entry further down. -/
theorem entryOfRecord?_append_add (ended : first.Ended) (record : Located) :
    entryOfRecord? source (.ofText (first ++ second)) allowed (record.moved first.length) =
      (entryOfRecord? source (.ofText second) allowed record).map (Entry.below first.breaks) := by
  unfold entryOfRecord? Located.moved
  rw [LineIndex.position_append_add ended]
  split <;> rfl

/-- The entries of two texts. -/
theorem filterMap_entryOfRecord?_append (ended : first.Ended) {records later : List Located}
    (inside : ∀ record ∈ records, record.offset < first.length) :
    (records ++ later.map (Located.moved first.length)).filterMap
        (entryOfRecord? source (.ofText (first ++ second)) allowed) =
      records.filterMap (entryOfRecord? source (.ofText first) allowed) ++
        (later.filterMap (entryOfRecord? source (.ofText second) allowed)).map
          (Entry.below first.breaks) := by
  rw [List.filterMap_append, List.filterMap_map, List.map_filterMap]
  congr 1
  · exact List.filterMap_congr fun record listed =>
      entryOfRecord?_append_of_lt ended (inside record listed)
  · exact List.filterMap_congr fun record _ => entryOfRecord?_append_add ended record

/-- A source is accepted when every block of it can be read. -/
theorem parseRecords_eq_ok (accepted : parseRecords source first allowed = .ok entries) :
    (readSource first).failure? = none ∧
      (readSource first).records.filterMap (entryOfRecord? source (.ofText first) allowed) =
        entries := by
  unfold parseRecords at accepted
  dsimp only at accepted
  split at accepted
  · contradiction
  · rename_i complete
    exact ⟨complete, Except.ok.inj accepted⟩

/-- The positions of the entries of a source with fewer characters than 32 bits count are not cut. -/
theorem cut_of_parseRecords (accepted : parseRecords source first allowed = .ok entries)
    (bounded : first.length < Nat.pow 2 32) :
    ∀ entry ∈ entries, entry.position.cut = entry.position := by
  intro entry listed
  rw [← (parseRecords_eq_ok accepted).2] at listed
  obtain ⟨record, read, made⟩ := List.mem_filterMap.mp listed
  have inside : record.offset < first.length := by
    have bound := offset_lt_of_mem_readFrom read
    omega
  have place : entry.position = (LineIndex.ofText first).position record.offset := by
    obtain ⟨-, keyless⟩ | ⟨-, same⟩ := ite_eq_iff.mp made
    · contradiction
    · rw [← Option.some.inj same]
  rw [place]
  exact (LineIndex.position_addresses inside).cut_eq bounded

/-- The two texts together are parsed as the second, with what the first gives in front. -/
theorem parseRecords_append_eq (accepted : parseRecords source first allowed = .ok entries)
    (ended : first.Ended) (begins : second.head? = some '@') :
    parseRecords source (first ++ second) allowed =
      match parseAfter (readSource first).abbreviations source second allowed with
      | .ok later => .ok (entries ++ later.map (Entry.below first.breaks))
      | .error fault => .error (fault.below first.breaks) := by
  obtain ⟨complete, given⟩ := parseRecords_eq_ok accepted
  have inside : ∀ record ∈ (readSource first).records, record.offset < first.length := by
    intro record listed
    have bound := offset_lt_of_mem_readFrom listed
    omega
  have together := readSource_append begins ended complete
  unfold parseRecords parseAfter
  rw [together]
  generalize readFrom (readSource first).abbreviations 0 second = reading
  obtain ⟨later, abbreviations, failure?⟩ := reading
  cases failure? with
  | none =>
    dsimp only [Reading.followedBy, Reading.moved, Option.map_none]
    rw [filterMap_entryOfRecord?_append ended inside, given]
  | some offset =>
    dsimp only [Reading.followedBy, Reading.moved, Option.map_some, ParseFault.below]
    rw [LineIndex.lineOf_append_add ended, Nat.add_assoc]

/-- Sources compose. When a source that can be read is empty or ends in a line feed, the source
with more text behind it that begins with an at sign can be read exactly if that text can be with
the abbreviations of the first in force. It then gives the entries of the first as they were and
those of the second that many lines further down, in their columns; else the line of the fault
moves in the same way. What is read of the first stays the same in both cases. An editor takes the
positions as they are, as long as 32 bits count the characters of the two texts. -/
theorem parseRecords_append (accepted : parseRecords source first allowed = .ok entries)
    (ended : first.Ended) (begins : second.head? = some '@') :
    let known := (readSource first).abbreviations
    ((∃ all, parseRecords source (first ++ second) allowed = .ok all) ↔
      ∃ later, parseAfter known source second allowed = .ok later) ∧
    (∀ later, parseAfter known source second allowed = .ok later →
      parseRecords source (first ++ second) allowed =
        .ok (entries ++ later.map (Entry.below first.breaks))) ∧
    (∀ fault, parseAfter known source second allowed = .error fault →
      parseRecords source (first ++ second) allowed = .error (fault.below first.breaks)) ∧
    (readSource first).records <+: (readSource (first ++ second)).records ∧
    ((first ++ second).length < Nat.pow 2 32 →
      ∀ all, parseRecords source (first ++ second) allowed = .ok all →
        ∀ entry ∈ all, entry.position.cut = entry.position) := by
  intro known
  have together := parseRecords_append_eq accepted ended begins
  refine ⟨?_, ?_, ?_, ?_, fun bounded all parsed => cut_of_parseRecords parsed bounded⟩
  · rw [together]
    cases parseAfter known source second allowed <;> simp
  · intro later parsed
    rw [together, parsed]
  · intro fault failed
    rw [together, failed]
  · rw [readSource_append begins ended (parseRecords_eq_ok accepted).1]
    exact List.prefix_append _ _

/-- A record that uses an abbreviation of the source it is appended to reads as if it stood
there, two lines further down. -/
theorem parseRecords_append_abbreviated :
    let source : Path := ⟨"/w/a.bib".toList⟩
    let first : Text := "@string\x7bj = \x7bJournal\x7d\x7d\n@misc\x7ba, note = j\x7d\n".toList
    let second : Text := "@misc\x7bb, note = j\x7d".toList
    let entry (key : String) (line : Nat) : Entry :=
      ⟨key.toList, source, ⟨line, 0⟩, [("note".toList, "Journal".toList)]⟩
    (parseRecords source first ["note".toList] = .ok [entry "a" 1] ∧
      first.Ended ∧ second.head? = some '@') ∧
    parseRecords source (first ++ second) ["note".toList] = .ok [entry "a" 1, entry "b" 2] := by
  intro source first second entry
  have accepted : parseRecords source first ["note".toList] = .ok [entry "a" 1] := by
    decide +kernel
  have ended : first.Ended := Or.inr (by decide +kernel)
  have begins : second.head? = some '@' := by decide +kernel
  have alone : parseAfter (readSource first).abbreviations source second ["note".toList] =
      .ok [entry "b" 0] := by
    decide +kernel
  have lines : first.breaks = 2 := by decide +kernel
  refine ⟨⟨accepted, ended, begins⟩, ?_⟩
  rw [(parseRecords_append accepted ended begins).2.1 _ alone, lines]
  rfl

end Source

end Citations
