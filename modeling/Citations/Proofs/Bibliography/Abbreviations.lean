import Citations.Proofs.Bibliography.Places
import Citations.Proofs.Bibliography.Rendering

/-!
# Abbreviations stand for what they are defined as

A definition keeps what its value reads as when it is made, and where the name is used that is
read once more. Reading it twice shows nowhere: with the definition written in the place of the
name, every record reads the same and everything is defined in the same way. A definition is in
force from where it ends up to the next one of its name, in records and in other definitions. What
is in front of a place does not depend on what follows, so a name stands for itself before it is
defined, and a later definition leaves what has been read as it is.
-/
namespace Citations.Record

open Braces

variable {known : Abbreviations} {text lead rest more name value part : Text}
  {before parts : List Text} {blocks : List Block}

/-! ## What a value reads as -/

/-- The words that a value reads as. -/
def wording (parts : List Text) : List Text :=
  (parts.map fun part => Text.words (strip part)).flatten

/-- A value reads as its words. -/
theorem rendered_eq_join (parts : List Text) :
    rendered parts = Text.join [' '] (wording parts) := by
  rw [rendered, Text.collapse, Text.words_join, List.map_map]
  rfl

/-- What values put together read as depends on what each of them reads as. -/
theorem wording_append (parts others : List Text) :
    wording (parts ++ others) = wording parts ++ wording others := by
  rw [wording, List.map_append, List.flatten_append]
  rfl

/-- What a part reads as reads as the part does. -/
theorem wording_rendered (part : Text) : wording [rendered [part]] = wording [part] := by
  have kept : strip (rendered [part]) = rendered [part] :=
    strip_of_groupless (groupless_rendered_singleton part)
  simp only [wording, List.map_cons, List.map_nil, kept]
  rw [rendered_singleton, Text.words_collapse]

/-- A field as it reads. -/
def shownField (field : RawField) : Text × Text := (field.1, rendered field.2)

/-- The records of a block as they read. -/
def Block.shown : Block → List (Text × List (Text × Text))
  | .record key fields => [(key, fields.map shownField)]
  | .abbreviation _ _ => []
  | .ignored => []

/-- What a reading shows, wherever in its source a record stands. -/
structure Shown where
  /-- The keys and the fields of the records. -/
  records : List (Text × List (Text × Text))
  /-- The abbreviations in force at the end. -/
  abbreviations : Abbreviations
  /-- Whether some block could not be read. -/
  failed : Bool

/-- What a reading shows. -/
def Reading.shown (reading : Reading) : Shown where
  records := reading.records.map fun record => (record.key, record.fields.map shownField)
  abbreviations := reading.abbreviations
  failed := reading.failure?.isSome

/-- What is shown after some records. -/
def Shown.after (records : List (Text × List (Text × Text))) (shown : Shown) : Shown :=
  { shown with records := records ++ shown.records }

/-- A reading shows the same wherever its text stands. -/
theorem shown_offset (offset : Nat) :
    (readFrom known offset text).shown = (readFrom known 0 text).shown := by
  rw [← Nat.add_zero offset, readFrom_moved]
  simp [Reading.shown, Reading.moved, Located.moved, Function.comp_def]

/-- A block that is read is shown, and then what is read after it. -/
theorem shown_of_block {sign : Char} {body : Text} {block : Block} (offset : Nat)
    (found : seek .blank text = sign :: body) (read : block? known body = some (block, rest)) :
    (readFrom known offset text).shown =
      (readFrom (block.define known) 0 rest).shown.after block.shown := by
  rw [readFrom_of_block found read, ← shown_offset (offset + (text.length - rest.length))]
  cases block <;> rfl

/-- Nothing is shown where a block cannot be read. -/
theorem shown_of_failure {sign : Char} {body : Text} (offset : Nat)
    (found : seek .blank text = sign :: body) (failed : block? known body = none) :
    (readFrom known offset text).shown = ⟨[], known, true⟩ := by
  rw [readFrom_of_failure found failed]
  rfl

/-- Blocks that are read are shown, and then what is read after them. -/
theorem Reads.shown (reads : Reads known text blocks rest) (offset : Nat) :
    (readFrom known offset text).shown =
      (readFrom (definedBy known blocks) 0 rest).shown.after (blocks.flatMap Block.shown) := by
  induction reads generalizing offset with
  | done => exact shown_offset offset
  | block found read later ih =>
    rw [shown_of_block offset found read, ih 0, Shown.after, Shown.after, Shown.after,
      List.flatMap_cons, List.append_assoc]
    rfl

/-- A block shows and defines the same with a value that reads the same. -/
theorem Owner.block_congr (owner : Owner) {other : List Text} (same : wording parts = wording other)
    (fields : List RawField) :
    (owner.block parts fields).shown = (owner.block other fields).shown ∧
      (owner.block parts fields).define known = (owner.block other fields).define known := by
  have reads : rendered parts = rendered other := by
    rw [rendered_eq_join, same, ← rendered_eq_join]
  cases owner with
  | record key fields name => simp [Owner.block, Block.shown, Block.define, shownField, reads]
  | definition name => simp [Owner.block, Block.shown, Block.define, reads]

/-- Another part in the place of one leaves what the source shows as it is, if the two read the
same and end where the same text begins. -/
theorem Place.shown_congr {owner : Owner} {other after more' : Text}
    (place : Place known lead blocks owner before)
    (read : part? (definedBy known blocks) (skipLayout more) = some (part, after))
    (read' : part? (definedBy known blocks) (skipLayout more') = some (other, after))
    (same : wording [part] = wording [other]) :
    (readFrom known 0 (lead ++ more)).shown = (readFrom known 0 (lead ++ more')).shown := by
  obtain ⟨rest, body, ending, place⟩ := place.read
  obtain ⟨reads, found, block⟩ := place more
  obtain ⟨reads', found', block'⟩ := place more'
  rw [reads.shown, reads'.shown]
  congr 1
  rw [value?_of_part read] at block
  rw [value?_of_part read'] at block'
  cases goesOn : valueAfter? (definedBy known blocks) after with
  | none =>
    rw [goesOn] at block block'
    rw [shown_of_failure 0 found block, shown_of_failure 0 found' block']
  | some later =>
    obtain ⟨others, last⟩ := later
    rw [goesOn] at block block'
    cases ends : ending last with
    | none =>
      simp only [Option.map_some, Option.bind_some, ends, Option.map_none] at block block'
      rw [shown_of_failure 0 found block, shown_of_failure 0 found' block']
    | some closed =>
      obtain ⟨fields, left⟩ := closed
      simp only [Option.map_some, Option.bind_some, ends] at block block'
      have tails : wording (part :: others) = wording (other :: others) := by
        rw [show part :: others = [part] ++ others from rfl, wording_append, same, ← wording_append]
        rfl
      have wordings : wording (before ++ part :: others) = wording (before ++ other :: others) := by
        rw [wording_append, wording_append, tails]
      obtain ⟨shows, defines⟩ := owner.block_congr wordings fields
      rw [shown_of_block 0 found block, shown_of_block 0 found' block', shows, defines]

/-! ## What a word stands for -/

/-- The name that a block defines. -/
def Block.name? : Block → Option Text
  | .record _ _ => none
  | .abbreviation name _ => some name
  | .ignored => none

/-- What a name is defined as stays in force while no block defines it. -/
theorem find?_definedBy (kept : ∀ block ∈ blocks, block.name? ≠ some name) :
    (definedBy known blocks).find? (·.1 = name) = known.find? (·.1 = name) := by
  induction blocks generalizing known with
  | nil => rfl
  | cons block blocks ih =>
    have later (other : Block) (listed : other ∈ blocks) : other.name? ≠ some name :=
      kept other (List.mem_cons_of_mem block listed)
    refine (ih later).trans ?_
    cases block with
    | record key fields => rfl
    | ignored => rfl
    | abbreviation other value =>
      have apart : other ≠ name := fun same => kept _ List.mem_cons_self (congrArg some same)
      exact List.find?_cons_of_neg (by simpa using apart)

/-- A word that no block defines stands for itself. -/
theorem expand_of_untouched {word : Text}
    (untouched : ∀ block ∈ blocks, block.name? ≠ some (Text.lowerAscii word)) :
    (definedBy [] blocks).expand word = word := by
  rw [Abbreviations.expand, find?_definedBy untouched]
  rfl

/-- A word stands for what it was defined as last, in small letters or capitals. -/
theorem expand_of_defined {word : Text}
    (kept : ∀ block ∈ blocks, block.name? ≠ some (Text.lowerAscii word)) :
    (definedBy ((Text.lowerAscii word, value) :: known) blocks).expand word = value := by
  rw [Abbreviations.expand, find?_definedBy kept, List.find?_cons_of_pos (by simp)]

/-! ## Definitions -/

/-- A group is read as its text, whatever follows. -/
theorem part?_of_group {after : Text}
    (braced : balanced? '\x7b' '\x7d' 0 (value ++ '\x7d' :: after) = some (value, after))
    (more : Text) : part? known ('\x7b' :: (value ++ '\x7d' :: more)) = some (value, more) := by
  obtain ⟨taken, split, again⟩ := balanced?_takes braced
  obtain rfl : value ++ ['\x7d'] = taken := by
    refine List.append_cancel_right (Eq.trans ?_ split)
    rw [List.append_assoc]
    rfl
  have grouped := again more
  rw [List.append_assoc] at grouped
  exact grouped

/-- An `@string` block gives a name a group and nothing else: a group is all of its value. -/
inductive DefinesGroup (known : Abbreviations) (name value : Text) : Text → Prop where
  | group {lead after : Text} (place : BlockPlace known lead (.definition name) [])
      (braced : balanced? '\x7b' '\x7d' 0 (value ++ '\x7d' :: after) = some (value, after))
      (alone : (skipLayout after).head? ≠ some '#') :
      DefinesGroup known name value (lead ++ '\x7b' :: (value ++ '\x7d' :: after))

/-- What such a block defines is what the group reads as. -/
theorem DefinesGroup.eq_of_read {block : Block} (defines : DefinesGroup known name value text)
    (read : block? known text = some (block, rest)) :
    block = .abbreviation name (rendered [value]) := by
  obtain ⟨place, braced, alone⟩ := defines
  rename_i lead after
  obtain ⟨ending, reading⟩ := place.read
  have opened : Stops isLayout ('\x7b' :: (value ++ '\x7d' :: after)) := stops_cons (by decide) _
  have taken : part? known (skipLayout ('\x7b' :: (value ++ '\x7d' :: after))) =
      some (value, after) := by
    rw [skipLayout_of_stops opened, part?_of_group braced]
  rw [reading, value?_of_last taken alone, Option.bind_some] at read
  obtain ⟨⟨others, last⟩, -, same⟩ := Option.map_eq_some_iff.mp read
  exact (Prod.mk.inj same).1.symm

/-- A place follows a block: `earlier` are the blocks before the block, which is read from `text`,
and `between` those after it and before the place. -/
inductive Follows (earlier : List Block) (text : Text) (block : Block) (between : List Block)
    (lead : Text) (owner : Owner) (before : List Text) : Prop where
  | after {here rest : Text} {sign : Char} (reads : Reads [] lead earlier here)
      (found : seek .blank here = sign :: text)
      (read : block? (definedBy [] earlier) text = some (block, rest))
      (place : Place (block.define (definedBy [] earlier)) rest between owner before)

/-- The block that a place follows is read. -/
theorem Follows.read {earlier between : List Block} {block : Block} {owner : Owner}
    (follows : Follows earlier text block between lead owner before) :
    ∃ rest, block? (definedBy [] earlier) text = some (block, rest) := by
  obtain ⟨-, -, read, -⟩ := follows
  exact ⟨_, read⟩

/-- What is defined by blocks is defined by some of them and then by the others. -/
theorem definedBy_append (known : Abbreviations) (blocks others : List Block) :
    definedBy known (blocks ++ others) = definedBy (definedBy known blocks) others :=
  List.foldl_append

/-- A place that follows a block is a place in the source. -/
theorem Follows.place {earlier between : List Block} {block : Block} {owner : Owner}
    (follows : Follows earlier text block between lead owner before) :
    Place [] lead (earlier ++ block :: between) owner before := by
  obtain ⟨reads, found, read, later, sought, place⟩ := follows
  refine .inside (reads.trans (.block found read later)) sought ?_
  rw [definedBy_append]
  exact place

/-- What is read at a place follows each of the blocks before it. -/
theorem Reads.split {earlier between : List Block} {block : Block}
    (reads : Reads known lead (earlier ++ block :: between) rest) :
    ∃ here sign text after, Reads known lead earlier here ∧ seek .blank here = sign :: text ∧
      block? (definedBy known earlier) text = some (block, after) ∧
      Reads (block.define (definedBy known earlier)) after between rest := by
  induction earlier generalizing known lead with
  | nil =>
    cases reads with
    | block found read later => exact ⟨_, _, _, _, .done, found, read, later⟩
  | cons first earlier ih =>
    cases reads with
    | block found read later =>
      obtain ⟨here, sign, text, after, reads, sought, taken, others⟩ := ih later
      exact ⟨here, sign, text, after, .block found read reads, sought, taken, others⟩

/-- A place follows each of the blocks before it. -/
theorem Place.follows {earlier between : List Block} {block : Block} {owner : Owner}
    (place : Place [] lead (earlier ++ block :: between) owner before) :
    ∃ text, Follows earlier text block between lead owner before := by
  obtain ⟨reads, sought, place⟩ := place
  obtain ⟨here, sign, text, after, first, found, read, later⟩ := reads.split
  rw [definedBy_append] at place
  exact ⟨text, .after first found read (.inside later sought place)⟩

/-! ## Where a word is used -/

/-- A group in the place of a word leaves what the source shows as it is, if the group reads as
what the word stands for. -/
theorem Place.shown_word {owner : Owner} {after : Text} (place : Place [] lead blocks owner before)
    (word : Word isName) (stops : Stops isName after)
    (grouped : part? (definedBy [] blocks) ('\x7b' :: (value ++ '\x7d' :: after)) =
      some (value, after))
    (same : wording [(definedBy [] blocks).expand word.text] = wording [value]) :
    (readSource (lead ++ (word.text ++ after))).shown =
      (readSource (lead ++ '\x7b' :: (value ++ '\x7d' :: after))).shown := by
  have written : part? (definedBy [] blocks) (skipLayout (word.text ++ after)) =
      some ((definedBy [] blocks).expand word.text, after) := by
    rw [skipLayout_of_stops (word.stops blankless_isName after), word.read stops]
  have opened : Stops isLayout ('\x7b' :: (value ++ '\x7d' :: after)) := stops_cons (by decide) _
  rw [← skipLayout_of_stops opened] at grouped
  exact place.shown_congr written grouped same

/-- Braces pair up in a text of which a bare word can be made. -/
theorem balanced_of_isName (named : ∀ c ∈ text, isName c = true) : Balanced text := by
  induction text with
  | nil => exact .nil
  | cons c rest ih =>
    have first := named c List.mem_cons_self
    have later := ih fun d listed => named d (List.mem_cons_of_mem c listed)
    refine .plain ?_ ?_ ?_ later <;> rintro rfl <;> simp [isName] at first

/-- A word stands for what a block defines it as, if no later one defines it again. -/
theorem expand_of_block {earlier between : List Block} {word : Text}
    (kept : ∀ block ∈ between, block.name? ≠ some (Text.lowerAscii word)) :
    (definedBy [] (earlier ++ .abbreviation (Text.lowerAscii word) value :: between)).expand word =
      value := by
  rw [definedBy_append]
  exact expand_of_defined kept

/-! ## Every use of a word -/

/-- What is defined and was not before is defined by a block. -/
theorem mem_definedBy (listed : (name, value) ∈ definedBy known blocks) :
    (name, value) ∈ known ∨ .abbreviation name value ∈ blocks := by
  induction blocks generalizing known with
  | nil => exact Or.inl listed
  | cons block blocks ih =>
    have listed : (name, value) ∈ definedBy (block.define known) blocks := listed
    rcases ih listed with earlier | later
    · cases block with
      | record | ignored => exact Or.inl earlier
      | abbreviation other stored =>
        rcases List.mem_cons.mp earlier with here | further
        · obtain ⟨rfl, rfl⟩ := Prod.mk.inj here
          exact Or.inr List.mem_cons_self
        · exact Or.inl further
    · exact Or.inr (List.mem_cons_of_mem block later)

/-- A part of a value stands at a place of a source, after other parts of the value. -/
def StandsIn (source : Text) (owner : Owner) (before : List Text) (part : Text) : Prop :=
  ∃ lead blocks more after, source = lead ++ more ∧ Place [] lead blocks owner before ∧
    part? (definedBy [] blocks) more = some (part, after)

/-- Each part of each value of a record stands in the source. -/
theorem standsIn_of_record {record : Located} {others : List Text}
    {fields later : List RawField}
    (listed : record ∈ (readSource text).records)
    (split : record.fields = fields ++ (name, before ++ part :: others) :: later) :
    StandsIn text (.record record.key fields name) before part := by
  obtain ⟨blocks, rest, reads, -, records, -⟩ := exists_reads [] 0 text
  obtain ⟨earlier, between, rfl⟩ := List.append_of_mem (records record listed)
  obtain ⟨here, sign, body, after, first, found, read, -⟩ := reads.split
  rw [split] at read
  obtain ⟨front, more, following, rfl, place, taken⟩ := exists_recordPlace read
  obtain ⟨lead, rfl, place⟩ := first.place found place
  exact ⟨lead, earlier, more, following, rfl, place, taken⟩

/-- Each part of each definition stands in the source. -/
theorem standsIn_of_definition (listed : (name, value) ∈ (readSource text).abbreviations) :
    ∃ parts, value = rendered parts ∧ ∀ before part others, parts = before ++ part :: others →
      StandsIn text (.definition name) before part := by
  obtain ⟨blocks, rest, reads, -, -, defined⟩ := exists_reads [] 0 text
  rw [readSource, defined] at listed
  have member := (mem_definedBy listed).resolve_left List.not_mem_nil
  obtain ⟨earlier, between, rfl⟩ := List.append_of_mem member
  obtain ⟨here, sign, body, after, first, found, read, -⟩ := reads.split
  obtain ⟨parts, same, each⟩ := exists_definitionPlace read
  refine ⟨parts, same, fun before part others split => ?_⟩
  obtain ⟨front, more, following, rfl, place, taken⟩ := each before part others split
  obtain ⟨lead, rfl, place⟩ := first.place found place
  exact ⟨lead, earlier, more, following, rfl, place, taken⟩

/-! ## The whole source -/

/-- An abbreviation stands for what it is defined as. Where a group is all of a definition of a
word, a source reads the same with the group in the place of the word, after the definition and up
to the next one of that word, whatever the case of its letters. A word that no block before
defines stands for itself. What has been read does not depend on what follows, a definition or
not. A definition keeps what its parts read as with what is in force where it stands, and a word
stands for that wherever the definition is in force, whatever has been defined since. These are
all uses: every part of a record and of a definition that is read stands at a place, and a place
follows each of the blocks before it. -/
theorem readSource_abbreviated :
    (∀ (earlier between : List Block) (text lead after value : Text) (block : Block) (owner : Owner)
      (before : List Text) (word : Word isName),
      Follows earlier text block between lead owner before →
      DefinesGroup (definedBy [] earlier) (Text.lowerAscii word.text) value text →
      (∀ other ∈ between, other.name? ≠ some (Text.lowerAscii word.text)) → Stops isName after →
      (readSource (lead ++ (word.text ++ after))).shown =
        (readSource (lead ++ '\x7b' :: (value ++ '\x7d' :: after))).shown) ∧
    (∀ (blocks : List Block) (lead after : Text) (owner : Owner) (before : List Text)
      (word : Word isName), Place [] lead blocks owner before →
      (∀ block ∈ blocks, block.name? ≠ some (Text.lowerAscii word.text)) → Stops isName after →
      part? (definedBy [] blocks) (word.text ++ after) = some (word.text, after) ∧
        (readSource (lead ++ (word.text ++ after))).shown =
          (readSource (lead ++ '\x7b' :: (word.text ++ '\x7d' :: after))).shown) ∧
    (∀ (blocks : List Block) (text rest more : Text), Reads [] text blocks rest →
      (readSource (text ++ more)).shown =
        (readFrom (definedBy [] blocks) 0 (rest ++ more)).shown.after
          (blocks.flatMap Block.shown)) ∧
    (∀ (earlier between : List Block) (text lead name value : Text) (owner : Owner)
      (before : List Text),
      Follows earlier text (.abbreviation name value) between lead owner before →
      (∃ parts, value = rendered parts ∧ ∀ others part later, parts = others ++ part :: later →
        ∃ front more after, text = front ++ more ∧
          BlockPlace (definedBy [] earlier) front (.definition name) others ∧
          part? (definedBy [] earlier) more = some (part, after)) ∧
      ∀ (word : Word isName) (after : Text), Text.lowerAscii word.text = name →
        (∀ other ∈ between, other.name? ≠ some name) → Stops isName after →
        Place [] lead (earlier ++ .abbreviation name value :: between) owner before ∧
          part? (definedBy [] (earlier ++ .abbreviation name value :: between))
            (word.text ++ after) = some (value, after)) ∧
    (∀ (text name part : Text) (record : Located) (fields later : List RawField)
      (before others : List Text), record ∈ (readSource text).records →
      record.fields = fields ++ (name, before ++ part :: others) :: later →
      StandsIn text (.record record.key fields name) before part) ∧
    (∀ (text name value : Text), (name, value) ∈ (readSource text).abbreviations →
      ∃ parts, value = rendered parts ∧ ∀ before part others, parts = before ++ part :: others →
        StandsIn text (.definition name) before part) ∧
    (∀ (earlier between : List Block) (block : Block) (lead : Text) (owner : Owner)
      (before : List Text), Place [] lead (earlier ++ block :: between) owner before ↔
        ∃ text, Follows earlier text block between lead owner before) := by
  refine ⟨?inForce, ?undefined, ?earlier, ?chained, ?records, ?definitions, ?blocks⟩
  case inForce =>
    intro earlier between text lead after value block owner before word follows defines kept stops
    obtain ⟨rest, read⟩ := follows.read
    obtain rfl := defines.eq_of_read read
    obtain ⟨-, braced, -⟩ := defines
    refine follows.place.shown_word word stops (part?_of_group braced after) ?_
    rw [expand_of_block kept, wording_rendered]
  case undefined =>
    intro blocks lead after owner before word place untouched stops
    have stays := expand_of_untouched untouched
    have grouped : part? (definedBy [] blocks) ('\x7b' :: (word.text ++ '\x7d' :: after)) =
        some (word.text, after) := by
      have balanced := balanced_of_isName word.made
      simpa [Part.text, Part.content] using
        (Part.group word.text balanced).read (List.forall_mem_nil _) stops
    refine ⟨?_, place.shown_word word stops grouped (congrArg (wording [·]) stays)⟩
    rw [word.read stops, stays]
  case earlier =>
    intro blocks text rest more reads
    exact (reads.append more).shown 0
  case chained =>
    intro earlier between text lead name value owner before follows
    obtain ⟨rest, read⟩ := follows.read
    refine ⟨exists_definitionPlace read, ?_⟩
    rintro word after rfl kept stops
    exact ⟨follows.place, by rw [word.read stops, expand_of_block kept]⟩
  case records =>
    intro text name part record fields later before others listed split
    exact standsIn_of_record listed split
  case definitions =>
    intro text name value listed
    exact standsIn_of_definition listed
  case blocks =>
    intro earlier between block lead owner before
    refine ⟨Place.follows, ?_⟩
    rintro ⟨text, follows⟩
    exact follows.place

/-- A name is used in capitals in a part of a note, and reads as the group that it stands for. A
word that is not defined reads as itself in the same place. -/
theorem readSource_abbreviated_note :
    let definition : Text := "string\x7ba = \x7bThe \x7bT\x7dext\x7d\x7d @misc\x7bk, note = ".toList
    let lead : Text := '@' :: definition
    let value : Text := "The \x7bT\x7dext".toList
    let after : Text := " # \x7bnow\x7d\x7d".toList
    let block : Block := .abbreviation ['a'] "The Text".toList
    let owner : Owner := .record ['k'] [] "note".toList
    (Follows [] definition block [] lead owner [] ∧ DefinesGroup [] ['a'] value definition ∧
      Stops isName after) ∧
    (readSource (lead ++ ('A' :: after))).shown =
      (readSource (lead ++ '\x7b' :: (value ++ '\x7d' :: after))).shown ∧
    (readSource (lead ++ ('b' :: after))).shown =
      (readSource (lead ++ '\x7b' :: 'b' :: '\x7d' :: after)).shown ∧
    part? (definedBy [] [block]) ('A' :: after) = some ("The Text".toList, after) := by
  intro definition lead value after block owner
  let rest : Text := " @misc\x7bk, note = ".toList
  let body : Text := "misc\x7bk, note = ".toList
  have headed : header? body = some ("misc".toList, '\x7b', "k, note = ".toList) := by
    decide +kernel
  have blank (known : Abbreviations) : ValuePlace known [' '] [] := .first rfl
  have named : FieldPlace [(['a'], "The Text".toList)] "note = ".toList "note".toList [] :=
    .value (by decide +kernel) (by rfl) (blank _)
  have listed : FieldsPlace [(['a'], "The Text".toList)] " note = ".toList [] "note".toList [] :=
    .here named
  have place : BlockPlace [(['a'], "The Text".toList)] body owner [] :=
    .record headed (by decide) (by rfl) listed
  have found : seek .blank lead = '@' :: definition := by decide +kernel
  have read : block? [] definition = some (block, rest) := by decide +kernel
  have sought : seek .blank rest = '@' :: body := by decide +kernel
  have follows : Follows [] definition block [] lead owner [] :=
    .after .done found read (.inside .done sought place)
  have header : header? "string\x7ba = ".toList =
      some ("string".toList, '\x7b', "a = ".toList) := by
    decide +kernel
  have defined : FieldPlace [] "a = ".toList ['a'] [] :=
    .value (by decide +kernel) (by rfl) (blank _)
  have opened : BlockPlace [] "string\x7ba = ".toList (.definition ['a']) [] :=
    .definition header (by decide) defined
  have braced : balanced? '\x7b' '\x7d' 0 (value ++ '\x7d' :: '\x7d' :: rest) =
      some (value, '\x7d' :: rest) := by
    decide +kernel
  have defines : DefinesGroup [] ['a'] value definition := .group opened braced (by decide +kernel)
  have stops : Stops isName after := stops_cons (by decide) _
  let capital : Word isName := ⟨['A'], by decide, List.all_eq_true.mp (by decide)⟩
  let other : Word isName := ⟨['b'], by decide, List.all_eq_true.mp (by decide)⟩
  obtain ⟨inForce, undefined, -, chained, -⟩ := readSource_abbreviated
  refine ⟨⟨follows, defines, stops⟩, ?_, ?_, ?_⟩
  · exact inForce [] [] definition lead after value block owner [] capital follows defines
      (List.forall_mem_nil _) stops
  · exact (undefined [block] lead after owner [] other follows.place (by decide) stops).2
  · exact ((chained [] [] definition lead ['a'] _ owner [] follows).2 capital after rfl
      (List.forall_mem_nil _) stops).2

end Citations.Record
