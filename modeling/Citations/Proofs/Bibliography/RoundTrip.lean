import Citations.Proofs.Bibliography.Appending
import Citations.Proofs.Bibliography.Headers

/-!
# Reading what was written

Each reader takes back what the writer of the same part of a source put down, whatever follows
it, and stops right there. What follows only has to begin with a character that the part could
not go on with. Blanks are none of the characters of a kind, a name or a key, so a word ends at
its blanks; a part of a value ends where its braces or quotes close.
-/
namespace Citations.Record

variable {abbreviations : Abbreviations} {text rest : Text}

/-! ## Groups and quoted texts -/

/-- A group passes over a balanced text and stays as deep as it is. -/
theorem Balanced.passes (balanced : Balanced text) (depth : Nat) :
    Passes (balanced? '\x7b' '\x7d' depth) (balanced? '\x7b' '\x7d' depth) text := by
  induction balanced generalizing depth with
  | nil => exact Passes.refl _
  | plain shown opens closes _ ih => exact (balanced?_plain shown opens closes).trans (ih depth)
  | hidden c _ ih => exact (balanced?_hidden c).trans (ih depth)
  | group _ _ within later =>
    have opened := balanced?_opened (by decide) |>.trans (within (depth + 1))
    have closed := balanced?_closed (by decide) (by decide) |>.trans (later depth)
    exact opened.trans closed

/-- Inside braces, a quoted text passes over a balanced text and stays as deep as it is. -/
theorem Balanced.passes_quoted (balanced : Balanced text) (depth : Nat) :
    Passes (quoted? (depth + 1)) (quoted? (depth + 1)) text := by
  induction balanced generalizing depth with
  | nil => exact Passes.refl _
  | plain shown opens closes _ ih =>
    exact (quoted?_plain shown opens closes (by simp)).trans (ih depth)
  | hidden c _ ih => exact (quoted?_hidden c).trans (ih depth)
  | group _ _ within later =>
    have opened := quoted?_opened.trans (within (depth + 1))
    have closed := quoted?_closed.trans (later depth)
    exact opened.trans closed

/-- Outside braces, a quoted text passes over a text without a bare quote. -/
theorem Quotable.passes (quotable : Quotable text) : Passes (quoted? 0) (quoted? 0) text := by
  induction quotable with
  | nil => exact Passes.refl _
  | plain shown opens closes unquoted _ ih =>
    exact (quoted?_plain shown opens closes (by simp [unquoted])).trans ih
  | hidden c _ ih => exact (quoted?_hidden c).trans ih
  | group within _ ih =>
    have opened := quoted?_opened.trans (within.passes_quoted 0)
    have closed := quoted?_closed.trans ih
    exact opened.trans closed

/-! ## Values -/

/-- A word is defined when a definition has its name in small letters. -/
def Abbreviations.Defines (abbreviations : Abbreviations) (word : Text) : Prop :=
  ∃ definition ∈ abbreviations, definition.1 = Text.lowerAscii word

/-- A word that is not defined stands for itself. -/
theorem Abbreviations.expand_of_undefined {word : Text}
    (undefined : ¬ abbreviations.Defines word) : abbreviations.expand word = word := by
  have absent : abbreviations.find? (·.1 = Text.lowerAscii word) = none := by
    refine List.find?_eq_none.mpr fun definition listed same => ?_
    exact undefined ⟨definition, listed, of_decide_eq_true same⟩
  rw [expand, absent]

/-- A part begins with no blank. -/
theorem Part.stops_isLayout (part : Part) (rest : Text) : Stops isLayout (part.text ++ rest) := by
  cases part with
  | group content balanced => exact stops_cons (by decide) _
  | quoted content quotable => exact stops_cons (by decide) _
  | word content => exact content.stops blankless_isName rest

/-- A bare word is read as what it stands for, up to a text that does not go on with it. -/
theorem Word.read (word : Word isName) (stops : Stops isName rest) :
    part? abbreviations (word.text ++ rest) = some (abbreviations.expand word.text, rest) := by
  obtain ⟨text, nonempty, made⟩ := word
  have taken := takeWhile_stops made stops
  have left := dropWhile_stops made stops
  cases text with
  | nil => contradiction
  | cons c others =>
    have named := made c List.mem_cons_self
    have noBrace : c ≠ '\x7b' := by
      rintro rfl
      contradiction
    have noQuote : c ≠ '"' := by
      rintro rfl
      contradiction
    rw [List.cons_append] at taken left
    rw [List.dropWhile_cons_of_pos named] at left
    rw [List.cons_append, part?, if_neg noBrace, if_neg noQuote, if_pos named, taken, left]

/-- A part that was written is read, up to a text that does not go on with a word. -/
theorem Part.read (part : Part) (undefined : ∀ word ∈ part.words, ¬ abbreviations.Defines word)
    (stops : Stops isName rest) :
    part? abbreviations (part.text ++ rest) = some (part.content, rest) := by
  cases part with
  | group content balanced =>
    have grouped := balanced.passes 0 ('\x7d' :: rest)
    rw [balanced?_ended (by decide) (by decide)] at grouped
    simpa [Part.text, Part.content, part?] using grouped
  | quoted content quotable =>
    have inQuotes := quotable.passes ('"' :: rest)
    rw [quoted?_ended] at inQuotes
    simpa [Part.text, Part.content, part?] using inQuotes
  | word content =>
    have stays := Abbreviations.expand_of_undefined (undefined content.text (by simp [Part.words]))
    rw [Part.text, content.read stops, stays]
    rfl

/-- Whether a value could go on with a character. -/
def continuesValue (c : Char) : Bool := isLayout c || isName c || c = '#'

/-- A value ends where no blank, no name and no number sign follows. -/
theorem stops_of_continuesValue (ends : Stops continuesValue rest) :
    Stops isLayout rest ∧ Stops isName rest ∧ rest.head? ≠ some '#' := by
  have each (c : Char) (first : c ∈ rest.head?) :
      isLayout c = false ∧ isName c = false ∧ c ≠ '#' := by
    simpa [continuesValue, and_assoc] using ends c first
  exact ⟨fun c first => (each c first).1, fun c first => (each c first).2.1,
    fun first => (each '#' first).2.2 rfl⟩

/-- A part with the blanks around it is read up to a text that begins with no blank and no
name. -/
theorem SpacedPart.read (spaced : SpacedPart) (rest : Text)
    (undefined : ∀ word ∈ spaced.part.words, ¬ abbreviations.Defines word)
    (blankless : Stops isLayout rest) (nameless : Stops isName rest) :
    part? abbreviations (skipLayout (spaced.text ++ rest)) =
        some (spaced.part.content, spaced.after.text ++ rest) ∧
      skipLayout (spaced.after.text ++ rest) = rest := by
  have ends := spaced.after.stops blankless_isName nameless
  constructor
  · rw [SpacedPart.text, List.append_assoc, List.append_assoc,
      spaced.before.skip (spaced.part.stops_isLayout _), spaced.part.read undefined ends]
  · exact spaced.after.skip blankless

/-- A value that was written is read. -/
theorem WrittenValue.read (value : WrittenValue)
    (undefined : ∀ word ∈ value.words, ¬ abbreviations.Defines word)
    (ends : Stops continuesValue rest) :
    value? abbreviations (value.text ++ rest) = some (value.parts, rest) := by
  induction value with
  | last spaced =>
    obtain ⟨blankless, nameless, single⟩ := stops_of_continuesValue ends
    obtain ⟨taken, left⟩ := spaced.read rest undefined blankless nameless
    rw [WrittenValue.text, value?_of_last taken (by rwa [left]), left]
    rfl
  | joined spaced others ih =>
    have first : ∀ word ∈ spaced.part.words, ¬ abbreviations.Defines word :=
      fun word listed => undefined word (List.mem_append_left _ listed)
    have later : ∀ word ∈ others.words, ¬ abbreviations.Defines word :=
      fun word listed => undefined word (List.mem_append_right _ listed)
    obtain ⟨taken, left⟩ := spaced.read ('#' :: (others.text ++ rest)) first
      (stops_cons (by decide) _) (stops_cons (by decide) _)
    rw [WrittenValue.text, List.append_assoc, List.cons_append, value?_of_joined taken left,
      ih later]
    rfl

/-! ## Fields and records -/

/-- A field that was written is read after its blanks. -/
theorem WrittenField.read (field : WrittenField) (rest : Text)
    (undefined : ∀ word ∈ field.value.words, ¬ abbreviations.Defines word)
    (ends : Stops continuesValue rest) :
    (∀ c ∈ (skipLayout (field.text ++ rest)).head?, isName c = true) ∧
      field? abbreviations (skipLayout (field.text ++ rest)) = some (field.content, rest) := by
  have laidOut : skipLayout (field.text ++ rest) =
      field.name.text ++ (field.after.text ++ '=' :: (field.value.text ++ rest)) := by
    simp only [WrittenField.text, List.append_assoc, List.cons_append]
    exact field.before.skip (field.name.stops blankless_isName _)
  have nameEnds : Stops isName (field.after.text ++ '=' :: (field.value.text ++ rest)) :=
    field.after.stops blankless_isName (stops_cons (by decide) _)
  rw [laidOut]
  constructor
  · exact fun c first => field.name.made c (field.name.mem_of_head? first)
  · refine field?_eq_some.mpr ?_
    rw [takeWhile_stops field.name.made nameEnds, dropWhile_stops field.name.made nameEnds]
    exact ⟨field.name.nonempty, rfl, field.value.text ++ rest,
      field.after.skip (stops_cons (by decide) _), field.value.read undefined ends⟩

/-- No value goes on with a closing delimiter, and it is no comma. -/
theorem Delimiters.closer_apart (delimiters : Delimiters) :
    continuesValue delimiters.closer = false ∧ delimiters.closer ≠ ',' := by
  cases delimiters <;> decide

/-- What stands after a key or a field begins with a comma or the closing delimiter. -/
theorem listing_stops {p : Char → Bool} {closer : Char} (comma : p ',' = false)
    (closes : p closer = false) (trailing? : Option Layout) (fields : List WrittenField)
    (rest : Text) : Stops p (listing closer trailing? fields ++ rest) := by
  cases fields with
  | nil =>
    cases trailing? with
    | none => exact stops_cons closes _
    | some blanks => exact stops_cons comma _
  | cons field fields => exact stops_cons comma _

/-- No value goes on with what stands after a key or a field. -/
theorem listing_ends (delimiters : Delimiters) (trailing? : Option Layout)
    (fields : List WrittenField) (rest : Text) :
    Stops continuesValue (listing delimiters.closer trailing? fields ++ rest) :=
  listing_stops (by decide) delimiters.closer_apart.1 trailing? fields rest

/-- Fields that were written are read after the first comma. -/
theorem fields?_listing (delimiters : Delimiters) (trailing? : Option Layout)
    (fields : List WrittenField) (rest : Text)
    (undefined : ∀ field ∈ fields, ∀ word ∈ field.value.words, ¬ abbreviations.Defines word) :
    fields? abbreviations delimiters.closer
        (dropComma (listing delimiters.closer trailing? fields ++ rest)) =
      some (fields.map WrittenField.content, rest) := by
  have closes : Stops isLayout (delimiters.closer :: rest) :=
    (stops_of_continuesValue (stops_cons delimiters.closer_apart.1 rest)).1
  -- Each round of the reader begins behind the comma of a field, which need not be there, so the
  -- induction is on what is left without it.
  induction fields with
  | nil =>
    refine fields?_of_closed ?_
    cases trailing? with
    | none =>
      change skipLayout (dropComma (delimiters.closer :: rest)) = delimiters.closer :: rest
      rw [dropComma_of_ne delimiters.closer_apart.2]
      exact skipLayout_of_stops closes
    | some blanks =>
      change skipLayout (blanks.text ++ [delimiters.closer] ++ rest) = delimiters.closer :: rest
      rw [List.append_assoc]
      exact blanks.skip closes
  | cons field fields ih =>
    have ends := listing_ends delimiters trailing? fields rest
    have later := ih fun other listed => undefined other (List.mem_cons_of_mem field listed)
    obtain ⟨named, taken⟩ := field.read (listing delimiters.closer trailing? fields ++ rest)
      (undefined field List.mem_cons_self) ends
    have opened : (skipLayout (field.text ++
        (listing delimiters.closer trailing? fields ++ rest))).head? ≠ some delimiters.closer := by
      intro first
      have noName := (stops_of_continuesValue (stops_cons delimiters.closer_apart.1 [])).2.1
      have isNamed := named delimiters.closer first
      rw [noName delimiters.closer rfl] at isNamed
      contradiction
    have unspaced := skipLayout_of_stops (stops_of_continuesValue ends).1
    change fields? abbreviations delimiters.closer
      (field.text ++ listing delimiters.closer trailing? fields ++ rest) = _
    rw [List.append_assoc, fields?_of_field opened taken, unspaced, later]
    rfl

/-- A key and fields that were written are read. -/
theorem record?_written (delimiters : Delimiters) (beforeKey afterKey : Layout)
    (key : Word (isKey delimiters.closer)) (trailing? : Option Layout)
    (fields : List WrittenField) (rest : Text)
    (undefined : ∀ field ∈ fields, ∀ word ∈ field.value.words, ¬ abbreviations.Defines word) :
    record? abbreviations delimiters.closer
        (beforeKey.text ++ (key.text ++ (afterKey.text ++
          (listing delimiters.closer trailing? fields ++ rest)))) =
      some (.record key.text (fields.map WrittenField.content), rest) := by
  have read := fields?_listing delimiters trailing? fields rest undefined
  have blankless := (stops_of_continuesValue (listing_ends delimiters trailing? fields rest)).1
  have keyless : Stops (isKey delimiters.closer)
      (listing delimiters.closer trailing? fields ++ rest) :=
    listing_stops (by simp [isKey]) (by simp [isKey]) trailing? fields rest
  have keyEnds := afterKey.stops (blankless_isKey delimiters.closer) keyless
  have keyBegins := beforeKey.skip (key.stops (blankless_isKey delimiters.closer)
    (afterKey.text ++ (listing delimiters.closer trailing? fields ++ rest)))
  refine record?_eq_some.mpr ⟨fields.map WrittenField.content, ?_, ?_⟩
  · rw [keyBegins, takeWhile_stops key.made keyEnds]
  · rw [keyBegins, dropWhile_stops key.made keyEnds, afterKey.skip blankless]
    cases fields with
    | nil =>
      cases trailing? with
      | none => exact Or.inr ⟨rfl, delimiters.closer_apart.2, rfl⟩
      | some blanks => exact Or.inl ⟨_, rfl, read⟩
    | cons field fields => exact Or.inl ⟨_, rfl, read⟩

namespace WrittenRecord

variable (record : WrittenRecord)

/-- The header of a record, with nothing but blanks around the kind. -/
def header : Header where
  before := record.beforeKind.text
  kind := record.kind
  after := record.afterKind.text
  delimiters := record.delimiters
  lettered := record.lettered
  blankBefore := fun c listed => isBlank_of_isLayout (record.beforeKind.blank c listed)
  blankAfter := fun c listed => isBlank_of_isLayout (record.afterKind.blank c listed)

/-- A record after its at sign is a header and the rest. -/
theorem body_append (rest : Text) :
    record.body ++ rest = record.header.text ++ (record.inside ++ rest) := by
  simp only [body, header, Header.text, List.append_assoc, List.cons_append, List.nil_append]

/-- The header of a record that was written is read. -/
theorem header?_body (rest : Text) :
    header? (record.body ++ rest) =
      some (record.kind.text, record.delimiters.opener, record.inside ++ rest) := by
  have plain := record.header.plain_iff.mpr ⟨record.beforeKind.blank, record.afterKind.blank⟩
  rw [body_append, record.header.header?_of_plain _ plain]
  rfl

/-- The at sign of a record that was written starts a block. -/
theorem starts_body (rest : Text) : starts (record.body ++ rest) = true := by
  rw [body_append]
  exact record.header.starts_text _

/-- A record that was written is read as a block. -/
theorem block?_body (undefined : ∀ word ∈ record.words, ¬ abbreviations.Defines word)
    (rest : Text) :
    block? abbreviations (record.body ++ rest) =
      some (.record record.key.text (record.fields.map WrittenField.content), rest) := by
  have ordinary : Text.lowerAscii record.kind.text ≠ "comment".toList ∧
      Text.lowerAscii record.kind.text ≠ "preamble".toList ∧
        Text.lowerAscii record.kind.text ≠ "string".toList := by
    simpa [reservedKinds] using record.ordinary
  have closes : closerOf record.delimiters.opener = record.delimiters.closer := by
    cases record.delimiters <;> rfl
  have fieldwise : ∀ field ∈ record.fields, ∀ word ∈ field.value.words,
      ¬ abbreviations.Defines word :=
    fun field listed word used => undefined word (List.mem_flatMap.mpr ⟨field, listed, used⟩)
  simp only [block?, header?_body, Option.bind_eq_bind, Option.bind_some, if_neg ordinary.1,
    if_neg ordinary.2.1, if_neg ordinary.2.2, closes, inside, List.append_assoc]
  exact record?_written record.delimiters record.beforeKey record.afterKey record.key
    record.trailing? record.fields rest fieldwise

end WrittenRecord

/-! ## Sources -/

/-- No block is found in a text without an at sign. -/
theorem seek_of_quiet (quiet : '@' ∉ text) (gap : Gap) : seek gap text = [] := by
  induction text generalizing gap with
  | nil => exact seek.eq_1 gap
  | cons c rest ih =>
    have other : c ≠ '@' := fun same => quiet (same ▸ List.mem_cons_self)
    rw [seek_cons, if_neg (by simp [other])]
    exact ih (fun listed => quiet (List.mem_cons_of_mem c listed)) _

/-- The record after free text is the next block. -/
theorem seek_gap (gap : FreeText) (record : WrittenRecord) (rest : Text) :
    seek .blank (gap.text ++ (record.text ++ rest)) = '@' :: (record.body ++ rest) := by
  have begins : (record.text ++ rest).head? = some '@' := rfl
  have ended := gap.ended.imp (fun empty => (⟨empty, rfl⟩ : _ ∧ Gap.blank.isOpen)) id
  rw [seek_append begins .blank ended, if_pos (seek_of_quiet gap.quiet .blank)]
  change seek .blank ('@' :: (record.body ++ rest)) = _
  rw [seek_cons, if_pos ⟨rfl, rfl, record.starts_body rest⟩]

/-- A source that was written reads as its records, whatever abbreviations are in force that none
of its words uses. -/
theorem readFrom_written (source : WrittenSource) (offset : Nat)
    (undefined : ∀ word ∈ source.words, ¬ abbreviations.Defines word) :
    readFrom abbreviations offset source.text =
      ⟨source.located offset, abbreviations, none⟩ := by
  induction source generalizing offset with
  | rest text quiet => exact readFrom_of_end (seek_of_quiet quiet .blank)
  | next gap record later ih =>
    have here : ∀ word ∈ record.words, ¬ abbreviations.Defines word :=
      fun word listed => undefined word (List.mem_append_left _ listed)
    have there : ∀ word ∈ later.words, ¬ abbreviations.Defines word :=
      fun word listed => undefined word (List.mem_append_right _ listed)
    have found := seek_gap gap record later.text
    have read := record.block?_body here later.text
    have next : offset + (gap.text ++ '@' :: record.body).length =
        offset + gap.text.length + record.text.length := by
      rw [List.length_append, ← Nat.add_assoc]
      rfl
    change readFrom abbreviations offset (gap.text ++ '@' :: (record.body ++ later.text)) = _
    rw [readFrom_behind found read, next]
    dsimp only [Block.define, Block.records]
    rw [ih _ there]
    rfl

/-- Reading undoes writing. Every source that can be written, with whatever delimiters, blanks,
forms of values, commas and free text, is accepted and reads as exactly its records in their
order: the place of each at sign, the key as it stands, and for each field the name in small
letters and the parts of its value as they stand. The same is so where abbreviations are in force
that define none of its bare words. -/
theorem readSource_written (source : WrittenSource) :
    readSource source.text = ⟨source.located 0, [], none⟩ ∧
      ∀ (abbreviations : Abbreviations) (offset : Nat),
        (∀ word ∈ source.words, ¬ abbreviations.Defines word) →
          readFrom abbreviations offset source.text =
            ⟨source.located offset, abbreviations, none⟩ := by
  refine ⟨readFrom_written source 0 ?_, fun _ offset => readFrom_written source offset⟩
  rintro word - ⟨definition, listed, -⟩
  cases listed

/-- No blanks. -/
def Layout.none : Layout := ⟨[], List.forall_mem_nil _⟩

/-- One blank. -/
def Layout.space : Layout := ⟨[' '], List.all_eq_true.mp (by decide)⟩

/-- A note and a record in parentheses, with a value of three parts and a comma after it. -/
def noteAndRecord : WrittenSource :=
  .next ⟨"Note\n".toList, by decide, Or.inr (by decide)⟩
    { beforeKind := .none
      kind := ⟨"Book".toList, by decide, List.all_eq_true.mp (by decide)⟩
      lettered := by decide
      ordinary := by decide
      afterKind := .none
      delimiters := .parentheses
      beforeKey := .none
      key := ⟨"k1".toList, by decide, List.all_eq_true.mp (by decide)⟩
      afterKey := .none
      fields :=
        [{ before := .space
           name := ⟨"Date".toList, by decide, List.all_eq_true.mp (by decide)⟩
           after := .space
           value :=
            .joined ⟨.space, .group "a".toList (.plain (by decide) (by decide) (by decide) .nil),
                .space⟩
              (.joined ⟨.none, .quoted "\\\"".toList (.hidden _ .nil), .none⟩
                (.last ⟨.none,
                  .word ⟨"jan".toList, by decide, List.all_eq_true.mp (by decide)⟩, .none⟩)) }]
      trailing? := some .space }
    (.rest [] (by decide))

/-- The note and the record are read, also where another word than theirs is defined. -/
theorem readSource_written_noteAndRecord :
    let known : Abbreviations := [("feb".toList, "February".toList)]
    noteAndRecord.text = "Note\n@Book(k1, Date = \x7ba\x7d #\"\\\"\"#jan, )".toList ∧
      (∀ word ∈ noteAndRecord.words, ¬ known.Defines word) ∧
      readFrom known 0 noteAndRecord.text =
        ⟨[⟨5, "k1".toList,
            [("date".toList, ["a".toList, "\\\"".toList, "jan".toList])]⟩], known, none⟩ := by
  intro known
  have undefined : ∀ word ∈ noteAndRecord.words, ¬ known.Defines word := by
    intro word used
    obtain rfl : word = "jan".toList := List.mem_singleton.mp used
    simp [known, Abbreviations.Defines, Text.lowerAscii]
  refine ⟨by decide, undefined, ?_⟩
  rw [(readSource_written noteAndRecord).2 known 0 undefined]
  rfl

end Citations.Record
