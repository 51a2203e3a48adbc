import Citations.Proofs.Bibliography.RoundTrip

/-!
# The places of values

A part of a value stands at a place in its source, and what is in front of the place can be read
on its own: the blocks before, and the block that the value belongs to up to that part. Reading
the source is reading that and then what stands at the place, so that nothing before the place
depends on what follows it. Every part of every value that is read stands at a place.
-/
namespace Citations.Record

variable {known : Abbreviations} {text lead rest : Text} {closer sign : Char}
  {before parts : List Text} {part name : Text} {fields : List RawField} {blocks : List Block}

/-- What a value belongs to. -/
inductive Owner where
  /-- The field of a record with a key and other fields before. -/
  | record (key : Text) (fields : List RawField) (name : Text)
  /-- The name that an `@string` block defines. -/
  | definition (name : Text)

/-- The block with a value, and with other fields after it. -/
def Owner.block (parts : List Text) (others : List RawField) : Owner → Block
  | .record key fields name => .record key (fields ++ (name, parts) :: others)
  | .definition name => .abbreviation name (rendered parts)

/-- A part of a value is read next, after others. -/
inductive ValuePlace (known : Abbreviations) : Text → List Text → Prop where
  /-- It is the first one. -/
  | first {lead : Text} (blank : skipLayout lead = []) : ValuePlace known lead []
  /-- A part has been read, and a number sign after it. -/
  | next {lead rest later part : Text} {before : List Text}
      (taken : part? known (skipLayout lead) = some (part, rest))
      (joined : skipLayout rest = '#' :: later) (place : ValuePlace known later before) :
      ValuePlace known lead (part :: before)

/-- A part of the value of a field is read next: the name and an equals sign have been. -/
inductive FieldPlace (known : Abbreviations) : Text → Text → List Text → Prop where
  | value {lead rest : Text} {before : List Text} (named : lead.takeWhile isName ≠ [])
      (equals : skipLayout (lead.dropWhile isName) = '=' :: rest)
      (place : ValuePlace known rest before) :
      FieldPlace known lead (Text.lowerAscii (lead.takeWhile isName)) before

/-- A part of the value of a field is read next, after other fields. -/
inductive FieldsPlace (known : Abbreviations) : Text → List RawField → Text → List Text → Prop where
  /-- It is the first field. -/
  | here {lead name : Text} {before : List Text}
      (place : FieldPlace known (skipLayout lead) name before) :
      FieldsPlace known lead [] name before
  /-- A field has been read. -/
  | later {lead after name : Text} {field : RawField} {fields : List RawField} {before : List Text}
      (taken : field? known (skipLayout lead) = some (field, after))
      (place : FieldsPlace known (dropComma (skipLayout after)) fields name before) :
      FieldsPlace known lead (field :: fields) name before

/-- A part of a value of a block is read next: the header has been, and the key if it is a
record. -/
inductive BlockPlace (known : Abbreviations) : Text → Owner → List Text → Prop where
  /-- The value is a definition. -/
  | definition {lead kind rest name : Text} {opener : Char} {before : List Text}
      (headed : header? lead = some (kind, opener, rest))
      (isString : Text.lowerAscii kind = "string".toList)
      (place : FieldPlace known (skipLayout rest) name before) :
      BlockPlace known lead (.definition name) before
  /-- The value is that of a field. -/
  | record {lead kind rest inside name : Text} {opener : Char} {fields : List RawField}
      {before : List Text} (headed : header? lead = some (kind, opener, rest))
      (ordinary : Text.lowerAscii kind ∉ reservedKinds)
      (listed : skipLayout ((skipLayout rest).dropWhile (isKey (closerOf opener))) = ',' :: inside)
      (place : FieldsPlace known inside fields name before) :
      BlockPlace known lead
        (.record ((skipLayout rest).takeWhile (isKey (closerOf opener))) fields name) before

/-- Blocks have been read one after the other, and some text is left. -/
inductive Reads : Abbreviations → Text → List Block → Text → Prop where
  /-- None has been read yet. -/
  | done {known : Abbreviations} {text : Text} : Reads known text [] text
  /-- One has been read, and the others with what it defines. -/
  | block {known : Abbreviations} {text body after rest : Text} {sign : Char} {block : Block}
      {blocks : List Block} (found : seek .blank text = sign :: body)
      (read : block? known body = some (block, after))
      (later : Reads (block.define known) after blocks rest) :
      Reads known text (block :: blocks) rest

/-- What is defined once blocks have been read. -/
def definedBy (known : Abbreviations) (blocks : List Block) : Abbreviations :=
  blocks.foldl Block.define known

/-- A part of a value is read next, after some blocks. -/
inductive Place (known : Abbreviations) (lead : Text) (blocks : List Block) (owner : Owner)
    (before : List Text) : Prop where
  | inside {rest body : Text} {sign : Char} (reads : Reads known lead blocks rest)
      (found : seek .blank rest = sign :: body)
      (place : BlockPlace (definedBy known blocks) body owner before)

/-! ## Reading on from a place -/

/-- What is read of a value after its first part. -/
def valueAfter? (known : Abbreviations) (text : Text) : Option (List Text × Text) :=
  if (skipLayout text).head? = some '#' then value? known (skipLayout text).tail
  else some ([], skipLayout text)

/-- A value is its first part and what is read after it. -/
theorem value?_eq (text : Text) :
    value? known text = (part? known (skipLayout text)).bind fun (part, rest) =>
      (valueAfter? known rest).map fun (parts, after) => (part :: parts, after) := by
  cases read : part? known (skipLayout text) with
  | none =>
    rw [value?]
    split
    · rfl
    · simp_all
  | some found =>
    obtain ⟨part, rest⟩ := found
    simp only [Option.bind_some, valueAfter?]
    split
    · next joined =>
      obtain ⟨next, joined⟩ := List.head?_eq_some_iff.mp joined
      rw [value?_of_joined read joined, joined, List.tail_cons]
    · next last => rw [value?_of_last read last, Option.map_some]

/-- A value whose first part is read goes on after it. -/
theorem value?_of_part (taken : part? known (skipLayout text) = some (part, rest)) :
    value? known text =
      (valueAfter? known rest).map fun (parts, after) => (part :: parts, after) := by
  rw [value?_eq, taken]
  rfl

/-- Blanks in front of a text are skipped with those that it begins with. -/
theorem skipLayout_append_of_blank (blank : skipLayout text = []) (more : Text) :
    skipLayout (text ++ more) = skipLayout more := by
  rw [skipLayout] at blank
  rw [skipLayout, List.dropWhile_append, blank]
  rfl

/-- From a place in a value the rest of it is read. -/
theorem ValuePlace.read (place : ValuePlace known lead before) (more : Text) :
    value? known (lead ++ more) =
      (value? known more).map fun (parts, after) => (before ++ parts, after) := by
  induction place with
  | first blank =>
    rw [value?_eq, value?_eq, skipLayout_append_of_blank blank]
    simp
  | next taken joined place ih =>
    obtain ⟨front, split, again⟩ := part?_between_blanks taken
    rw [joined] at split again
    obtain ⟨after, found, left⟩ := again ('#' :: (_ ++ more)) rfl
    rw [split, List.append_assoc, List.cons_append, value?_of_joined found left, ih,
      Option.map_map]
    rfl

/-- A field is a name and a value. -/
theorem field?_of_named {next : Text} (named : text.takeWhile isName ≠ [])
    (equals : skipLayout (text.dropWhile isName) = '=' :: next) :
    field? known text = (value? known next).map fun (parts, after) =>
      ((Text.lowerAscii (text.takeWhile isName), parts), after) := by
  rw [field?, if_neg named, equals]
  cases read : value? known next <;> simp [Text.expect?, read]

/-- From a place in a field the rest of its value is read. -/
theorem FieldPlace.read (place : FieldPlace known lead name before) (more : Text) :
    field? known (lead ++ more) =
      (value? known more).map fun (parts, after) => ((name, before ++ parts), after) := by
  obtain ⟨named, equals, place⟩ := place
  rename_i rest
  obtain ⟨front, split, again⟩ := word_takes equals
  have whole : lead ++ more = front ++ '=' :: (rest ++ more) := by
    rw [split, List.append_assoc, List.cons_append]
  obtain ⟨sameName, after⟩ := again (rest ++ more)
  rw [← whole] at sameName after
  rw [field?_of_named (sameName ▸ named) after, sameName, place.read, Option.map_map]
  rfl

/-- A name stands in front of a place in a field. -/
theorem FieldPlace.named (place : FieldPlace known lead name before) :
    ∃ c ∈ lead.head?, isName c = true := by
  obtain ⟨named, -, -⟩ := place
  exact head?_of_takeWhile named

/-- A field that is read begins with a name. -/
theorem named_of_field? {field : RawField} (read : field? known text = some (field, rest)) :
    ∃ c ∈ text.head?, isName c = true :=
  head?_of_takeWhile (field?_eq_some.mp read).1

/-- A name stands somewhere in front of a place in the fields of a record. -/
theorem FieldsPlace.ne_nil (place : FieldsPlace known lead fields name before) : lead ≠ [] := by
  rintro rfl
  have blank : skipLayout [] = [] := rfl
  cases place with
  | here place =>
    obtain ⟨c, first, -⟩ := place.named
    contradiction
  | later taken =>
    obtain ⟨c, first, -⟩ := named_of_field? taken
    contradiction

/-- What a name begins is not closed. -/
theorem opened_of_named (nameless : isName closer = false)
    (named : ∃ c ∈ text.head?, isName c = true) : text.head? ≠ some closer := by
  intro first
  obtain ⟨c, begins, isNamed⟩ := named
  obtain rfl := Option.some.inj (first.symm.trans begins)
  simp [nameless] at isNamed

/-- The fields are their first one and those after it. -/
theorem fields?_eq (opened : (skipLayout text).head? ≠ some closer) :
    fields? known closer text = (field? known (skipLayout text)).bind fun (field, after) =>
      (fields? known closer (dropComma (skipLayout after))).map
        fun (fields, last) => (field :: fields, last) := by
  cases read : field? known (skipLayout text) with
  | some found => exact fields?_of_field opened read
  | none =>
    rw [fields?]
    split
    · rfl
    · next c tail kept =>
      rw [kept] at opened read
      rw [if_neg (by simpa using opened)]
      split <;> simp_all

/-- Blanks in front of a text that goes on are skipped in front of more text as well. -/
theorem skipLayout_append (left : (skipLayout text).head?.isSome) (more : Text) :
    skipLayout (text ++ more) = skipLayout text ++ more := by
  have goesOn : ¬ (text.dropWhile isLayout).isEmpty = true := by
    rw [List.isEmpty_iff]
    intro empty
    rw [skipLayout, empty] at left
    contradiction
  rw [skipLayout, List.dropWhile_append, if_neg goesOn]
  rfl

/-- From a place in the fields of a record the rest of the value is read, and then the fields
after it. -/
theorem FieldsPlace.read (place : FieldsPlace known lead fields name before)
    (nameless : isName closer = false) (more : Text) :
    fields? known closer (lead ++ more) = (value? known more).bind fun (parts, after) =>
      (fields? known closer (dropComma (skipLayout after))).map
        fun (others, last) => (fields ++ (name, before ++ parts) :: others, last) := by
  induction place with
  | @here lead name before place =>
    obtain ⟨c, first, named⟩ := place.named
    have split := skipLayout_append (Option.isSome_of_mem first) more
    have begins : (skipLayout lead ++ more).head? = some c := by
      rw [List.head?_append, first, Option.some_or]
    rw [fields?_eq, split, place.read, Option.bind_map]
    · rfl
    · rw [split]
      exact opened_of_named nameless ⟨c, begins, named⟩
  | @later lead after name field fields before taken place ih =>
    obtain ⟨front, split, again⟩ := field?_between_blanks taken
    have same :
        (dropComma (skipLayout after) ++ more).head? = (dropComma (skipLayout after)).head? :=
      List.head?_append_of_ne_nil _ place.ne_nil
    obtain ⟨begins, after, found, left⟩ := again _ same
    rw [← List.append_assoc, ← split] at begins found
    have opened := opened_of_named nameless (named_of_field? found)
    rw [fields?_of_field opened found, left, ih, Option.map_bind]
    congr 1
    funext found
    obtain ⟨parts, after⟩ := found
    rw [Function.comp_apply, Option.map_map]
    rfl

/-- No name has a closing delimiter. -/
theorem nameless_closerOf (opener : Char) : isName (closerOf opener) = false := by
  unfold closerOf
  split <;> rfl

/-- From a place in a block the rest of the value is read, and then the rest of the block. -/
theorem BlockPlace.read {owner : Owner} (place : BlockPlace known lead owner before) :
    ∃ ending : Text → Option (List RawField × Text), ∀ more,
      block? known (lead ++ more) = (value? known more).bind fun (parts, after) =>
        (ending after).map fun (others, last) => (owner.block (before ++ parts) others, last) := by
  cases place with
  | definition headed isString place =>
    rename_i kind rest name opener
    obtain ⟨header, rfl, heads⟩ := header?_takes headed
    obtain ⟨c, first, named⟩ := place.named
    have split := skipLayout_append (Option.isSome_of_mem first)
    refine ⟨fun after => (Text.expect? (closerOf opener) (skipLayout after)).map ([], ·),
      fun more => ?_⟩
    have comment : "string".toList ≠ "comment".toList := by decide
    have preamble : "string".toList ≠ "preamble".toList := by decide
    simp only [block?, List.append_assoc, heads, Option.bind_eq_bind, Option.bind_some, isString,
      if_neg comment, if_neg preamble, if_true, split, place.read, Option.bind_map]
    congr 1
    funext found
    obtain ⟨parts, after⟩ := found
    rw [Function.comp_apply, Option.map_map, Option.map_eq_bind]
    rfl
  | record headed ordinary listed place =>
    rename_i kind rest inside name opener fields
    obtain ⟨header, rfl, heads⟩ := header?_takes headed
    obtain ⟨front, split, again⟩ := word_between_blanks listed
    refine ⟨fun after => fields? known (closerOf opener) (dropComma (skipLayout after)),
      fun more => ?_⟩
    obtain ⟨sameKey, after⟩ := again (inside ++ more)
    have kinds : Text.lowerAscii kind ≠ "comment".toList ∧
        Text.lowerAscii kind ≠ "preamble".toList ∧ Text.lowerAscii kind ≠ "string".toList := by
      simpa [reservedKinds] using ordinary
    have whole : rest ++ more = front ++ ',' :: (inside ++ more) := by
      rw [split, List.append_assoc, List.cons_append]
    rw [← whole] at sameKey after
    simp only [block?, List.append_assoc, heads, Option.bind_eq_bind, Option.bind_some,
      if_neg kinds.1, if_neg kinds.2.1, if_neg kinds.2.2, record?, after, if_pos, sameKey,
      place.read (nameless_closerOf opener), Option.map_bind]
    congr 1
    funext found
    obtain ⟨parts, after⟩ := found
    rw [Function.comp_apply, Option.map_map]
    rfl

/-! ## Seeking the next block -/

/-- Whether an at sign starts a block depends on the kind, where there is a header. -/
theorem starts_of_header {kind : Text} {opener : Char}
    (headed : header? text = some (kind, opener, rest)) :
    starts text = kind.head?.any Char.isAlpha := by
  obtain ⟨nonempty, rfl, kept, opens⟩ := header?_eq_some.mp headed
  obtain ⟨c, first, named⟩ := head?_of_takeWhile nonempty
  obtain ⟨tail, begins⟩ := List.head?_eq_some_iff.mp first
  have kindBegins : Stops Text.isBlank (skipLayout text) := by
    rw [begins]
    exact stops_cons (isBlank_of_isKind named) tail
  have opened : Stops Text.isBlank (opener :: rest) :=
    stops_cons (by rcases opens with rfl | rfl <;> decide) rest
  rw [starts, trimStart_eq_skipLayout kindBegins, trimStart_eq_skipLayout (kept ▸ opened), kept,
    begins, List.takeWhile_cons_of_pos named]
  rcases opens with rfl | rfl <;> simp

/-- A header starts a block or not whatever follows. -/
theorem starts_append_of_header {found : Text × Char × Text} (headed : header? text = some found)
    (more : Text) : starts (text ++ more) = starts text := by
  obtain ⟨kind, opener, rest⟩ := found
  obtain ⟨header, rfl, heads⟩ := header?_takes headed
  rw [starts_of_header headed, List.append_assoc, starts_of_header (heads (rest ++ more))]

/-- A block has a header. -/
theorem exists_header {block : Block} (read : block? known text = some (block, rest)) :
    ∃ found, header? text = some found := by
  obtain ⟨found, headed, -⟩ := Option.bind_eq_some_iff.mp read
  exact ⟨found, headed⟩

/-- What the text is made of after some text in which no block is found. -/
def Gap.over (gap : Gap) (text : Text) : Gap := text.foldl (fun gap c => gap.after c) gap

/-- An at sign that starts a block is found behind text in which none is, unless it stands in a
comment. -/
theorem seek_append_sign {gap : Gap} {body : Text} (quiet : seek gap text = [])
    (opened : (gap.over text).isOpen = true) (started : starts body = true) :
    seek gap (text ++ '@' :: body) = '@' :: body := by
  induction text generalizing gap with
  | nil =>
    rw [List.nil_append, seek_cons]
    exact if_pos ⟨opened, rfl, started⟩
  | cons c rest ih =>
    rw [seek_cons] at quiet
    split at quiet
    · contradiction
    · next further =>
      rw [List.cons_append, seek_cons, starts_append rfl, if_neg further]
      exact ih quiet opened

/-- What is sought begins with an at sign that starts a block, and in front of it no block is found
and no comment is open. -/
theorem seek_eq_sign {gap : Gap} {body : Text} (found : seek gap text = sign :: body) :
    sign = '@' ∧ starts body = true ∧ ∃ front, text = front ++ '@' :: body ∧
      seek gap front = [] ∧ (gap.over front).isOpen = true := by
  induction text generalizing gap with
  | nil =>
    rw [seek.eq_1] at found
    contradiction
  | cons c rest ih =>
    rw [seek_cons] at found
    split at found
    · next here =>
      obtain ⟨rfl, rfl⟩ := List.cons.inj found
      obtain ⟨opened, rfl, started⟩ := here
      exact ⟨rfl, started, [], rfl, seek.eq_1 gap, opened⟩
    · next further =>
      obtain ⟨isSign, started, front, split, quiet, opened⟩ := ih found
      rw [split, starts_append rfl] at further
      exact ⟨isSign, started, c :: front, by rw [split]; rfl,
        by rw [seek_cons, if_neg further, quiet], opened⟩

/-- What is sought begins with an at sign that starts a block, and is sought in the same way
whatever block starts there. -/
theorem seek_eq_cons {gap : Gap} {body : Text} (found : seek gap text = sign :: body) :
    sign = '@' ∧ starts body = true ∧ ∃ front, text = front ++ sign :: body ∧
      ∀ more, starts more = true → seek gap (front ++ sign :: more) = sign :: more := by
  obtain ⟨rfl, started, front, split, quiet, opened⟩ := seek_eq_sign found
  exact ⟨rfl, started, front, split, fun more starting => seek_append_sign quiet opened starting⟩

/-- The text up to the end of the next block is taken in the same way whatever follows it. -/
theorem next_block_takes {body after : Text} {block : Block}
    (found : seek .blank text = sign :: body) (read : block? known body = some (block, after)) :
    ∃ front taken, text = front ++ '@' :: (taken ++ after) ∧ body = taken ++ after ∧ ∀ more,
      seek .blank (front ++ '@' :: (taken ++ more)) = '@' :: (taken ++ more) ∧
        block? known (taken ++ more) = some (block, more) := by
  obtain ⟨rfl, started, front, split, again⟩ := seek_eq_cons found
  obtain ⟨taken, rfl, goesOn⟩ := block?_takes read
  have alone := goesOn []
  rw [List.append_nil] at alone
  obtain ⟨header, headed⟩ := exists_header alone
  refine ⟨front, taken, split, rfl, fun more => ⟨again _ ?_, goesOn more⟩⟩
  rw [starts_append_of_header headed, ← starts_append_of_header headed]
  exact started

/-- Blocks are read in the same way whatever follows them. -/
theorem Reads.takes (reads : Reads known text blocks rest) :
    ∃ taken, text = taken ++ rest ∧ ∀ more, Reads known (taken ++ more) blocks more := by
  induction reads with
  | done => exact ⟨[], rfl, fun more => .done⟩
  | block found read later ih =>
    obtain ⟨front, taken, split, -, again⟩ := next_block_takes found read
    obtain ⟨others, left, further⟩ := ih
    refine ⟨front ++ '@' :: (taken ++ others), ?_, fun more => ?_⟩
    · rw [split, left]
      simp only [List.append_assoc, List.cons_append]
    · obtain ⟨sought, goesOn⟩ := again (others ++ more)
      simp only [List.append_assoc, List.cons_append]
      exact .block sought goesOn (further more)

/-- Reading goes on with what is left. -/
theorem Reads.append (reads : Reads known text blocks rest) (more : Text) :
    Reads known (text ++ more) blocks (rest ++ more) := by
  obtain ⟨taken, rfl, again⟩ := reads.takes
  rw [List.append_assoc]
  exact again _

/-- Blocks are read after others, with what those define. -/
theorem Reads.trans {after : Text} {others : List Block} (first : Reads known text blocks rest)
    (next : Reads (definedBy known blocks) rest others after) :
    Reads known text (blocks ++ others) after := by
  induction first with
  | done => exact next
  | block found read later ih => exact .block found read (ih next)

/-- Blocks are read one after the other until none is found or one cannot be read. The reading has
their records and what they define. -/
theorem exists_reads (known : Abbreviations) (offset : Nat) (text : Text) :
    ∃ blocks rest, Reads known text blocks rest ∧
      (seek .blank rest = [] ∨ ∃ sign body, seek .blank rest = sign :: body ∧
        block? (definedBy known blocks) body = none) ∧
      (∀ record ∈ (readFrom known offset text).records,
        .record record.key record.fields ∈ blocks) ∧
      (readFrom known offset text).abbreviations = definedBy known blocks := by
  fun_induction readFrom known offset text with
  | case1 known offset text found => exact ⟨[], text, .done, Or.inl found, by simp, rfl⟩
  | case2 known offset text sign body found start failed =>
    exact ⟨[], text, .done, Or.inr ⟨sign, body, found, failed⟩, by simp, rfl⟩
  | case3 known offset text sign body found start block after read later ih =>
    obtain ⟨blocks, rest, reads, ends, listed, defined⟩ := ih
    refine ⟨block :: blocks, rest, .block found read reads, ends, fun record member => ?_, defined⟩
    rcases List.mem_append.mp member with here | further
    · cases block with
      | record key fields =>
        obtain rfl := List.mem_singleton.mp here
        exact List.mem_cons_self
      | abbreviation | ignored => cases here
    · exact List.mem_cons_of_mem block (listed record further)

/-- A header stands in front of a place in a block. -/
theorem BlockPlace.headed {owner : Owner} (place : BlockPlace known lead owner before) :
    ∃ found, header? lead = some found := by
  cases place with
  | definition headed => exact ⟨_, headed⟩
  | record headed => exact ⟨_, headed⟩

/-- From a place in a source the block that the value belongs to is read. -/
theorem Place.read {owner : Owner} (place : Place known lead blocks owner before) :
    ∃ (rest body : Text) (ending : Text → Option (List RawField × Text)), ∀ more,
      Reads known (lead ++ more) blocks (rest ++ more) ∧
      seek .blank (rest ++ more) = '@' :: (body ++ more) ∧
      block? (definedBy known blocks) (body ++ more) =
        (value? (definedBy known blocks) more).bind fun (parts, after) =>
          (ending after).map fun (others, last) => (owner.block (before ++ parts) others, last) := by
  obtain ⟨reads, found, place⟩ := place
  rename_i rest body sign
  obtain ⟨rfl, started, front, split, again⟩ := seek_eq_cons found
  obtain ⟨ending, block⟩ := place.read
  refine ⟨rest, body, ending, fun more => ⟨reads.append more, ?_, block more⟩⟩
  obtain ⟨header, headed⟩ := place.headed
  rw [split, List.append_assoc, List.cons_append]
  exact again _ ((starts_append_of_header headed more).trans started)

/-! ## The place of every part -/

/-- Each part of a value that is read stands at a place. -/
theorem exists_valuePlace {others : List Text}
    (read : value? known text = some (before ++ part :: others, rest)) :
    ∃ lead more after, text = lead ++ more ∧ ValuePlace known lead before ∧
      part? known more = some (part, after) := by
  induction before generalizing text with
  | nil =>
    rw [value?_eq] at read
    obtain ⟨⟨first, after⟩, taken, read⟩ := Option.bind_eq_some_iff.mp read
    obtain ⟨⟨parts, last⟩, -, same⟩ := Option.map_eq_some_iff.mp read
    obtain ⟨rfl, rfl⟩ := List.cons.inj (Prod.mk.inj same).1
    have blank : skipLayout (text.takeWhile isLayout) = [] :=
      List.dropWhile_eq_nil_iff.mpr fun c listed => List.mem_takeWhile_imp listed
    exact ⟨text.takeWhile isLayout, skipLayout text, after,
      List.takeWhile_append_dropWhile.symm, .first blank, taken⟩
  | cons first before ih =>
    rw [value?_eq] at read
    obtain ⟨⟨earlier, after⟩, taken, read⟩ := Option.bind_eq_some_iff.mp read
    obtain ⟨⟨parts, last⟩, found, same⟩ := Option.map_eq_some_iff.mp read
    obtain ⟨rfl, rfl⟩ := List.cons.inj (Prod.mk.inj same).1
    obtain rfl := (Prod.mk.inj same).2
    rw [valueAfter?] at found
    split at found
    · next joined =>
      obtain ⟨next, joined⟩ := List.head?_eq_some_iff.mp joined
      rw [joined, List.tail_cons] at found
      obtain ⟨lead, more, following, rfl, place, here⟩ := ih found
      obtain ⟨front, split, again⟩ := part?_between_blanks taken
      rw [joined] at split again
      obtain ⟨tail, read, left⟩ := again ('#' :: lead) rfl
      exact ⟨front ++ '#' :: lead, more, following,
        by rw [split, List.append_assoc, List.cons_append], .next read left place, here⟩
    · simp at found

/-- Each part of the value of a field that is read stands at a place. -/
theorem exists_fieldPlace {others : List Text}
    (read : field? known text = some ((name, before ++ part :: others), rest)) :
    ∃ lead more after, text = lead ++ more ∧ FieldPlace known lead name before ∧
      part? known more = some (part, after) := by
  obtain ⟨named, rfl, next, equals, valued⟩ := field?_eq_some.mp read
  obtain ⟨lead, more, after, rfl, place, here⟩ := exists_valuePlace valued
  obtain ⟨front, split, again⟩ := word_takes equals
  obtain ⟨sameName, goesOn⟩ := again lead
  refine ⟨front ++ '=' :: lead, more, after, ?_, ?_, here⟩
  · rw [split, List.append_assoc, List.cons_append]
  · rw [← sameName]
    exact .value (sameName ▸ named) goesOn place

/-- The first of the fields that are read, and those after it. -/
theorem fields?_eq_cons {field : RawField}
    (read : fields? known closer text = some (field :: fields, rest)) :
    ∃ after, field? known (skipLayout text) = some (field, after) ∧
      fields? known closer (dropComma (skipLayout after)) = some (fields, rest) := by
  have opened : (skipLayout text).head? ≠ some closer := by
    intro closed
    obtain ⟨tail, closed⟩ := List.head?_eq_some_iff.mp closed
    rw [fields?_of_closed closed] at read
    cases read
  rw [fields?_eq opened] at read
  obtain ⟨⟨first, after⟩, taken, read⟩ := Option.bind_eq_some_iff.mp read
  obtain ⟨⟨others, last⟩, found, same⟩ := Option.map_eq_some_iff.mp read
  obtain ⟨rfl, rfl⟩ := List.cons.inj (Prod.mk.inj same).1
  obtain rfl := (Prod.mk.inj same).2
  exact ⟨after, taken, found⟩

/-- Each part of the value of a field of a record stands at a place. -/
theorem exists_fieldsPlace {others : List Text} {later : List RawField}
    (read : fields? known closer text =
      some (fields ++ (name, before ++ part :: others) :: later, rest)) :
    ∃ lead more after, text = lead ++ more ∧ FieldsPlace known lead fields name before ∧
      part? known more = some (part, after) := by
  induction fields generalizing text with
  | nil =>
    obtain ⟨after, taken, -⟩ := fields?_eq_cons read
    obtain ⟨lead, more, following, split, place, here⟩ := exists_fieldPlace taken
    obtain ⟨blanks, whole, skips⟩ := skipLayout_peeks text
    obtain ⟨c, first, -⟩ := place.named
    have same : lead.head? = (skipLayout text).head? := by
      rw [split, List.head?_append, first, Option.some_or]
    refine ⟨blanks ++ lead, more, following, ?_, .here (by rwa [skips lead same]), here⟩
    rw [List.append_assoc, ← split, ← whole]
  | cons first fields ih =>
    obtain ⟨after, taken, found⟩ := fields?_eq_cons read
    obtain ⟨lead, more, following, split, place, here⟩ := ih found
    obtain ⟨front, whole, again⟩ := field?_between_blanks taken
    have same : lead.head? = (dropComma (skipLayout after)).head? := by
      rw [split, List.head?_append_of_ne_nil _ place.ne_nil]
    obtain ⟨-, next, read, left⟩ := again lead same
    refine ⟨front ++ lead, more, following, ?_, .later read (left ▸ place), here⟩
    rw [List.append_assoc, ← split, ← whole]

/-- Each part of a value of a record that is read stands at a place. -/
theorem exists_recordPlace {key : Text} {others : List Text} {later : List RawField}
    (read : block? known text =
      some (.record key (fields ++ (name, before ++ part :: others) :: later), rest)) :
    ∃ lead more after, text = lead ++ more ∧
      BlockPlace known lead (.record key fields name) before ∧
      part? known more = some (part, after) := by
  obtain ⟨kind, opener, body, headed, inside⟩ := block?_eq_some.mp read
  obtain ⟨header, rfl, heads⟩ := header?_takes headed
  rcases inside with ⟨-, made, -⟩ | ⟨-, made, -⟩ | ⟨-, _, _, _, made, -⟩ | ⟨ordinary, found⟩
  · cases made
  · cases made
  · cases made
  · obtain ⟨listing, made, ⟨next, kept, found⟩ | ⟨-, -, rfl⟩⟩ := record?_eq_some.mp found
    · obtain ⟨rfl, rfl⟩ := Block.record.inj made
      obtain ⟨lead, more, after, rfl, place, here⟩ := exists_fieldsPlace found
      obtain ⟨front, split, again⟩ := word_between_blanks kept
      obtain ⟨sameKey, goesOn⟩ := again lead
      refine ⟨header ++ (front ++ ',' :: lead), more, after, ?_, ?_, here⟩
      · rw [split]
        simp only [List.append_assoc, List.cons_append]
      · rw [← sameKey]
        exact .record (heads _) ordinary goesOn place
    · simp at made

/-- Each part of a definition that is read stands at a place. -/
theorem exists_definitionPlace {value : Text}
    (read : block? known text = some (.abbreviation name value, rest)) :
    ∃ parts, value = rendered parts ∧ ∀ before part others, parts = before ++ part :: others →
      ∃ lead more after, text = lead ++ more ∧ BlockPlace known lead (.definition name) before ∧
        part? known more = some (part, after) := by
  obtain ⟨kind, opener, body, headed, inside⟩ := block?_eq_some.mp read
  obtain ⟨header, rfl, heads⟩ := header?_takes headed
  rcases inside with ⟨-, made, -⟩ | ⟨-, made, -⟩ | ⟨isString, _, parts, after, made, found, -⟩ |
    ⟨-, found⟩
  · cases made
  · cases made
  · obtain ⟨rfl, rfl⟩ := Block.abbreviation.inj made
    refine ⟨parts, rfl, ?_⟩
    rintro before part others rfl
    obtain ⟨lead, more, following, split, place, here⟩ := exists_fieldPlace found
    obtain ⟨blanks, whole, skips⟩ := skipLayout_peeks body
    obtain ⟨c, first, -⟩ := place.named
    have same : lead.head? = (skipLayout body).head? := by
      rw [split, List.head?_append, first, Option.some_or]
    refine ⟨header ++ (blanks ++ lead), more, following, ?_, ?_, here⟩
    · rw [List.append_assoc, List.append_assoc, ← split, ← whole]
    · exact .definition (heads _) isString (by rwa [skips lead same])
  · obtain ⟨_, made, -⟩ := record?_eq_some.mp found
    cases made

/-- A part of the value of a block stands at a place in the source that the block is read from,
after the blocks before it. -/
theorem Reads.place {owner : Owner} {body more : Text} (reads : Reads known text blocks rest)
    (found : seek .blank rest = sign :: (body ++ more))
    (place : BlockPlace (definedBy known blocks) body owner before) :
    ∃ lead, text = lead ++ more ∧ Place known lead blocks owner before := by
  obtain ⟨taken, rfl, again⟩ := reads.takes
  obtain ⟨rfl, started, front, rfl, seeks⟩ := seek_eq_cons found
  obtain ⟨header, headed⟩ := place.headed
  refine ⟨taken ++ (front ++ '@' :: body), by simp, .inside (again _) (seeks _ ?_) place⟩
  rwa [starts_append_of_header headed] at started

end Citations.Record
