import Citations.Text.Blank
import Citations.Bibliography.Braces

/-!
# Records of a bibliography

A source in the record format holds blocks that start with an at sign and a kind:
`@article{key, name = value, ...}`, in braces or parentheses. A value is one part or several
joined by `#`; a part is a brace group, a quoted text or a bare word, which an earlier
`@string` block may define. Text between blocks is free, and a percent sign at the start of a
line begins a comment.

A reader takes a text and returns what it read with the text that follows. Reading a whole
source goes from block to block; it stops at the first block that cannot be read and says where
that block starts.
-/
namespace Citations.Record

/-- The blanks that may stand between the tokens of a block. -/
def isLayout (c : Char) : Bool := c == ' ' || c == '\t' || c == '\r' || c == '\n'

/-- What follows the blanks. -/
def skipLayout (text : Text) : Text := text.dropWhile isLayout

/-- Whether a character may stand in the kind of a block. -/
def isKind (c : Char) : Bool := c.isAlphanum || c == '_' || c == '-'

/-- Whether a character may stand in a field name or a bare word. -/
def isName (c : Char) : Bool :=
  c.isAlphanum || c == '_' || c == '-' || c == ':' || c == '.' || c == '+'

/-- Whether a character may stand in a key, in a block that ends with `closer`. -/
def isKey (closer c : Char) : Bool := !Text.isBlank c && c != ',' && c != closer

/-- What `@string` blocks define, the latest first. -/
abbrev Abbreviations := List (Text × Text)

/-- What a word stands for. -/
def Abbreviations.expand (abbreviations : Abbreviations) (word : Text) : Text :=
  match abbreviations.find? (·.1 = Text.lowerAscii word) with
  | some (_, value) => value
  | none => word

/-- The text up to the delimiter that matches one already open, and what follows it. `depth`
counts the delimiters opened since; a backslash hides the character after it. -/
def balanced? (opener closer : Char) : (depth : Nat) → Text → Option (Text × Text)
  | _, [] => none
  | depth, c :: rest =>
    if c = '\\' then
      match rest with
      | [] => none
      | hidden :: rest =>
        (balanced? opener closer depth rest).map fun (inner, after) =>
          (c :: hidden :: inner, after)
    else if c = opener then
      (balanced? opener closer (depth + 1) rest).map fun (inner, after) => (c :: inner, after)
    else if c = closer then
      match depth with
      | 0 => some ([], rest)
      | depth + 1 =>
        (balanced? opener closer depth rest).map fun (inner, after) => (c :: inner, after)
    else (balanced? opener closer depth rest).map fun (inner, after) => (c :: inner, after)

/-- The text up to a closing quote outside braces, and what follows the quote. A closing brace
too many does no harm; a backslash hides the character after it. -/
def quoted? : (depth : Nat) → Text → Option (Text × Text)
  | _, [] => none
  | depth, c :: rest =>
    if c = '\\' then
      match rest with
      | [] => none
      | hidden :: rest =>
        (quoted? depth rest).map fun (inner, after) => (c :: hidden :: inner, after)
    else if c = '"' ∧ depth = 0 then some ([], rest)
    else
      let deeper := if c = '\x7b' then depth + 1 else if c = '\x7d' then depth - 1 else depth
      (quoted? deeper rest).map fun (inner, after) => (c :: inner, after)

/-- One part of a value. -/
def part? (abbreviations : Abbreviations) : Text → Option (Text × Text)
  | [] => none
  | c :: rest =>
    if c = '\x7b' then balanced? '\x7b' '\x7d' 0 rest
    else if c = '"' then quoted? 0 rest
    else if isName c then
      some (abbreviations.expand ((c :: rest).takeWhile isName), rest.dropWhile isName)
    else none

/-- Matching delimiters take characters. -/
theorem balanced?_length {opener closer : Char} {depth : Nat} {text inner rest : Text}
    (read : balanced? opener closer depth text = some (inner, rest)) :
    rest.length < text.length := by
  fun_induction balanced? opener closer depth text generalizing inner rest with
  | case1 => contradiction
  | case2 => contradiction
  | case3 depth hidden tail ih =>
    obtain ⟨⟨kept, last⟩, found, same⟩ := Option.map_eq_some_iff.1 read
    have := ih found
    simp only [Prod.mk.injEq] at same
    simp only [← same.2, List.length_cons]
    omega
  | case4 depth tail _ ih =>
    obtain ⟨⟨kept, last⟩, found, same⟩ := Option.map_eq_some_iff.1 read
    have := ih found
    simp only [Prod.mk.injEq] at same
    simp only [← same.2, List.length_cons]
    omega
  | case5 =>
    simp only [Option.some.injEq, Prod.mk.injEq] at read
    simp [← read.2]
  | case6 tail _ _ depth ih =>
    obtain ⟨⟨kept, last⟩, found, same⟩ := Option.map_eq_some_iff.1 read
    have := ih found
    simp only [Prod.mk.injEq] at same
    simp only [← same.2, List.length_cons]
    omega
  | case7 depth c tail _ _ _ ih =>
    obtain ⟨⟨kept, last⟩, found, same⟩ := Option.map_eq_some_iff.1 read
    have := ih found
    simp only [Prod.mk.injEq] at same
    simp only [← same.2, List.length_cons]
    omega

/-- A quoted text takes characters. -/
theorem quoted?_length {depth : Nat} {text inner rest : Text}
    (read : quoted? depth text = some (inner, rest)) : rest.length < text.length := by
  fun_induction quoted? depth text generalizing inner rest with
  | case1 => contradiction
  | case2 => contradiction
  | case3 depth hidden tail ih =>
    obtain ⟨⟨kept, last⟩, found, same⟩ := Option.map_eq_some_iff.1 read
    have := ih found
    simp only [Prod.mk.injEq] at same
    simp only [← same.2, List.length_cons]
    omega
  | case4 =>
    simp only [Option.some.injEq, Prod.mk.injEq] at read
    simp [← read.2]
  | case5 =>
    rename_i ih
    obtain ⟨⟨kept, last⟩, found, same⟩ := Option.map_eq_some_iff.1 read
    have := ih found
    simp only [Prod.mk.injEq] at same
    simp only [← same.2, List.length_cons]
    omega

/-- A part takes characters. -/
theorem part?_length {abbreviations : Abbreviations} {text part rest : Text}
    (read : part? abbreviations text = some (part, rest)) : rest.length < text.length := by
  cases text with
  | nil => contradiction
  | cons c tail =>
    simp only [part?] at read
    split at read
    · have := balanced?_length read
      simp only [List.length_cons]
      omega
    · split at read
      · have := quoted?_length read
        simp only [List.length_cons]
        omega
      · split at read
        · simp only [Option.some.injEq, Prod.mk.injEq] at read
          have := (List.dropWhile_suffix isName (l := tail)).length_le
          rw [← read.2, List.length_cons]
          omega
        · contradiction

/-- Blanks only take characters. -/
theorem skipLayout_length (text : Text) : (skipLayout text).length ≤ text.length :=
  (List.dropWhile_suffix isLayout).length_le

/-- The parts of a value, and what follows them and their blanks. -/
def value? (abbreviations : Abbreviations) (text : Text) : Option (List Text × Text) :=
  match _ : part? abbreviations (skipLayout text) with
  | none => none
  | some (part, rest) =>
    match _ : skipLayout rest with
    | [] => some ([part], [])
    | c :: next =>
      if c = '#' then
        (value? abbreviations next).map fun (parts, after) => (part :: parts, after)
      else some ([part], c :: next)
termination_by text.length
decreasing_by
  rename_i read kept _
  have := part?_length read
  have := skipLayout_length text
  have := skipLayout_length rest
  rw [kept, List.length_cons] at this
  omega

/-- A value takes characters. -/
theorem value?_length {abbreviations : Abbreviations} {text rest : Text} {parts : List Text}
    (read : value? abbreviations text = some (parts, rest)) : rest.length < text.length := by
  fun_induction value? abbreviations text generalizing parts rest with
  | case1 => contradiction
  | case2 text part tail taken kept =>
    simp only [Option.some.injEq, Prod.mk.injEq] at read
    have := part?_length taken
    have := skipLayout_length text
    rw [← read.2, List.length_nil]
    omega
  | case3 text part tail taken next kept ih =>
    obtain ⟨⟨more, last⟩, found, same⟩ := Option.map_eq_some_iff.1 read
    have := ih found
    have := part?_length taken
    have := skipLayout_length text
    have shorter := skipLayout_length tail
    rw [kept, List.length_cons] at shorter
    simp only [Prod.mk.injEq] at same
    rw [← same.2]
    omega
  | case4 text part tail taken c next kept _ =>
    simp only [Option.some.injEq, Prod.mk.injEq] at read
    have := part?_length taken
    have := skipLayout_length text
    have shorter := skipLayout_length tail
    rw [kept] at shorter
    rw [← read.2]
    omega

/-- What a value reads as: its parts without protective braces, with one blank between words. -/
def rendered (parts : List Text) : Text :=
  Text.collapse (Text.join [' '] (parts.map Braces.strip))

/-- The name of a field and the parts of its value. -/
abbrev RawField := Text × List Text

/-- A name in small letters, an equals sign and a value. -/
def field? (abbreviations : Abbreviations) (text : Text) : Option (RawField × Text) :=
  if text.takeWhile isName = [] then none
  else do
    let rest ← Text.expect? '=' (skipLayout (text.dropWhile isName))
    let (parts, rest) ← value? abbreviations rest
    some ((Text.lowerAscii (text.takeWhile isName), parts), rest)

/-- A field takes characters. -/
theorem field?_length {abbreviations : Abbreviations} {text rest : Text} {field : RawField}
    (read : field? abbreviations text = some (field, rest)) : rest.length < text.length := by
  simp only [field?, bind, Option.bind] at read
  split at read
  · contradiction
  · split at read
    · contradiction
    · rename_i equals
      have := Text.expect?_length equals
      dsimp only at read
      split at read
      · contradiction
      · rename_i taken
        have := value?_length taken
        simp only [Option.some.injEq, Prod.mk.injEq] at read
        have := skipLayout_length (text.dropWhile isName)
        have := (List.dropWhile_suffix isName (l := text)).length_le
        rw [← read.2]
        omega

/-- What follows a comma, which need not be there. -/
def dropComma : Text → Text
  | ',' :: rest => rest
  | rest => rest

/-- A comma takes no more than itself. -/
theorem dropComma_length (text : Text) : (dropComma text).length ≤ text.length := by
  unfold dropComma
  split <;> simp

/-- Fields up to the closing delimiter, with commas between them and perhaps after the last. -/
def fields? (abbreviations : Abbreviations) (closer : Char) (text : Text) :
    Option (List RawField × Text) :=
  match _ : skipLayout text with
  | [] => none
  | c :: rest =>
    if c = closer then some ([], rest)
    else
      match _ : field? abbreviations (c :: rest) with
      | none => none
      | some (field, after) =>
        (fields? abbreviations closer (dropComma (skipLayout after))).map
          fun (fields, last) => (field :: fields, last)
termination_by text.length
decreasing_by
  rename_i kept _ read
  have := field?_length read
  have := skipLayout_length text
  have := skipLayout_length after
  have := dropComma_length (skipLayout after)
  simp only [kept] at *
  omega

/-- What a block says. -/
inductive Block where
  /-- A key, which may be empty, and fields. -/
  | record (key : Text) (fields : List RawField)
  /-- A word and what it stands for from here on. -/
  | abbreviation (name value : Text)
  /-- A comment or a preamble. -/
  | ignored
  deriving DecidableEq

/-- A key and fields up to the closing delimiter. -/
def record? (abbreviations : Abbreviations) (closer : Char) (text : Text) :
    Option (Block × Text) :=
  let body := skipLayout text
  let key := body.takeWhile (isKey closer)
  match skipLayout (body.dropWhile (isKey closer)) with
  | [] => none
  | c :: rest =>
    if c = ',' then
      (fields? abbreviations closer rest).map fun (fields, after) => (.record key fields, after)
    else if c = closer then some (.record key [], rest)
    else none

/-- The kind of the block after an at sign, its opening delimiter and what follows. -/
def header? (text : Text) : Option (Text × Char × Text) :=
  let named := skipLayout text
  match named.takeWhile isKind, skipLayout (named.dropWhile isKind) with
  | [], _ => none
  | _, [] => none
  | kind, opener :: rest =>
    if opener = '\x7b' ∨ opener = '(' then some (kind, opener, rest) else none

/-- The delimiter that ends what another one begins. -/
def closerOf (opener : Char) : Char := if opener = '\x7b' then '\x7d' else ')'

/-- The block after an at sign. -/
def block? (abbreviations : Abbreviations) (text : Text) : Option (Block × Text) := do
  let (kind, opener, rest) ← header? text
  let closer := closerOf opener
  if Text.lowerAscii kind = "comment".toList then
    let (_, rest) ← balanced? opener closer 0 rest
    some (.ignored, rest)
  else if Text.lowerAscii kind = "preamble".toList then
    let (_, rest) ← value? abbreviations rest
    let rest ← Text.expect? closer (skipLayout rest)
    some (.ignored, rest)
  else if Text.lowerAscii kind = "string".toList then
    let ((name, parts), rest) ← field? abbreviations (skipLayout rest)
    let rest ← Text.expect? closer (skipLayout rest)
    some (.abbreviation name (rendered parts), rest)
  else record? abbreviations closer rest

/-- Fields take characters. -/
theorem fields?_length {abbreviations : Abbreviations} {closer : Char} {text rest : Text}
    {fields : List RawField} (read : fields? abbreviations closer text = some (fields, rest)) :
    rest.length < text.length := by
  fun_induction fields? abbreviations closer text generalizing fields rest with
  | case1 => contradiction
  | case2 text tail kept =>
    simp only [Option.some.injEq, Prod.mk.injEq] at read
    have := skipLayout_length text
    rw [kept, List.length_cons] at this
    rw [← read.2]
    omega
  | case3 => contradiction
  | case4 text c tail kept _ field after taken ih =>
    obtain ⟨⟨more, last⟩, found, same⟩ := Option.map_eq_some_iff.1 read
    have := ih found
    have := field?_length taken
    have shorter := skipLayout_length text
    have := skipLayout_length after
    have := dropComma_length (skipLayout after)
    rw [kept] at shorter
    simp only [Prod.mk.injEq] at same
    rw [← same.2]
    omega

/-- A record takes characters. -/
theorem record?_length {abbreviations : Abbreviations} {closer : Char} {text rest : Text}
    {block : Block} (read : record? abbreviations closer text = some (block, rest)) :
    rest.length < text.length := by
  simp only [record?] at read
  have := skipLayout_length text
  have := (List.dropWhile_suffix (isKey closer) (l := skipLayout text)).length_le
  have shorter := skipLayout_length ((skipLayout text).dropWhile (isKey closer))
  split at read
  · contradiction
  · rename_i c tail kept
    rw [kept, List.length_cons] at shorter
    split at read
    · obtain ⟨⟨more, last⟩, found, same⟩ := Option.map_eq_some_iff.1 read
      have := fields?_length found
      simp only [Prod.mk.injEq] at same
      rw [← same.2]
      omega
    · split at read
      · simp only [Option.some.injEq, Prod.mk.injEq] at read
        rw [← read.2]
        omega
      · contradiction

/-- A header takes characters. -/
theorem header?_length {text kind rest : Text} {opener : Char}
    (read : header? text = some (kind, opener, rest)) : rest.length < text.length := by
  simp only [header?] at read
  have := skipLayout_length text
  have := (List.dropWhile_suffix isKind (l := skipLayout text)).length_le
  have shorter := skipLayout_length ((skipLayout text).dropWhile isKind)
  split at read
  · contradiction
  · contradiction
  · rename_i kept _
    rw [kept, List.length_cons] at shorter
    split at read
    · simp only [Option.some.injEq, Prod.mk.injEq] at read
      rw [← read.2.2]
      omega
    · contradiction

/-- A block takes characters. -/
theorem block?_length {abbreviations : Abbreviations} {text rest : Text} {block : Block}
    (read : block? abbreviations text = some (block, rest)) : rest.length < text.length := by
  simp only [block?, bind, Option.bind] at read
  split at read
  · contradiction
  · rename_i found headed
    obtain ⟨kind, opener, body⟩ := found
    have := header?_length headed
    dsimp only at read
    split at read
    · split at read
      · contradiction
      · rename_i taken
        have := balanced?_length taken
        simp only [Option.some.injEq, Prod.mk.injEq] at read
        rw [← read.2]
        omega
    · split at read
      · split at read
        · contradiction
        · rename_i valued taken
          obtain ⟨parts, after⟩ := valued
          have := value?_length taken
          have := skipLayout_length after
          dsimp only at read
          split at read
          · contradiction
          · rename_i closed
            have := Text.expect?_length closed
            simp only [Option.some.injEq, Prod.mk.injEq] at read
            rw [← read.2]
            omega
      · split at read
        · split at read
          · contradiction
          · rename_i named taken
            obtain ⟨⟨name, parts⟩, after⟩ := named
            have := field?_length taken
            have := skipLayout_length body
            have := skipLayout_length after
            dsimp only at read
            split at read
            · contradiction
            · rename_i closed
              have := Text.expect?_length closed
              simp only [Option.some.injEq, Prod.mk.injEq] at read
              rw [← read.2]
              omega
        · have := record?_length read
          omega

/-- Whether a block starts after an at sign: a kind that starts with a letter and an opening
delimiter, with any white space around the kind. An at sign in free text starts none. -/
def starts (text : Text) : Bool :=
  let named := Text.trimStart text
  named.head?.any Char.isAlpha &&
    (Text.trimStart (named.dropWhile isKind)).head?.any fun c => c = '\x7b' || c = '('

/-- What the text between blocks is made of. -/
inductive Gap where
  /-- White space at the start of a line or after a block. -/
  | blank
  /-- A comment, up to the end of its line. -/
  | comment
  /-- Free text, up to the end of its line. -/
  | prose

/-- The text from the next at sign on that starts a block; nothing when there is none. -/
def seek : Gap → Text → Text
  | _, [] => []
  | .blank, c :: rest =>
    if Text.isBlank c then seek .blank rest
    else if c = '%' then seek .comment rest
    else if c = '@' then (if starts rest then c :: rest else seek .blank rest)
    else seek .prose rest
  | .comment, c :: rest => if c = '\n' then seek .blank rest else seek .comment rest
  | .prose, c :: rest =>
    if c = '\n' then seek .blank rest
    else if c = '@' then (if starts rest then c :: rest else seek .blank rest)
    else seek .prose rest

/-- What is sought is the end of the text. -/
theorem seek_length (gap : Gap) (text : Text) : (seek gap text).length ≤ text.length := by
  fun_induction seek gap text <;> simp only [List.length_cons, List.length_nil] <;> omega

/-- A record with the place of its at sign. -/
structure Located where
  /-- The characters before the at sign. -/
  offset : Nat
  /-- The key, which may be empty. -/
  key : Text
  /-- The fields in their order, repeated names kept. -/
  fields : List RawField
  deriving DecidableEq, Repr

/-- What came of reading a source. -/
structure Reading where
  /-- The records in their order. -/
  records : List Located
  /-- The abbreviations in force at the end. -/
  abbreviations : Abbreviations
  /-- The offset of the block that could not be read, if there is one. -/
  failure? : Option Nat
  deriving DecidableEq, Repr

/-- The records that a block at an offset adds. -/
def Block.records (offset : Nat) : Block → List Located
  | .record key fields => [⟨offset, key, fields⟩]
  | _ => []

/-- The abbreviations in force after a block. -/
def Block.define (abbreviations : Abbreviations) : Block → Abbreviations
  | .abbreviation name value => (name, value) :: abbreviations
  | _ => abbreviations

/-- Read block after block; `offset` is the place of the text in its source. -/
def readFrom (abbreviations : Abbreviations) (offset : Nat) (text : Text) : Reading :=
  match _ : seek .blank text with
  | [] => ⟨[], abbreviations, none⟩
  | sign :: body =>
    let start := offset + (text.length - (sign :: body).length)
    match _ : block? abbreviations body with
    | none => ⟨[], abbreviations, some start⟩
    | some (block, rest) =>
      let later := readFrom (block.define abbreviations)
        (offset + (text.length - rest.length)) rest
      { later with records := block.records start ++ later.records }
termination_by text.length
decreasing_by
  rename_i found read
  have := block?_length read
  have shorter := seek_length .blank text
  rw [found, List.length_cons] at shorter
  omega

/-- Read a whole source. -/
def readSource (text : Text) : Reading := readFrom [] 0 text

/-- The value of the first field with a name, as it reads. -/
def Located.value? (record : Located) (name : Text) : Option Text :=
  (record.fields.find? (·.1 = name)).map fun field => rendered field.2

end Citations.Record
