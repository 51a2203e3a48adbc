import Citations.Bibliography.Record
import Citations.Proofs.Text.Rows

/-!
# Sources as they can be written

A source is written as records with free text around them. Each record chooses its delimiters,
the blanks between any two of its tokens, the form of each part of a value, and whether a comma
stands after the last field. The types here hold all of these choices together with what makes
them well formed, so a value of one of them is a source that can be written, and its text is the
source itself.
-/
namespace Citations.Record

/-! ## Tokens -/

/-- Blanks between two tokens, perhaps none. -/
structure Layout where
  /-- The blanks. -/
  text : Text
  /-- Nothing else is among them. -/
  blank : ∀ c ∈ text, isLayout c = true

/-- One or more characters of a class. -/
structure Word (p : Char → Bool) where
  /-- The characters. -/
  text : Text
  /-- There is one. -/
  nonempty : text ≠ []
  /-- Each one is of the class. -/
  made : ∀ c ∈ text, p c = true

/-- A text in which braces pair up, apart from the characters that a backslash hides. -/
inductive Balanced : Text → Prop where
  | nil : Balanced []
  | plain {c : Char} {rest : Text} (shown : c ≠ '\\') (opens : c ≠ '\x7b') (closes : c ≠ '\x7d')
      (later : Balanced rest) : Balanced (c :: rest)
  | hidden (c : Char) {rest : Text} (later : Balanced rest) : Balanced ('\\' :: c :: rest)
  | group {inner rest : Text} (within : Balanced inner) (later : Balanced rest) :
      Balanced ('\x7b' :: (inner ++ '\x7d' :: rest))

/-- A text in which braces pair up and every quote is inside braces, apart from the characters
that a backslash hides. -/
inductive Quotable : Text → Prop where
  | nil : Quotable []
  | plain {c : Char} {rest : Text} (shown : c ≠ '\\') (opens : c ≠ '\x7b') (closes : c ≠ '\x7d')
      (unquoted : c ≠ '"') (later : Quotable rest) : Quotable (c :: rest)
  | hidden (c : Char) {rest : Text} (later : Quotable rest) : Quotable ('\\' :: c :: rest)
  | group {inner rest : Text} (within : Balanced inner) (later : Quotable rest) :
      Quotable ('\x7b' :: (inner ++ '\x7d' :: rest))

/-! ## Values -/

/-- A part of a value. -/
inductive Part where
  /-- A text in braces. -/
  | group (content : Text) (balanced : Balanced content)
  /-- A text in quotes. -/
  | quoted (content : Text) (quotable : Quotable content)
  /-- A bare word. -/
  | word (content : Word isName)

namespace Part

/-- What a part is written as. -/
def text : Part → Text
  | group content _ => '\x7b' :: (content ++ ['\x7d'])
  | quoted content _ => '"' :: (content ++ ['"'])
  | word content => content.text

/-- What a part holds. -/
def content : Part → Text
  | group content _ => content
  | quoted content _ => content
  | word content => content.text

/-- The bare word that a part is, if it is one. -/
def words : Part → List Text
  | group _ _ => []
  | quoted _ _ => []
  | word content => [content.text]

end Part

/-- A part with the blanks around it. -/
structure SpacedPart where
  /-- The blanks before the part. -/
  before : Layout
  /-- The part. -/
  part : Part
  /-- The blanks after the part. -/
  after : Layout

/-- What a part with the blanks around it is written as. -/
def SpacedPart.text (spaced : SpacedPart) : Text :=
  spaced.before.text ++ (spaced.part.text ++ spaced.after.text)

/-- One part, or several with number signs between them. -/
inductive WrittenValue where
  /-- The only part, or the last. -/
  | last (spaced : SpacedPart)
  /-- A part with others after it. -/
  | joined (spaced : SpacedPart) (others : WrittenValue)

namespace WrittenValue

/-- What a value is written as. -/
def text : WrittenValue → Text
  | last spaced => spaced.text
  | joined spaced others => spaced.text ++ '#' :: others.text

/-- What the parts of a value hold. -/
def parts : WrittenValue → List Text
  | last spaced => [spaced.part.content]
  | joined spaced others => spaced.part.content :: others.parts

/-- The bare words of a value. -/
def words : WrittenValue → List Text
  | last spaced => spaced.part.words
  | joined spaced others => spaced.part.words ++ others.words

end WrittenValue

/-! ## Records -/

/-- A name, an equals sign and a value. -/
structure WrittenField where
  /-- The blanks before the name. -/
  before : Layout
  /-- The name. -/
  name : Word isName
  /-- The blanks after the name. -/
  after : Layout
  /-- The value. -/
  value : WrittenValue

namespace WrittenField

/-- What a field is written as. -/
def text (field : WrittenField) : Text :=
  field.before.text ++ (field.name.text ++ (field.after.text ++ '=' :: field.value.text))

/-- The name of a field in small letters and what the parts of its value hold. -/
def content (field : WrittenField) : RawField :=
  (Text.lowerAscii field.name.text, field.value.parts)

end WrittenField

/-- The two pairs of delimiters around a record. -/
inductive Delimiters where
  | braces
  | parentheses

/-- The delimiter in front. -/
def Delimiters.opener : Delimiters → Char
  | braces => '\x7b'
  | parentheses => '('

/-- The delimiter at the end. -/
def Delimiters.closer : Delimiters → Char
  | braces => '\x7d'
  | parentheses => ')'

/-- The kinds of the blocks that are no records. -/
def reservedKinds : List Text := ["comment".toList, "preamble".toList, "string".toList]

/-- A record with a key and fields. -/
structure WrittenRecord where
  /-- The blanks after the at sign. -/
  beforeKind : Layout
  /-- The kind. -/
  kind : Word isKind
  /-- The kind begins with a letter. -/
  lettered : kind.text.head?.any Char.isAlpha = true
  /-- The kind is that of a record, in small letters or capitals. -/
  ordinary : Text.lowerAscii kind.text ∉ reservedKinds
  /-- The blanks after the kind. -/
  afterKind : Layout
  /-- The delimiters. -/
  delimiters : Delimiters
  /-- The blanks before the key. -/
  beforeKey : Layout
  /-- The key. -/
  key : Word (isKey delimiters.closer)
  /-- The blanks after the key. -/
  afterKey : Layout
  /-- The fields, with a comma in front of each one. -/
  fields : List WrittenField
  /-- The blanks after a comma that follows the last field, if there is such a comma. -/
  trailing? : Option Layout

/-- Fields with a comma in front of each one, perhaps another comma, and a delimiter. -/
def listing (closer : Char) (trailing? : Option Layout) : List WrittenField → Text
  | [] =>
    match trailing? with
    | none => [closer]
    | some blanks => ',' :: (blanks.text ++ [closer])
  | field :: fields => ',' :: (field.text ++ listing closer trailing? fields)

namespace WrittenRecord

/-- What a record is written as, after its opening delimiter. -/
def inside (record : WrittenRecord) : Text :=
  record.beforeKey.text ++ (record.key.text ++
    (record.afterKey.text ++ listing record.delimiters.closer record.trailing? record.fields))

/-- What a record is written as, after its at sign. -/
def body (record : WrittenRecord) : Text :=
  record.beforeKind.text ++ (record.kind.text ++
    (record.afterKind.text ++ record.delimiters.opener :: record.inside))

/-- What a record is written as. -/
def text (record : WrittenRecord) : Text := '@' :: record.body

/-- The bare words of a record. -/
def words (record : WrittenRecord) : List Text :=
  record.fields.flatMap fun field => field.value.words

/-- What a record whose at sign is at a place reads as. -/
def located (offset : Nat) (record : WrittenRecord) : Located :=
  ⟨offset, record.key.text, record.fields.map WrittenField.content⟩

end WrittenRecord

/-! ## Sources -/

/-- Free text before a record: it has no at sign and no unfinished last line. -/
structure FreeText where
  /-- The text. -/
  text : Text
  /-- No at sign is in it. -/
  quiet : '@' ∉ text
  /-- It is empty or ends in a line feed. -/
  ended : text.Ended

/-- Records with free text before each one. -/
inductive WrittenSource where
  /-- The free text after the last record, which need not end in a line feed. -/
  | rest (text : Text) (quiet : '@' ∉ text)
  /-- Free text, a record and what follows. -/
  | next (gap : FreeText) (record : WrittenRecord) (later : WrittenSource)

namespace WrittenSource

/-- What a source is written as. -/
def text : WrittenSource → Text
  | rest text _ => text
  | next gap record later => gap.text ++ (record.text ++ later.text)

/-- The bare words of the records. -/
def words : WrittenSource → List Text
  | rest _ _ => []
  | next _ record later => record.words ++ later.words

/-- What the records of a source that begins at a place read as. -/
def located (offset : Nat) : WrittenSource → List Located
  | rest _ _ => []
  | next gap record later =>
    record.located (offset + gap.text.length) ::
      later.located (offset + gap.text.length + record.text.length)

end WrittenSource

end Citations.Record
