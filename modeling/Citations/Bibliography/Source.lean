import Citations.Bibliography.Record
import Citations.Bibliography.JsonList
import Citations.Notice

/-!
# Bibliography sources

The extension of a source's path decides its format. A source is read as a whole: it gives its
entries, or the reason why it gives none.
-/
namespace Citations

/-- The formats of a bibliography source. -/
inductive SourceFormat where
  /-- Blocks such as `@article{...}`. -/
  | records
  /-- A JSON array of objects. -/
  | list
  deriving DecidableEq, Repr

/-- The format that the extension of a path stands for. -/
def SourceFormat.ofPath? (path : Path) : Option SourceFormat := do
  let extension ← path.extension?
  if Text.sameIgnoringCase extension "bib".toList then some .records
  else if Text.sameIgnoringCase extension "json".toList then some .list
  else none

/-- What is wrong with the text of a source. -/
inductive ParseFault where
  /-- The block that begins on this line, counted from one, cannot be read. -/
  | invalidRecord (line : Nat)
  /-- The text is not JSON. -/
  | invalidJson
  /-- The JSON value is not an array. -/
  | notAnArray
  deriving DecidableEq, Repr

/-- The wording of a fault. -/
def ParseFault.message : ParseFault → Text
  | .invalidRecord line => "invalid record at line ".toList ++ Text.ofNat line
  | .invalidJson => "invalid JSON".toList
  | .notAnArray => "expected a top-level array".toList

namespace Source

/-- The entry of a record: there is none without a key. -/
def entryOfRecord? (source : Path) (index : LineIndex) (allowed : List Text)
    (record : Record.Located) : Option Entry :=
  if record.key = [] then none
  else some ⟨record.key, source, index.position record.offset,
    selectFields allowed record.value?⟩

/-- The entries of a source in the record format. -/
def parseRecords (source : Path) (text : Text) (allowed : List Text) :
    Except ParseFault (List Entry) :=
  let index := LineIndex.ofText text
  let reading := Record.readSource text
  match reading.failure? with
  | some offset => .error (.invalidRecord (index.lineOf offset + 1))
  | none => .ok (reading.records.filterMap (entryOfRecord? source index allowed))

/-- The entries of a source in the list format. -/
def parseList (source : Path) (text : Text) (allowed : List Text) :
    Except ParseFault (List Entry) :=
  match Json.read? text with
  | none => .error .invalidJson
  | some (.array items) => .ok (items.filterMap (JsonList.entry? source allowed))
  | some _ => .error .notAnArray

/-- The entries of a source, or the error that it makes. -/
def parse (source : Path) (text : Text) (allowed : List Text) :
    Except SourceError (List Entry) :=
  match SourceFormat.ofPath? source with
  | some .records => (parseRecords source text allowed).mapError fun fault =>
      .malformed source fault.message
  | some .list => (parseList source text allowed).mapError fun fault =>
      .malformed source fault.message
  | none => .error (.unsupported source)

end Source

end Citations
