import Citations.Proofs.Bibliography.Places
import Citations.Proofs.Bibliography.Turns
import Citations.Proofs.Text.Positions
import Mathlib.Data.List.Forall2

/-!
# Where entries stand

A record that is read opens at an at sign of its source, and its key stands behind that at sign and
in front of the next record. The entries of a source are its records with a key, in their order, and
the position of an entry addresses the at sign of its record, so that the positions increase.
-/
namespace Citations

namespace Record

variable {known : Abbreviations} {text before rest taken : Text} {block : Block} {offset : Nat}
  {records : List Located}

/-- A record opens at an at sign that starts a block, and its key stands behind it. -/
def Located.Opens (text : Text) (record : Located) : Prop :=
  ∃ body, text.drop record.offset = '@' :: body ∧ starts body = true ∧ record.key <:+: body

/-- A record is in front of another one, and so is its key, behind its own at sign. -/
def Located.Precedes (text : Text) (record next : Located) : Prop :=
  record.offset < next.offset ∧ record.key <:+: (text.take next.offset).drop (record.offset + 1)

/-- Records of a text from a place on, one after the other. -/
structure InPlace (text : Text) (place : Nat) (records : List Located) : Prop where
  /-- None of them is further in front. -/
  behind : ∀ record ∈ records, place ≤ record.offset
  /-- Each one opens where it says. -/
  opens : ∀ record ∈ records, record.Opens text
  /-- Each one ends before those after it. -/
  ordered : records.Pairwise (Located.Precedes text)

/-- The key of the record that a block adds is a part of the block. -/
theorem Block.key_infix {record : Located} (read : block? known text = some (block, rest))
    (listed : record ∈ block.records offset) : record.key <:+: text := by
  obtain ⟨kind, opener, body, headed, inside⟩ := block?_eq_some.mp read
  obtain ⟨header, rfl, -⟩ := header?_takes headed
  rcases inside with ⟨-, rfl, -⟩ | ⟨-, rfl, -⟩ | ⟨-, _, _, _, rfl, -⟩ | ⟨-, found⟩
  · cases listed
  · cases listed
  · cases listed
  · obtain ⟨fields, rfl, -⟩ := record?_eq_some.mp found
    obtain rfl := List.mem_singleton.mp listed
    have unblanked : skipLayout body <:+ header ++ body :=
      (List.dropWhile_suffix isLayout).trans (List.suffix_append header body)
    exact (List.takeWhile_prefix _).isInfix.trans unblanked.isInfix

/-- A block adds one record at most. -/
theorem Block.pairwise_records (block : Block) (offset : Nat)
    (related : Located → Located → Prop) : (block.records offset).Pairwise related := by
  cases block with
  | record key fields => exact List.pairwise_singleton ..
  | abbreviation | ignored => exact .nil

/-- A block that is read adds its record in front of those that are read after it. -/
theorem InPlace.after_block (read : block? known taken = some (block, []))
    (starting : starts (taken ++ rest) = true)
    (later : InPlace (before ++ '@' :: (taken ++ rest)) (before.length + 1 + taken.length)
      records) :
    InPlace (before ++ '@' :: (taken ++ rest)) before.length
      (block.records before.length ++ records) := by
  have opens : ∀ record ∈ block.records before.length,
      record.Opens (before ++ '@' :: (taken ++ rest)) := by
    intro record listed
    refine ⟨taken ++ rest, ?_, starting, ?_⟩
    · rw [Block.offset_records listed, List.drop_left]
    · exact (Block.key_infix read listed).trans (List.prefix_append taken rest).isInfix
  refine ⟨fun record listed => ?_, fun record listed => ?_,
    List.pairwise_append.mpr ⟨block.pairwise_records _ _, later.ordered, ?_⟩⟩
  · rcases List.mem_append.mp listed with here | further
    · exact Nat.le_of_eq (Block.offset_records here).symm
    · have := later.behind record further
      omega
  · exact (List.mem_append.mp listed).elim (opens record) (later.opens record)
  · intro record here next further
    have place := Block.offset_records here
    have reaches := later.behind next further
    refine ⟨by omega, (Block.key_infix read here).trans ?_⟩
    -- Behind the at sign the text goes on with the whole block before it comes to the next one.
    have whole : (before ++ '@' :: (taken ++ rest)).drop (before.length + 1) = taken ++ rest := by
      rw [← List.drop_drop, List.drop_left]
      rfl
    rw [place, List.drop_take, whole]
    exact (List.prefix_take_iff.mpr ⟨List.prefix_append taken rest, by omega⟩).isInfix

/-- Records from a place on are records from an earlier one on. -/
theorem InPlace.of_le {place earlier : Nat} (inPlace : InPlace text place records)
    (le : earlier ≤ place) : InPlace text earlier records :=
  { inPlace with behind := fun record listed => le.trans (inPlace.behind record listed) }

/-- The records of a text that stands behind another one are in place in the two together. -/
theorem inPlace_readFrom (known : Abbreviations) (offset : Nat) (text : Text) :
    ∀ before, before.length = offset →
      InPlace (before ++ text) offset (readFrom known offset text).records := by
  fun_induction readFrom known offset text with
  | case1 => exact fun before place => ⟨List.forall_mem_nil _, List.forall_mem_nil _, .nil⟩
  | case2 => exact fun before place => ⟨List.forall_mem_nil _, List.forall_mem_nil _, .nil⟩
  | case3 known offset text sign body found start block rest read later ih =>
    rintro before rfl
    obtain ⟨-, starting, -⟩ := seek_eq_sign found
    obtain ⟨front, taken, split, rfl, goesOn⟩ := next_block_takes found read
    have alone := (goesOn []).2
    rw [List.append_nil] at alone
    have opened : start = (before ++ front).length := by
      simp only [start, split, List.length_append, List.length_cons]
      omega
    have ends : before.length + (text.length - rest.length) =
        (before ++ front).length + 1 + taken.length := by
      simp only [split, List.length_append, List.length_cons]
      omega
    have whole : before ++ text = before ++ front ++ '@' :: (taken ++ rest) := by
      rw [split, List.append_assoc]
    have others := ih (before ++ front ++ '@' :: taken) (by
      rw [ends, List.length_append, List.length_cons, Nat.add_assoc, Nat.add_comm 1])
    rw [List.append_assoc _ _ rest, List.cons_append, ends] at others
    dsimp only [later]
    rw [whole, opened, ends]
    refine (InPlace.after_block alone starting others).of_le ?_
    rw [List.length_append]
    exact Nat.le_add_right ..

/-- The records of a source are in place. -/
theorem inPlace_readSource (text : Text) : InPlace text 0 (readSource text).records :=
  inPlace_readFrom [] 0 text [] rfl

/-- A record that opens somewhere stands inside the text. -/
theorem Located.Opens.offset_lt {record : Located} (opens : record.Opens text) :
    record.offset < text.length := by
  obtain ⟨body, begins, -⟩ := opens
  by_contra outside
  rw [List.drop_eq_nil_of_le (Nat.le_of_not_lt outside)] at begins
  contradiction

end Record

/-- An entry stands for a record: it has the key, and its position is where the record opens. -/
structure Entry.StandsFor (text : Text) (entry : Entry) (record : Record.Located) : Prop where
  /-- The key is that of the record. -/
  key : entry.key = record.key
  /-- The position is that of the record. -/
  addresses : entry.position.Addresses text record.offset
  /-- The record opens there. -/
  opens : record.Opens text
  /-- An at sign stands in the column of the line. -/
  sign : ∃ row, text.rows[entry.position.line]? = some row ∧
    row[entry.position.character]? = some '@'

namespace Source

open Record

variable {source : Path} {text : Text} {allowed : List Text} {entries : List Entry}

/-- The entry of a record with a key stands for it where the record opens. -/
theorem standsFor_of_opens {record : Located} {entry : Entry} (opens : record.Opens text)
    (key : entry.key = record.key)
    (place : entry.position = (LineIndex.ofText text).position record.offset) :
    entry.StandsFor text record := by
  have addresses : entry.position.Addresses text record.offset :=
    place ▸ LineIndex.position_addresses opens.offset_lt
  obtain ⟨row, listed, same⟩ := addresses.getElem?_row
  obtain ⟨body, begins, -⟩ := id opens
  exact ⟨key, addresses, opens, row, listed, by rw [same, ← List.head?_drop, begins]; rfl⟩

/-- Each record with a key gives an entry that stands for it. -/
theorem forall₂_standsFor (source : Path) (allowed : List Text) (records : List Located)
    (opens : ∀ record ∈ records, record.Opens text) :
    List.Forall₂ (Entry.StandsFor text)
      (records.filterMap (entryOfRecord? source (.ofText text) allowed))
      (records.filter (·.key ≠ [])) := by
  induction records with
  | nil => exact .nil
  | cons record records ih =>
    have later := ih fun other listed => opens other (List.mem_cons_of_mem _ listed)
    have here := opens record List.mem_cons_self
    by_cases keyless : record.key = []
    · have dropped : entryOfRecord? source (.ofText text) allowed record = none := if_pos keyless
      rw [List.filterMap_cons_none dropped, List.filter_cons_of_neg (by simpa using keyless)]
      exact later
    · rw [List.filterMap_cons, entryOfRecord?, if_neg keyless,
        List.filter_cons_of_pos (by simpa using keyless)]
      exact .cons (standsFor_of_opens here rfl rfl) later

/-- Entries that stand for records one after the other have increasing positions. -/
theorem pairwise_before {records : List Located}
    (standing : List.Forall₂ (Entry.StandsFor text) entries records)
    (ordered : records.Pairwise (Located.Precedes text)) :
    entries.Pairwise fun entry next => entry.position.Before next.position := by
  obtain ⟨same, stands⟩ := List.forall₂_iff_get.mp standing
  refine List.pairwise_iff_getElem.mpr fun i j here there earlier => ?_
  have first := (stands i here (same ▸ here)).addresses
  have second := (stands j there (same ▸ there)).addresses
  have precedes := List.pairwise_iff_getElem.mp ordered i j (same ▸ here) (same ▸ there) earlier
  exact (first.before_iff second).mpr precedes.1

/-- A source that is accepted is read in turns that leave less and less of it. Its entries stand one
for one, in order, for the records with a key, each of which opens at the at sign that the position
of its entry addresses; the positions increase, and every key stands behind the at sign of its own
record and in front of the next one. An editor takes these positions as they are, as long as 32 bits
count the characters of the source. -/
theorem parseRecords_positions (accepted : parseRecords source text allowed = .ok entries) :
    let keyed := (readSource text).records.filter (·.key ≠ [])
    Turns text.length [] text (readSource text) ∧
      List.Forall₂ (Entry.StandsFor text) entries keyed ∧
      keyed.Pairwise (Located.Precedes text) ∧
      (entries.Pairwise fun entry next => entry.position.Before next.position) ∧
      (text.length < Nat.pow 2 32 → ∀ entry ∈ entries, entry.position.cut = entry.position) := by
  intro keyed
  have uncut := cut_of_parseRecords accepted
  obtain ⟨-, rfl⟩ := parseRecords_eq_ok accepted
  have inPlace := inPlace_readSource text
  have standing := forall₂_standsFor source allowed _ inPlace.opens
  have ordered : keyed.Pairwise (Located.Precedes text) := inPlace.ordered.filter _
  exact ⟨turns_readSource text, standing, ordered, pairwise_before standing ordered, uncut⟩

/-- Below a record without a key and a line separator two records stand on one line, with a letter
between them. -/
theorem parseRecords_positions_sameLine :
    let source : Path := ⟨"/w/a.bib".toList⟩
    let text : Text := "@misc\x7b\x7d\u2028@misc\x7b\u00e9\x7d\u00fc@misc\x7bb\x7d".toList
    let entry (key : Char) (column : Nat) : Entry := ⟨[key], source, ⟨1, column⟩, []⟩
    parseRecords source text [] = .ok [entry '\u00e9' 0, entry 'b' 9] ∧
      List.Forall₂ (Entry.StandsFor text) [entry '\u00e9' 0, entry 'b' 9]
        ((readSource text).records.filter (·.key ≠ [])) := by
  intro source text entry
  have accepted : parseRecords source text [] = .ok [entry '\u00e9' 0, entry 'b' 9] := by
    decide +kernel
  exact ⟨accepted, (parseRecords_positions accepted).2.1⟩

end Source

end Citations
