import Citations.Proofs.Bibliography.Places
import Citations.Proofs.Text.Positions

/-!
# Where a malformed source fails

A source is rejected exactly because of one block that cannot be read. The text in front of the at
sign of that block is a source that is accepted on its own, and it gives the records that had been
read when the block failed: cutting the source there changes nothing about what is before. The line
that is reported is the one with the at sign. Either something behind the opening delimiter of the
block cannot be read, or other white space than blanks stands around its kind.
-/
namespace Citations

namespace Record

variable {known : Abbreviations} {text lead rest body : Text} {blocks : List Block} {place : Nat}

/-- A source is read to its end and no comment is open there, so that an at sign behind it may
start a block. -/
inductive Finished (lead : Text) : Prop where
  | intro {blocks : List Block} {rest : Text} (reads : Reads [] lead blocks rest)
      (quiet : seek .blank rest = []) (opened : (Gap.blank.over rest).isOpen = true)

/-- A source fails at the at sign between a text and what follows it. -/
structure FailsAt (text lead body : Text) : Prop where
  /-- The at sign stands between the two. -/
  written : text = lead ++ '@' :: body
  /-- What is in front of it is read to its end. -/
  finished : Finished lead
  /-- It starts a block. -/
  started : starts body = true
  /-- The block cannot be read with the abbreviations in force. -/
  unread : block? (readSource lead).abbreviations body = none

/-- Blocks that are read give the same records whatever follows them, and reading goes on there. -/
theorem Reads.readFrom_eq (reads : Reads known text blocks rest) (offset : Nat) :
    ∃ taken first, text = taken ++ rest ∧ ∀ more,
      readFrom known offset (taken ++ more) =
        Reading.followedBy first
          (readFrom (definedBy known blocks) (offset + taken.length) more) := by
  induction reads generalizing offset with
  | @done known text => exact ⟨[], ⟨[], known, none⟩, rfl, fun more => rfl⟩
  | @block known text body after rest sign block blocks found read later ih =>
    obtain ⟨front, taken, split, -, next⟩ := next_block_takes found read
    obtain ⟨others, first, left, again⟩ := ih (offset + (front ++ '@' :: taken).length)
    refine ⟨front ++ '@' :: (taken ++ others),
      ⟨block.records (offset + front.length) ++ first.records, [], none⟩, ?_, fun more => ?_⟩
    · rw [split, left]
      simp only [List.append_assoc, List.cons_append]
    · obtain ⟨sought, goesOn⟩ := next (others ++ more)
      have finish : offset + (front ++ '@' :: taken).length + others.length =
          offset + (front ++ '@' :: (taken ++ others)).length := by
        simp only [List.length_append, List.length_cons]
        omega
      simp only [List.append_assoc, List.cons_append]
      rw [readFrom_behind sought goesOn, again, finish]
      simp only [Reading.followedBy, List.append_assoc]
      rfl

/-- A source that is read to its end is accepted, and with a block behind it that cannot be read it
fails at that block, with the records and the abbreviations that it has on its own. -/
theorem Finished.readSource_eq (finished : Finished lead) :
    (readSource lead).failure? = none ∧ ∀ body, starts body = true →
      block? (readSource lead).abbreviations body = none →
        readSource (lead ++ '@' :: body) =
          { readSource lead with failure? := some lead.length } := by
  obtain ⟨reads, quiet, opened⟩ := finished
  rename_i blocks rest
  obtain ⟨taken, first, rfl, again⟩ := reads.readFrom_eq 0
  have alone : Record.readSource (taken ++ rest) =
      first.followedBy ⟨[], definedBy [] blocks, none⟩ := by
    rw [Record.readSource, again rest, readFrom_of_end quiet]
  rw [alone]
  refine ⟨rfl, fun body started failed => ?_⟩
  have unread : block? (definedBy [] blocks) body = none := failed
  have place : 0 + taken.length + ((rest ++ '@' :: body).length - (body.length + 1)) =
      (taken ++ rest).length := by
    simp only [List.length_append, List.length_cons]
    omega
  rw [List.append_assoc, Record.readSource, again,
    readFrom_of_failure (seek_append_sign quiet opened started) unread, place]
  rfl

/-- A source that fails does so at an at sign. -/
theorem exists_failsAt (failed : (readSource text).failure? = some place) :
    ∃ lead body, FailsAt text lead body := by
  obtain ⟨blocks, rest, reads, ends, -⟩ := exists_reads [] 0 text
  obtain ⟨taken, first, rfl, again⟩ := reads.readFrom_eq 0
  rcases ends with quiet | ⟨sign, body, found, unread⟩
  · rw [readSource, again, readFrom_of_end quiet] at failed
    cases failed
  · obtain ⟨rfl, started, front, rfl, quiet, opened⟩ := seek_eq_sign found
    obtain ⟨others, split, goesOn⟩ := reads.takes
    obtain rfl : taken = others := List.append_cancel_right split
    have defined : (readSource (taken ++ front)).abbreviations = definedBy [] blocks := by
      rw [readSource, again, readFrom_of_end quiet]
      rfl
    exact ⟨taken ++ front, body, (List.append_assoc ..).symm,
      .intro (goesOn front) quiet opened, started, defined ▸ unread⟩

/-- A source that fails at an at sign has the records and the abbreviations of what is in front of
it, and reports its place. -/
theorem FailsAt.readSource_eq (fails : FailsAt text lead body) :
    readSource text = { readSource lead with failure? := some lead.length } := by
  rw [fails.written]
  exact fails.finished.readSource_eq.2 body fails.started fails.unread

/-- A source fails at one at sign at most. -/
theorem FailsAt.unique {otherLead otherBody : Text} (fails : FailsAt text lead body)
    (others : FailsAt text otherLead otherBody) : lead = otherLead ∧ body = otherBody := by
  have same : some lead.length = some otherLead.length :=
    (congrArg Reading.failure? fails.readSource_eq).symm.trans
      (congrArg Reading.failure? others.readSource_eq)
  obtain ⟨front, rest⟩ := List.append_inj (fails.written.symm.trans others.written)
    (Option.some.inj same)
  exact ⟨front, (List.cons.inj rest).2⟩

end Record

namespace Source

open Record

variable {source : Path} {text lead body : Text} {allowed : List Text} {fault : ParseFault}

/-- A source that fails at an at sign is rejected with the line that has it. -/
theorem parseRecords_of_failsAt (fails : FailsAt text lead body) :
    parseRecords source text allowed =
      .error (.invalidRecord (((LineIndex.ofText text).position lead.length).line + 1)) := by
  rw [parseRecords, fails.readSource_eq]
  rfl

/-- A source that is rejected fails at an at sign. -/
theorem exists_failsAt_of_error (rejected : parseRecords source text allowed = .error fault) :
    ∃ lead body, FailsAt text lead body := by
  cases failure : (readSource text).failure? with
  | none =>
    rw [parseRecords, failure] at rejected
    cases rejected
  | some place => exact exists_failsAt failure

/-- A source is rejected exactly when it fails at an at sign, and the line that is reported, counted
from one, is the one with that at sign. What is in front of it is then accepted on its own, and its
records and abbreviations are those that had been read when the block failed. The line is reported
as it is, as long as 32 bits count the characters of the source. -/
theorem parseRecords_rejected (source : Path) (text : Text) (allowed : List Text) :
    (∀ fault, parseRecords source text allowed = .error fault ↔
      ∃ lead body, ∃ position : Position, FailsAt text lead body ∧
        position.Addresses text lead.length ∧ fault = .invalidRecord (position.line + 1)) ∧
    ∀ lead body, FailsAt text lead body →
      (∃ entries, parseRecords source lead allowed = .ok entries) ∧
      (readSource text).records = (readSource lead).records ∧
      (readSource text).abbreviations = (readSource lead).abbreviations ∧
      (text.length < Nat.pow 2 32 →
        ∀ position : Position, position.Addresses text lead.length → position.cut = position) := by
  have addressed {lead body : Text} (fails : FailsAt text lead body) :
      ((LineIndex.ofText text).position lead.length).Addresses text lead.length := by
    refine LineIndex.position_addresses ?_
    rw [fails.written, List.length_append, List.length_cons]
    omega
  refine ⟨fun fault => ⟨fun rejected => ?_, ?_⟩, fun lead body fails =>
    ⟨?_, ?_, ?_, fun bounded position addresses => addresses.cut_eq bounded⟩⟩
  · obtain ⟨lead, body, fails⟩ := exists_failsAt_of_error rejected
    exact ⟨lead, body, _, fails, addressed fails,
      Except.error.inj (rejected.symm.trans (parseRecords_of_failsAt fails))⟩
  · rintro ⟨lead, body, position, fails, addresses, rfl⟩
    rw [parseRecords_of_failsAt fails, addresses.unique (addressed fails)]
  · rw [parseRecords, fails.finished.readSource_eq.1]
    exact ⟨_, rfl⟩
  · rw [fails.readSource_eq]
  · rw [fails.readSource_eq]

/-- The second of two blocks has no end, and its line is reported. -/
theorem parseRecords_rejected_secondLine :
    FailsAt "@misc\x7ba\x7d\n@misc\x7bb".toList "@misc\x7ba\x7d\n".toList "misc\x7bb".toList ∧
      ∀ source, parseRecords source "@misc\x7ba\x7d\n@misc\x7bb".toList [] =
        .error (.invalidRecord 2) := by
  have read : block? [] "misc\x7ba\x7d\n".toList = some (.record ['a'] [], ['\n']) := rfl
  have finished : Finished "@misc\x7ba\x7d\n".toList :=
    .intro (.block rfl read .done) (by decide) (by decide)
  have fails : FailsAt "@misc\x7ba\x7d\n@misc\x7bb".toList "@misc\x7ba\x7d\n".toList
      "misc\x7bb".toList :=
    ⟨rfl, finished, rfl, rfl⟩
  have secondLine : (⟨1, 0⟩ : Position).Addresses "@misc\x7ba\x7d\n@misc\x7bb".toList 9 :=
    ⟨⟨_, rfl, by decide⟩, by decide⟩
  exact ⟨fails, fun source => ((parseRecords_rejected source _ []).1 (.invalidRecord 2)).mpr
    ⟨_, _, ⟨1, 0⟩, fails, secondLine, rfl⟩⟩

/-- What starts a block after an at sign is a header, and the header of the block is read to its end
exactly when nothing but blanks stands around the kind. A source is rejected exactly when it has an
at sign with a header, not in a comment and not inside a block that was read, that either is not
plain or is followed by what the block cannot be read with, whatever blanks are in the header. -/
theorem parseRecords_headers (source : Path) (text : Text) (allowed : List Text) :
    (∀ body, starts body = true ↔ ∃ header rest, body = Header.text header ++ rest) ∧
    (∀ (header : Header) (rest : Text), header? (header.text ++ rest) =
      if header.plain then some (header.kind.text, header.delimiters.opener, rest) else none) ∧
    ((∃ fault, parseRecords source text allowed = .error fault) ↔
      ∃ (lead : Text) (header : Header) (rest : Text),
        text = lead ++ '@' :: (header.text ++ rest) ∧ Finished lead ∧
          (header.plain = true →
            block? (readSource lead).abbreviations (header.tight.text ++ rest) = none)) := by
  refine ⟨fun body => ⟨exists_header_of_starts, ?_⟩, Header.header?_text, ?_, ?_⟩
  · rintro ⟨header, rest, rfl⟩
    exact header.starts_text rest
  · rintro ⟨fault, rejected⟩
    obtain ⟨lead, body, fails⟩ := exists_failsAt_of_error rejected
    obtain ⟨header, rest, rfl⟩ := exists_header_of_starts fails.started
    refine ⟨lead, header, rest, fails.written, fails.finished, fun plain => ?_⟩
    have unread := fails.unread
    rwa [header.block?_text, if_pos plain] at unread
  · rintro ⟨lead, header, rest, written, finished, unread⟩
    refine ⟨_, parseRecords_of_failsAt ⟨written, finished, header.starts_text rest, ?_⟩⟩
    rw [header.block?_text]
    split
    · next plain => exact unread plain
    · rfl

/-- A block whose kind stands after a no-break space is announced and has no header, and its source
is rejected. -/
theorem starts_without_header :
    let body := "\u00a0misc\x7bk, title=\x7bT\x7d\x7d".toList
    starts body = true ∧ header? body = none ∧ ∀ source allowed,
      parseRecords source ('@' :: body) allowed = .error (.invalidRecord 1) := by
  intro body
  have fails : FailsAt ('@' :: body) [] body := ⟨rfl, .intro .done rfl rfl, rfl, rfl⟩
  exact ⟨rfl, rfl, fun source allowed => parseRecords_of_failsAt fails⟩

end Source

end Citations
