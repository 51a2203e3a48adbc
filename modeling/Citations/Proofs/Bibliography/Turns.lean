import Citations.Proofs.Bibliography.Appending
import Citations.Proofs.Bibliography.RoundTrip

/-!
# The turns of reading a source

A source is read turn by turn. Each turn skips white space and comments, and then it reads the block
that an at sign starts, passes an at sign that starts none, or passes free text up to the next at
sign or the end of the line. Every turn leaves less text than it finds, so the turns come to an end,
and they end with what block after block gives.
-/
namespace Citations.Record

variable {known : Abbreviations} {text : Text} {total : Nat}

/-! ## One turn -/

/-- What follows white space and comments. -/
def skipComments (text : Text) : Text :=
  match _ : Text.trimStart text with
  | '%' :: comment => skipComments (comment.dropWhile (· ≠ '\n'))
  | rest => rest
termination_by text.length
decreasing_by
  rename_i begins
  have shorter := (List.dropWhile_suffix Text.isBlank (l := text)).length_le
  have comments := (List.dropWhile_suffix (· ≠ '\n') (l := comment)).length_le
  rw [← Text.trimStart, begins, List.length_cons] at shorter
  omega

/-- Whether free text goes on with a character. -/
def isFree (c : Char) : Bool := c ≠ '@' && c ≠ '\n'

/-- What follows free text: the next line, or an at sign on the same one. -/
def skipFree (text : Text) : Text :=
  match text.dropWhile isFree with
  | '\n' :: rest => rest
  | rest => rest

/-- What a turn does. -/
inductive Turn where
  /-- It passes text without a block. -/
  | passed (rest : Text)
  /-- It reads a block behind an at sign. -/
  | read (body : Text) (block : Block) (rest : Text)
  /-- It cannot read the block behind an at sign. -/
  | failed (body : Text)

/-- One turn of reading. -/
def turn (known : Abbreviations) (text : Text) : Turn :=
  match skipComments text with
  | '@' :: body =>
    if starts body then
      match block? known body with
      | some (block, rest) => .read body block rest
      | none => .failed body
    else .passed body
  | prose => .passed (skipFree prose)

/-- White space in front of a text does not change what is sought. -/
theorem seek_trimStart (text : Text) : seek .blank (Text.trimStart text) = seek .blank text := by
  induction text with
  | nil => rfl
  | cons c rest ih =>
    rw [Text.trimStart, List.dropWhile_cons]
    split
    · next blank => rw [seek, if_pos blank, ← ih, Text.trimStart]
    · rfl

/-- A comment goes up to the end of its line. -/
theorem seek_comment (text : Text) :
    seek .comment text = seek .blank (text.dropWhile (· ≠ '\n')) := by
  induction text with
  | nil => rfl
  | cons c rest ih =>
    by_cases ends : c = '\n'
    · subst ends
      rfl
    · rw [seek, if_neg ends, ih, List.dropWhile_cons_of_pos (by simpa using ends)]

/-- White space and comments in front of a text do not change what is sought. -/
theorem seek_skipComments (text : Text) :
    seek .blank (skipComments text) = seek .blank text := by
  fun_induction skipComments text with
  | case1 text comment begins ih =>
    rw [ih, ← seek_comment, ← seek_trimStart text, begins]
    rfl
  | case2 text => exact seek_trimStart text

/-- Neither white space nor a comment is left. -/
theorem skipComments_stops (text : Text) :
    Stops (fun c => Text.isBlank c || c = '%') (skipComments text) := by
  fun_induction skipComments text with
  | case1 text comment begins ih => exact ih
  | case2 text uncommented =>
    intro c first
    obtain ⟨rest, begins⟩ := List.head?_eq_some_iff.mp first
    have stopped := List.head?_dropWhile_not Text.isBlank text
    rw [← Text.trimStart, begins, List.head?_cons] at stopped
    have other : c ≠ '%' := by
      rintro rfl
      exact uncommented rest begins
    simpa [other] using stopped

/-- What is left is the end of the text. -/
theorem skipComments_suffix (text : Text) : skipComments text <:+ text := by
  fun_induction skipComments text with
  | case1 text comment begins ih =>
    have trimmed : '%' :: comment <:+ text := begins ▸ List.dropWhile_suffix Text.isBlank
    exact ih.trans ((List.dropWhile_suffix _).trans ((List.suffix_cons ..).trans trimmed))
  | case2 text => exact List.dropWhile_suffix Text.isBlank

/-- A character of free text is passed. -/
theorem skipFree_cons {c : Char} (free : isFree c = true) (rest : Text) :
    skipFree (c :: rest) = skipFree rest := by
  rw [skipFree, List.dropWhile_cons_of_pos free, skipFree]

/-- In free text an at sign is sought on the same line, and then a block on the next one. -/
theorem seek_prose (text : Text) : seek .prose text = seek .blank (skipFree text) := by
  induction text with
  | nil => rfl
  | cons c rest ih =>
    by_cases ends : c = '\n'
    · subst ends
      rfl
    · by_cases sign : c = '@'
      · subst sign
        exact seek_of_head rfl rfl
      · rw [seek, if_neg ends, if_neg sign, ih, skipFree_cons (by simp [isFree, ends, sign])]

/-- What neither white space nor a comment begins is free text. -/
theorem seek_blank_of_stops (stops : Stops (fun c => Text.isBlank c || c = '%') text) :
    seek .blank text = seek .prose text := by
  cases text with
  | nil => rfl
  | cons c rest =>
    obtain ⟨shown, uncommented⟩ : Text.isBlank c = false ∧ c ≠ '%' := by
      simpa using stops c rfl
    have inLine : c ≠ '\n' := by
      rintro rfl
      contradiction
    simp [seek, shown, uncommented, inLine]

/-- What is left after free text is the end of it. -/
theorem skipFree_suffix (text : Text) : skipFree text <:+ text := by
  have left := List.dropWhile_suffix isFree (l := text)
  unfold skipFree
  split
  · next rest newline => exact (List.suffix_cons '\n' rest).trans (newline ▸ left)
  · exact left

/-- Free text that does not begin with an at sign loses its first character. -/
theorem skipFree_suffix_tail (unsigned : text.head? ≠ some '@') :
    skipFree text <:+ text.tail := by
  cases text with
  | nil => exact List.suffix_rfl
  | cons c rest =>
    by_cases ends : c = '\n'
    · subst ends
      exact List.suffix_rfl
    · have free : isFree c = true := by
        have other : c ≠ '@' := fun same => unsigned (congrArg some same)
        simp [isFree, ends, other]
      rw [skipFree_cons free]
      exact skipFree_suffix rest

/-- A turn passes text in which no block is found and leaves less of it, or it comes to the next
block and reads it or not. -/
theorem turn_cases (known : Abbreviations) (text : Text) :
    (∃ rest, turn known text = .passed rest ∧ seek .blank text = seek .blank rest ∧
      (text ≠ [] → rest.length < text.length)) ∨
    (∃ body block rest, turn known text = .read body block rest ∧
      seek .blank text = '@' :: body ∧ block? known body = some (block, rest)) ∨
    ∃ body, turn known text = .failed body ∧
      seek .blank text = '@' :: body ∧ block? known body = none := by
  have sought := seek_skipComments text
  have shorter := (skipComments_suffix text).length_le
  by_cases signed : (skipComments text).head? = some '@'
  · obtain ⟨body, begins⟩ := List.head?_eq_some_iff.mp signed
    rw [begins, seek_cons] at sought
    rw [begins, List.length_cons] at shorter
    simp only [turn, begins]
    by_cases starting : starts body = true
    · rw [if_pos ⟨rfl, rfl, starting⟩] at sought
      rw [if_pos starting]
      cases read : block? known body with
      | none => exact Or.inr (Or.inr ⟨body, rfl, sought.symm, read⟩)
      | some taken => exact Or.inr (Or.inl ⟨body, taken.1, taken.2, rfl, sought.symm, read⟩)
    · rw [if_neg fun ⟨_, _, here⟩ => starting here] at sought
      rw [if_neg starting]
      exact Or.inl ⟨body, rfl, sought.symm, fun _ => shorter⟩
  · have prose := (seek_blank_of_stops (skipComments_stops text)).trans (seek_prose _)
    have left := (skipFree_suffix_tail signed).length_le
    rw [List.length_tail] at left
    refine Or.inl ⟨skipFree (skipComments text), ?_, sought.symm.trans prose, fun more => ?_⟩
    · unfold turn
      split
      · next body begins => exact absurd (congrArg List.head? begins) signed
      · rfl
    · have := List.length_pos_iff.mpr more
      omega

/-! ## Turn by turn -/

/-- The turns in which a text at the end of a source with `total` characters is read. Each one
leaves less of the text, and the place of a block is told by how much is left there. -/
inductive Turns (total : Nat) : Abbreviations → Text → Reading → Prop where
  /-- Nothing is left to read. -/
  | done {known : Abbreviations} : Turns total known [] ⟨[], known, none⟩
  /-- Text without a block is passed. -/
  | passed {known : Abbreviations} {text rest : Text} {reading : Reading}
      (turned : turn known text = .passed rest) (shorter : rest.length < text.length)
      (later : Turns total known rest reading) : Turns total known text reading
  /-- A block is read. -/
  | read {known : Abbreviations} {text body rest : Text} {block : Block} {reading : Reading}
      (turned : turn known text = .read body block rest) (shorter : rest.length < text.length)
      (later : Turns total (block.define known) rest reading) :
      Turns total known text
        { reading with
          records := block.records (total - (body.length + 1)) ++ reading.records }
  /-- A block cannot be read. -/
  | failed {known : Abbreviations} {text body : Text}
      (turned : turn known text = .failed body) :
      Turns total known text ⟨[], known, some (total - (body.length + 1))⟩

/-- The turns come to an end, with what is read block after block. -/
theorem turns_readFrom (known : Abbreviations) (text : Text) (inside : text.length ≤ total) :
    Turns total known text (readFrom known (total - text.length) text) := by
  induction size : text.length using Nat.strong_induction_on generalizing known text with
  | _ size ih =>
    subst size
    by_cases empty : text = []
    · subst empty
      rw [readFrom_of_end (seek.eq_1 .blank)]
      exact .done
    obtain ⟨rest, turned, same, less⟩ | ⟨body, block, rest, turned, found, read⟩ |
      ⟨body, turned, found, unread⟩ := turn_cases known text
    · have shorter := less empty
      have place : total - text.length + text.length = total - rest.length + rest.length := by
        omega
      rw [readFrom_congr same place]
      exact .passed turned shorter (ih _ shorter known rest (by omega) rfl)
    · have remains := (found ▸ seek_suffix .blank text : '@' :: body <:+ text).length_le
      have taken := block?_length read
      rw [List.length_cons] at remains
      have shorter : rest.length < text.length := by omega
      have start : total - text.length + (text.length - (body.length + 1)) =
          total - (body.length + 1) := by
        omega
      have next : total - text.length + (text.length - rest.length) = total - rest.length := by
        omega
      rw [readFrom_of_block found read, start, next]
      exact .read turned shorter (ih _ shorter _ rest (by omega) rfl)
    · have remains := (found ▸ seek_suffix .blank text : '@' :: body <:+ text).length_le
      rw [List.length_cons] at remains
      have start : total - text.length + (text.length - (body.length + 1)) =
          total - (body.length + 1) := by
        omega
      rw [readFrom_of_failure found unread, start]
      exact .failed turned

/-- A source is read in turns. -/
theorem turns_readSource (text : Text) : Turns text.length [] text (readSource text) := by
  have turns := turns_readFrom [] text (Nat.le_refl text.length)
  rwa [Nat.sub_self] at turns

end Citations.Record
