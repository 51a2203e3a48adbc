import Citations.Proofs.Bibliography.Reading
import Citations.Proofs.Bibliography.Written

/-!
# The header that an at sign announces

A word ends before the first character outside its class, and blanks are none of the characters of
a kind, a name or a key. Whether an at sign starts a block is decided with any white space skipped
around the kind, and the header of the block is then read with blanks skipped. Where nothing but
blanks stands around the kind the two agree, and how much of it there is does not matter to the
block. Other white space still makes a text look like a block, but it has no header.
-/
namespace Citations.Record

section

variable {text rest : Text}

/-! ## Where a word ends -/

/-- A text that does not begin with a character of a class. -/
def Stops (p : Char → Bool) (text : Text) : Prop := ∀ c ∈ text.head?, p c = false

section Stops

variable {p : Char → Bool} {c : Char}

/-- A text stops a class when its first character does. -/
theorem stops_cons (outside : p c = false) (text : Text) : Stops p (c :: text) := by
  intro first isFirst
  obtain rfl : c = first := by simpa using isFirst
  exact outside

/-- A text stops a class when what stands in front of it is outside the class as well. -/
theorem stops_append {front : Text} (outside : ∀ c ∈ front, p c = false) (stops : Stops p text) :
    Stops p (front ++ text) := by
  cases front with
  | nil => exact stops
  | cons first others => exact stops_cons (outside first List.mem_cons_self) _

/-- A word is taken up to where its class stops. -/
theorem takeWhile_stops {word : Text} (made : ∀ c ∈ word, p c = true) (stops : Stops p rest) :
    (word ++ rest).takeWhile p = word :=
  (Text.takeWhile_append_of_stops made stops).1

/-- What follows a word is what is left. -/
theorem dropWhile_stops {word : Text} (made : ∀ c ∈ word, p c = true) (stops : Stops p rest) :
    (word ++ rest).dropWhile p = rest :=
  (Text.takeWhile_append_of_stops made stops).2

/-- The first character of a word with text after it belongs to the word. -/
theorem Word.mem_of_head? (word : Word p) (first : c ∈ (word.text ++ rest).head?) :
    c ∈ word.text := by
  obtain ⟨text, nonempty, made⟩ := word
  cases text with
  | nil => contradiction
  | cons start others =>
    obtain rfl : start = c := by simpa using first
    exact List.mem_cons_self

end Stops

/-- Nothing is skipped where no blank comes first. -/
theorem skipLayout_of_stops (stops : Stops isLayout text) : skipLayout text = text :=
  dropWhile_stops (List.forall_mem_nil _) stops

/-- A class of characters without blanks. -/
def Blankless (p : Char → Bool) : Prop := ∀ c, isLayout c = true → p c = false

/-- The blanks one by one. -/
theorem isLayout_cases {c : Char} (blank : isLayout c = true) :
    c = ' ' ∨ c = '\t' ∨ c = '\r' ∨ c = '\n' := by
  simpa [isLayout, or_assoc] using blank

/-- A kind has no blanks. -/
theorem blankless_isKind : Blankless isKind := by
  intro c blank
  rcases isLayout_cases blank with rfl | rfl | rfl | rfl <;> decide

/-- A name has no blanks. -/
theorem blankless_isName : Blankless isName := by
  intro c blank
  rcases isLayout_cases blank with rfl | rfl | rfl | rfl <;> decide

/-- Blanks are white space. -/
theorem isBlank_of_isLayout {c : Char} (blank : isLayout c = true) : Text.isBlank c = true := by
  rcases isLayout_cases blank with rfl | rfl | rfl | rfl <;> decide

/-- A key has no blanks. -/
theorem blankless_isKey (closer : Char) : Blankless (isKey closer) := by
  intro c blank
  simp [isKey, isBlank_of_isLayout blank]

/-- A letter is no white space. -/
theorem isBlank_of_isAlpha {c : Char} (letter : c.isAlpha = true) : Text.isBlank c = false := by
  have bounds : (65 ≤ c.toNat ∧ c.toNat ≤ 90) ∨ 97 ≤ c.toNat ∧ c.toNat ≤ 122 := by
    rcases Bool.or_eq_true_iff.mp letter with upper | lower
    · obtain ⟨least, greatest⟩ : 'A'.val ≤ c.val ∧ c.val ≤ 'Z'.val := of_decide_eq_true upper
      exact Or.inl ⟨UInt32.le_iff_toNat_le.mp least, UInt32.le_iff_toNat_le.mp greatest⟩
    · change (decide ('a'.val ≤ c.val) && decide (c.val ≤ 'z'.val)) = true at lower
      rw [Bool.and_eq_true, decide_eq_true_eq, decide_eq_true_eq] at lower
      obtain ⟨least, greatest⟩ := lower
      exact Or.inr ⟨UInt32.le_iff_toNat_le.mp least, UInt32.le_iff_toNat_le.mp greatest⟩
  simp only [Text.isBlank, Bool.or_eq_false_iff, Bool.and_eq_false_iff, beq_eq_false_iff_ne,
    decide_eq_false_iff_not, ne_eq]
  omega

section Blankless

variable {p : Char → Bool} (blankless : Blankless p)

include blankless

/-- A word without blanks begins with none. -/
theorem Word.stops (word : Word p) (rest : Text) : Stops isLayout (word.text ++ rest) := by
  intro c first
  have member := word.made c (word.mem_of_head? first)
  by_contra blank
  rw [blankless c (by simpa using blank)] at member
  contradiction

/-- Blanks end a word without blanks, and so does what follows them if it would. -/
theorem Layout.stops (blanks : Layout) (later : Stops p rest) : Stops p (blanks.text ++ rest) :=
  stops_append (fun c listed => blankless c (blanks.blank c listed)) later

end Blankless

/-- Blanks are skipped up to a text that begins with something else. -/
theorem Layout.skip (blanks : Layout) (stops : Stops isLayout rest) :
    skipLayout (blanks.text ++ rest) = rest :=
  dropWhile_stops blanks.blank stops

/-- A text of which characters of a class are taken begins with one. -/
theorem head?_of_takeWhile {p : Char → Bool} (taken : text.takeWhile p ≠ []) :
    ∃ c ∈ text.head?, p c = true := by
  cases text with
  | nil => exact absurd rfl taken
  | cons c tail =>
    refine ⟨c, rfl, ?_⟩
    by_contra other
    exact taken (List.takeWhile_cons_of_neg other)

/-- What may stand in a kind is no white space. -/
theorem isBlank_of_isKind {c : Char} (named : isKind c = true) : Text.isBlank c = false := by
  have bounds : c.isAlpha = true ∨ (48 ≤ c.toNat ∧ c.toNat ≤ 57) ∨ c = '_' ∨ c = '-' := by
    simp only [isKind, Char.isAlphanum, Bool.or_eq_true, beq_iff_eq] at named
    rcases named with ((letter | digit) | underscore) | dash
    · exact Or.inl letter
    · obtain ⟨least, greatest⟩ : '0'.val ≤ c.val ∧ c.val ≤ '9'.val := by
        simpa [Char.isDigit] using digit
      exact Or.inr (Or.inl
        ⟨UInt32.le_iff_toNat_le.mp least, UInt32.le_iff_toNat_le.mp greatest⟩)
    · exact Or.inr (Or.inr (Or.inl underscore))
    · exact Or.inr (Or.inr (Or.inr dash))
  rcases bounds with letter | digit | rfl | rfl
  · exact isBlank_of_isAlpha letter
  · simp only [Text.isBlank, Bool.or_eq_false_iff, Bool.and_eq_false_iff, beq_eq_false_iff_ne,
      decide_eq_false_iff_not, ne_eq]
    omega
  · decide
  · decide

/-- Blanks and other white space end at the same place where something else follows the blanks. -/
theorem trimStart_eq_skipLayout (stops : Stops Text.isBlank (skipLayout text)) :
    Text.trimStart text = skipLayout text := by
  have blank : ∀ c ∈ text.takeWhile isLayout, Text.isBlank c = true :=
    fun c listed => isBlank_of_isLayout (List.mem_takeWhile_imp listed)
  conv_lhs => rw [← List.takeWhile_append_dropWhile (p := isLayout) (l := text)]
  exact dropWhile_stops blank stops

/-- An opening delimiter is no blank and belongs to no kind. -/
theorem Delimiters.opener_apart (delimiters : Delimiters) :
    isKind delimiters.opener = false ∧ isLayout delimiters.opener = false ∧
      Text.isBlank delimiters.opener = false := by
  cases delimiters <;> decide

end

/-! ## Headers -/

/-- What an at sign that starts a block is followed by. -/
structure Header where
  /-- The white space before the kind. -/
  before : Text
  /-- The kind. -/
  kind : Word isKind
  /-- The white space after the kind. -/
  after : Text
  /-- The delimiters, of which the opening one ends the header. -/
  delimiters : Delimiters
  /-- The kind begins with a letter. -/
  lettered : kind.text.head?.any Char.isAlpha = true
  /-- Nothing else stands before the kind. -/
  blankBefore : ∀ c ∈ before, Text.isBlank c = true
  /-- Nothing else stands between the kind and the delimiter. -/
  blankAfter : ∀ c ∈ after, Text.isBlank c = true

namespace Header

/-- What a header is written as. -/
def text (header : Header) : Text :=
  header.before ++ (header.kind.text ++ (header.after ++ [header.delimiters.opener]))

/-- Whether the white space around the kind is blanks. -/
def plain (header : Header) : Bool := (header.before ++ header.after).all isLayout

/-- The same header with nothing around its kind. -/
def tight (header : Header) : Header :=
  { header with
    before := []
    after := []
    blankBefore := List.forall_mem_nil _
    blankAfter := List.forall_mem_nil _ }

variable (header : Header) (rest : Text)

/-- The parts of a header with what follows it. -/
theorem text_append :
    header.text ++ rest = header.before ++
      (header.kind.text ++ (header.after ++ header.delimiters.opener :: rest)) := by
  simp only [text, List.append_assoc, List.cons_append, List.nil_append]

/-- The white space of a plain header is blanks, on both sides. -/
theorem plain_iff : header.plain = true ↔
    (∀ c ∈ header.before, isLayout c = true) ∧ ∀ c ∈ header.after, isLayout c = true := by
  rw [plain, List.all_eq_true, List.forall_mem_append]

/-- White space ends where the kind begins. -/
theorem kind_begins (more : Text) : Stops Text.isBlank (header.kind.text ++ more) :=
  fun _ first => isBlank_of_isKind (header.kind.made _ (header.kind.mem_of_head? first))

/-- The kind ends before the white space in front of the opening delimiter. -/
theorem kind_ends : Stops isKind (header.after ++ header.delimiters.opener :: rest) := by
  refine stops_append (fun c listed => ?_) (stops_cons header.delimiters.opener_apart.1 rest)
  by_contra named
  have blank := header.blankAfter c listed
  rw [isBlank_of_isKind (by simpa using named)] at blank
  contradiction

/-- The opening delimiter ends white space. -/
theorem opener_stops : Stops Text.isBlank (header.delimiters.opener :: rest) :=
  stops_cons header.delimiters.opener_apart.2.2 rest

/-! ## Looking ahead -/

/-- An at sign in front of a header starts a block. -/
theorem starts_text : starts (header.text ++ rest) = true := by
  have lettered (later : Text) :
      (header.kind.text ++ later).head?.any Char.isAlpha = true := by
    rw [List.head?_append_of_ne_nil _ header.kind.nonempty, header.lettered]
  simp only [starts, Text.trimStart, text_append]
  rw [dropWhile_stops header.blankBefore (header.kind_begins _), lettered,
    dropWhile_stops header.kind.made (header.kind_ends rest),
    dropWhile_stops header.blankAfter (header.opener_stops rest)]
  cases header.delimiters <;> rfl

end Header

/-- What starts a block after an at sign begins with a header. -/
theorem exists_header_of_starts {text : Text} (started : starts text = true) :
    ∃ header rest, text = Header.text header ++ rest := by
  obtain ⟨lettered, opened⟩ := Bool.and_eq_true_iff.mp started
  obtain ⟨c, first, letter⟩ := (Option.any_eq_true ..).mp lettered
  obtain ⟨sign, opens, isOpener⟩ := (Option.any_eq_true ..).mp opened
  obtain ⟨tail, named⟩ := List.head?_eq_some_iff.mp first
  obtain ⟨rest, ended⟩ := List.head?_eq_some_iff.mp opens
  have isKind_c : isKind c = true := by simp [isKind, Char.isAlphanum, letter]
  have taken : (Text.trimStart text).takeWhile isKind = c :: tail.takeWhile isKind := by
    rw [named, List.takeWhile_cons_of_pos isKind_c]
  have isPair : ∃ delimiters : Delimiters, delimiters.opener = sign := by
    rcases of_decide_eq_true (by simpa using isOpener) with rfl | rfl
    · exact ⟨.braces, rfl⟩
    · exact ⟨.parentheses, rfl⟩
  obtain ⟨delimiters, rfl⟩ := isPair
  refine ⟨
    { before := text.takeWhile Text.isBlank
      kind := ⟨(Text.trimStart text).takeWhile isKind, by simp [taken],
        fun c listed => List.mem_takeWhile_imp listed⟩
      after := ((Text.trimStart text).dropWhile isKind).takeWhile Text.isBlank
      delimiters := delimiters
      lettered := by simp [taken, letter]
      blankBefore := fun c listed => List.mem_takeWhile_imp listed
      blankAfter := fun c listed => List.mem_takeWhile_imp listed }, rest, ?_⟩
  rw [Header.text_append]
  dsimp only
  rw [← ended]
  simp only [Text.trimStart, List.takeWhile_append_dropWhile]

/-! ## Reading the header -/

/-- Characters of a class are all that stands in front of what is left of it. -/
theorem forall_of_dropWhile_append {p : Char → Bool} {front rest : Text}
    (left : (front ++ rest).dropWhile p = rest) : ∀ c ∈ front, p c = true := by
  refine List.dropWhile_eq_nil_iff.mp ?_
  rw [List.dropWhile_append] at left
  split at left
  · next empty => exact List.isEmpty_iff.mp empty
  · exact List.append_left_eq_self.mp left

/-- Blocks with the same header and the same text after it are read alike. -/
theorem block?_congr {known : Abbreviations} {text other : Text}
    (same : header? text = header? other) : block? known text = block? known other := by
  rw [block?, block?, same]

namespace Header

variable (header : Header) (rest : Text)

/-- A plain header is read. -/
theorem header?_of_plain (plain : header.plain = true) :
    header? (header.text ++ rest) =
      some (header.kind.text, header.delimiters.opener, rest) := by
  obtain ⟨before, after⟩ := header.plain_iff.mp plain
  have begins := dropWhile_stops before (header.kind.stops blankless_isKind
    (header.after ++ header.delimiters.opener :: rest))
  have left := dropWhile_stops after
    (stops_cons (p := isLayout) header.delimiters.opener_apart.2.1 rest)
  rw [text_append]
  refine header?_eq_some.mpr ?_
  rw [skipLayout, begins, takeWhile_stops header.kind.made (header.kind_ends rest),
    dropWhile_stops header.kind.made (header.kind_ends rest), skipLayout, left]
  refine ⟨header.kind.nonempty, rfl, rfl, ?_⟩
  cases header.delimiters <;> decide

/-- A header that is read is plain. -/
theorem plain_of_header? {found : Text × Char × Text}
    (headed : header? (header.text ++ rest) = some found) : header.plain = true := by
  obtain ⟨kind, opener, left⟩ := found
  obtain ⟨nonempty, rfl, kept, opens⟩ := header?_eq_some.mp headed
  rw [text_append] at nonempty kept
  -- Blanks have been skipped up to the kind, so that all the white space in front of it was.
  obtain ⟨c, first, named⟩ := head?_of_takeWhile nonempty
  have kindBegins := trimStart_eq_skipLayout fun other begins => by
    obtain rfl := Option.some.inj (first.symm.trans begins)
    exact isBlank_of_isKind named
  rw [Text.trimStart, dropWhile_stops header.blankBefore (header.kind_begins _)] at kindBegins
  rw [← kindBegins, dropWhile_stops header.kind.made (header.kind_ends rest)] at kept
  have opened : Stops Text.isBlank (opener :: left) :=
    stops_cons (by rcases opens with rfl | rfl <;> decide) left
  have openerBegins := trimStart_eq_skipLayout (kept ▸ opened)
  rw [Text.trimStart, dropWhile_stops header.blankAfter (header.opener_stops rest)] at openerBegins
  exact header.plain_iff.mpr
    ⟨forall_of_dropWhile_append kindBegins.symm, forall_of_dropWhile_append openerBegins.symm⟩

/-- A header is read exactly when it is plain, and then to its end. -/
theorem header?_text : header? (header.text ++ rest) =
    if header.plain then some (header.kind.text, header.delimiters.opener, rest) else none := by
  split
  · next plain => exact header.header?_of_plain rest plain
  · next other =>
    cases headed : header? (header.text ++ rest) with
    | none => rfl
    | some found => exact absurd (header.plain_of_header? rest headed) other

/-- A block with a plain header is read as if nothing stood around its kind, and with another header
it is not read. -/
theorem block?_text (known : Abbreviations) : block? known (header.text ++ rest) =
    if header.plain then block? known (header.tight.text ++ rest) else none := by
  split
  · next plain =>
    refine block?_congr ?_
    rw [header.header?_of_plain rest plain, header.tight.header?_of_plain rest rfl]
    rfl
  · next other =>
    rw [block?, header.header?_text, if_neg other]
    rfl

end Header

end Citations.Record
