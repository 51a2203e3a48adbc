/-!
# Texts

A text is a list of characters, so positions and lengths count characters and a reader is a
recursion on the list. This module holds the operations that every other module shares:
taking a fixed word off the front, cutting at separators, joining with a separator, and the
lines that end in a line feed.
-/
namespace Citations

/-- A text is the list of its characters. -/
abbrev Text := List Char

namespace Text

/-- What follows `word` when the text begins with it. -/
def after? : (word text : Text) → Option Text
  | [], text => some text
  | _ :: _, [] => none
  | w :: word, c :: text => if w = c then after? word text else none

/-- A text begins with a word exactly when it is the word and the rest that `after?` returns. -/
theorem after?_eq_some_iff {word text rest : Text} :
    after? word text = some rest ↔ text = word ++ rest := by
  induction word generalizing text with
  | nil => simp [after?, eq_comm]
  | cons w word ih =>
    cases text with
    | nil => simp [after?]
    | cons c text =>
      by_cases same : w = c
      · simp [after?, same, ih]
      · simp [after?, same, Ne.symm same]

/-- Whether the text begins with `word`. -/
def beginsWith (word text : Text) : Bool := (after? word text).isSome

/-- Whether `word` occurs somewhere in the text. -/
def contains (word : Text) : Text → Bool
  | [] => beginsWith word []
  | c :: rest => beginsWith word (c :: rest) || contains word rest

/-- The number of characters before the first occurrence of `word`. -/
def find? (word : Text) : Text → Option Nat
  | [] => if beginsWith word [] then some 0 else none
  | c :: rest =>
    if beginsWith word (c :: rest) then some 0 else (find? word rest).map (· + 1)

/-- The number of characters before the last occurrence of `word`. -/
def findLast? (word : Text) : Text → Option Nat
  | [] => if beginsWith word [] then some 0 else none
  | c :: rest =>
    match findLast? word rest with
    | some position => some (position + 1)
    | none => if beginsWith word (c :: rest) then some 0 else none

/-- Put a character in front of the first piece. -/
def consHead (c : Char) : List Text → List Text
  | [] => [[c]]
  | piece :: pieces => (c :: piece) :: pieces

/-- The pieces between the characters that `cut` picks: one more than there are such
characters, so never none. -/
def pieces (cut : Char → Bool) : Text → List Text
  | [] => [[]]
  | c :: rest => if cut c then [] :: pieces cut rest else consHead c (pieces cut rest)

/-- A text always has a first piece. -/
theorem pieces_ne_nil (cut : Char → Bool) (text : Text) : pieces cut text ≠ [] := by
  cases text with
  | nil => simp [pieces]
  | cons c rest =>
    by_cases h : cut c
    · simp [pieces, h]
    · simp only [pieces, h, Bool.false_eq_true, ↓reduceIte]
      cases pieces cut rest <;> simp [consHead]

/-- The pieces between the occurrences of one character. -/
def splitAt (separator : Char) (text : Text) : List Text := pieces (· = separator) text

/-- The pieces with a separator between each two. -/
def join (separator : Text) : List Text → Text
  | [] => []
  | [piece] => piece
  | piece :: next :: rest => piece ++ separator ++ join separator (next :: rest)

/-- Pieces put together again with their separator are the text. -/
theorem join_splitAt (separator : Char) (text : Text) :
    join [separator] (splitAt separator text) = text := by
  unfold splitAt
  induction text with
  | nil => rfl
  | cons c rest ih =>
    by_cases h : c = separator
    · subst h
      cases found : pieces (fun x => decide (x = c)) rest with
      | nil => exact absurd found (pieces_ne_nil _ _)
      | cons piece more =>
        rw [found] at ih
        simp [pieces, found, join, ih]
    · cases found : pieces (fun x => decide (x = separator)) rest with
      | nil => exact absurd found (pieces_ne_nil _ _)
      | cons piece more =>
        rw [found] at ih
        cases more with
        | nil => simp_all [pieces, consHead, join]
        | cons next more => simp_all [pieces, consHead, join]

/-- A line without the carriage return that may end it. -/
def dropReturn (line : Text) : Text :=
  if line.getLast? = some '\r' then line.dropLast else line

/-- The lines that a line feed ends, each without it and without one carriage return before
it, and the unfinished last line when it has characters. -/
def lines (text : Text) : List Text :=
  let found := splitAt '\n' text
  let last := found.getLast?.getD []
  found.dropLast.map dropReturn ++ (if last = [] then [] else [last])

/-- Remove the characters that `drop` picks from the end. -/
def dropEndWhile (drop : Char → Bool) (text : Text) : Text :=
  (text.reverse.dropWhile drop).reverse

/-- Replace every occurrence of a character by a word. -/
def replaceChar (c : Char) (word : Text) (text : Text) : Text :=
  text.flatMap fun x => if x = c then word else [x]

/-- The decimal digits of a natural number, without leading zeros. -/
def ofNat (n : Nat) : Text := Nat.toDigits 10 n

/-- The value of a decimal digit. -/
def digit? (c : Char) : Option Nat := if c.isDigit then some (c.toNat - '0'.toNat) else none

/-- The value of a hexadecimal digit of either case. -/
def hexDigit? (c : Char) : Option Nat :=
  if c.isDigit then some (c.toNat - '0'.toNat)
  else if 'a' ≤ c ∧ c ≤ 'f' then some (c.toNat - 'a'.toNat + 10)
  else if 'A' ≤ c ∧ c ≤ 'F' then some (c.toNat - 'A'.toNat + 10)
  else none

/-- The number that digits in a base write, most significant first. -/
def numeral (base : Nat) (digits : List Nat) : Nat :=
  digits.foldl (fun value d => value * base + d) 0

/-- Read as often as it succeeds and takes characters: what was read, and what follows. -/
def repeated {α : Type} (read : Text → Option (α × Text)) (text : Text) : List α × Text :=
  match read text with
  | none => ([], text)
  | some (found, rest) =>
    if _ : rest.length < text.length then
      let (more, last) := repeated read rest
      (found :: more, last)
    else ([found], rest)
termination_by text.length

/-- What follows a character that has to come next. -/
def expect? (wanted : Char) : Text → Option Text
  | [] => none
  | c :: rest => if c = wanted then some rest else none

/-- An expected character is taken. -/
theorem expect?_length {c : Char} {text rest : Text} (read : expect? c text = some rest) :
    rest.length < text.length := by
  cases text with
  | nil => contradiction
  | cons x tail =>
    simp only [expect?] at read
    split at read
    · simp only [Option.some.injEq] at read
      simp [← read]
    · contradiction

/-- Two texts that differ at most in the case of ASCII letters. -/
def sameIgnoringCase (left right : Text) : Bool := left.map Char.toLower = right.map Char.toLower

/-- ASCII letters in lower case, everything else as it is. -/
def lowerAscii (text : Text) : Text := text.map Char.toLower

end Text

end Citations
