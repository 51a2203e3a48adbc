import Citations.Proofs.Text.Pieces
import Citations.Proofs.Text.Search
import Citations.Text.Blank

/-!
# Lines that line feeds end

The lines of a text are its pieces between line feeds, each without the carriage return that may
end it, except that a last piece which no line feed ends is kept as it is, or left out if it is
empty. What stands before and after a line feed has its lines on its own.
-/
namespace Citations.Text

variable {text line lead tail : Text} {c : Char}

/-! ## Trimming -/

/-- White space around a text that neither begins nor ends with it is trimmed. -/
theorem trim_between (leads : ∀ c ∈ lead, isBlank c = true) (tails : ∀ c ∈ tail, isBlank c = true)
    (begins : ∀ c ∈ text.head?, isBlank c = false) (ends : ∀ c ∈ text.getLast?, isBlank c = false) :
    trim (lead ++ (text ++ tail)) = text :=
  dropWhile_dropEndWhile leads tails begins ends

/-- White space in front of a text that does not begin with it is trimmed. -/
theorem trimStart_append (leads : ∀ c ∈ lead, isBlank c = true)
    (begins : ∀ c ∈ text.head?, isBlank c = false) : trimStart (lead ++ text) = text :=
  (takeWhile_append_of_stops leads begins).2

/-- White space at the end makes no difference to what is left of a trimmed text. -/
theorem trim_append_blank (blank : isBlank c = true) (text : Text) :
    trim (text ++ [c]) = trim text := by
  have ending (kept : Text) : trimEnd (kept ++ [c]) = trimEnd kept := by
    have dropped : [c].all isBlank = true := by rw [List.all_cons, blank]; rfl
    rw [trimEnd, trimEnd, dropEndWhile_append, if_pos dropped]
  have nothing : trimStart [c] = [] := List.dropWhile_cons_of_pos blank
  rw [trim, trim, trimStart, List.dropWhile_append]
  split
  · next empty =>
    have gone : trimStart text = [] := List.isEmpty_iff.mp empty
    rw [gone]
    exact congrArg trimEnd nothing
  · exact ending _

/-- A carriage return that ends a line makes no difference to what is left of it. -/
theorem trim_dropReturn (line : Text) : trim (dropReturn line) = trim line := by
  unfold dropReturn
  split
  · next ends =>
    obtain ⟨front, rfl⟩ := List.getLast?_eq_some_iff.mp ends
    rw [List.dropLast_concat, trim_append_blank (by decide)]
  · rfl

/-! ## Lines -/

/-- What stands before and after a line feed has its lines on its own; those before are ended. -/
theorem lines_append_cons (text rest : Text) :
    lines (text ++ '\n' :: rest) = (splitAt '\n' text).map dropReturn ++ lines rest := by
  have later : splitAt '\n' rest ≠ [] := pieces_ne_nil _ rest
  have last : (splitAt '\n' text ++ splitAt '\n' rest).getLast?.getD [] =
      (splitAt '\n' rest).getLast?.getD [] := by
    rw [List.getLast?_append_of_ne_nil _ later]
  unfold lines
  dsimp only
  rw [splitAt_append_cons, last, List.dropLast_append_of_ne_nil later, List.map_append,
    List.append_assoc]

/-- A text without line feeds is its only line. -/
theorem lines_of_notMem (nonempty : text ≠ []) (clean : '\n' ∉ text) : lines text = [text] := by
  unfold lines
  rw [splitAt_of_not_mem clean]
  exact if_neg nonempty

/-- The first line of a text that does not begin with a line feed has what stands before the first
line feed, and perhaps not the carriage return at its end. -/
theorem exists_lines_cons (nonempty : line ≠ []) (clean : '\n' ∉ line)
    (apart : tail = [] ∨ tail.head? = some '\n') :
    ∃ first rest, lines (line ++ tail) = first :: rest ∧ (first = line ∨ first = dropReturn line) := by
  rcases apart with rfl | begins
  · exact ⟨line, [], by rw [List.append_nil, lines_of_notMem nonempty clean], Or.inl rfl⟩
  · obtain ⟨rest, rfl⟩ := List.head?_eq_some_iff.mp begins
    exact ⟨dropReturn line, lines rest, by
      rw [lines_append_cons, splitAt_of_not_mem clean, List.map_singleton, List.singleton_append],
      Or.inr rfl⟩

/-- No line has a line feed. -/
theorem lineFeed_notMem_lines (listed : line ∈ lines text) : '\n' ∉ line := by
  unfold lines at listed
  rcases List.mem_append.mp listed with ended | last
  · obtain ⟨piece, inside, rfl⟩ := List.mem_map.mp ended
    have clean : '\n' ∉ piece := not_mem_of_mem_splitAt (List.mem_of_mem_dropLast inside)
    unfold dropReturn
    split
    · exact fun there => clean (List.mem_of_mem_dropLast there)
    · exact clean
  · split at last
    · contradiction
    · rw [List.mem_singleton] at last
      cases found : (splitAt '\n' text).getLast? with
      | none =>
        rw [last, found]
        exact List.not_mem_nil
      | some piece =>
        rw [last, found]
        exact not_mem_of_mem_splitAt (List.mem_of_getLast? found)

end Citations.Text
