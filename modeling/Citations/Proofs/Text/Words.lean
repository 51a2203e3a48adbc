import Citations.Proofs.Text.Pieces
import Citations.Proofs.Text.Spaced
import Citations.Text.LineIndex

/-!
# Words and collapsed white space

The words of a text are those of its parts wherever it is cut at white space. Collapsing the white
space keeps the words and leaves single spaces between them, and nothing else changes: a character
that is not white space is followed by what followed it, or by one space in place of more.
-/
namespace Citations.Text

variable {text rest : Text} {found : List Text} {c : Char}

/-- What ends a line is white space. -/
theorem isBlank_of_isBreak (ends : isBreak c = true) : isBlank c = true := by
  simp only [isBreak, isBlank, Bool.or_eq_true, Bool.and_eq_true, decide_eq_true_eq,
    beq_iff_eq] at ends ⊢
  omega

/-! ## Words -/

/-- The words before and after white space are the words of the two texts. -/
theorem words_append_cons (blank : isBlank c = true) (text rest : Text) :
    words (text ++ c :: rest) = words text ++ words rest := by
  rw [words, pieces_append_cons blank, List.filter_append]
  rfl

/-- A text without white space is a word. -/
theorem words_of_inked (nonempty : text ≠ []) (inked : ∀ c ∈ text, isBlank c = false) :
    words text = [text] := by
  have whole : pieces isBlank text = [text] := by
    clear nonempty
    induction text with
    | nil => rfl
    | cons c rest ih =>
      have later := ih fun x listed => inked x (List.mem_cons_of_mem c listed)
      rw [pieces, inked c List.mem_cons_self, later]
      rfl
  rw [words, whole, List.filter_cons_of_pos (by simpa using nonempty)]
  rfl

/-- A word is not empty and has no white space. -/
theorem mem_words {word : Text} (listed : word ∈ words text) :
    word ≠ [] ∧ ∀ c ∈ word, isBlank c = false := by
  obtain ⟨cut, nonempty⟩ := List.mem_filter.mp listed
  exact ⟨by simpa using nonempty, eq_false_of_mem_pieces cut⟩

/-- The words of texts with a space between each two are those of each of them. -/
theorem words_join (texts : List Text) : words (join [' '] texts) = (texts.map words).flatten := by
  induction texts with
  | nil => rfl
  | cons first rest ih =>
    cases rest with
    | nil => simp [join]
    | cons next rest =>
      have shape : join [' '] (first :: next :: rest) =
          first ++ ' ' :: join [' '] (next :: rest) := by
        simp [join]
      rw [shape, words_append_cons (by decide), ih]
      rfl

/-- Collapsing white space keeps the words. -/
theorem words_collapse (text : Text) : words (collapse text) = words text := by
  have alone : (words text).map words = (words text).map fun word => [word] :=
    List.map_congr_left fun word listed => words_of_inked (mem_words listed).1 (mem_words listed).2
  rw [collapse, words_join, alone, ← List.flatMap_def]
  simp

/-! ## Collapsed white space -/

/-- White space in front is lost. -/
theorem collapse_cons_blank (blank : isBlank c = true) (rest : Text) :
    collapse (c :: rest) = collapse rest :=
  congrArg (join [' ']) (words_append_cons blank [] rest)

/-- Other characters stay, with a space after them if white space follows and then more. -/
theorem collapse_cons_inked (inked : isBlank c = false) (rest : Text) :
    collapse (c :: rest) = c :: collapse rest ∨
      collapse (c :: rest) = c :: ' ' :: collapse rest ∧ collapse rest ≠ [] ∧
        ∃ d ∈ rest.head?, isBlank d = true := by
  have cons : pieces isBlank (c :: rest) = consHead c (pieces isBlank rest) := by
    rw [pieces, inked]
    rfl
  cases shape : pieces isBlank rest with
  | nil => exact absurd shape (pieces_ne_nil isBlank rest)
  | cons first others =>
    have whole : words (c :: rest) = (c :: first) :: others.filter (· ≠ []) := by
      rw [words, cons, shape]
      rfl
    have later : words rest = (first :: others).filter (· ≠ []) := by rw [words, shape]
    cases first with
    | cons d first =>
      refine Or.inl ?_
      rw [collapse, collapse, whole, later, List.filter_cons_of_pos (by simp)]
      cases others.filter (· ≠ []) <;> rfl
    | nil =>
      rw [List.filter_cons_of_neg (by simp)] at later
      rw [collapse, collapse, whole, later]
      cases more : others.filter (· ≠ []) with
      | nil => exact Or.inl rfl
      | cons next words =>
        have nonempty : next ≠ [] := by
          have listed : next ∈ others.filter (· ≠ []) := more ▸ List.mem_cons_self
          simpa using (List.mem_filter.mp listed).2
        refine Or.inr ⟨rfl, by cases words <;> simp [join, nonempty], ?_⟩
        -- The first piece is empty, so that white space is cut at right there.
        cases rest with
        | nil =>
          obtain ⟨-, rfl⟩ := List.cons.inj shape
          contradiction
        | cons d rest =>
          refine ⟨d, rfl, ?_⟩
          by_contra other
          rw [pieces, if_neg other] at shape
          cases tail : pieces isBlank rest <;> rw [tail] at shape <;> cases shape

/-- A character other than white space goes in front of text with single spaces, which may begin
with one. -/
theorem spaced_cons (inked : isBlank c = false) (ends : ∀ d ∈ text.getLast?, isBlank d = false)
    (plain : ∀ d ∈ text, isBlank d = true → d = ' ') (single : ¬ [' ', ' '] <:+: text) :
    Spaced (c :: text) where
  begins d first := by
    obtain rfl := Option.some.inj first
    exact inked
  ends d last := by
    cases text with
    | nil =>
      obtain rfl := Option.some.inj last
      exact inked
    | cons next rest => exact ends d last
  plain d listed blank := by
    rcases List.mem_cons.mp listed with rfl | later
    · simp [inked] at blank
    · exact plain d later blank
  single doubled := by
    rcases List.infix_cons_iff.mp doubled with begins | later
    · obtain ⟨rfl, -⟩ := List.cons_prefix_cons.mp begins
      exact absurd inked (by decide)
    · exact single later

/-- A character other than white space goes in front of spaced text. -/
theorem Spaced.cons (spaced : Spaced text) (inked : isBlank c = false) : Spaced (c :: text) :=
  spaced_cons inked spaced.ends spaced.plain spaced.single

/-- A character other than white space and a space go in front of spaced text. -/
theorem Spaced.cons_space (spaced : Spaced text) (nonempty : text ≠ [])
    (inked : isBlank c = false) : Spaced (c :: ' ' :: text) := by
  obtain ⟨next, rest, rfl⟩ := List.exists_cons_of_ne_nil nonempty
  refine spaced_cons inked spaced.ends (fun d listed blank => ?_) fun doubled => ?_
  · rcases List.mem_cons.mp listed with rfl | later
    · rfl
    · exact spaced.plain d later blank
  · rcases List.infix_cons_iff.mp doubled with begins | later
    · obtain ⟨others, same⟩ := (List.cons_prefix_cons.mp begins).2
      obtain ⟨rfl, -⟩ := List.cons.inj same
      exact absurd (spaced.begins ' ' rfl) (by decide)
    · exact spaced.single later

/-- Collapsed white space is between words only, and is a single space each time. -/
theorem spaced_collapse (text : Text) : Spaced (collapse text) := by
  induction text with
  | nil => exact isSpaced_iff.mp (by decide)
  | cons c rest ih =>
    cases kind : isBlank c with
    | true => exact collapse_cons_blank kind rest ▸ ih
    | false =>
      rcases collapse_cons_inked kind rest with same | ⟨same, nonempty, -⟩
      · exact same ▸ ih.cons kind
      · exact same ▸ ih.cons_space nonempty kind

end Citations.Text
