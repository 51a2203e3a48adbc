import Citations.Text.Basic
import Mathlib.Data.List.Basic

/-!
# Pieces between separators

A text is cut at some of its characters and put together again from its pieces. What stands
before and after a separator is cut on its own, so the pieces of joined texts are the pieces of
each of them, and there is one piece more than there are separators.
-/
namespace Citations.Text

variable {text piece : Text} {separator c : Char} {cut : Char → Bool} {segments : List Text}

/-- What stands before and after a character that is cut at is cut on its own. -/
theorem pieces_append_cons (picked : cut c = true) (text rest : Text) :
    pieces cut (text ++ c :: rest) = pieces cut text ++ pieces cut rest := by
  induction text with
  | nil => simp [pieces, picked]
  | cons d text ih =>
    rw [List.cons_append, pieces, pieces, ih]
    split
    · rfl
    · cases shape : pieces cut text with
      | nil => exact absurd shape (pieces_ne_nil cut text)
      | cons piece others => rfl

/-- What is not cut at is in no piece. -/
theorem eq_false_of_mem_pieces (listed : piece ∈ pieces cut text) :
    ∀ c ∈ piece, cut c = false := by
  induction text generalizing piece with
  | nil =>
    obtain rfl := List.mem_singleton.mp listed
    simp
  | cons d rest ih =>
    rw [pieces] at listed
    split at listed
    · rcases List.mem_cons.mp listed with rfl | later
      · simp
      · exact ih later
    · next kept =>
      cases shape : pieces cut rest with
      | nil => exact absurd shape (pieces_ne_nil cut rest)
      | cons first others =>
        rw [shape] at listed ih
        rcases List.mem_cons.mp listed with rfl | later
        · intro c inside
          rcases List.mem_cons.mp inside with rfl | inside
          · simpa using kept
          · exact ih List.mem_cons_self c inside
        · exact ih (List.mem_cons_of_mem _ later)

/-- No piece has the separator. -/
theorem not_mem_of_mem_splitAt (listed : piece ∈ splitAt separator text) : separator ∉ piece := by
  intro inside
  simpa using eq_false_of_mem_pieces listed separator inside

/-- A text without the separator is one piece. -/
theorem splitAt_of_not_mem (outside : separator ∉ text) : splitAt separator text = [text] := by
  unfold splitAt
  induction text with
  | nil => rfl
  | cons c rest ih =>
    simp only [List.mem_cons, not_or] at outside
    simp [pieces, Ne.symm outside.1, ih outside.2, consHead]

/-- The pieces before and after a separator are those of the two texts. -/
theorem splitAt_append_cons (separator : Char) (text rest : Text) :
    splitAt separator (text ++ separator :: rest) =
      splitAt separator text ++ splitAt separator rest :=
  pieces_append_cons (decide_eq_true rfl) text rest

/-- A text without the separator stands in front of the first piece of what follows it. -/
theorem exists_splitAt_append (outside : separator ∉ piece) (rest : Text) :
    ∃ first others, splitAt separator rest = first :: others ∧
      splitAt separator (piece ++ rest) = (piece ++ first) :: others := by
  unfold splitAt
  induction piece with
  | nil =>
    cases shape : pieces (fun x => decide (x = separator)) rest with
    | nil => exact absurd shape (pieces_ne_nil _ rest)
    | cons first others => exact ⟨first, others, rfl, shape⟩
  | cons c piece ih =>
    rw [List.mem_cons, not_or] at outside
    obtain ⟨first, others, parts, whole⟩ := ih outside.2
    have kept : ¬ decide (c = separator) = true := by simp [Ne.symm outside.1]
    refine ⟨first, others, parts, ?_⟩
    rw [List.cons_append, pieces, if_neg kept, whole]
    rfl

/-- Joined texts are the first of them and the others, each behind what stands between. -/
theorem join_cons_eq (between first : Text) (rest : List Text) :
    join between (first :: rest) = first ++ rest.flatMap (between ++ ·) := by
  induction rest generalizing first with
  | nil => exact (List.append_nil first).symm
  | cons next more ih => rw [join, ih, List.append_assoc, List.flatMap_cons, List.append_assoc]

/-- Joined texts are the first of them and the others, each behind a separator. -/
theorem join_cons (separator : Char) (first : Text) (rest : List Text) :
    join [separator] (first :: rest) = first ++ rest.flatMap (separator :: ·) :=
  join_cons_eq [separator] first rest

/-- Texts that are joined in two parts are joined altogether. -/
theorem join_append (between : Text) {left right : List Text} (nonempty : left ≠ [])
    (others : right ≠ []) :
    join between (left ++ right) = join between left ++ between ++ join between right := by
  obtain ⟨first, rest, rfl⟩ := List.exists_cons_of_ne_nil nonempty
  obtain ⟨next, more, rfl⟩ := List.exists_cons_of_ne_nil others
  rw [List.cons_append, join_cons_eq, join_cons_eq, join_cons_eq, List.flatMap_append,
    List.flatMap_cons]
  simp only [List.append_assoc]

/-- The pieces of joined texts are the pieces of each of them. -/
theorem splitAt_join_eq_flatMap (separator : Char) (nonempty : segments ≠ []) :
    splitAt separator (join [separator] segments) = segments.flatMap (splitAt separator) := by
  induction segments with
  | nil => contradiction
  | cons first rest ih =>
    cases rest with
    | nil => simp [join]
    | cons next more =>
      rw [join, List.append_assoc, List.singleton_append, splitAt_append_cons,
        ih (List.cons_ne_nil _ _)]
      rfl

/-- Pieces without the separator that were joined come apart again. -/
theorem splitAt_join (nonempty : segments ≠ [])
    (clean : ∀ segment ∈ segments, separator ∉ segment) :
    splitAt separator (join [separator] segments) = segments := by
  have alone : ∀ segment ∈ segments, splitAt separator segment = [segment] :=
    fun segment listed => splitAt_of_not_mem (clean segment listed)
  rw [splitAt_join_eq_flatMap separator nonempty, List.flatMap_congr alone,
    List.flatMap_singleton']

/-- There is one piece more than there are separators. -/
theorem length_splitAt (separator : Char) (text : Text) :
    (splitAt separator text).length = text.count separator + 1 := by
  unfold splitAt
  induction text with
  | nil => rfl
  | cons c rest ih =>
    rw [pieces, List.count_cons]
    by_cases same : c = separator
    · simp [same, ih]
    · cases shape : pieces (fun x => decide (x = separator)) rest with
      | nil => exact absurd shape (pieces_ne_nil _ rest)
      | cons piece others =>
        rw [shape, List.length_cons] at ih
        simp [same, consHead, ih]

/-- Some texts have together one piece for each of them and one more for each separator. -/
theorem length_flatMap_splitAt (separator : Char) (texts : List Text) :
    (texts.flatMap (splitAt separator)).length =
      texts.length + texts.flatten.count separator := by
  induction texts with
  | nil => rfl
  | cons first rest ih =>
    rw [List.flatMap_cons, List.length_append, ih, length_splitAt, List.length_cons,
      List.flatten_cons, List.count_append]
    omega

/-- The characters of joined texts and those between them. -/
theorem length_join (between : Text) (texts : List Text) :
    (join between texts).length =
      texts.flatten.length + (texts.length - 1) * between.length := by
  induction texts with
  | nil => simp [join]
  | cons first rest ih =>
    cases rest with
    | nil => simp [join]
    | cons next more =>
      have later : (next :: more).length - 1 = more.length := rfl
      have all : (first :: next :: more).length - 1 = more.length + 1 := rfl
      have flat : (first :: next :: more).flatten = first ++ (next :: more).flatten := rfl
      rw [later] at ih
      rw [join, List.length_append, List.length_append, ih, all, flat, List.length_append,
        Nat.succ_mul]
      omega

/-- Joined by something, texts are empty if there is none of them or a single one that is empty. -/
theorem join_eq_nil_iff {between : Text} (written : between ≠ []) :
    join between segments = [] ↔ segments = [] ∨ segments = [[]] := by
  cases segments with
  | nil => exact iff_of_true rfl (Or.inl rfl)
  | cons first rest =>
    cases rest with
    | nil => simp [join]
    | cons next more => simp [join, written]

/-- A character of one of several texts is in them joined. -/
theorem mem_join {between : Text} (listed : piece ∈ segments) (inside : c ∈ piece) :
    c ∈ join between segments := by
  induction segments with
  | nil => contradiction
  | cons first rest ih =>
    cases rest with
    | nil =>
      obtain rfl := List.mem_singleton.mp listed
      exact inside
    | cons next rest =>
      rw [join]
      rcases List.mem_cons.mp listed with rfl | later
      · exact List.mem_append_left _ (List.mem_append_left _ inside)
      · exact List.mem_append_right _ (ih later)

/-- A character that does not stand between joined texts is in one of them. -/
theorem mem_join_iff {between : Text} (apart : c ∉ between) :
    c ∈ join between segments ↔ ∃ segment ∈ segments, c ∈ segment := by
  constructor
  · intro inside
    induction segments with
    | nil => contradiction
    | cons first rest ih =>
      cases rest with
      | nil => exact ⟨first, List.mem_cons_self, inside⟩
      | cons next more =>
        rw [join, List.mem_append, List.mem_append] at inside
        rcases inside with (here | between) | later
        · exact ⟨first, List.mem_cons_self, here⟩
        · exact absurd between apart
        · obtain ⟨segment, listed, there⟩ := ih later
          exact ⟨segment, List.mem_cons_of_mem _ listed, there⟩
  · rintro ⟨segment, listed, inside⟩
    exact mem_join listed inside

end Citations.Text
