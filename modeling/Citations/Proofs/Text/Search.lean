import Citations.Text.Basic
import Mathlib.Data.List.Infix
import Mathlib.Data.List.TakeWhile

/-!
# Where a search stops

A search for the first or the last occurrence of a word stops at a written occurrence when the
word does not occur before it or after it. What may surround the occurrence is said without the
search: a word is not found across a character that it does not have.
-/
namespace Citations.Text

variable {word text rest : Text}

/-- A text begins with a word when the word is a prefix of it. -/
theorem beginsWith_iff : beginsWith word text = true ↔ word <+: text := by
  rw [beginsWith, Option.isSome_iff_exists]
  constructor
  · rintro ⟨rest, taken⟩
    exact ⟨rest, (after?_eq_some_iff.mp taken).symm⟩
  · rintro ⟨rest, rfl⟩
    exact ⟨rest, after?_eq_some_iff.mpr rfl⟩

/-- A word is not found in characters that it does not have, nor across them. -/
theorem infix_of_foreign (nonempty : word ≠ []) (foreign : ∀ c ∈ text, c ∉ word) :
    (word <:+: text ++ rest → word <:+: rest) ∧ (word <:+: rest ++ text → word <:+: rest) := by
  obtain ⟨c, written⟩ := List.exists_mem_of_ne_nil word nonempty
  have absent : ¬ word <:+: text := fun inside => foreign c (inside.subset written) written
  have empty {part : Text} (inText : ∀ c ∈ part, c ∈ text) (inWord : ∀ c ∈ part, c ∈ word) :
      part = [] :=
    List.eq_nil_iff_forall_not_mem.mpr fun c listed => foreign c (inText c listed) (inWord c listed)
  constructor
  · intro inside
    rcases List.infix_append_iff.mp inside with here | later | ⟨front, back, rfl, ends, begins⟩
    · exact absurd here absent
    · exact later
    · obtain rfl := empty (fun c => (ends.subset ·)) fun c => List.mem_append_left back
      exact begins.isInfix
  · intro inside
    rcases List.infix_append_iff.mp inside with earlier | here | ⟨front, back, rfl, ends, begins⟩
    · exact earlier
    · exact absurd here absent
    · obtain rfl := empty (fun c => (begins.subset ·)) fun c => List.mem_append_right front
      rw [List.append_nil]
      exact ends.isInfix

/-- Characters of a kind are taken, or dropped, up to the first one of another kind. -/
theorem takeWhile_append_of_stops {take : Char → Bool} (made : ∀ c ∈ text, take c = true)
    (stops : ∀ c ∈ rest.head?, take c = false) :
    (text ++ rest).takeWhile take = text ∧ (text ++ rest).dropWhile take = rest := by
  have left : rest.takeWhile take = [] ∧ rest.dropWhile take = rest := by
    cases rest with
    | nil => exact ⟨rfl, rfl⟩
    | cons c rest =>
      have other : ¬ take c = true := by simp [stops c rfl]
      exact ⟨List.takeWhile_cons_of_neg other, List.dropWhile_cons_of_neg other⟩
  rw [List.takeWhile_append_of_pos made, List.dropWhile_append_of_pos made, left.1, left.2,
    List.append_nil]
  exact ⟨rfl, rfl⟩

/-- Characters that are dropped at both ends leave what stands between them. -/
theorem dropWhile_dropEndWhile {drop : Char → Bool} {lead tail : Text}
    (leads : ∀ c ∈ lead, drop c = true) (tails : ∀ c ∈ tail, drop c = true)
    (begins : ∀ c ∈ text.head?, drop c = false) (ends : ∀ c ∈ text.getLast?, drop c = false) :
    dropEndWhile drop ((lead ++ (text ++ tail)).dropWhile drop) = text := by
  rw [List.dropWhile_append_of_pos leads]
  cases text with
  | nil =>
    rw [List.nil_append, List.dropWhile_eq_nil_iff.mpr tails]
    rfl
  | cons c rest =>
    have first : ¬ drop c = true := by simp [begins c rfl]
    have tailsBack : ∀ c ∈ tail.reverse, drop c = true := fun c listed =>
      tails c (List.mem_reverse.mp listed)
    rw [List.cons_append, List.dropWhile_cons_of_neg first, ← List.cons_append, dropEndWhile,
      List.reverse_append, List.dropWhile_append_of_pos tailsBack]
    cases back : (c :: rest).reverse with
    | nil => simp at back
    | cons last front =>
      have final : (c :: rest).getLast? = some last := by
        rw [← List.head?_reverse, back]
        rfl
      have kept : ¬ drop last = true := by simp [ends last final]
      rw [List.dropWhile_cons_of_neg kept, ← back, List.reverse_reverse]

/-- Dropping characters at the end leaves the beginning of a text. -/
theorem dropEndWhile_prefix (drop : Char → Bool) (text : Text) :
    dropEndWhile drop text <+: text := by
  have suffix := List.dropWhile_suffix drop (l := text.reverse)
  rwa [← List.reverse_prefix, List.reverse_reverse] at suffix

/-- What is removed at the end of two texts is removed from the second one first. -/
theorem dropEndWhile_append (drop : Char → Bool) (text more : Text) :
    dropEndWhile drop (text ++ more) =
      if more.all drop then dropEndWhile drop text else text ++ dropEndWhile drop more := by
  have nothing : (more.reverse.dropWhile drop).isEmpty = more.all drop := by
    rw [Bool.eq_iff_iff, List.isEmpty_iff, List.dropWhile_eq_nil_iff, List.all_eq_true]
    simp only [List.mem_reverse]
  rw [dropEndWhile, List.reverse_append, List.dropWhile_append, nothing]
  split
  · rfl
  · rw [List.reverse_append, List.reverse_reverse]
    rfl

/-! ## The first occurrence -/

/-- A word that begins in a text and does not have its last character ends in it. -/
theorem begins_of_last (nonempty : text ≠ []) (last : ∀ c ∈ text.getLast?, c ∉ word)
    (begins : word <+: text ++ rest) : word <+: text := by
  rcases List.prefix_or_prefix_of_prefix begins (List.prefix_append text rest) with inside | across
  · exact inside
  · have ends := List.getLast?_eq_some_getLast nonempty
    exact absurd (across.subset (List.getLast_mem nonempty)) (last _ ends)

/-- A word that a text begins with is found at once. -/
theorem find?_of_begins (begins : word <+: text) : find? word text = some 0 := by
  have here := beginsWith_iff.mpr begins
  cases text with
  | nil => rw [find?, if_pos here]
  | cons c text => rw [find?, if_pos here]

/-- The first occurrence of a word is the written one when none begins in the text before. -/
theorem find?_append (quiet : ∀ later, later <:+ text → later ≠ [] → ¬ word <+: later ++ rest)
    (begins : word <+: rest) : find? word (text ++ rest) = some text.length := by
  induction text with
  | nil => exact find?_of_begins begins
  | cons c text ih =>
    have notHere : ¬ beginsWith word (c :: (text ++ rest)) = true := fun here =>
      quiet (c :: text) (List.suffix_refl _) (List.cons_ne_nil c text) (beginsWith_iff.mp here)
    have later := ih fun part suffix => quiet part (suffix.trans (List.suffix_cons c text))
    rw [List.cons_append, find?, if_neg notHere, later]
    rfl

/-- The first occurrence of a word is the written one when the text before does not have the
word and ends in a character that the word does not have. -/
theorem find?_append_word (absent : ¬ word <:+: text) (last : ∀ c ∈ text.getLast?, c ∉ word)
    (rest : Text) : find? word (text ++ (word ++ rest)) = some text.length := by
  refine find?_append (fun later suffix nonempty begins => ?_) (List.prefix_append word rest)
  have ends : later.getLast? = text.getLast? := by
    obtain ⟨front, rfl⟩ := suffix
    exact (List.getLast?_append_of_ne_nil front nonempty).symm
  exact absent ((begins_of_last nonempty (ends ▸ last) begins).isInfix.trans suffix.isInfix)

/-- The first occurrence of a word is the written one when the text before and all of the word but
its last character do not have it together. -/
theorem find?_append_of_absent (absent : ¬ word <:+: text ++ word.dropLast) (rest : Text) :
    find? word (text ++ (word ++ rest)) = some text.length := by
  refine find?_append (fun later suffix nonempty begins => absent ?_) (List.prefix_append word rest)
  obtain ⟨front, rfl⟩ := suffix
  have short : word.length ≤ (later ++ word.dropLast).length := by
    have := List.length_pos_iff.mpr nonempty
    rw [List.length_append, List.length_dropLast]
    omega
  have inside : later ++ word.dropLast <+: later ++ (word ++ rest) :=
    (List.prefix_append_right_inj later).mpr
      ((List.dropLast_prefix word).trans (List.prefix_append word rest))
  have here := List.prefix_of_prefix_length_le begins inside short
  exact here.isInfix.trans (List.IsSuffix.isInfix ⟨front, (List.append_assoc ..).symm⟩)

/-- A word that does not occur is not found. -/
theorem find?_eq_none (absent : ¬ word <:+: text) : find? word text = none := by
  induction text with
  | nil => rw [find?, if_neg fun here => absent (beginsWith_iff.mp here).isInfix]
  | cons c text ih =>
    rw [find?, if_neg fun here => absent (beginsWith_iff.mp here).isInfix,
      ih fun inside => absent (List.infix_cons inside)]
    rfl

/-! ## The last occurrence -/

/-- The last occurrence of a word in the second of two texts is the last one. -/
theorem findLast?_append {place : Nat} (found : findLast? word rest = some place) (text : Text) :
    findLast? word (text ++ rest) = some (text.length + place) := by
  induction text with
  | nil => rw [List.nil_append, found, List.length_nil, Nat.zero_add]
  | cons c text ih =>
    rw [List.cons_append, findLast?, ih, List.length_cons]
    simp only [Option.some.injEq]
    omega

/-- A word that does not occur is not found. -/
theorem findLast?_eq_none (absent : ¬ word <:+: text) : findLast? word text = none := by
  induction text with
  | nil =>
    rw [findLast?, if_neg fun here => absent (beginsWith_iff.mp here).isInfix]
  | cons c text ih =>
    rw [findLast?, ih fun inside => absent (List.infix_cons inside)]
    exact if_neg fun here => absent (beginsWith_iff.mp here).isInfix

/-- The last occurrence of a word is the written one when none begins after its first
character. -/
theorem findLast?_append_word {c : Char} (later : ¬ c :: word <:+: word ++ rest) (text : Text) :
    findLast? (c :: word) (text ++ (c :: word ++ rest)) = some text.length := by
  have here : findLast? (c :: word) (c :: word ++ rest) = some 0 := by
    rw [List.cons_append, findLast?, findLast?_eq_none later]
    exact if_pos (beginsWith_iff.mpr (List.prefix_append ..))
  exact findLast?_append here text

/-! ## The last place that reads -/

variable {α : Type} {read : Text → Option α} {value : α}

/-- What is read at the last place of a text where something is. -/
def lastRead? (read : Text → Option α) : Text → Option α
  | [] => none
  | c :: rest => (lastRead? read rest).or (read (c :: rest))

/-- What is read last in the second of two texts is read last. -/
theorem lastRead?_append (found : lastRead? read rest = some value) (text : Text) :
    lastRead? read (text ++ rest) = some value := by
  induction text with
  | nil => exact found
  | cons c text ih => rw [List.cons_append, lastRead?, ih, Option.some_or]

/-- A text at none of whose characters a reading begins does not matter. -/
theorem lastRead?_skip (unread : ∀ c ∈ text, ∀ more, read (c :: more) = none) (rest : Text) :
    lastRead? read (text ++ rest) = lastRead? read rest := by
  induction text with
  | nil => rfl
  | cons c text ih =>
    rw [List.cons_append, lastRead?, unread c List.mem_cons_self, Option.or_none]
    exact ih fun d listed => unread d (List.mem_cons_of_mem c listed)

/-- Where nothing is read at any place, nothing is read last. -/
theorem lastRead?_eq_none (unread : ∀ rest, rest <:+ text → read rest = none) :
    lastRead? read text = none := by
  induction text with
  | nil => rfl
  | cons c text ih =>
    rw [lastRead?, unread _ (List.suffix_refl _), Option.or_none]
    exact ih fun rest suffix => unread rest (suffix.trans (List.suffix_cons c text))

/-- Where nothing is read last, nothing is read at any character. -/
theorem unread_of_lastRead? (unread : lastRead? read text = none) {c : Char}
    (suffix : c :: rest <:+ text) : read (c :: rest) = none := by
  induction text with
  | nil => exact absurd (List.suffix_nil.mp suffix) (List.cons_ne_nil c rest)
  | cons d text ih =>
    obtain ⟨later, here⟩ := Option.or_eq_none_iff.mp unread
    rcases List.suffix_cons_iff.mp suffix with whole | inside
    · rw [whole, here]
    · exact ih later inside

/-- What is read last is read at a character after which nothing is. -/
theorem exists_of_lastRead?_eq_some (found : lastRead? read text = some value) :
    ∃ front c rest, text = front ++ c :: rest ∧ read (c :: rest) = some value ∧
      lastRead? read rest = none := by
  induction text with
  | nil => cases found
  | cons c text ih =>
    rcases Option.or_eq_some_iff.mp found with later | ⟨unread, here⟩
    · obtain ⟨front, d, rest, rfl, read, last⟩ := ih later
      exact ⟨c :: front, d, rest, rfl, read, last⟩
    · exact ⟨[], c, text, rfl, here, unread⟩

end Citations.Text
