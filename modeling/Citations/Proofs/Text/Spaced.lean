import Citations.Text.Blank
import Mathlib.Data.List.Infix

/-!
# Texts with single spaces

A text whose words are already one space apart is what it becomes when its white space is
collapsed.
-/
namespace Citations.Text

/-- White space stands between words only, and is a single space each time. -/
structure Spaced (text : Text) : Prop where
  /-- None is in front. -/
  begins : ∀ c ∈ text.head?, isBlank c = false
  /-- None is at the end. -/
  ends : ∀ c ∈ text.getLast?, isBlank c = false
  /-- All of it is spaces. -/
  plain : ∀ c ∈ text, isBlank c = true → c = ' '
  /-- No two are next to each other. -/
  single : ¬ [' ', ' '] <:+: text

/-- Whether a text is spaced, tested character by character. -/
def isSpaced (text : Text) : Bool :=
  text.head?.toList.all (!isBlank ·) && text.getLast?.toList.all (!isBlank ·) &&
    text.all (fun c => !isBlank c || c = ' ') && !decide ([' ', ' '] <:+: text)

/-- The test is right. -/
theorem isSpaced_iff {text : Text} : isSpaced text = true ↔ Spaced text := by
  simp only [isSpaced, Bool.and_eq_true, List.all_eq_true, Option.mem_toList, Bool.not_eq_true',
    Bool.or_eq_true, decide_eq_true_eq, decide_eq_false_iff_not]
  constructor
  · rintro ⟨⟨⟨begins, ends⟩, plain⟩, single⟩
    exact ⟨begins, ends, fun c listed blank => (plain c listed).resolve_left (by simp [blank]),
      single⟩
  · rintro ⟨begins, ends, plain, single⟩
    refine ⟨⟨⟨begins, ends⟩, fun c listed => ?_⟩, single⟩
    cases blank : isBlank c with
    | false => exact Or.inl rfl
    | true => exact Or.inr (plain c listed blank)

instance (text : Text) : Decidable (Spaced text) := decidable_of_iff _ isSpaced_iff

variable {text rest : Text}

/-- The words after a word are spaced like the words before. -/
theorem Spaced.suffix (spaced : Spaced text) (suffix : rest <:+ text)
    (begins : ∀ c ∈ rest.head?, isBlank c = false) : Spaced rest where
  begins := begins
  ends c last := by
    obtain ⟨taken, rfl⟩ := suffix
    have nonempty : rest ≠ [] := by
      rintro rfl
      cases last
    exact spaced.ends c (by rwa [List.getLast?_append_of_ne_nil _ nonempty])
  plain c listed := spaced.plain c (suffix.subset listed)
  single doubled := spaced.single (doubled.trans suffix.isInfix)

/-- A text is cut into the same pieces wherever the same of its characters are cut at. -/
theorem pieces_congr {cut other : Char → Bool} (same : ∀ c ∈ text, cut c = other c) :
    pieces cut text = pieces other text := by
  induction text with
  | nil => rfl
  | cons c rest ih =>
    have later := ih fun x listed => same x (List.mem_cons_of_mem c listed)
    rw [pieces, pieces, same c List.mem_cons_self, later]

/-- A piece that gets a character in front is not empty. -/
theorem nil_notMem_consHead {c : Char} {found : List Text} (full : [] ∉ found) :
    [] ∉ consHead c found := by
  cases found with
  | nil => simp [consHead]
  | cons piece others =>
    have later : [] ∉ others := fun listed => full (List.mem_cons_of_mem _ listed)
    simp [consHead, later]

/-- No word is missing where single spaces stand between words. -/
theorem nil_notMem_pieces : {text : Text} → Spaced text → text ≠ [] → [] ∉ pieces isBlank text
  | [], _, nonempty => absurd rfl nonempty
  | [c], spaced, _ => by
    have inked := spaced.begins c rfl
    simp [pieces, inked, consHead]
  | c :: d :: rest, spaced, _ => by
    have inked := spaced.begins c rfl
    have first : pieces isBlank (c :: d :: rest) = consHead c (pieces isBlank (d :: rest)) := by
      rw [pieces, inked]
      rfl
    by_cases blank : isBlank d
    · obtain rfl := spaced.plain d (by simp) blank
      -- After a space comes a word: there is no second space, and no end of the text.
      have begins : ∀ x ∈ rest.head?, isBlank x = false := by
        intro x next
        by_contra second
        obtain ⟨tail, rfl⟩ := List.head?_eq_some_iff.mp next
        obtain rfl := spaced.plain x (by simp) (by simpa using second)
        exact spaced.single ⟨[c], tail, rfl⟩
      have nonempty : rest ≠ [] := by
        rintro rfl
        exact absurd (spaced.ends ' ' rfl) (by decide)
      have later := nil_notMem_pieces (spaced.suffix ⟨[c, ' '], rfl⟩ begins) nonempty
      rw [first, pieces, if_pos blank]
      simp [consHead, later]
    · have begins : ∀ x ∈ (d :: rest).head?, isBlank x = false := by
        intro x next
        obtain rfl : d = x := by simpa using next
        simpa using blank
      have later := nil_notMem_pieces (spaced.suffix ⟨[c], rfl⟩ begins) (List.cons_ne_nil d rest)
      rw [first]
      exact nil_notMem_consHead later

/-- White space that is collapsed already stays as it is. -/
theorem collapse_of_spaced (spaced : Spaced text) (nonempty : text ≠ []) :
    collapse text = text := by
  have cuts : pieces isBlank text = splitAt ' ' text := by
    refine pieces_congr fun c listed => ?_
    rw [Bool.eq_iff_iff, decide_eq_true_eq]
    exact ⟨spaced.plain c listed, fun space => space ▸ by decide⟩
  have all : words text = pieces isBlank text := by
    refine List.filter_eq_self.mpr fun piece listed => ?_
    rw [decide_eq_true_eq]
    rintro rfl
    exact nil_notMem_pieces spaced nonempty listed
  rw [collapse, all, cuts, join_splitAt]

end Citations.Text
