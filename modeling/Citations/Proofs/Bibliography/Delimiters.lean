import Citations.Proofs.Bibliography.Reading

/-!
# Where groups and quoted texts end

A reader goes over a text stroke by stroke: a backslash and the character that it hides are one
stroke, every other character is one of its own. A group ends with the first closing delimiter
that has no opening one since the group began, and a quoted text with the first quote outside
braces, where a closing brace without an opening one counts for nothing. Both readers find exactly
this end, and fail exactly where there is none.
-/
namespace Citations.Record

/-! ## Strokes -/

/-- What a reader goes over at once. -/
inductive Stroke where
  /-- A character that stands for itself. -/
  | shown (c : Char) (apart : c ≠ '\\')
  /-- A character that a backslash hides. -/
  | hidden (c : Char)

namespace Stroke

/-- What a stroke is written as. -/
def text : Stroke → Text
  | shown c _ => [c]
  | hidden c => ['\\', c]

/-- Whether a stroke shows a character. -/
def shows (c : Char) : Stroke → Bool
  | shown d _ => d = c
  | hidden _ => false

end Stroke

/-- What strokes are written as. -/
def spelled (strokes : List Stroke) : Text := strokes.flatMap Stroke.text

variable {opener closer : Char} {depth : Nat} {text inner rest : Text} {stroke : Stroke}
  {strokes : List Stroke}

/-- The first of some strokes is written first. -/
theorem spelled_cons (stroke : Stroke) (strokes : List Stroke) :
    spelled (stroke :: strokes) = stroke.text ++ spelled strokes := List.flatMap_cons

/-! ## Groups -/

/-- Strokes between delimiters, so many of which are open before them: no more are closed than
are open, and none is open after them. -/
structure Nested (opener closer : Char) (depth : Nat) (strokes : List Stroke) : Prop where
  /-- None is closed that is not open. -/
  above : ∀ front, front <+: strokes →
    front.countP (·.shows closer) ≤ depth + front.countP (·.shows opener)
  /-- Each one that is open is closed. -/
  level : strokes.countP (·.shows closer) = depth + strokes.countP (·.shows opener)

/-- A text is the inside of a group, the delimiter that ends it and what follows. A backslash is
no delimiter, since it hides what follows it. -/
structure Closes (opener closer : Char) (text inner rest : Text) : Prop where
  /-- The three make up the text. -/
  whole : text = inner ++ closer :: rest
  /-- The delimiter is not one that hides. -/
  apart : closer ≠ '\\'
  /-- Delimiters pair up inside. -/
  nested : ∃ strokes, inner = spelled strokes ∧ Nested opener closer 0 strokes

/-- There is nothing inside a group only where nothing is open. -/
theorem nested_nil : Nested opener closer depth [] ↔ depth = 0 := by
  constructor
  · intro nested
    exact (nested.level).symm
  · rintro rfl
    exact ⟨fun front inside => by simp [List.prefix_nil.mp inside], rfl⟩

/-- A stroke closes a delimiter that is open and opens one, or neither. -/
theorem nested_cons : Nested opener closer depth (stroke :: strokes) ↔
    ∃ later, later + (if stroke.shows closer then 1 else 0) =
        depth + (if stroke.shows opener then 1 else 0) ∧
      Nested opener closer later strokes := by
  have counted (c : Char) (strokes : List Stroke) : (stroke :: strokes).countP (·.shows c) =
      strokes.countP (·.shows c) + if stroke.shows c then 1 else 0 := List.countP_cons
  constructor
  · intro nested
    have first := nested.above [stroke] (List.prefix_append [stroke] strokes)
    have last := nested.level
    rw [counted, counted, List.countP_nil, List.countP_nil] at first
    rw [counted, counted] at last
    refine ⟨depth + (if stroke.shows opener then 1 else 0) -
      (if stroke.shows closer then 1 else 0), by omega, fun front inside => ?_, by omega⟩
    have longer := nested.above (stroke :: front) (List.cons_prefix_cons.mpr ⟨rfl, inside⟩)
    rw [counted, counted] at longer
    omega
  · rintro ⟨later, moved, nested⟩
    refine ⟨fun front inside => ?_, ?_⟩
    · rcases List.prefix_cons_iff.mp inside with rfl | ⟨front, rfl, shorter⟩
      · simp
      · have bounded := nested.above front shorter
        rw [counted, counted]
        omega
    · have last := nested.level
      rw [counted, counted]
      omega

/-- A hidden character leaves the delimiters as they are. -/
theorem nested_hidden {c : Char} : Nested opener closer depth (.hidden c :: strokes) ↔
    Nested opener closer depth strokes := by
  simp [nested_cons, Stroke.shows]

/-- A character that is no delimiter leaves the delimiters as they are. -/
theorem nested_plain {c : Char} (apart : c ≠ '\\') (opens : c ≠ opener) (closes : c ≠ closer) :
    Nested opener closer depth (.shown c apart :: strokes) ↔
      Nested opener closer depth strokes := by
  simp [nested_cons, Stroke.shows, opens, closes]

/-- An opening delimiter is one more that is open. -/
theorem nested_opened (apart : opener ≠ '\\') (distinct : opener ≠ closer) :
    Nested opener closer depth (.shown opener apart :: strokes) ↔
      Nested opener closer (depth + 1) strokes := by
  simp [nested_cons, Stroke.shows, distinct]

/-- A closing delimiter closes one that is open. -/
theorem nested_closed (apart : closer ≠ '\\') (distinct : opener ≠ closer) :
    Nested opener closer depth (.shown closer apart :: strokes) ↔
      ∃ outer, depth = outer + 1 ∧ Nested opener closer outer strokes := by
  simp [nested_cons, Stroke.shows, distinct.symm, eq_comm]

/-- What is read with a front before it is read without it. -/
theorem exists_of_extended (front : Text) {found? : Option (Text × Text)}
    (read : (found?.map fun (inner, after) => (front ++ inner, after)) = some (inner, rest)) :
    ∃ within, found? = some (within, rest) ∧ inner = front ++ within := by
  obtain ⟨⟨within, after⟩, found, same⟩ := Option.map_eq_some_iff.mp read
  obtain ⟨rfl, rfl⟩ := Prod.mk.inj same
  exact ⟨within, found, rfl⟩

/-- What is read as the inside of a group is nested, and the closing delimiter follows it. -/
theorem nested_of_balanced? (distinct : opener ≠ closer)
    (read : balanced? opener closer depth text = some (inner, rest)) :
    text = inner ++ closer :: rest ∧ closer ≠ '\\' ∧
      ∃ strokes, inner = spelled strokes ∧ Nested opener closer depth strokes := by
  fun_induction balanced? opener closer depth text generalizing inner rest with
  | case1 => contradiction
  | case2 => contradiction
  | case3 depth c tail ih =>
    obtain ⟨within, found, rfl⟩ := exists_of_extended ['\\', c] read
    obtain ⟨rfl, closes, strokes, rfl, nested⟩ := ih found
    exact ⟨rfl, closes, .hidden c :: strokes, rfl, nested_hidden.mpr nested⟩
  | case4 depth tail apart ih =>
    obtain ⟨within, found, rfl⟩ := exists_of_extended [opener] read
    obtain ⟨rfl, closes, strokes, rfl, nested⟩ := ih found
    exact ⟨rfl, closes, .shown opener apart :: strokes, rfl,
      (nested_opened apart distinct).mpr nested⟩
  | case5 tail apart _ =>
    obtain ⟨rfl, rfl⟩ := Prod.mk.inj (Option.some.inj read)
    exact ⟨rfl, apart, [], rfl, nested_nil.mpr rfl⟩
  | case6 tail depth apart _ ih =>
    obtain ⟨within, found, rfl⟩ := exists_of_extended [closer] read
    obtain ⟨rfl, closes, strokes, rfl, nested⟩ := ih found
    exact ⟨rfl, closes, .shown closer apart :: strokes, rfl,
      (nested_closed apart distinct).mpr ⟨depth, rfl, nested⟩⟩
  | case7 depth c tail apart opens closes ih =>
    obtain ⟨within, found, rfl⟩ := exists_of_extended [c] read
    obtain ⟨rfl, ends, strokes, rfl, nested⟩ := ih found
    exact ⟨rfl, ends, .shown c apart :: strokes, rfl, (nested_plain apart opens closes).mpr nested⟩

/-- A nested text that the closing delimiter follows is read as the inside of a group. -/
theorem balanced?_of_nested (distinct : opener ≠ closer) (closes : closer ≠ '\\')
    (nested : Nested opener closer depth strokes) (rest : Text) :
    balanced? opener closer depth (spelled strokes ++ closer :: rest) =
      some (spelled strokes, rest) := by
  induction strokes generalizing depth with
  | nil =>
    obtain rfl := nested_nil.mp nested
    exact balanced?_ended closes distinct.symm
  | cons stroke strokes ih =>
    have passed {later : Nat} (nested : Nested opener closer later strokes)
        (passes : Passes (balanced? opener closer depth) (balanced? opener closer later)
          stroke.text) :
        balanced? opener closer depth (spelled (stroke :: strokes) ++ closer :: rest) =
          some (spelled (stroke :: strokes), rest) := by
      rw [spelled_cons, List.append_assoc, passes, ih nested]
      rfl
    cases stroke with
    | hidden c => exact passed (nested_hidden.mp nested) (balanced?_hidden c)
    | shown c apart =>
      by_cases opens : c = opener
      · subst opens
        exact passed ((nested_opened apart distinct).mp nested) (balanced?_opened apart)
      · by_cases ends : c = closer
        · subst ends
          obtain ⟨outer, rfl, within⟩ := (nested_closed apart distinct).mp nested
          exact passed within (balanced?_closed apart distinct.symm)
        · exact passed ((nested_plain apart opens ends).mp nested) (balanced?_plain apart opens ends)

/-- A group is read exactly where it closes. -/
theorem balanced?_eq_some_iff (distinct : opener ≠ closer) :
    balanced? opener closer 0 text = some (inner, rest) ↔
      Closes opener closer text inner rest := by
  constructor
  · intro read
    obtain ⟨whole, apart, nested⟩ := nested_of_balanced? distinct read
    exact ⟨whole, apart, nested⟩
  · rintro ⟨rfl, apart, strokes, rfl, nested⟩
    exact balanced?_of_nested distinct apart nested rest

/-! ## Quoted texts -/

/-- How many braces are open after a stroke. A closing brace too many does no harm. -/
def Stroke.deepen (depth : Nat) (stroke : Stroke) : Nat :=
  if stroke.shows '\x7b' then depth + 1
  else if stroke.shows '\x7d' then depth - 1
  else depth

/-- A text is what stands before a quote outside braces, that quote and what follows, some braces
being open before. -/
def Quotes (depth : Nat) (text inner rest : Text) : Prop :=
  text = inner ++ '"' :: rest ∧
    ∃ strokes, inner = spelled strokes ∧ strokes.foldl Stroke.deepen depth = 0

/-- A stroke before a quote outside braces. -/
theorem Quotes.cons (stroke : Stroke) (quotes : Quotes (stroke.deepen depth) text inner rest) :
    Quotes depth (stroke.text ++ text) (stroke.text ++ inner) rest := by
  obtain ⟨rfl, strokes, rfl, outside⟩ := quotes
  exact ⟨(List.append_assoc ..).symm, stroke :: strokes, (spelled_cons stroke strokes).symm,
    outside⟩

/-- A quoted text goes on after every stroke but a quote outside braces. -/
theorem quoted?_stroke (goes : ¬ (stroke.shows '"' = true ∧ depth = 0)) :
    Passes (quoted? depth) (quoted? (stroke.deepen depth)) stroke.text := by
  cases stroke with
  | hidden c => exact quoted?_hidden c
  | shown c apart =>
    have inside : ¬ (c = '"' ∧ depth = 0) := by simpa [Stroke.shows] using goes
    have moved := quoted?_inner apart inside
    simpa [Stroke.deepen, Stroke.shows, Stroke.text] using moved

/-- A quoted text is read up to a quote outside braces. -/
theorem quotes_of_quoted? (read : quoted? depth text = some (inner, rest)) :
    Quotes depth text inner rest := by
  fun_induction quoted? depth text generalizing inner rest with
  | case1 => contradiction
  | case2 => contradiction
  | case3 depth c tail ih =>
    obtain ⟨within, found, rfl⟩ := exists_of_extended ['\\', c] read
    exact (ih found).cons (.hidden c)
  | case4 depth c tail _ ends =>
    obtain ⟨rfl, rfl⟩ := ends
    obtain ⟨rfl, rfl⟩ := Prod.mk.inj (Option.some.inj read)
    exact ⟨rfl, [], rfl, rfl⟩
  | case5 depth c tail apart =>
    rename_i ih
    obtain ⟨within, found, rfl⟩ := exists_of_extended [c] read
    refine Quotes.cons (.shown c apart) ?_
    simpa [Stroke.deepen, Stroke.shows] using ih found

/-- Where there is a quote outside braces, a quoted text is read up to that quote or an earlier
one. -/
theorem quoted?_of_quotes (quotes : Quotes depth text inner rest) :
    ∃ first after, quoted? depth text = some (first, after) ∧ first.length ≤ inner.length := by
  obtain ⟨rfl, strokes, rfl, outside⟩ := quotes
  induction strokes generalizing depth with
  | nil =>
    obtain rfl : depth = 0 := outside
    exact ⟨[], rest, quoted?_ended, Nat.le_refl 0⟩
  | cons stroke strokes ih =>
    rw [spelled_cons, List.append_assoc]
    by_cases ends : stroke.shows '"' = true ∧ depth = 0
    · obtain ⟨quote, rfl⟩ := ends
      cases stroke with
      | hidden c => contradiction
      | shown c apart =>
        obtain rfl : c = '"' := by simpa [Stroke.shows] using quote
        exact ⟨[], _, quoted?_ended, Nat.zero_le _⟩
    · obtain ⟨first, after, read, earlier⟩ := ih outside
      refine ⟨stroke.text ++ first, after, ?_, ?_⟩
      · rw [quoted?_stroke ends, read]
        rfl
      · rw [List.length_append, List.length_append]
        omega

/-- A quoted text is read exactly up to the first quote outside braces. -/
theorem quoted?_eq_some_iff : quoted? depth text = some (inner, rest) ↔
    Quotes depth text inner rest ∧
      ∀ other later, Quotes depth text other later → inner.length ≤ other.length := by
  constructor
  · intro read
    refine ⟨quotes_of_quoted? read, fun other later quotes => ?_⟩
    obtain ⟨first, after, again, earlier⟩ := quoted?_of_quotes quotes
    obtain ⟨rfl, rfl⟩ := Prod.mk.inj (Option.some.inj (read.symm.trans again))
    exact earlier
  · rintro ⟨quotes, least⟩
    obtain ⟨first, after, read, earlier⟩ := quoted?_of_quotes quotes
    have found := quotes_of_quoted? read
    have size : first.length = inner.length :=
      Nat.le_antisymm earlier (least first after found)
    obtain ⟨rfl, same⟩ := List.append_inj (found.1.symm.trans quotes.1) size
    obtain ⟨-, rfl⟩ := List.cons.inj same
    exact read

/-! ## The ends -/

/-- A text can be cut behind a front: the bytes of the front end where one of its characters
ends. -/
def Cuts (text front : Text) : Prop :=
  (String.ofList front).rawEndPos.IsValid (String.ofList text)

/-- A text can be cut between its parts. -/
theorem cuts_append (front rest : Text) : Cuts (front ++ rest) front :=
  String.Pos.Raw.isValid_iff_exists_append.mpr
    ⟨String.ofList front, String.ofList rest, String.ofList_append, rfl⟩

/-- A group is read exactly where it closes, and it closes at one place at most. A quoted text is
read exactly where a quote stands outside braces, up to the first such quote. Nothing is read
where there is no such end, and no character is cut in two. -/
theorem ends_exact (distinct : opener ≠ closer) (text : Text) :
    (∀ inner rest, balanced? opener closer 0 text = some (inner, rest) ↔
      Closes opener closer text inner rest) ∧
    (balanced? opener closer 0 text = none ↔
      ¬ ∃ inner rest, Closes opener closer text inner rest) ∧
    (∀ inner rest other later, Closes opener closer text inner rest →
      Closes opener closer text other later → other = inner ∧ later = rest) ∧
    (∀ inner rest, balanced? opener closer 0 text = some (inner, rest) →
      Cuts text inner ∧ Cuts text (inner ++ [closer])) ∧
    (∀ inner rest, quoted? 0 text = some (inner, rest) ↔
      Quotes 0 text inner rest ∧
        ∀ other later, Quotes 0 text other later → inner.length ≤ other.length) ∧
    (quoted? 0 text = none ↔ ¬ ∃ inner rest, Quotes 0 text inner rest) ∧
    (∀ inner rest, quoted? 0 text = some (inner, rest) →
      Cuts ('"' :: text) ('"' :: inner) ∧ Cuts ('"' :: text) ('"' :: inner ++ ['"'])) := by
  have groups {inner rest : Text} : balanced? opener closer 0 text = some (inner, rest) ↔
      Closes opener closer text inner rest := balanced?_eq_some_iff distinct
  refine ⟨fun _ _ => groups, ?_, ?_, ?_, fun _ _ => quoted?_eq_some_iff, ?_, ?_⟩
  · simp only [Option.eq_none_iff_forall_ne_some, Prod.forall, ne_eq, groups, not_exists]
  · intro inner rest other later here there
    have same := (groups.mpr there).symm.trans (groups.mpr here)
    exact Prod.mk.inj (Option.some.inj same)
  · intro inner rest read
    obtain rfl := (groups.mp read).whole
    refine ⟨cuts_append inner _, ?_⟩
    rw [List.append_cons]
    exact cuts_append (inner ++ [closer]) rest
  · constructor
    · rintro unread ⟨inner, rest, quotes⟩
      obtain ⟨first, after, read, -⟩ := quoted?_of_quotes quotes
      exact absurd (unread.symm.trans read) (by simp)
    · intro endless
      by_contra read
      obtain ⟨⟨inner, rest⟩, read⟩ := Option.ne_none_iff_exists'.mp read
      exact endless ⟨inner, rest, quotes_of_quoted? read⟩
  · intro inner rest read
    obtain rfl := (quotes_of_quoted? read).1
    refine ⟨cuts_append ('"' :: inner) _, ?_⟩
    rw [List.append_cons]
    exact cuts_append ('"' :: inner ++ ['"']) rest

/-- A text whose group ends behind a hidden brace and a quoted quote, and whose quoted text ends at
the second quote: the first one is in braces. -/
theorem ends_exact_nested :
    let text := "é\x7b\"\\\x7d\x7d\"b\x7d c".toList
    '\x7b' ≠ '\x7d' ∧
    Closes '\x7b' '\x7d' text "é\x7b\"\\\x7d\x7d\"b".toList " c".toList ∧
    (∀ other later, Closes '\x7b' '\x7d' text other later → later = " c".toList) ∧
    Quotes 0 text "é\x7b\"\\\x7d\x7d".toList "b\x7d c".toList ∧
    ∀ other later, Quotes 0 text other later → 6 ≤ other.length := by
  intro text
  have distinct : '\x7b' ≠ '\x7d' := by decide
  obtain ⟨groups, -, unique, -, quotations, -⟩ := ends_exact distinct text
  have closes : Closes '\x7b' '\x7d' text "é\x7b\"\\\x7d\x7d\"b".toList " c".toList :=
    (groups _ _).mp (by decide +kernel)
  have quoted : quoted? 0 text = some ("é\x7b\"\\\x7d\x7d".toList, "b\x7d c".toList) := by
    decide +kernel
  obtain ⟨quotes, first⟩ := (quotations _ _).mp quoted
  exact ⟨distinct, closes, fun other later there => (unique _ _ _ _ closes there).2, quotes, first⟩

end Citations.Record
