import Citations.Proofs.Bibliography.Lines
import Citations.Proofs.Store.Repetition

/-!
# The citation under the cursor

A citation stands on a line where an at sign is followed by characters of a key, all of them
(`Citation.Stands`). A line is read from left to right and every citation that stands on it is found
there, so a column belongs to the leftmost citation that it touches. Only neighbours share a
column: a key ends where the at sign of the next citation begins.

Hovering then shows the first entry with that key, and marks the at sign and the key.
-/
namespace Citations

/-! ## Citations on a line -/

namespace Citation

variable {line rest run text : Text} {c : Char} {column : Nat} {citation other : Citation}

/-- A citation stands in a text that begins at a column. -/
structure Stands (column : Nat) (text : Text) (citation : Citation) : Prop where
  /-- There is a key. -/
  nonempty : citation.key ≠ []
  /-- A key is made of word characters. -/
  worded : ∀ c ∈ citation.key, Text.isWord c = true
  /-- The key ends right before the last column. -/
  ends : citation.stop = citation.start + 1 + citation.key.length
  /-- The at sign stands at the first column, the key follows, and then no word character. -/
  placed : ∃ before after, text = before ++ '@' :: (citation.key ++ after) ∧
    citation.start = column + before.length ∧ ∀ c ∈ after.head?, Text.isWord c = false

/-- A column touches a citation, also right behind it. -/
def Touches (column : Nat) (citation : Citation) : Prop :=
  citation.start ≤ column ∧ column ≤ citation.stop

/-- No citation stands in front of its text. -/
theorem Stands.le_start (stands : Stands column text citation) : column ≤ citation.start := by
  obtain ⟨before, after, -, placed, -⟩ := stands.placed
  omega

/-- Between the columns of a citation stand the at sign and the key. -/
theorem Stands.slice (stands : Stands 0 line citation) :
    (line.drop citation.start).take (citation.stop - citation.start) = '@' :: citation.key := by
  obtain ⟨before, after, written, placed, -⟩ := stands.placed
  have front : citation.start = before.length := by omega
  have width : citation.stop - citation.start = ('@' :: citation.key).length := by
    rw [stands.ends, List.length_cons]
    omega
  rw [width, front, written, List.drop_left, ← List.cons_append, List.take_left]

/-- A citation ends on its line. -/
theorem Stands.stop_le (stands : Stands 0 line citation) : citation.stop ≤ line.length := by
  obtain ⟨before, after, written, placed, -⟩ := stands.placed
  have ends := stands.ends
  simp only [written, List.length_append, List.length_cons]
  omega

/-- The columns of a citation on a line with fewer characters than 32 bits count are not cut. -/
theorem Stands.cut_eq (stands : Stands 0 line citation) (bounded : line.length < Nat.pow 2 32)
    (row : Nat) (inside : row < Nat.pow 2 32) :
    (⟨row, citation.start⟩ : Position).cut = ⟨row, citation.start⟩ ∧
      (⟨row, citation.stop⟩ : Position).cut = ⟨row, citation.stop⟩ := by
  have stop := stands.stop_le
  have start : citation.start ≤ line.length := by
    have ends := stands.ends
    omega
  simp only [Position.cut, Nat.mod_eq_of_lt inside, Nat.mod_eq_of_lt (Nat.lt_of_le_of_lt stop bounded),
    Nat.mod_eq_of_lt (Nat.lt_of_le_of_lt start bounded), and_self]

/-- A citation stands in a text if it begins with the first character, or stands in the others. -/
theorem stands_cons_iff :
    Stands column (c :: rest) citation ↔
      (c = '@' ∧ rest.takeWhile Text.isWord ≠ [] ∧
        citation = ⟨rest.takeWhile Text.isWord, column,
          column + 1 + (rest.takeWhile Text.isWord).length⟩) ∨
      Stands (column + 1) rest citation := by
  constructor
  · intro stands
    obtain ⟨before, after, written, placed, stops⟩ := stands.placed
    cases before with
    | nil =>
      obtain ⟨rfl, rfl⟩ := List.cons.inj written
      have key := (Text.takeWhile_append_of_stops stands.worded stops).1
      have start : citation.start = column := placed
      have stop : citation.stop = column + 1 + citation.key.length := start ▸ stands.ends
      left
      rw [key]
      refine ⟨rfl, stands.nonempty, ?_⟩
      rw [← stop, ← start]
    | cons first before =>
      obtain ⟨rfl, rfl⟩ := List.cons.inj written
      rw [List.length_cons] at placed
      right
      exact ⟨stands.nonempty, stands.worded, stands.ends, before, after, rfl, by omega, stops⟩
  · rintro (⟨rfl, nonempty, rfl⟩ | stands)
    · refine ⟨nonempty, fun _ => List.mem_takeWhile_imp, rfl, [],
        rest.dropWhile Text.isWord, ?_, rfl, ?_⟩
      · rw [List.takeWhile_append_dropWhile]
        rfl
      · intro next isNext
        have stopped := List.head?_dropWhile_not Text.isWord rest
        rw [isNext] at stopped
        exact stopped
    · obtain ⟨before, after, written, placed, stops⟩ := stands.placed
      refine ⟨stands.nonempty, stands.worded, stands.ends, c :: before, after, ?_, ?_, stops⟩
      · rw [written]
        rfl
      · rw [List.length_cons]
        omega

/-- No citation begins at a word character. -/
theorem stands_append_iff (words : ∀ c ∈ run, Text.isWord c = true) :
    Stands column (run ++ text) citation ↔ Stands (column + run.length) text citation := by
  induction run generalizing column with
  | nil => rfl
  | cons c run ih =>
    have other : c ≠ '@' := by
      rintro rfl
      exact absurd (words '@' List.mem_cons_self) (by decide)
    have later : ∀ c ∈ run, Text.isWord c = true := fun c listed =>
      words c (List.mem_cons_of_mem _ listed)
    have shifted : column + 1 + run.length = column + (c :: run).length := by
      rw [List.length_cons]
      omega
    rw [List.cons_append, stands_cons_iff, ih later, shifted]
    exact or_iff_right fun here => other here.1

/-- The citations that are found are those that stand in a text. -/
theorem mem_onLine_iff : citation ∈ onLine column text ↔ Stands column text citation := by
  fun_induction onLine column text with
  | case1 column =>
    refine iff_of_false List.not_mem_nil fun stands => ?_
    obtain ⟨before, after, written, -⟩ := stands.placed
    simp at written
  | case2 column c rest key here ih =>
    have split : rest = key ++ rest.dropWhile Text.isWord :=
      List.takeWhile_append_dropWhile.symm
    have behind : Stands (column + 1) rest citation ↔
        Stands (column + 1 + key.length) (rest.dropWhile Text.isWord) citation := by
      conv_lhs => rw [split]
      exact stands_append_iff fun _ => List.mem_takeWhile_imp
    rw [List.mem_cons, ih, stands_cons_iff, behind]
    exact or_congr_left ⟨fun same => ⟨here.1, here.2, same⟩, fun found => found.2.2⟩
  | case3 column c rest key passed ih =>
    rw [ih, stands_cons_iff]
    exact (or_iff_right fun found => passed ⟨found.1, found.2.1⟩).symm

/-- Citations are found from left to right. -/
theorem pairwise_onLine (column : Nat) (text : Text) :
    (onLine column text).Pairwise fun earlier later => earlier.start < later.start := by
  fun_induction onLine column text with
  | case1 column => exact List.Pairwise.nil
  | case2 column c rest key here ih =>
    refine List.pairwise_cons.mpr ⟨fun later listed => ?_, ih⟩
    have behind := (mem_onLine_iff.mp listed).le_start
    dsimp only
    omega
  | case3 column c rest key passed ih => exact ih

/-- The test of a column is touching. -/
theorem touches_iff : (citation.start ≤ column && column ≤ citation.stop : Bool) = true ↔
    Touches column citation := by simp [Touches]

/-- A column belongs to the leftmost citation that it touches. -/
theorem at?_eq_some_iff :
    at? line column = some citation ↔
      Stands 0 line citation ∧ Touches column citation ∧
        ∀ other, Stands 0 line other → other.start < citation.start → ¬ Touches column other := by
  have ordered := pairwise_onLine 0 line
  rw [at?, List.find?_eq_some_iff_append, touches_iff]
  constructor
  · rintro ⟨touches, front, back, found, missed⟩
    have listed : citation ∈ onLine 0 line := by simp [found]
    refine ⟨mem_onLine_iff.mp listed, touches, fun other stands less touched => ?_⟩
    rw [found, List.pairwise_append] at ordered
    have inside : other ∈ front ++ citation :: back := found ▸ mem_onLine_iff.mpr stands
    rcases List.mem_append.mp inside with earlier | later
    · have untouched := missed other earlier
      rw [touches_iff.mpr touched] at untouched
      contradiction
    · rcases List.mem_cons.mp later with rfl | behind
      · omega
      · have right := (List.pairwise_cons.mp ordered.2.1).1 other behind
        omega
  · rintro ⟨stands, touches, leftmost⟩
    obtain ⟨front, back, found⟩ := List.append_of_mem (mem_onLine_iff.mpr stands)
    rw [found, List.pairwise_append] at ordered
    refine ⟨touches, front, back, found, fun other earlier => ?_⟩
    have less := ordered.2.2 other earlier citation List.mem_cons_self
    have inside : other ∈ onLine 0 line := by simp [found, earlier]
    have untouched := leftmost other (mem_onLine_iff.mp inside) less
    rw [← touches_iff, Bool.not_eq_true] at untouched
    rw [untouched]
    rfl

/-- A column belongs to no citation exactly if it touches none. -/
theorem at?_eq_none_iff :
    at? line column = none ↔ ∀ citation, Stands 0 line citation → ¬ Touches column citation := by
  rw [at?, List.find?_eq_none]
  refine forall_congr' fun citation => ?_
  rw [mem_onLine_iff, touches_iff]

end Citation

/-! ## Hovering -/

namespace Hover

variable {engine : Engine} {text : Text} {position : Position} {hover : Hover}

/-- Hard breaks stand between the pieces that line feeds end. -/
theorem hardBreaks_eq_join (text : Text) :
    hardBreaks text = Text.join [' ', ' ', '\n'] (Text.splitAt '\n' text) := by
  have clean : ∀ piece ∈ Text.splitAt '\n' text, hardBreaks piece = piece := fun piece listed =>
    hardBreaks_of_notMem (Text.not_mem_of_mem_splitAt listed)
  have written : hardBreaks text = hardBreaks (Text.join ['\n'] (Text.splitAt '\n' text)) := by
    rw [Text.join_splitAt]
  rw [written, hardBreaks_join, List.map_congr_left clean, List.map_id']

/-- Hovering shows the entry of the citation under the cursor, if hovering is not turned off. -/
theorem at?_eq_some_iff :
    at? engine text position = some hover ↔
      engine.settings.showsHover = true ∧ ∃ line citation entry,
        (Text.lines text)[position.line]? = some line ∧
        Citation.at? line position.character = some citation ∧
        engine.entry? citation.key = some entry ∧
        ⟨hardBreaks entry.documentation, ⟨position.line, citation.start⟩,
          ⟨position.line, citation.stop⟩⟩ = hover := by
  rw [at?]
  by_cases shown : engine.settings.showsHover = true
  · rw [if_pos shown]
    simp only [shown, bind, Option.bind_eq_some_iff, Option.some.injEq, true_and,
      exists_and_left]
  · rw [if_neg shown]
    simp [shown]

/-- What hovering shows for a citation on a line. -/
structure Shows (entries : List Entry) (line : Text) (row : Nat) (citation : Citation)
    (hover : Hover) : Prop where
  /-- The text is the documentation of the first entry with the key, with two spaces in front of
  every line feed. -/
  contents : ∃ place entry, Store.FirstAt entries citation.key place ∧
    entries[place]? = some entry ∧
    hover.contents = Text.join [' ', ' ', '\n'] (Text.splitAt '\n' entry.documentation)
  /-- The range begins where the citation does. -/
  starts : hover.start = ⟨row, citation.start⟩
  /-- The range ends where the citation does. -/
  stops : hover.stop = ⟨row, citation.stop⟩
  /-- In the range stand the at sign and the key. -/
  covers : (line.drop hover.start.character).take
    (hover.stop.character - hover.start.character) = '@' :: citation.key

/-- A column of a line belongs to the leftmost of the citations that stand there and that it
touches. Hovering shows something exactly if it is not turned off, the line exists, the column
belongs to a citation and an entry has its key; then it shows the first such entry, and marks the
citation. An editor takes the columns as they are, as long as 32 bits count the characters of the
line. -/
theorem hover_exact (engine : Engine) (text : Text) (position : Position) :
    (∀ line column citation, Citation.at? line column = some citation ↔
      Citation.Stands 0 line citation ∧ Citation.Touches column citation ∧
        ∀ other, Citation.Stands 0 line other → other.start < citation.start →
          ¬ Citation.Touches column other) ∧
    (∀ line column, Citation.at? line column = none ↔
      ∀ citation, Citation.Stands 0 line citation → ¬ Citation.Touches column citation) ∧
    (∀ line citation, Citation.Stands 0 line citation → line.length < Nat.pow 2 32 →
      ∀ row < Nat.pow 2 32, (⟨row, citation.start⟩ : Position).cut = ⟨row, citation.start⟩ ∧
        (⟨row, citation.stop⟩ : Position).cut = ⟨row, citation.stop⟩) ∧
    ((at? engine text position).isSome = true ↔
      engine.settings.showsHover = true ∧ ∃ line citation,
        (Text.lines text)[position.line]? = some line ∧
        Citation.at? line position.character = some citation ∧
        ∃ entry ∈ engine.suggestions.2, entry.key = citation.key) ∧
    ∀ hover, at? engine text position = some hover → ∃ line citation,
      (Text.lines text)[position.line]? = some line ∧
      Citation.at? line position.character = some citation ∧
      Shows engine.suggestions.2 line position.line citation hover := by
  refine ⟨fun _ _ _ => Citation.at?_eq_some_iff, fun _ _ => Citation.at?_eq_none_iff,
    fun _ _ stands bounded => stands.cut_eq bounded, ?_, ?_⟩
  · rw [Option.isSome_iff_exists]
    constructor
    · rintro ⟨hover, shown⟩
      obtain ⟨turnedOn, line, citation, entry, isLine, isCitation, found, -⟩ :=
        at?_eq_some_iff.mp shown
      rw [engine.entry?_eq] at found
      have listed := List.mem_of_find?_eq_some found
      have keyed : entry.key = citation.key := by simpa using List.find?_some found
      exact ⟨turnedOn, line, citation, isLine, isCitation, entry, listed, keyed⟩
    · rintro ⟨turnedOn, line, citation, isLine, isCitation, entry, listed, keyed⟩
      cases found : engine.entry? citation.key with
      | none =>
        rw [engine.entry?_eq] at found
        have missing := List.find?_eq_none.mp found entry listed
        exact absurd (decide_eq_true keyed) missing
      | some first =>
        exact ⟨_, at?_eq_some_iff.mpr
          ⟨turnedOn, line, citation, first, isLine, isCitation, found, rfl⟩⟩
  · intro hover shown
    obtain ⟨-, line, citation, entry, isLine, isCitation, found, rfl⟩ := at?_eq_some_iff.mp shown
    have stands := (Citation.at?_eq_some_iff.mp isCitation).1
    rw [engine.entry?_eq] at found
    obtain ⟨place, first, isEntry⟩ := Store.find?_eq_some_iff_firstAt.mp found
    refine ⟨line, citation, isLine, isCitation, ?_⟩
    exact ⟨⟨place, entry, first, isEntry, hardBreaks_eq_join _⟩, rfl, rfl, stands.slice⟩

/-- The column between two neighbours belongs to the left one. -/
theorem hover_exact_neighbours :
    let entry : Entry := ⟨"a".toList, ⟨"/w/a.bib".toList⟩, ⟨0, 0⟩,
      [("author".toList, "A".toList), ("title".toList, "T".toList)]⟩
    let session := { Session.initial with store := ⟨[⟨⟨"/w/a.bib".toList⟩, [entry]⟩]⟩ }
    let engine : Engine := ⟨{}, ⟨['/']⟩, none, session⟩
    let hover : Hover := ⟨"Author: A  \nTitle: T".toList, ⟨1, 0⟩, ⟨1, 2⟩⟩
    at? engine "See\n@a@b".toList ⟨1, 2⟩ = some hover ∧
      ∃ line citation, (Text.lines "See\n@a@b".toList)[1]? = some line ∧
        Citation.at? line 2 = some citation ∧ Shows [entry] line 1 citation hover := by
  intro entry session engine hover
  have shown : at? engine "See\n@a@b".toList ⟨1, 2⟩ = some hover := by decide +kernel
  exact ⟨shown, (hover_exact engine "See\n@a@b".toList ⟨1, 2⟩).2.2.2.2 hover shown⟩

end Hover

end Citations
