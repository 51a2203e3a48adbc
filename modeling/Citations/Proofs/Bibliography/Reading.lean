import Citations.Bibliography.Record
import Citations.Proofs.Text.Search
import Mathlib.Data.List.Basic

/-!
# How far a reader looks

A reader of a part of a block takes it from the front of a text and leaves the rest. A group, a
header, the fields of a record and a whole block end with a delimiter, so that they are taken in
the same way whatever follows. A bare word, a value and a field end where they do not go on: they
are taken in the same way before every text that begins like the one that follows. So what stands
in front of a place in a text can be read on its own, and more text behind a block leaves it as
it is.
-/
namespace Citations.Record

variable {α : Type} {abbreviations : Abbreviations} {opener closer : Char} {depth : Nat}
  {text rest : Text}

/-! ## What the readers do with the next characters -/

/-- A reader takes a text and goes on as another one: what it reads is that text and then what
the other one reads. -/
def Passes (first next : Text → Option (Text × Text)) (taken : Text) : Prop :=
  ∀ rest, first (taken ++ rest) =
    (next rest).map fun (inner, after) => (taken ++ inner, after)

/-- A reader goes on as itself when nothing is taken. -/
theorem Passes.refl (read : Text → Option (Text × Text)) : Passes read read [] := by
  intro rest
  simp

/-- Two texts are taken one after the other. -/
theorem Passes.trans {first next last : Text → Option (Text × Text)} {taken later : Text}
    (here : Passes first next taken) (there : Passes next last later) :
    Passes first last (taken ++ later) := by
  intro rest
  rw [List.append_assoc, here, there, Option.map_map]
  congr 1
  funext ⟨inner, after⟩
  simp

section Delimited

variable {c : Char}

/-- In a group, a backslash hides the next character. -/
theorem balanced?_hidden (hidden : Char) :
    Passes (balanced? opener closer depth) (balanced? opener closer depth) ['\\', hidden] := by
  intro rest
  rw [balanced?.eq_def]
  rfl

/-- An opening delimiter makes a group deeper. -/
theorem balanced?_opened (shown : opener ≠ '\\') :
    Passes (balanced? opener closer depth) (balanced? opener closer (depth + 1)) [opener] := by
  intro rest
  rw [balanced?.eq_def]
  simp [shown]

/-- The closing delimiter of an inner group goes on with the outer one. -/
theorem balanced?_closed (shown : closer ≠ '\\') (apart : closer ≠ opener) :
    Passes (balanced? opener closer (depth + 1)) (balanced? opener closer depth) [closer] := by
  intro rest
  rw [balanced?.eq_def]
  simp [shown, apart]

/-- Any other character belongs to a group. -/
theorem balanced?_plain (shown : c ≠ '\\') (opens : c ≠ opener) (closes : c ≠ closer) :
    Passes (balanced? opener closer depth) (balanced? opener closer depth) [c] := by
  intro rest
  rw [balanced?.eq_def]
  simp [shown, opens, closes]

/-- The closing delimiter of the outermost group ends the reading. -/
theorem balanced?_ended (shown : closer ≠ '\\') (apart : closer ≠ opener) :
    balanced? opener closer 0 (closer :: text) = some ([], text) := by
  rw [balanced?.eq_def]
  simp [shown, apart]

/-- In a quoted text, a backslash hides the next character. -/
theorem quoted?_hidden (hidden : Char) :
    Passes (quoted? depth) (quoted? depth) ['\\', hidden] := by
  intro rest
  rw [quoted?.eq_def]
  rfl

/-- Any other character but a quote outside braces belongs to a quoted text and may change the
depth. -/
theorem quoted?_inner (shown : c ≠ '\\') (inside : ¬ (c = '"' ∧ depth = 0)) :
    Passes (quoted? depth)
      (quoted? (if c = '\x7b' then depth + 1 else if c = '\x7d' then depth - 1 else depth))
      [c] := by
  intro rest
  rw [quoted?.eq_def]
  simp only [List.cons_append, List.nil_append, if_neg shown, if_neg inside]

/-- A brace makes a quoted text deeper. -/
theorem quoted?_opened : Passes (quoted? depth) (quoted? (depth + 1)) ['\x7b'] :=
  quoted?_inner (by decide) (by simp)

/-- A closing brace makes a quoted text less deep. -/
theorem quoted?_closed : Passes (quoted? (depth + 1)) (quoted? depth) ['\x7d'] :=
  quoted?_inner (by decide) (by simp)

/-- Any other character leaves the depth of a quoted text as it is. -/
theorem quoted?_plain (shown : c ≠ '\\') (opens : c ≠ '\x7b') (closes : c ≠ '\x7d')
    (inside : ¬ (c = '"' ∧ depth = 0)) : Passes (quoted? depth) (quoted? depth) [c] := by
  simpa [opens, closes] using quoted?_inner shown inside

/-- A quote outside braces ends a quoted text. -/
theorem quoted?_ended : quoted? 0 ('"' :: text) = some ([], text) := by
  rw [quoted?.eq_def]
  rfl

end Delimited

/-- A value whose first part is followed by a number sign goes on after it. -/
theorem value?_of_joined {part next : Text}
    (taken : part? abbreviations (skipLayout text) = some (part, rest))
    (joined : skipLayout rest = '#' :: next) :
    value? abbreviations text =
      (value? abbreviations next).map fun (parts, after) => (part :: parts, after) := by
  rw [value?]
  split
  · simp_all
  · rename_i found
    obtain ⟨rfl, rfl⟩ := Prod.mk.inj (Option.some.inj (taken.symm.trans found))
    split <;> simp_all

/-- A value whose first part is followed by anything else ends there. -/
theorem value?_of_last {part : Text}
    (taken : part? abbreviations (skipLayout text) = some (part, rest))
    (last : (skipLayout rest).head? ≠ some '#') :
    value? abbreviations text = some ([part], skipLayout rest) := by
  rw [value?]
  split
  · simp_all
  · rename_i found
    obtain ⟨rfl, rfl⟩ := Prod.mk.inj (Option.some.inj (taken.symm.trans found))
    split <;> simp_all

/-- The closing delimiter ends the fields. -/
theorem fields?_of_closed (closed : skipLayout text = closer :: rest) :
    fields? abbreviations closer text = some ([], rest) := by
  rw [fields?]
  split <;> simp_all

/-- The first field, and the others after a comma. -/
theorem fields?_of_field {after : Text} {field : RawField}
    (opened : (skipLayout text).head? ≠ some closer)
    (taken : field? abbreviations (skipLayout text) = some (field, after)) :
    fields? abbreviations closer text =
      (fields? abbreviations closer (dropComma (skipLayout after))).map
        fun (fields, last) => (field :: fields, last) := by
  rw [fields?]
  split
  · rename_i blank
    rw [blank] at taken
    contradiction
  · rename_i c tail kept
    rw [kept] at opened taken
    rw [if_neg (by simpa using opened)]
    split <;> simp_all

/-- There is nothing left to read where no block is found. -/
theorem readFrom_of_end {offset : Nat} (found : seek .blank text = []) :
    readFrom abbreviations offset text = ⟨[], abbreviations, none⟩ := by
  rw [readFrom]
  split <;> simp_all

/-- Reading stops at a block that cannot be read. -/
theorem readFrom_of_failure {offset : Nat} {sign : Char} {body : Text}
    (found : seek .blank text = sign :: body) (failed : block? abbreviations body = none) :
    readFrom abbreviations offset text =
      ⟨[], abbreviations, some (offset + (text.length - (body.length + 1)))⟩ := by
  rw [readFrom]
  split
  · simp_all
  · rename_i kept
    obtain ⟨rfl, rfl⟩ := List.cons.inj (found.symm.trans kept)
    dsimp only
    split <;> simp_all

/-- A block that can be read comes before what is read after it. -/
theorem readFrom_of_block {offset : Nat} {sign : Char} {body : Text} {block : Block}
    (found : seek .blank text = sign :: body)
    (read : block? abbreviations body = some (block, rest)) :
    readFrom abbreviations offset text =
      let later := readFrom (block.define abbreviations)
        (offset + (text.length - rest.length)) rest
      { later with
        records := block.records (offset + (text.length - (body.length + 1))) ++
          later.records } := by
  rw [readFrom]
  split
  · simp_all
  · rename_i kept
    obtain ⟨rfl, rfl⟩ := List.cons.inj (found.symm.trans kept)
    dsimp only
    split
    · simp_all
    · rename_i taken
      obtain ⟨rfl, rfl⟩ := Prod.mk.inj (Option.some.inj (taken.symm.trans read))
      rfl

/-! ## What a reading takes -/

/-- A reading takes the front of a text, and takes it whatever follows. -/
def Takes (read : Text → Option (α × Text)) (text : Text) (found : α) (rest : Text) : Prop :=
  ∃ taken, text = taken ++ rest ∧ ∀ more, read (taken ++ more) = some (found, more)

/-- A reading takes the front of a text, and takes it before everything that begins like what
follows. -/
def Peeks (read : Text → Option (α × Text)) (text : Text) (found : α) (rest : Text) : Prop :=
  ∃ taken, text = taken ++ rest ∧
    ∀ more, more.head? = rest.head? → read (taken ++ more) = some (found, more)

/-- A reader that goes on as another one takes what that one takes and its own text before. -/
theorem Passes.takes {first next : Text → Option (Text × Text)} {front tail value : Text}
    (passes : Passes first next front)
    (takes : ∀ {rest inner}, next tail = some (inner, rest) → Takes next tail inner rest)
    (read : ((next tail).map fun (inner, after) => (front ++ inner, after)) = some (value, rest)) :
    Takes first (front ++ tail) value rest := by
  obtain ⟨⟨inner, after⟩, found, same⟩ := Option.map_eq_some_iff.1 read
  obtain ⟨rfl, rfl⟩ := Prod.mk.inj same
  obtain ⟨taken, rfl, again⟩ := takes found
  refine ⟨front ++ taken, (List.append_assoc ..).symm, fun more => ?_⟩
  rw [List.append_assoc, passes, again more]
  rfl

/-- A group ends with its delimiter. -/
theorem balanced?_takes {inner : Text}
    (read : balanced? opener closer depth text = some (inner, rest)) :
    Takes (balanced? opener closer depth) text inner rest := by
  fun_induction balanced? opener closer depth text generalizing inner rest with
  | case1 => contradiction
  | case2 => contradiction
  | case3 depth hidden tail ih =>
    exact (balanced?_hidden hidden).takes ih read
  | case4 depth tail shown ih =>
    exact (balanced?_opened shown).takes ih read
  | case5 tail shown apart =>
    obtain ⟨rfl, rfl⟩ := Prod.mk.inj (Option.some.inj read)
    exact ⟨[closer], rfl, fun _ => balanced?_ended shown apart⟩
  | case6 tail depth shown apart ih =>
    exact (balanced?_closed shown apart).takes ih read
  | case7 depth c tail shown opens closes ih =>
    exact (balanced?_plain shown opens closes).takes ih read

/-- A quoted text ends with its quote. -/
theorem quoted?_takes {inner : Text} (read : quoted? depth text = some (inner, rest)) :
    Takes (quoted? depth) text inner rest := by
  fun_induction quoted? depth text generalizing inner rest with
  | case1 => contradiction
  | case2 => contradiction
  | case3 depth hidden tail ih =>
    exact (quoted?_hidden hidden).takes ih read
  | case4 depth c tail _ ends =>
    obtain ⟨rfl, rfl⟩ := ends
    obtain ⟨rfl, rfl⟩ := Prod.mk.inj (Option.some.inj read)
    exact ⟨['"'], rfl, fun _ => quoted?_ended⟩
  | case5 depth c tail shown inside =>
    rename_i ih
    exact (quoted?_inner shown inside).takes ih read

/-! ## Blanks and words -/

/-- Two texts begin alike after the same text if they do. -/
theorem head?_append_congr {more : Text} (same : more.head? = rest.head?) (front : Text) :
    (front ++ more).head? = (front ++ rest).head? := by
  rw [List.head?_append, List.head?_append, same]

/-- Characters of a class are taken up to what begins like what follows them. -/
theorem takeWhile_peeks {p : Char → Bool} {more : Text}
    (same : more.head? = (text.dropWhile p).head?) :
    (text.takeWhile p ++ more).takeWhile p = text.takeWhile p ∧
      (text.takeWhile p ++ more).dropWhile p = more := by
  refine Text.takeWhile_append_of_stops (fun c listed => List.mem_takeWhile_imp listed) ?_
  intro c begins
  have stopped := List.head?_dropWhile_not p text
  rw [same] at begins
  rw [begins] at stopped
  simpa using stopped

/-- Blanks end at what begins like what follows them. -/
theorem skipLayout_peeks (text : Text) :
    ∃ blanks, text = blanks ++ skipLayout text ∧
      ∀ more, more.head? = (skipLayout text).head? → skipLayout (blanks ++ more) = more :=
  ⟨text.takeWhile isLayout, List.takeWhile_append_dropWhile.symm,
    fun _ same => (takeWhile_peeks same).2⟩

/-- A word and the blanks after it are taken up to the character that ends them. -/
theorem word_takes {p : Char → Bool} {c : Char} {tail : Text}
    (kept : skipLayout (text.dropWhile p) = c :: tail) :
    ∃ front, text = front ++ c :: tail ∧ ∀ more,
      (front ++ c :: more).takeWhile p = text.takeWhile p ∧
        skipLayout ((front ++ c :: more).dropWhile p) = c :: more := by
  obtain ⟨blanks, split, skips⟩ := skipLayout_peeks (text.dropWhile p)
  rw [kept] at split skips
  refine ⟨text.takeWhile p ++ blanks, ?_, fun more => ?_⟩
  · rw [List.append_assoc, ← split, List.takeWhile_append_dropWhile]
  · have same : (blanks ++ c :: more).head? = (text.dropWhile p).head? := by
      rw [split]
      exact head?_append_congr (by rfl) blanks
    rw [List.append_assoc, (takeWhile_peeks same).1, (takeWhile_peeks same).2]
    exact ⟨rfl, skips _ rfl⟩

/-- Blanks, a word and the blanks after it are taken up to the character that ends them. -/
theorem word_between_blanks {p : Char → Bool} {c : Char} {tail : Text}
    (kept : skipLayout ((skipLayout text).dropWhile p) = c :: tail) :
    ∃ front, text = front ++ c :: tail ∧ ∀ more,
      (skipLayout (front ++ c :: more)).takeWhile p = (skipLayout text).takeWhile p ∧
        skipLayout ((skipLayout (front ++ c :: more)).dropWhile p) = c :: more := by
  obtain ⟨blanks, split, skips⟩ := skipLayout_peeks text
  obtain ⟨front, whole, again⟩ := word_takes kept
  refine ⟨blanks ++ front, ?_, fun more => ?_⟩
  · rw [List.append_assoc, ← whole, ← split]
  · have same : (front ++ c :: more).head? = (skipLayout text).head? := by
      rw [whole]
      exact head?_append_congr (by rfl) front
    rw [List.append_assoc, skips _ same]
    exact again more

/-! ## Values -/

/-- A part ends with its delimiter, or before what no word goes on with. -/
theorem part?_peeks {part : Text} (read : part? abbreviations text = some (part, rest)) :
    Peeks (part? abbreviations) text part rest := by
  cases text with
  | nil => contradiction
  | cons c tail =>
    simp only [part?] at read
    split at read
    · rename_i grouped
      obtain ⟨taken, rfl, again⟩ := balanced?_takes read
      refine ⟨c :: taken, rfl, fun more _ => ?_⟩
      rw [List.cons_append, part?, if_pos grouped, again more]
    · rename_i bare
      split at read
      · rename_i isQuote
        obtain ⟨taken, rfl, again⟩ := quoted?_takes read
        refine ⟨c :: taken, rfl, fun more _ => ?_⟩
        rw [List.cons_append, part?, if_neg bare, if_pos isQuote, again more]
      · rename_i unquoted
        split at read
        · rename_i isWord
          obtain ⟨rfl, rfl⟩ := Prod.mk.inj (Option.some.inj read)
          have word : (c :: tail).takeWhile isName = c :: tail.takeWhile isName :=
            List.takeWhile_cons_of_pos isWord
          refine ⟨c :: tail.takeWhile isName, ?_, fun more same => ?_⟩
          · rw [List.cons_append, List.takeWhile_append_dropWhile]
          · obtain ⟨named, left⟩ := takeWhile_peeks same
            rw [List.cons_append, part?, if_neg bare, if_neg unquoted, if_pos isWord,
              List.takeWhile_cons_of_pos isWord, named, left, word]
        · contradiction

/-- A part and the blanks around it are taken up to what begins like what follows them. -/
theorem part?_between_blanks {part : Text}
    (read : part? abbreviations (skipLayout text) = some (part, rest)) :
    ∃ taken, text = taken ++ skipLayout rest ∧ ∀ more, more.head? = (skipLayout rest).head? →
      ∃ after, part? abbreviations (skipLayout (taken ++ more)) = some (part, after) ∧
        skipLayout after = more := by
  obtain ⟨before, split, skips⟩ := skipLayout_peeks text
  obtain ⟨taken, whole, again⟩ := part?_peeks read
  obtain ⟨blanks, left, ends⟩ := skipLayout_peeks rest
  refine ⟨before ++ (taken ++ blanks), ?_, fun more same => ?_⟩
  · rw [List.append_assoc, List.append_assoc, ← left, ← whole, ← split]
  · have begins : (blanks ++ more).head? = rest.head? := by
      conv_rhs => rw [left]
      exact head?_append_congr same blanks
    have inner : (taken ++ (blanks ++ more)).head? = (skipLayout text).head? := by
      rw [whole]
      exact head?_append_congr begins taken
    refine ⟨blanks ++ more, ?_, ends more same⟩
    rw [List.append_assoc, List.append_assoc, skips _ inner]
    exact again _ begins

/-- A value ends before what it does not go on with. -/
theorem value?_peeks {parts : List Text}
    (read : value? abbreviations text = some (parts, rest)) :
    Peeks (value? abbreviations) text parts rest := by
  fun_induction value? abbreviations text generalizing parts rest with
  | case1 => contradiction
  | case2 text part tail taken kept =>
    obtain ⟨rfl, rfl⟩ := Prod.mk.inj (Option.some.inj read)
    obtain ⟨front, split, again⟩ := part?_between_blanks taken
    rw [kept] at split again
    refine ⟨front, split, fun more same => ?_⟩
    obtain ⟨after, found, left⟩ := again more same
    rw [value?_of_last found (by simp [left, same]), left]
  | case3 text part tail taken next kept ih =>
    obtain ⟨⟨others, last⟩, found, same⟩ := Option.map_eq_some_iff.1 read
    obtain ⟨rfl, rfl⟩ := Prod.mk.inj same
    obtain ⟨front, split, again⟩ := part?_between_blanks taken
    obtain ⟨later, whole, goesOn⟩ := ih found
    rw [kept] at split again
    refine ⟨front ++ '#' :: later, ?_, fun more same => ?_⟩
    · rw [List.append_assoc, List.cons_append, ← whole, ← split]
    · obtain ⟨after, found, left⟩ := again ('#' :: (later ++ more)) rfl
      rw [List.append_assoc, List.cons_append, value?_of_joined found left, goesOn more same]
      rfl
  | case4 text part tail taken c next kept last =>
    obtain ⟨rfl, rfl⟩ := Prod.mk.inj (Option.some.inj read)
    obtain ⟨front, split, again⟩ := part?_between_blanks taken
    rw [kept] at split again
    refine ⟨front, split, fun more same => ?_⟩
    obtain ⟨after, found, left⟩ := again more same
    rw [value?_of_last found (by simpa [left, same] using last), left]

/-! ## Fields -/

/-- An expected character is read where it comes first. -/
theorem expect?_eq_some {c : Char} : Text.expect? c text = some rest ↔ text = c :: rest := by
  cases text with
  | nil => simp [Text.expect?]
  | cons first tail =>
    rw [Text.expect?]
    split <;> simp_all

/-- A delimiter expected after blanks is taken with them. -/
theorem expect?_after_blanks {c : Char} (read : Text.expect? c (skipLayout text) = some rest) :
    ∃ blanks, text = blanks ++ c :: rest ∧
      ∀ more, Text.expect? c (skipLayout (blanks ++ c :: more)) = some more := by
  have kept : skipLayout text = c :: rest := expect?_eq_some.mp read
  obtain ⟨blanks, split, skips⟩ := skipLayout_peeks text
  rw [kept] at split skips
  exact ⟨blanks, split, fun more => expect?_eq_some.mpr (skips _ rfl)⟩

/-- A field is a name, an equals sign between blanks and a value. -/
theorem field?_eq_some {field : RawField} :
    field? abbreviations text = some (field, rest) ↔
      text.takeWhile isName ≠ [] ∧ Text.lowerAscii (text.takeWhile isName) = field.1 ∧
        ∃ next, skipLayout (text.dropWhile isName) = '=' :: next ∧
          value? abbreviations next = some (field.2, rest) := by
  obtain ⟨name, parts⟩ := field
  unfold field?
  split
  · rename_i nameless
    simp [nameless]
  · rename_i named
    simp only [Option.bind_eq_bind, Option.bind_eq_some_iff, expect?_eq_some]
    constructor
    · rintro ⟨next, equals, ⟨others, last⟩, valued, same⟩
      simp only [Option.some.injEq, Prod.mk.injEq] at same
      obtain ⟨⟨rfl, rfl⟩, rfl⟩ := same
      exact ⟨named, rfl, next, equals, valued⟩
    · rintro ⟨_, rfl, next, equals, valued⟩
      exact ⟨next, equals, (parts, rest), valued, rfl⟩

/-- A field ends where its value ends. -/
theorem field?_peeks {field : RawField} (read : field? abbreviations text = some (field, rest)) :
    Peeks (field? abbreviations) text field rest := by
  obtain ⟨named, lowered, next, equals, valued⟩ := field?_eq_some.mp read
  obtain ⟨front, split, begins⟩ := word_takes equals
  obtain ⟨taken, rfl, again⟩ := value?_peeks valued
  refine ⟨front ++ '=' :: taken, by rw [List.append_assoc, List.cons_append, split], ?_⟩
  intro more same
  rw [List.append_assoc, List.cons_append]
  obtain ⟨sameName, after⟩ := begins (taken ++ more)
  rw [← sameName] at named lowered
  exact field?_eq_some.mpr ⟨named, lowered, _, after, again more same⟩

/-- There is no comma where something else comes first. -/
theorem dropComma_of_head (other : text.head? ≠ some ',') : dropComma text = text := by
  unfold dropComma
  split
  · exact absurd rfl other
  · rfl

/-- There is no comma in front of another character. -/
theorem dropComma_of_ne {c : Char} (other : c ≠ ',') : dropComma (c :: text) = c :: text :=
  dropComma_of_head (by simpa using other)

/-- What follows a field up to the next one: blanks, and perhaps a comma. -/
theorem gap_peeks (text : Text) :
    ∃ gap, text = gap ++ dropComma (skipLayout text) ∧
      ∀ more, more.head? = (dropComma (skipLayout text)).head? →
        dropComma (skipLayout (gap ++ more)) = more := by
  obtain ⟨blanks, split, skips⟩ := skipLayout_peeks text
  by_cases comma : (skipLayout text).head? = some ','
  · obtain ⟨tail, kept⟩ := List.head?_eq_some_iff.mp comma
    rw [kept] at split skips
    refine ⟨blanks ++ [','], ?_, fun more _ => ?_⟩
    · rw [kept, List.append_assoc]
      exact split
    · rw [List.append_assoc, List.singleton_append, skips (',' :: more) rfl]
      rfl
  · rw [dropComma_of_head comma]
    refine ⟨blanks, split, fun more same => ?_⟩
    rw [skips more same, dropComma_of_head (same ▸ comma)]

/-- A field, the blanks around it and a comma are taken up to what begins like what follows
them. -/
theorem field?_between_blanks {field : RawField}
    (read : field? abbreviations (skipLayout text) = some (field, rest)) :
    ∃ taken, text = taken ++ dropComma (skipLayout rest) ∧
      ∀ more, more.head? = (dropComma (skipLayout rest)).head? →
        (skipLayout (taken ++ more)).head? = (skipLayout text).head? ∧
          ∃ after, field? abbreviations (skipLayout (taken ++ more)) = some (field, after) ∧
            dropComma (skipLayout after) = more := by
  obtain ⟨blanks, split, skips⟩ := skipLayout_peeks text
  obtain ⟨front, whole, again⟩ := field?_peeks read
  obtain ⟨gap, between, ends⟩ := gap_peeks rest
  refine ⟨blanks ++ (front ++ gap), ?_, fun more same => ?_⟩
  · rw [List.append_assoc, List.append_assoc, ← between, ← whole, ← split]
  · have follows : (gap ++ more).head? = rest.head? := by
      conv_rhs => rw [between]
      exact head?_append_congr same gap
    have begins : (front ++ (gap ++ more)).head? = (skipLayout text).head? := by
      rw [whole]
      exact head?_append_congr follows front
    rw [List.append_assoc, List.append_assoc, skips _ begins]
    exact ⟨begins, gap ++ more, again _ follows, ends _ same⟩

/-- Fields end with the closing delimiter. -/
theorem fields?_takes {fields : List RawField}
    (read : fields? abbreviations closer text = some (fields, rest)) :
    Takes (fields? abbreviations closer) text fields rest := by
  fun_induction fields? abbreviations closer text generalizing fields rest with
  | case1 => contradiction
  | case2 text tail kept =>
    obtain ⟨rfl, rfl⟩ := Prod.mk.inj (Option.some.inj read)
    obtain ⟨blanks, split, skips⟩ := skipLayout_peeks text
    rw [kept] at split skips
    refine ⟨blanks ++ [closer], by rw [List.append_assoc]; exact split, fun more => ?_⟩
    rw [List.append_assoc]
    exact fields?_of_closed (skips (closer :: more) rfl)
  | case3 => contradiction
  | case4 text c tail kept opened field after taken ih =>
    obtain ⟨⟨others, last⟩, found, same⟩ := Option.map_eq_some_iff.1 read
    obtain ⟨rfl, rfl⟩ := Prod.mk.inj same
    rw [← kept] at taken
    obtain ⟨front, split, again⟩ := field?_between_blanks taken
    obtain ⟨later, left, goesOn⟩ := ih found
    have nonempty : later ≠ [] := by
      rintro rfl
      have shorter := fields?_length found
      rw [left] at shorter
      exact Nat.lt_irrefl _ shorter
    refine ⟨front ++ later, by rw [List.append_assoc, ← left, ← split], fun more => ?_⟩
    have same : (later ++ more).head? = (dropComma (skipLayout after)).head? := by
      rw [left, List.head?_append_of_ne_nil _ nonempty, List.head?_append_of_ne_nil _ nonempty]
    obtain ⟨begins, next, named, comma⟩ := again _ same
    have notClosed : (skipLayout (front ++ (later ++ more))).head? ≠ some closer := by
      simpa [begins, kept] using opened
    rw [List.append_assoc, fields?_of_field notClosed named, comma, goesOn more]
    rfl

/-! ## Blocks -/

/-- A record is a key and, after a comma, fields up to the closing delimiter. -/
theorem record?_eq_some {block : Block} :
    record? abbreviations closer text = some (block, rest) ↔
      ∃ fields, block = .record ((skipLayout text).takeWhile (isKey closer)) fields ∧
        ((∃ next, skipLayout ((skipLayout text).dropWhile (isKey closer)) = ',' :: next ∧
            fields? abbreviations closer next = some (fields, rest)) ∨
          (skipLayout ((skipLayout text).dropWhile (isKey closer)) = closer :: rest ∧
            closer ≠ ',' ∧ fields = [])) := by
  unfold record?
  dsimp only
  cases skipLayout ((skipLayout text).dropWhile (isKey closer)) with
  | nil => simp
  | cons c tail =>
    by_cases comma : c = ','
    · subst comma
      simp only [if_pos, Option.map_eq_some_iff, Prod.exists, Prod.mk.injEq]
      constructor
      · rintro ⟨fields, last, found, rfl, rfl⟩
        exact ⟨fields, rfl, Or.inl ⟨tail, rfl, found⟩⟩
      · rintro ⟨fields, rfl, ⟨next, same, found⟩ | ⟨same, other, _⟩⟩
        · obtain ⟨-, rfl⟩ := List.cons.inj same
          exact ⟨fields, rest, found, rfl, rfl⟩
        · exact absurd (List.cons.inj same).1.symm other
    · simp only [if_neg comma]
      constructor
      · intro read
        split at read
        · rename_i closed
          obtain ⟨rfl, rfl⟩ := Prod.mk.inj (Option.some.inj read)
          exact ⟨[], rfl, Or.inr ⟨by rw [closed], closed ▸ comma, rfl⟩⟩
        · contradiction
      · rintro ⟨fields, rfl, ⟨next, same, _⟩ | ⟨same, _, rfl⟩⟩
        · exact absurd (List.cons.inj same).1 comma
        · obtain ⟨rfl, rfl⟩ := List.cons.inj same
          rw [if_pos rfl]

/-- A key and fields end with the closing delimiter. -/
theorem record?_takes {block : Block}
    (read : record? abbreviations closer text = some (block, rest)) :
    Takes (record? abbreviations closer) text block rest := by
  obtain ⟨fields, rfl, ⟨next, kept, found⟩ | ⟨kept, other, rfl⟩⟩ := record?_eq_some.mp read
  · obtain ⟨front, split, again⟩ := word_between_blanks kept
    obtain ⟨taken, rfl, goesOn⟩ := fields?_takes found
    refine ⟨front ++ ',' :: taken, by rw [List.append_assoc]; exact split, fun more => ?_⟩
    rw [List.append_assoc, List.cons_append]
    obtain ⟨sameKey, after⟩ := again (taken ++ more)
    exact record?_eq_some.mpr ⟨fields, by rw [sameKey], Or.inl ⟨_, after, goesOn more⟩⟩
  · obtain ⟨front, split, again⟩ := word_between_blanks kept
    refine ⟨front ++ [closer], by rw [List.append_assoc]; exact split, fun more => ?_⟩
    rw [List.append_assoc, List.singleton_append]
    obtain ⟨sameKey, after⟩ := again more
    exact record?_eq_some.mpr ⟨[], by rw [sameKey], Or.inr ⟨after, other, rfl⟩⟩

/-- A header is a kind and an opening delimiter between blanks. -/
theorem header?_eq_some {kind : Text} :
    header? text = some (kind, opener, rest) ↔
      kind ≠ [] ∧ (skipLayout text).takeWhile isKind = kind ∧
        skipLayout ((skipLayout text).dropWhile isKind) = opener :: rest ∧
          (opener = '\x7b' ∨ opener = '(') := by
  unfold header?
  dsimp only
  generalize (skipLayout text).takeWhile isKind = named
  generalize skipLayout ((skipLayout text).dropWhile isKind) = after
  cases named with
  | nil => simp +contextual [eq_comm]
  | cons first others =>
    cases after with
    | nil => simp
    | cons c tail =>
      simp only [Option.ite_none_right_eq_some, Option.some.injEq, Prod.mk.injEq, List.cons.injEq]
      constructor
      · rintro ⟨opens, rfl, rfl, rfl⟩
        exact ⟨by simp, rfl, ⟨rfl, rfl⟩, opens⟩
      · rintro ⟨_, rfl, ⟨rfl, rfl⟩, opens⟩
        exact ⟨opens, rfl, rfl, rfl⟩

/-- A header ends with an opening delimiter. -/
theorem header?_takes {kind : Text} (read : header? text = some (kind, opener, rest)) :
    ∃ taken, text = taken ++ rest ∧ ∀ more, header? (taken ++ more) = some (kind, opener, more) := by
  obtain ⟨named, same, kept, opens⟩ := header?_eq_some.mp read
  obtain ⟨front, split, again⟩ := word_between_blanks kept
  refine ⟨front ++ [opener], by rw [List.append_assoc]; exact split, fun more => ?_⟩
  rw [List.append_assoc, List.singleton_append]
  obtain ⟨sameKind, goesOn⟩ := again more
  exact header?_eq_some.mpr ⟨named, sameKind.trans same, goesOn, opens⟩

/-- A block is a header and, by its kind, a group, a value, a field, or a key and fields. -/
theorem block?_eq_some {block : Block} :
    block? abbreviations text = some (block, rest) ↔
      ∃ kind opener body, header? text = some (kind, opener, body) ∧
        ((Text.lowerAscii kind = "comment".toList ∧ block = .ignored ∧
            ∃ inner, balanced? opener (closerOf opener) 0 body = some (inner, rest)) ∨
          (Text.lowerAscii kind = "preamble".toList ∧ block = .ignored ∧
            ∃ parts after, value? abbreviations body = some (parts, after) ∧
              Text.expect? (closerOf opener) (skipLayout after) = some rest) ∨
          (Text.lowerAscii kind = "string".toList ∧
            ∃ name parts after, block = .abbreviation name (rendered parts) ∧
              field? abbreviations (skipLayout body) = some ((name, parts), after) ∧
              Text.expect? (closerOf opener) (skipLayout after) = some rest) ∨
          (Text.lowerAscii kind ∉ ["comment".toList, "preamble".toList, "string".toList] ∧
            record? abbreviations (closerOf opener) body = some (block, rest))) := by
  constructor
  · intro read
    obtain ⟨⟨kind, opener, body⟩, headed, inside⟩ := Option.bind_eq_some_iff.mp read
    refine ⟨kind, opener, body, headed, ?_⟩
    dsimp only at inside
    split at inside
    · rename_i isComment
      obtain ⟨⟨inner, last⟩, found, same⟩ := Option.bind_eq_some_iff.mp inside
      obtain ⟨rfl, rfl⟩ := Prod.mk.inj (Option.some.inj same)
      exact Or.inl ⟨isComment, rfl, inner, found⟩
    · rename_i notComment
      split at inside
      · rename_i isPreamble
        obtain ⟨⟨parts, after⟩, found, inside⟩ := Option.bind_eq_some_iff.mp inside
        obtain ⟨last, closed, same⟩ := Option.bind_eq_some_iff.mp inside
        obtain ⟨rfl, rfl⟩ := Prod.mk.inj (Option.some.inj same)
        exact Or.inr (Or.inl ⟨isPreamble, rfl, parts, after, found, closed⟩)
      · rename_i notPreamble
        split at inside
        · rename_i isString
          obtain ⟨⟨⟨name, parts⟩, after⟩, found, inside⟩ := Option.bind_eq_some_iff.mp inside
          obtain ⟨last, closed, same⟩ := Option.bind_eq_some_iff.mp inside
          obtain ⟨rfl, rfl⟩ := Prod.mk.inj (Option.some.inj same)
          exact Or.inr (Or.inr (Or.inl ⟨isString, name, parts, after, rfl, found, closed⟩))
        · rename_i notString
          refine Or.inr (Or.inr (Or.inr ⟨?_, inside⟩))
          simp only [List.mem_cons, List.not_mem_nil, or_false, not_or]
          exact ⟨notComment, notPreamble, notString⟩
  · rintro ⟨kind, opener, body, headed, inside⟩
    simp only [block?, headed, Option.bind_eq_bind, Option.bind_some]
    rcases inside with ⟨kind, rfl, inner, found⟩ | ⟨kind, rfl, parts, after, found, closed⟩ |
      ⟨kind, name, parts, after, rfl, found, closed⟩ | ⟨ordinary, found⟩
    · rw [if_pos kind, found]
      rfl
    · rw [kind, if_neg (by decide), if_pos rfl, found, Option.bind_some, closed]
      rfl
    · rw [kind, if_neg (by decide), if_neg (by decide), if_pos rfl, found, Option.bind_some, closed]
      rfl
    · simp only [List.mem_cons, List.not_mem_nil, or_false, not_or] at ordinary
      rw [if_neg ordinary.1, if_neg ordinary.2.1, if_neg ordinary.2.2, found]

/-- A block ends with its closing delimiter. -/
theorem block?_takes {block : Block} (read : block? abbreviations text = some (block, rest)) :
    Takes (block? abbreviations) text block rest := by
  obtain ⟨kind, opener, body, headed, inside⟩ := block?_eq_some.mp read
  obtain ⟨header, rfl, heads⟩ := header?_takes headed
  -- Whatever the block is, it is what its body is read as after the header.
  suffices body : ∃ taken, body = taken ++ rest ∧ ∀ more,
      block? abbreviations (header ++ (taken ++ more)) = some (block, more) by
    obtain ⟨taken, rfl, again⟩ := body
    exact ⟨header ++ taken, (List.append_assoc ..).symm,
      fun more => by rw [List.append_assoc, again]⟩
  rcases inside with ⟨kind, made, inner, found⟩ | ⟨kind, made, parts, after, found, closed⟩ |
    ⟨kind, name, parts, after, made, found, closed⟩ | ⟨kind, found⟩
  · obtain ⟨taken, split, again⟩ := balanced?_takes found
    refine ⟨taken, split, fun more => block?_eq_some.mpr ⟨_, _, _, heads _, Or.inl ?_⟩⟩
    exact ⟨kind, made, inner, again more⟩
  · obtain ⟨blanks, split, closes⟩ := expect?_after_blanks closed
    obtain ⟨taken, whole, again⟩ := value?_peeks found
    refine ⟨taken ++ (blanks ++ [closerOf opener]), ?_, fun more =>
      block?_eq_some.mpr ⟨_, _, _, heads _, Or.inr (Or.inl ?_)⟩⟩
    · rw [whole, split, List.append_assoc, List.append_assoc, List.singleton_append]
    · have goesOn := again (blanks ++ closerOf opener :: more) (by
        rw [split]
        exact head?_append_congr (by rfl) blanks)
      rw [List.append_assoc, List.append_assoc, List.singleton_append]
      exact ⟨kind, made, parts, _, goesOn, closes more⟩
  · obtain ⟨before, skipped, skips⟩ := skipLayout_peeks body
    obtain ⟨blanks, split, closes⟩ := expect?_after_blanks closed
    obtain ⟨taken, whole, again⟩ := field?_peeks found
    refine ⟨before ++ (taken ++ (blanks ++ [closerOf opener])), ?_, fun more =>
      block?_eq_some.mpr ⟨_, _, _, heads _, Or.inr (Or.inr (Or.inl ?_))⟩⟩
    · rw [skipped, whole, split]
      simp only [List.append_assoc, List.singleton_append]
    · have same : (blanks ++ closerOf opener :: more).head? = after.head? := by
        rw [split]
        exact head?_append_congr (by rfl) blanks
      have begins := skips (taken ++ (blanks ++ closerOf opener :: more)) (by
        rw [whole]
        exact head?_append_congr same taken)
      simp only [List.append_assoc, List.singleton_append]
      refine ⟨kind, name, parts, _, made, ?_, closes more⟩
      rw [begins]
      exact again _ same
  · obtain ⟨taken, split, again⟩ := record?_takes found
    refine ⟨taken, split, fun more => block?_eq_some.mpr
      ⟨_, _, _, heads _, Or.inr (Or.inr (Or.inr ?_))⟩⟩
    exact ⟨kind, again more⟩

/-- A reading of a text that leaves an end of it and stays the same when more text follows. -/
structure Settled (read : Text → Option (α × Text)) (text : Text) (found : α) (rest : Text) :
    Prop where
  /-- What is left is the end of the text. -/
  suffix : rest <:+ text
  /-- The same is read when more follows, and that is left as well. -/
  append : ∀ more, read (text ++ more) = some (found, rest ++ more)

/-- More text after a block leaves it as it is. -/
theorem block?_settled {block : Block} (read : block? abbreviations text = some (block, rest)) :
    Settled (block? abbreviations) text block rest := by
  obtain ⟨taken, rfl, again⟩ := block?_takes read
  exact ⟨List.suffix_append taken rest, fun more => by rw [List.append_assoc, again]⟩

end Citations.Record
