import Citations.Json.Reader
import Mathlib.Data.List.Perm.Basic
import Mathlib.Data.List.Nodup

/-!
# Writing objects of texts

A list of one object whose members are texts can be written with every text in quotes, and is
read back as that list. Quotes, backslashes and control characters are escaped. An object that
is read keeps its members in the order of their names, so members with different names are the
same in whatever order they were written.
-/
namespace Citations.Json

variable {text more : Text} {tokens others : List Token}

/-! ## Quoted texts -/

/-- How a character is written between quotes. -/
def escaped (c : Char) : Text :=
  if c = '"' ∨ c = '\\' then ['\\', c]
  else if c.toNat < 0x20 then
    ['\\', 'u', '0', '0', Nat.digitChar (c.toNat / 16), Nat.digitChar (c.toNat % 16)]
  else [c]

/-- A text in quotes. -/
def quoted (value : Text) : Text := '"' :: (value.flatMap escaped ++ ['"'])

/-- A closing quote ends a text. -/
theorem string?_closed (rest : Text) : string? ('"' :: rest) = some ([], rest) := by
  rw [string?, if_pos rfl]

/-- An escape stands for a character. -/
theorem string?_hidden {c : Char} {after rest : Text} (hidden : unescape? after = some (c, rest)) :
    string? ('\\' :: after) = (string? rest).map fun (inner, tail) => (c :: inner, tail) := by
  rw [string?, if_neg (by decide), if_pos rfl]
  split
  · simp_all
  · simp_all

/-- Any other character stands for itself. -/
theorem string?_plain {c : Char} (unquoted : c ≠ '"') (shown : c ≠ '\\')
    (printed : ¬ c.toNat < 0x20) (rest : Text) :
    string? (c :: rest) = (string? rest).map fun (inner, tail) => (c :: inner, tail) := by
  rw [string?, if_neg unquoted, if_neg shown, if_neg printed]

/-- A control character is read from its code. -/
theorem unescape?_control {c : Char} (control : c.toNat < 0x20) (rest : Text) :
    unescape? ('u' :: '0' :: '0' :: Nat.digitChar (c.toNat / 16) :: Nat.digitChar (c.toNat % 16) ::
      rest) = some (c, rest) := by
  have digits : ∀ code < 0x20, ['0', '0', Nat.digitChar (code / 16),
      Nat.digitChar (code % 16)].mapM Text.hexDigit? = some [0, 0, code / 16, code % 16] := by
    decide
  have value : Text.numeral 16 [0, 0, c.toNat / 16, c.toNat % 16] = c.toNat := by
    simp only [Text.numeral, List.foldl_cons, List.foldl_nil]
    omega
  have word : hex4? ('0' :: '0' :: Nat.digitChar (c.toNat / 16) ::
      Nat.digitChar (c.toNat % 16) :: rest) = some (c.toNat, rest) := by
    rw [hex4?, digits c.toNat control, Option.bind_eq_bind, Option.bind_some, value]
  have noLead : ¬ (0xD800 ≤ c.toNat ∧ c.toNat < 0xDC00) := by omega
  have noTrail : ¬ (0xDC00 ≤ c.toNat ∧ c.toNat < 0xE000) := by omega
  have single : unescapeWord? ('0' :: '0' :: Nat.digitChar (c.toNat / 16) ::
      Nat.digitChar (c.toNat % 16) :: rest) = some (c, rest) := by
    simp only [unescapeWord?, word, Option.bind_eq_bind, Option.bind_some, if_neg noLead,
      if_neg noTrail, Char.ofNat_toNat]
  simpa [unescape?] using single

/-- A character is read as it was written. -/
theorem string?_escaped (c : Char) (rest : Text) :
    string? (escaped c ++ rest) = (string? rest).map fun (inner, tail) => (c :: inner, tail) := by
  unfold escaped
  split
  · next special =>
    have hidden : unescape? (c :: rest) = some (c, rest) := by
      rw [unescape?, if_pos (by tauto)]
    exact string?_hidden hidden
  · next plain =>
    obtain ⟨unquoted, shown⟩ := not_or.mp plain
    split
    · next control => exact string?_hidden (unescape?_control control rest)
    · next printed => exact string?_plain unquoted shown printed rest

/-- A text is read as it was written. -/
theorem string?_quoted (value rest : Text) :
    string? (value.flatMap escaped ++ '"' :: rest) = some (value, rest) := by
  induction value with
  | nil => exact string?_closed rest
  | cons c others ih =>
    rw [List.flatMap_cons, List.append_assoc, string?_escaped, ih]
    rfl

/-! ## Texts and their tokens -/

/-- A text writes some tokens, whatever follows it. -/
def Spells (text : Text) (tokens : List Token) : Prop :=
  ∀ rest, tokens? (text ++ rest) = (tokens? rest).map (tokens ++ ·)

/-- The tokens of a text, one step of the reader at a time. -/
theorem tokens?_eq (input : Text) :
    tokens? input = match input.dropWhile isSpace with
      | [] => some []
      | c :: tail => (token? (c :: tail)).bind fun (token, rest) =>
          (tokens? rest).map (token :: ·) := by
  rw [tokens?]
  split
  · next empty => rw [empty]
  · next c tail kept =>
    rw [kept]
    dsimp only
    split
    · next failed => rw [failed, Option.bind_none]
    · next token rest read => rw [read, Option.bind_some]

/-- A token in front is read first. -/
theorem tokens?_cons {c : Char} {rest after : Text} {token : Token} (inked : isSpace c = false)
    (read : token? (c :: rest) = some (token, after)) :
    tokens? (c :: rest) = (tokens? after).map (token :: ·) := by
  rw [tokens?_eq, List.dropWhile_cons_of_neg (by simp [inked])]
  dsimp only
  rw [read, Option.bind_some]

/-- Nothing writes nothing. -/
theorem spells_nil : Spells [] [] := by
  intro rest
  simp

/-- Texts one after another write their tokens one after another. -/
theorem Spells.append (first : Spells text tokens) (second : Spells more others) :
    Spells (text ++ more) (tokens ++ others) := by
  intro rest
  rw [List.append_assoc, first, second, Option.map_map]
  simp only [Function.comp_def, List.append_assoc]

/-- A character that is a token writes it. -/
theorem spells_mark {c : Char} {token : Token} (inked : isSpace c = false)
    (read : ∀ rest, token? (c :: rest) = some (token, rest)) : Spells [c] [token] :=
  fun rest => tokens?_cons inked (read rest)

/-- A blank writes nothing. -/
theorem spells_space : Spells [' '] [] := by
  intro rest
  have skipped : tokens? (' ' :: rest) = tokens? rest := by
    rw [tokens?_eq, tokens?_eq rest, List.dropWhile_cons_of_pos rfl]
  simpa using skipped

/-- A text in quotes writes the text. -/
theorem spells_quoted (value : Text) : Spells (quoted value) [.text value] := by
  intro rest
  have taken : quoted value ++ rest = '"' :: (value.flatMap escaped ++ '"' :: rest) := by
    simp [quoted]
  have read : token? ('"' :: (value.flatMap escaped ++ '"' :: rest)) =
      some (.text value, rest) := by
    rw [token?]
    simp only [Char.reduceEq, if_false, if_true, string?_quoted, Option.map_some]
  rw [taken]
  exact tokens?_cons (by decide) read

/-- Texts that write their tokens do so all together. -/
theorem spells_flatMap {α : Type} {text : α → Text} {tokens : α → List Token}
    (spells : ∀ item, Spells (text item) (tokens item)) (items : List α) :
    Spells (items.flatMap text) (items.flatMap tokens) := by
  induction items with
  | nil => exact spells_nil
  | cons item rest ih => exact (spells item).append ih

/-- A text that writes some tokens has them. -/
theorem Spells.tokens?_eq_some (spells : Spells text tokens) : tokens? text = some tokens := by
  have alone := spells []
  rw [List.append_nil] at alone
  simpa [tokens?_eq []] using alone

/-! ## Lists of one object -/

/-- A name and a text as a member of an object. -/
def memberText (pair : Text × Text) : Text := quoted pair.1 ++ ([':'] ++ ([' '] ++ quoted pair.2))

/-- The tokens of a member. -/
def memberTokens (pair : Text × Text) : List Token := [.text pair.1, .colon, .text pair.2]

/-- A member after others. -/
def laterText (pair : Text × Text) : Text := [','] ++ ([' '] ++ memberText pair)

/-- The tokens of a member after others. -/
def laterTokens (pair : Text × Text) : List Token := .comma :: memberTokens pair

/-- A list of one object with a first member and others. -/
def listText (first : Text × Text) (others : List (Text × Text)) : Text :=
  ['['] ++ (['\x7b'] ++ (memberText first ++ (others.flatMap laterText ++ (['\x7d'] ++ [']']))))

/-- The tokens of a list of one object. -/
def listTokens (first : Text × Text) (others : List (Text × Text)) : List Token :=
  .openArray :: .openObject :: (memberTokens first ++
    (others.flatMap laterTokens ++ [.closeObject, .closeArray]))

/-- A member is written with a colon. -/
theorem spells_member (pair : Text × Text) : Spells (memberText pair) (memberTokens pair) :=
  (spells_quoted pair.1).append <| (spells_mark (by decide) fun _ => rfl).append <|
    spells_space.append <| spells_quoted pair.2

/-- A member after others is written with a comma. -/
theorem spells_later (pair : Text × Text) : Spells (laterText pair) (laterTokens pair) :=
  (spells_mark (by decide) fun _ => rfl).append <| spells_space.append <| spells_member pair

/-- A list of one object is written with brackets and braces. -/
theorem spells_list (first : Text × Text) (others : List (Text × Text)) :
    Spells (listText first others) (listTokens first others) :=
  (spells_mark (by decide) fun _ => rfl).append <|
    (spells_mark (by decide) fun _ => rfl).append <|
      (spells_member first).append <| (spells_flatMap spells_later others).append <|
        (spells_mark (by decide) fun _ => rfl).append <| spells_mark (by decide) fun _ => rfl

/-- Put the members of an object in, one after another. -/
def setMembers (members : List (Text × Json)) (pairs : List (Text × Text)) :
    List (Text × Json) :=
  pairs.foldl (fun members pair => setMember pair.1 (.text pair.2) members) members

/-- The members after others are put into the object that is open. -/
theorem foldlM_laterTokens (pairs : List (Text × Text)) (members : List (Text × Json))
    (name : Text) (outer : List Frame) :
    ∃ last, (pairs.flatMap laterTokens).foldlM Machine.step?
        ⟨.object members name :: outer, .separator⟩ =
      some ⟨.object (setMembers members pairs) last :: outer, .separator⟩ := by
  induction pairs generalizing members name with
  | nil => exact ⟨name, rfl⟩
  | cons pair rest ih =>
    obtain ⟨last, later⟩ := ih (setMember pair.1 (.text pair.2) members) pair.1
    exact ⟨last, later⟩

/-- A list of one object is read as it was written. -/
theorem read?_listText (first : Text × Text) (others : List (Text × Text)) :
    read? (listText first others) =
      some (.array [.object (setMembers [] (first :: others))]) := by
  obtain ⟨last, later⟩ :=
    foldlM_laterTokens others [(first.1, .text first.2)] first.1 [.array []]
  have whole : (listTokens first others).foldlM Machine.step? ⟨[], .value⟩ =
      some ⟨[], .finished (.array [.object (setMembers [] (first :: others))])⟩ := by
    change (others.flatMap laterTokens ++ [Token.closeObject, Token.closeArray]).foldlM Machine.step?
      ⟨.object [(first.1, .text first.2)] first.1 :: [.array []], .separator⟩ = _
    rw [List.foldlM_append, later]
    rfl
  simp only [read?, (spells_list first others).tokens?_eq_some, Option.bind_eq_bind,
    Option.bind_some, whole]

/-! ## The members that are kept -/

/-- A new name is put among the others. -/
theorem setMember_perm {name : Text} {value : Json} {members : List (Text × Json)}
    (fresh : name ∉ members.map (·.1)) :
    (setMember name value members).Perm ((name, value) :: members) := by
  induction members with
  | nil => exact List.Perm.refl _
  | cons member rest ih =>
    obtain ⟨other, kept⟩ := member
    have later : name ∉ rest.map (·.1) := fun listed => fresh (List.mem_cons_of_mem _ listed)
    have differs : name ≠ other := fun same => fresh (same ▸ List.mem_cons_self)
    rw [setMember, if_neg differs]
    split
    · exact List.Perm.refl _
    · exact ((ih later).cons _).trans (List.Perm.swap ..)

/-- Members with different names are all kept. -/
theorem setMembers_perm {members : List (Text × Json)} {pairs : List (Text × Text)}
    (distinct : (members.map (·.1) ++ pairs.map (·.1)).Nodup) :
    (setMembers members pairs).Perm (members ++ pairs.map fun pair => (pair.1, .text pair.2)) := by
  induction pairs generalizing members with
  | nil => exact List.Perm.of_eq (List.append_nil _).symm
  | cons pair rest ih =>
    have fresh : pair.1 ∉ members.map (·.1) := fun listed =>
      (List.nodup_append.mp distinct).2.2 _ listed _ List.mem_cons_self rfl
    have put : (setMember pair.1 (.text pair.2) members).Perm ((pair.1, .text pair.2) :: members) :=
      setMember_perm fresh
    have swapped : ((setMember pair.1 (.text pair.2) members).map (·.1) ++
        rest.map (·.1)).Perm (members.map (·.1) ++ (pair :: rest).map (·.1)) :=
      ((put.map _).append_right _).trans List.perm_middle.symm
    exact (ih (swapped.nodup_iff.mpr distinct)).trans
      ((put.append_right _).trans List.perm_middle.symm)

end Citations.Json
