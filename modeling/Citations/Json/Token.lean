import Citations.Json.Value

/-!
# JSON tokens

A JSON text is a sequence of tokens with blanks between them. A token that is cut short or
malformed, and a number beyond double precision, make the whole text invalid. Every token takes
at least one character, which is why reading them all ends.
-/
namespace Citations.Json

/-- A lexical unit. -/
inductive Token where
  /-- An opening bracket. -/
  | openArray
  /-- A closing bracket. -/
  | closeArray
  /-- An opening brace. -/
  | openObject
  /-- A closing brace. -/
  | closeObject
  /-- A comma. -/
  | comma
  /-- A colon. -/
  | colon
  /-- A text, which may also be a name. -/
  | text (value : Text)
  /-- Null, a truth value or a number. -/
  | literal (value : Json)

/-- Four hexadecimal digits. -/
def hex4? : Text → Option (Nat × Text)
  | a :: b :: c :: d :: rest => do
    let digits ← [a, b, c, d].mapM Text.hexDigit?
    some (Text.numeral 16 digits, rest)
  | _ => none

/-- The character that one or two escaped words of 16 bits write, after the first `u`. -/
def unescapeWord? (text : Text) : Option (Char × Text) := do
  let (high, rest) ← hex4? text
  if 0xD800 ≤ high ∧ high < 0xDC00 then
    match rest with
    | '\\' :: 'u' :: rest =>
      let (low, rest) ← hex4? rest
      if 0xDC00 ≤ low ∧ low < 0xE000 then
        some (Char.ofNat (0x10000 + (high - 0xD800) * 0x400 + (low - 0xDC00)), rest)
      else none
    | _ => none
  else if 0xDC00 ≤ high ∧ high < 0xE000 then none
  else some (Char.ofNat high, rest)

/-- The character that an escape writes, after its backslash. -/
def unescape? : Text → Option (Char × Text)
  | [] => none
  | c :: rest =>
    if c = '"' ∨ c = '\\' ∨ c = '/' then some (c, rest)
    else if c = 'b' then some (Char.ofNat 8, rest)
    else if c = 'f' then some (Char.ofNat 12, rest)
    else if c = 'n' then some ('\n', rest)
    else if c = 'r' then some ('\r', rest)
    else if c = 't' then some ('\t', rest)
    else if c = 'u' then unescapeWord? rest
    else none

/-- Four hexadecimal digits are four characters. -/
theorem hex4?_length {text rest : Text} {code : Nat} (read : hex4? text = some (code, rest)) :
    rest.length < text.length := by
  unfold hex4? at read
  split at read
  · simp only [bind, Option.bind] at read
    split at read
    · contradiction
    · simp only [Option.some.injEq, Prod.mk.injEq] at read
      rw [← read.2]
      simp only [List.length_cons]
      omega
  · contradiction

/-- An escaped word takes characters. -/
theorem unescapeWord?_length {text rest : Text} {c : Char}
    (read : unescapeWord? text = some (c, rest)) : rest.length < text.length := by
  simp only [unescapeWord?, bind, Option.bind] at read
  split at read
  · contradiction
  · rename_i first found
    obtain ⟨high, tail⟩ := first
    have short := hex4?_length found
    dsimp only at read
    split at read
    · split at read
      · rename_i more
        split at read
        · contradiction
        · rename_i second next
          obtain ⟨low, last⟩ := second
          have shorter := hex4?_length next
          dsimp only at read
          split at read
          · simp only [Option.some.injEq, Prod.mk.injEq] at read
            rw [← read.2]
            simp only [List.length_cons] at short
            omega
          · contradiction
      · contradiction
    · split at read
      · contradiction
      · simp only [Option.some.injEq, Prod.mk.injEq] at read
        rw [← read.2]
        exact short

/-- An escape takes characters. -/
theorem unescape?_length {text rest : Text} {c : Char}
    (read : unescape? text = some (c, rest)) : rest.length < text.length := by
  cases text with
  | nil => simp [unescape?] at read
  | cons first tail =>
    simp only [unescape?] at read
    repeat' split at read
    all_goals first
      | contradiction
      | (simp only [Option.some.injEq, Prod.mk.injEq] at read
         simp [← read.2])
      | (have shorter := unescapeWord?_length read
         simp only [List.length_cons]
         omega)

/-- The text up to the closing quote, and what follows the quote. Control characters are
refused. -/
def string? : Text → Option (Text × Text)
  | [] => none
  | c :: rest =>
    if c = '"' then some ([], rest)
    else if c = '\\' then
      match _ : unescape? rest with
      | none => none
      | some (x, after) => (string? after).map fun (inner, tail) => (x :: inner, tail)
    else if c.toNat < 0x20 then none
    else (string? rest).map fun (inner, tail) => (c :: inner, tail)
termination_by text => text.length
decreasing_by
  · rename_i found
    have := unescape?_length found
    simp only [List.length_cons]
    omega
  · simp

/-- The greatest word of 64 bits. -/
def maxWord : Nat := Nat.pow 2 64 - 1

/-- Significant digits that fit a word of 64 bits, and a power of ten. -/
structure Scaled where
  /-- The digits that fit. -/
  significand : Nat
  /-- The power of ten of the last of them. -/
  exponent : Int

/-- Take digits before the point; those that no longer fit only raise the power of ten. -/
def Scaled.addWhole : (value : Scaled) → List Nat → Scaled
  | value, [] => value
  | value, d :: rest =>
    if value.significand * 10 + d > maxWord then
      ⟨value.significand, value.exponent + (rest.length + 1)⟩
    else addWhole ⟨value.significand * 10 + d, value.exponent⟩ rest

/-- Take digits after the point; those that no longer fit are dropped. -/
def Scaled.addFraction : (value : Scaled) → List Nat → Scaled
  | value, [] => value
  | value, d :: rest =>
    if value.significand * 10 + d > maxWord then value
    else addFraction ⟨value.significand * 10 + d, value.exponent - 1⟩ rest

/-- Divide by a power of ten, in steps of at most the 308th. -/
def divideTenfold : (steps : Nat) → Binary64 → (power : Nat) → Binary64
  | 0, value, _ => value
  | steps + 1, value, power =>
    if power ≤ 308 then value.div (Binary64.powerOfTen power)
    else if value.isZero then value
    else divideTenfold steps (value.div (Binary64.powerOfTen 308)) (power - 308)

/-- The number of double precision for scaled digits: the digits, rounded, times or divided by
the rounded power of ten, rounded again. There is none beyond the greatest. -/
def Scaled.double? (value : Scaled) : Option Binary64 :=
  let digits := Binary64.ofNat value.significand
  if value.exponent < 0 then some (divideTenfold 4 digits (-value.exponent).toNat)
  else if value.exponent ≤ 308 then
    let product := digits.mul (Binary64.powerOfTen value.exponent.toNat)
    if product.isFinite then some product else none
  else if digits.isZero then some digits
  else none

/-- The number with a sign. -/
def signed (negative : Bool) (value : Binary64) : Binary64 :=
  if negative then value.neg else value

/-- The number that a sign, digits before the point, digits after it and an exponent write. The
exponent is a sign and digits; one that does not fit 31 bits stands for zero or for a number
out of range. -/
def numberOf? (negative : Bool) (whole : List Nat) (fraction? : Option (List Nat))
    (exponent? : Option (Bool × List Nat)) : Option Number :=
  let leading := Scaled.addWhole ⟨0, 0⟩ whole
  match fraction?, exponent? with
  | none, none =>
    if leading.exponent ≠ 0 then (leading.double?).map fun d => .double (signed negative d)
    else if !negative then some (.integer leading.significand)
    else if leading.significand = 0 ∨ leading.significand > Nat.pow 2 63 then
      some (.double (Binary64.ofNat leading.significand).neg)
    else some (.integer (-leading.significand))
  | fraction?, exponent? =>
    let value := leading.addFraction (fraction?.getD [])
    let (down, digits) := exponent?.getD (false, [])
    let power := Text.numeral 10 digits
    if power ≥ Nat.pow 2 31 then
      if value.significand ≠ 0 ∧ !down then none
      else some (.double (signed negative (Binary64.zero false)))
    else
      let exponent := if down then value.exponent - power else value.exponent + power
      (Scaled.double? ⟨value.significand, exponent⟩).map fun d => .double (signed negative d)

/-- The digits at the front, and what follows them. -/
def digits (text : Text) : List Nat × Text :=
  ((text.takeWhile Char.isDigit).filterMap Text.digit?, text.dropWhile Char.isDigit)

/-- The digits after a point, if there is one. -/
def fraction? : Text → Option (Option (List Nat) × Text)
  | '.' :: rest =>
    match digits rest with
    | ([], _) => none
    | (found, after) => some (some found, after)
  | rest => some (none, rest)

/-- Whether an exponent is negative, and what follows its sign. -/
def exponentSign : Text → Bool × Text
  | '+' :: rest => (false, rest)
  | '-' :: rest => (true, rest)
  | rest => (false, rest)

/-- The sign and digits after an `e`, if there is one. -/
def exponent? : Text → Option (Option (Bool × List Nat) × Text)
  | [] => some (none, [])
  | c :: rest =>
    if c = 'e' ∨ c = 'E' then
      match digits (exponentSign rest).2 with
      | ([], _) => none
      | (found, after) => some (some ((exponentSign rest).1, found), after)
    else some (none, c :: rest)

/-- Whether a number is negative, and what follows its sign. -/
def numberSign : Text → Bool × Text
  | '-' :: rest => (true, rest)
  | rest => (false, rest)

/-- The sign of a number and what follows it are no longer than the text. -/
theorem numberSign_length (input : Text) : (numberSign input).2.length ≤ input.length := by
  unfold numberSign
  split <;> simp

/-- The number at the front: no digit before a zero that starts it, no bare point. -/
def number? (input : Text) : Option (Number × Text) :=
  let unsigned := (numberSign input).2
  let whole := (digits unsigned).1
  if whole = [] ∨ (whole.head? = some 0 ∧ whole.length > 1) then none
  else do
    let (fraction, rest) ← fraction? (digits unsigned).2
    let (exponent, rest) ← exponent? rest
    let number ← numberOf? (numberSign input).1 whole fraction exponent
    some (number, rest)

/-- The token at the front of a text that starts with no blank. -/
def token? : Text → Option (Token × Text)
  | [] => none
  | c :: rest =>
    if c = '[' then some (.openArray, rest)
    else if c = ']' then some (.closeArray, rest)
    else if c = '\x7b' then some (.openObject, rest)
    else if c = '\x7d' then some (.closeObject, rest)
    else if c = ',' then some (.comma, rest)
    else if c = ':' then some (.colon, rest)
    else if c = '"' then (string? rest).map fun (value, after) => (Token.text value, after)
    else if c = 'n' then (Text.after? "ull".toList rest).map ((.literal .null, ·))
    else if c = 't' then (Text.after? "rue".toList rest).map ((.literal (.bool true), ·))
    else if c = 'f' then (Text.after? "alse".toList rest).map ((.literal (.bool false), ·))
    else (number? (c :: rest)).map fun (value, after) => (.literal (.number value), after)

/-- What follows a word is no longer than the text. -/
theorem after?_length {word input rest : Text} (read : Text.after? word input = some rest) :
    rest.length ≤ input.length := by
  rw [Text.after?_eq_some_iff.1 read]
  simp

/-- A quoted text takes at least its closing quote. -/
theorem string?_length {input inner rest : Text} (read : string? input = some (inner, rest)) :
    rest.length < input.length := by
  fun_induction string? input generalizing inner rest with
  | case1 => contradiction
  | case2 tail =>
    simp only [Option.some.injEq, Prod.mk.injEq] at read
    simp [← read.2]
  | case3 => contradiction
  | case4 tail x after escaped _ ih =>
    obtain ⟨⟨kept, last⟩, found, same⟩ := Option.map_eq_some_iff.1 read
    have shorter := ih found
    have first := unescape?_length escaped
    simp only [Prod.mk.injEq] at same
    rw [← same.2, List.length_cons]
    omega
  | case5 => contradiction
  | case6 c tail _ _ _ ih =>
    obtain ⟨⟨kept, last⟩, found, same⟩ := Option.map_eq_some_iff.1 read
    have shorter := ih found
    simp only [Prod.mk.injEq] at same
    rw [← same.2, List.length_cons]
    omega

/-- Digits and what follows them are no longer than the text, and digits take characters. -/
theorem digits_length {input rest : Text} {found : List Nat}
    (read : digits input = (found, rest)) :
    rest.length ≤ input.length ∧ (found ≠ [] → rest.length < input.length) := by
  simp only [digits, Prod.mk.injEq] at read
  obtain ⟨rfl, rfl⟩ := read
  have split : (input.takeWhile Char.isDigit ++ input.dropWhile Char.isDigit).length =
      input.length := congrArg List.length List.takeWhile_append_dropWhile
  rw [List.length_append] at split
  refine ⟨by omega, fun some => ?_⟩
  have : (input.takeWhile Char.isDigit).length ≠ 0 := by
    intro none
    exact some (by rw [List.length_eq_zero_iff.1 none]; rfl)
  omega

/-- A fraction leaves no more than there was. -/
theorem fraction?_length {input rest : Text} {found : Option (List Nat)}
    (read : fraction? input = some (found, rest)) : rest.length ≤ input.length := by
  unfold fraction? at read
  split at read
  · split at read
    · contradiction
    · rename_i digitsRead
      have := (digits_length digitsRead).1
      simp only [Option.some.injEq, Prod.mk.injEq] at read
      rw [← read.2, List.length_cons]
      omega
  · simp only [Option.some.injEq, Prod.mk.injEq] at read
    exact Nat.le_of_eq (congrArg List.length read.2.symm)

/-- The sign of an exponent and what follows it are no longer than the text. -/
theorem exponentSign_length (input : Text) : (exponentSign input).2.length ≤ input.length := by
  unfold exponentSign
  split <;> simp

/-- An exponent leaves no more than there was. -/
theorem exponent?_length {input rest : Text} {found : Option (Bool × List Nat)}
    (read : exponent? input = some (found, rest)) : rest.length ≤ input.length := by
  unfold exponent? at read
  split at read
  · simp only [Option.some.injEq, Prod.mk.injEq] at read
    exact Nat.le_of_eq (congrArg List.length read.2.symm)
  · rename_i c tail
    split at read
    · split at read
      · contradiction
      · rename_i digitsRead
        have first := (digits_length digitsRead).1
        have sign := exponentSign_length tail
        simp only [Option.some.injEq, Prod.mk.injEq] at read
        rw [← read.2, List.length_cons]
        omega
    · simp only [Option.some.injEq, Prod.mk.injEq] at read
      exact Nat.le_of_eq (congrArg List.length read.2.symm)

/-- A number takes at least a digit. -/
theorem number?_length {input rest : Text} {value : Number}
    (read : number? input = some (value, rest)) : rest.length < input.length := by
  simp only [number?] at read
  have sign := numberSign_length input
  split at read
  · contradiction
  · rename_i some
    have whole : (digits (numberSign input).2).2.length < (numberSign input).2.length :=
      (digits_length rfl).2 fun none => some (.inl none)
    simp only [bind, Option.bind] at read
    split at read
    · contradiction
    · rename_i fraction fractionRead
      have := fraction?_length fractionRead
      dsimp only at read
      split at read
      · contradiction
      · rename_i exponent exponentRead
        have := exponent?_length exponentRead
        dsimp only at read
        split at read
        · contradiction
        · simp only [Option.some.injEq, Prod.mk.injEq] at read
          rw [← read.2]
          omega

/-- Every token takes at least one character. -/
theorem token?_length {input rest : Text} {token : Token}
    (read : token? input = some (token, rest)) : rest.length < input.length := by
  cases input with
  | nil => contradiction
  | cons c tail =>
    simp only [token?] at read
    repeat' split at read
    all_goals first
      | (simp only [Option.some.injEq, Prod.mk.injEq] at read
         simp [← read.2])
      | (obtain ⟨found, taken, same⟩ := Option.map_eq_some_iff.1 read
         simp only [Prod.mk.injEq] at same
         first
           | (have shorter := string?_length taken
              rw [← same.2, List.length_cons]
              omega)
           | (have shorter := after?_length taken
              rw [← same.2, List.length_cons]
              omega)
           | (have shorter := number?_length taken
              rw [← same.2]
              exact shorter))

/-- The blanks between tokens. -/
def isSpace (c : Char) : Bool := c = ' ' || c = '\n' || c = '\t' || c = '\r'

/-- The tokens of a whole text. -/
def tokens? (input : Text) : Option (List Token) :=
  match _ : input.dropWhile isSpace with
  | [] => some []
  | c :: tail =>
    match _ : token? (c :: tail) with
    | none => none
    | some (token, rest) => (tokens? rest).map (token :: ·)
termination_by input.length
decreasing_by
  rename_i kept found
  have taken := token?_length found
  have blank := (List.dropWhile_suffix isSpace (l := input)).length_le
  rw [kept] at blank
  omega

end Citations.Json
