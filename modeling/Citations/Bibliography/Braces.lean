import Citations.Text.Basic

/-!
# Protective braces

Braces around a word protect its case when a bibliography is typeset; a reader does not want to
see them. A group is a run of opening braces, a text without braces and backslashes, and a run
of closing braces. Groups are replaced by their text until none is left, so a group that only
shows once its inner groups are gone is replaced as well. A group with a backslash writes an
accent and stays.
-/
namespace Citations.Braces

/-- Whether a character may stand in the text of a group. -/
def isInner (c : Char) : Bool := c != '\\' && c != '\x7b' && c != '\x7d'

/-- The text of the group that begins here, and what follows the group. -/
def group? (text : Text) : Option (Text × Text) :=
  let body := text.dropWhile (· = '\x7b')
  let after := body.dropWhile isInner
  if text.head? = some '\x7b' ∧ body.takeWhile isInner ≠ [] ∧ after.head? = some '\x7d' then
    some (body.takeWhile isInner, after.dropWhile (· = '\x7d'))
  else none

/-- What follows a group, together with its text, is shorter than the group and what follows. -/
theorem group?_length {text inner rest : Text} (found : group? text = some (inner, rest)) :
    inner.length + rest.length < text.length := by
  simp only [group?] at found
  split at found
  · rename_i shape
    simp only [Option.some.injEq, Prod.mk.injEq] at found
    obtain ⟨rfl, rfl⟩ := found
    have opened := (List.dropWhile_suffix (· = '\x7b') (l := text)).length_le
    have closed := (List.dropWhile_suffix (· = '\x7d')
      (l := (text.dropWhile (· = '\x7b')).dropWhile isInner)).length_le
    have parted := congrArg List.length
      (List.takeWhile_append_dropWhile (p := isInner) (l := text.dropWhile (· = '\x7b')))
    rw [List.length_append] at parted
    cases text with
    | nil => simp at shape
    | cons c tail =>
      have same : c = '\x7b' := by simpa using shape.1
      subst same
      simp only [decide_true, List.dropWhile_cons_of_pos, List.length_cons] at *
      have := (List.dropWhile_suffix (· = '\x7b') (l := tail)).length_le
      omega
  · contradiction

/-- Replace every group by its text, from left to right and once. -/
def stripOnce : Text → Text
  | [] => []
  | c :: text =>
    match _ : group? (c :: text) with
    | some (inner, rest) => inner ++ stripOnce rest
    | none => c :: stripOnce text
termination_by text => text.length
decreasing_by
  · rename_i found
    have := group?_length found
    omega
  · simp

/-- Replace groups by their text until none is left. Every round that finds one makes the text
shorter. -/
def strip (text : Text) : Text :=
  let next := stripOnce text
  if next.length < text.length then strip next else text
termination_by text.length

end Citations.Braces
