import Citations.Bibliography.Record
import Citations.Proofs.Bibliography.Stripping
import Citations.Proofs.Text.Words
import Mathlib.Logic.Function.Iterate

/-!
# How a value reads

Stripping a text goes round by round until one changes nothing, and loses nothing but braces. What
it leaves has no group, so that stripping it again changes nothing, and neither does collapsing its
white space make a group: it would have been there before. So a value of one part reads the same
once it has been read. The parts of a longer value are stripped before they are put together, and
what they read as may have a group across them.
-/
namespace Citations

namespace Braces

variable {text rest : Text} {c : Char}

/-- Somewhere in a text stands something in braces that has neither braces nor backslashes. -/
def Grouped (text : Text) : Prop :=
  ∃ inner, inner ≠ [] ∧ (∀ c ∈ inner, isInner c = true) ∧ '\x7b' :: (inner ++ ['\x7d']) <:+: text

/-! ## Rounds -/

/-- A round takes characters out of a text. -/
theorem stripOnce_sublist (text : Text) : (stripOnce text).Sublist text := by
  fun_induction stripOnce text with
  | case1 => exact List.Sublist.refl _
  | case2 c text inner rest found ih =>
    obtain ⟨opens, closes, shape, -⟩ := group?_eq_some found
    rw [shape]
    exact ((ih.trans (List.sublist_append_right ..)).append_left inner).trans
      (List.sublist_append_right ..)
  | case3 c text missing ih => exact ih.cons_cons c

/-- Stripping takes characters out of a text. -/
theorem strip_sublist (text : Text) : (strip text).Sublist text := by
  fun_induction strip text with
  | case1 text next shorter ih => exact ih.trans (stripOnce_sublist text)
  | case2 text next ended => exact List.Sublist.refl _

/-- Stripping goes round by round, up to the first one that changes nothing. -/
theorem strip_rounds (text : Text) :
    ∃ rounds, (∀ round < rounds, stripOnce^[round + 1] text ≠ stripOnce^[round] text) ∧
      stripOnce^[rounds + 1] text = stripOnce^[rounds] text ∧
        strip text = stripOnce^[rounds] text := by
  fun_induction strip text with
  | case1 text next shorter ih =>
    obtain ⟨rounds, changing, last, same⟩ := ih
    refine ⟨rounds + 1, fun round earlier => ?_, last, same⟩
    cases round with
    | zero => exact fun unchanged => absurd (congrArg List.length unchanged) (Nat.ne_of_lt shorter)
    | succ round => exact changing round (Nat.lt_of_succ_lt_succ earlier)
  | case2 text next ended =>
    refine ⟨0, fun _ earlier => absurd earlier (Nat.not_lt_zero _), ?_, rfl⟩
    exact (stripOnce_sublist text).eq_of_length_le (Nat.le_of_not_lt ended)

/-! ## Groups -/

/-- No group begins anywhere in a text that has none. -/
theorem settled_iff : Settled text ↔ ¬ Grouped text := by
  constructor
  · rintro settled ⟨inner, nonempty, plain, before, after, rfl⟩
    refine group?_closed nonempty plain after (settled _ ⟨before, ?_⟩)
    simp
  · intro groupless rest suffix
    by_contra found
    obtain ⟨⟨inner, after⟩, found⟩ := Option.ne_none_iff_exists'.mp found
    obtain ⟨opens, closes, shape, nonempty, plain, -⟩ := group?_eq_some found
    have group : '\x7b' :: (inner ++ ['\x7d']) <:+: rest := by
      refine ⟨List.replicate opens '\x7b', List.replicate closes '\x7d' ++ after, ?_⟩
      rw [shape, List.replicate_succ', List.replicate_succ]
      simp
    exact groupless ⟨inner, nonempty, plain, group.trans suffix.isInfix⟩

/-- A text without groups is left alone. -/
theorem strip_of_groupless (groupless : ¬ Grouped text) : strip text = text := by
  have round {text : Text} (settled : Settled text) : stripOnce text = text := by
    induction text with
    | nil => simp [stripOnce]
    | cons c rest ih =>
      have later := ih fun other suffix => settled other (suffix.trans (List.suffix_cons c rest))
      rw [stripOnce]
      split
      · next found => simp [settled _ (List.suffix_refl _)] at found
      · rw [later]
  rw [strip, round (settled_iff.mpr groupless)]
  simp

/-- Text that may stand in braces goes on to a closing brace. -/
def Closes (text : Text) : Prop := (text.dropWhile isInner).head? = some '\x7d'

/-- Such text may be longer in front. -/
theorem closes_cons_inner (inner : isInner c = true) : Closes (c :: rest) ↔ Closes rest := by
  rw [Closes, List.dropWhile_cons_of_pos inner, Closes]

/-- A character that may not stand in braces has to be the closing brace. -/
theorem closes_cons_outer (outer : isInner c = false) : Closes (c :: rest) ↔ c = '\x7d' := by
  rw [Closes, List.dropWhile_cons_of_neg (by simp [outer]), List.head?_cons, Option.some.injEq]

/-- A text begins with a group, or has one after its first character. -/
theorem grouped_cons : Grouped (c :: rest) ↔
    (c = '\x7b' ∧ (∃ d ∈ rest.head?, isInner d = true) ∧ Closes rest) ∨ Grouped rest := by
  constructor
  · rintro ⟨inner, nonempty, plain, group⟩
    rcases List.infix_cons_iff.mp group with ⟨after, begins⟩ | later
    · simp only [List.cons_append, List.append_assoc, List.nil_append, List.cons.injEq] at begins
      obtain ⟨rfl, rfl⟩ := begins
      have stops : ∀ c ∈ ('\x7d' :: after).head?, isInner c = false := by simp [isInner]
      obtain ⟨d, inner, rfl⟩ := List.exists_cons_of_ne_nil nonempty
      refine Or.inl ⟨rfl, ⟨d, rfl, plain d List.mem_cons_self⟩, ?_⟩
      rw [Closes, (Text.takeWhile_append_of_stops plain stops).2, List.head?_cons]
    · exact Or.inr ⟨inner, nonempty, plain, later⟩
  · rintro (⟨rfl, ⟨d, begins, first⟩, closes⟩ | ⟨inner, nonempty, plain, group⟩)
    · obtain ⟨tail, rfl⟩ := List.head?_eq_some_iff.mp begins
      obtain ⟨after, closed⟩ := List.head?_eq_some_iff.mp closes
      refine ⟨(d :: tail).takeWhile isInner, ?_, fun x listed => List.mem_takeWhile_imp listed,
        [], after, ?_⟩
      · rw [List.takeWhile_cons_of_pos first]
        exact List.cons_ne_nil _ _
      · conv_rhs => rw [← List.takeWhile_append_dropWhile (p := isInner) (l := d :: tail), closed]
        simp
    · exact ⟨inner, nonempty, plain, group.trans (List.suffix_cons c rest).isInfix⟩

/-! ## White space -/

/-- White space may stand in braces. -/
theorem isInner_of_isBlank (blank : Text.isBlank c = true) : isInner c = true := by
  have other {d : Char} (inked : Text.isBlank d = false) : c ≠ d := by
    rintro rfl
    simp [blank] at inked
  simp [isInner, other (d := '\\') (by decide), other (d := '\x7b') (by decide),
    other (d := '\x7d') (by decide)]

/-- Text goes on to a closing brace however its white space is collapsed. -/
theorem closes_collapse : Closes (Text.collapse text) ↔ Closes text := by
  induction text with
  | nil => rfl
  | cons c rest ih =>
    cases kind : Text.isBlank c with
    | true =>
      rw [Text.collapse_cons_blank kind, ih, closes_cons_inner (isInner_of_isBlank kind)]
    | false =>
      cases inner : isInner c with
      | true =>
        rcases Text.collapse_cons_inked kind rest with same | ⟨same, -⟩
        · rw [same, closes_cons_inner inner, closes_cons_inner inner, ih]
        · rw [same, closes_cons_inner inner, closes_cons_inner (by decide), closes_cons_inner inner,
            ih]
      | false =>
        rcases Text.collapse_cons_inked kind rest with same | ⟨same, -⟩
        · rw [same, closes_cons_outer inner, closes_cons_outer inner]
        · rw [same, closes_cons_outer inner, closes_cons_outer inner]

/-- Collapsing white space makes no group. -/
theorem grouped_of_collapse (grouped : Grouped (Text.collapse text)) : Grouped text := by
  induction text with
  | nil => exact grouped
  | cons c rest ih =>
    rw [grouped_cons]
    cases kind : Text.isBlank c with
    | true =>
      rw [Text.collapse_cons_blank kind] at grouped
      exact Or.inr (ih grouped)
    | false =>
      rcases Text.collapse_cons_inked kind rest with same | ⟨same, -, d, begins, blank⟩
      · rw [same, grouped_cons, closes_collapse] at grouped
        rcases grouped with ⟨opens, ⟨d, begins, first⟩, closes⟩ | later
        · refine Or.inl ⟨opens, ?_, closes⟩
          cases rest with
          | nil => contradiction
          | cons e tail =>
            refine ⟨e, rfl, ?_⟩
            by_contra outer
            -- The text would begin with the closing brace, and so would the collapsed one.
            rw [Bool.not_eq_true] at outer
            obtain rfl := (closes_cons_outer outer).mp closes
            have kept : (Text.collapse ('\x7d' :: tail)).head? = some '\x7d' := by
              rcases Text.collapse_cons_inked (c := '\x7d') (by decide) tail with same | ⟨same, -⟩ <;>
                rw [same, List.head?_cons]
            obtain rfl := Option.some.inj (begins.symm.trans kept)
            simp [first] at outer
        · exact Or.inr (ih later)
      · rw [same, grouped_cons, closes_cons_inner (by decide), closes_collapse] at grouped
        rcases grouped with ⟨opens, -, closes⟩ | later
        · exact Or.inl ⟨opens, ⟨d, begins, isInner_of_isBlank blank⟩, closes⟩
        · exact Or.inr (ih ((grouped_cons.mp later).resolve_left fun here =>
            absurd here.1 (by decide)))

/-- What is stripped and collapsed has no group. -/
theorem groupless_collapse_strip (text : Text) : ¬ Grouped (Text.collapse (strip text)) :=
  fun grouped => settled_iff.mp (settled_strip text) (grouped_of_collapse grouped)

end Braces

namespace Record

open Braces

/-- A value of one part is stripped and its white space collapsed. -/
theorem rendered_singleton (part : Text) : rendered [part] = Text.collapse (strip part) := rfl

/-- What a value reads as has its white space collapsed. -/
theorem collapse_rendered (parts : List Text) : Text.collapse (rendered parts) = rendered parts :=
  congrArg (Text.join [' ']) (Text.words_collapse _)

/-- What a value reads as stands for itself exactly if it has no group. -/
theorem rendered_rendered_iff (parts : List Text) :
    rendered [rendered parts] = rendered parts ↔ ¬ Grouped (rendered parts) := by
  rw [rendered_singleton]
  constructor
  · intro same
    rw [← same]
    exact groupless_collapse_strip _
  · intro groupless
    rw [strip_of_groupless groupless, collapse_rendered]

/-- What a value of one part reads as has no group. -/
theorem groupless_rendered_singleton (part : Text) : ¬ Grouped (rendered [part]) :=
  groupless_collapse_strip part

/-- Stripping takes braces out of a text and nothing else. It goes round by round, ends, and leaves
no group; a text without one it leaves alone. So a value of one part that has been read reads the
same again, and so does a longer value unless it has a group across its parts. White space is
between words only, one space each time, and no line ends. -/
theorem rendered_normal (text : Text) (parts : List Text) :
    (∃ rounds, (∀ round < rounds, stripOnce^[round + 1] text ≠ stripOnce^[round] text) ∧
      stripOnce^[rounds + 1] text = stripOnce^[rounds] text ∧
      strip text = stripOnce^[rounds] text) ∧
    ((strip text).Sublist text ∧ unbraced (strip text) = unbraced text) ∧
    ¬ Grouped (strip text) ∧ strip (strip text) = strip text ∧
    (¬ Grouped text → strip text = text) ∧
    rendered [rendered [text]] = rendered [text] ∧
    (rendered [rendered parts] = rendered parts ↔ ¬ Grouped (rendered parts)) ∧
    Text.Spaced (rendered parts) ∧ ∀ c ∈ rendered parts, Text.isBreak c = false := by
  have groupless := settled_iff.mp (settled_strip text)
  have spaced : Text.Spaced (rendered parts) := Text.spaced_collapse _
  refine ⟨strip_rounds text, ⟨strip_sublist text, (reduces_strip text).kept⟩, groupless,
    strip_of_groupless groupless, strip_of_groupless, ?_, rendered_rendered_iff parts, spaced, ?_⟩
  · exact (rendered_rendered_iff [text]).mpr (groupless_rendered_singleton text)
  · intro c listed
    by_contra ends
    obtain rfl := spaced.plain c listed (Text.isBlank_of_isBreak (by simpa using ends))
    exact ends (by decide)

/-- Neither of two parts has a group, and what the value reads as has one: a definition that is
written so stands for something else than the same value does where it is written. -/
theorem rendered_across :
    let value := "\x7b\\\x7b\x7d # \"x\x7d\"".toList
    let source := "@string\x7bs = ".toList ++ value ++ "\x7d @misc\x7bk, title = ".toList ++ value ++
      ", note = s\x7d".toList
    value? [] value = some (["\\\x7b".toList, "x\x7d".toList], []) ∧
    rendered ["\\\x7b".toList, "x\x7d".toList] = "\\\x7b x\x7d".toList ∧
    rendered ["\\\x7b x\x7d".toList] = "\\ x".toList ∧
    (readSource source).records.map (·.value? "title".toList) = [some "\\\x7b x\x7d".toList] ∧
    (readSource source).records.map (·.value? "note".toList) = [some "\\ x".toList] := by
  decide +kernel

end Record

end Citations
