import Citations.Bibliography.Braces
import Citations.Proofs.Text.Search
import Mathlib.Data.List.Chain
import Mathlib.Data.List.TakeWhile

/-!
# What stripping leaves

Stripping replaces a group by its text and takes the whole run of braces on either side with it.
The two runs need not be equally long, so a round may take more braces on one side than on the
other, and pairing up braces does not protect a text from a stray one. What decides the outcome
is whether the runs pair up, each counted as one brace: a group takes one run of each kind, and
no two runs ever become one because the text between them stays.
-/
namespace Citations.Braces

variable {text inner rest before after : Text} {depth : Nat} {c : Char}

/-- Whether a character is a brace. -/
def isBrace (c : Char) : Bool := c = '\x7b' || c = '\x7d'

/-- A text without its braces. -/
def unbraced (text : Text) : Text := text.filter (!isBrace ·)

/-- The nesting depth after a text that begins at a depth, unless it falls below zero. -/
def nesting? (depth : Nat) : Text → Option Nat
  | [] => some depth
  | c :: rest =>
    if c = '\x7b' then nesting? (depth + 1) rest
    else if c = '\x7d' then if depth = 0 then none else nesting? (depth - 1) rest
    else nesting? depth rest

/-- Every brace has its counterpart. -/
def Paired (text : Text) : Prop := nesting? 0 text = some 0

instance (text : Text) : Decidable (Paired text) := inferInstanceAs (Decidable (_ = _))

/-- A text with one brace in place of each run of the same brace. -/
def single : Text → Text
  | [] => []
  | c :: rest => if isBrace c ∧ rest.head? = some c then single rest else c :: single rest

/-- No group is empty, even once its inner braces are removed: no opening brace stands right
before a closing one. -/
def Filled (text : Text) : Prop := text.IsChain fun c next => ¬ (c = '\x7b' ∧ next = '\x7d')

instance (text : Text) : Decidable (Filled text) := inferInstanceAs (Decidable (List.IsChain _ _))

/-! ## Depth -/

/-- The depth after two texts. -/
theorem nesting?_append (depth : Nat) (text more : Text) :
    nesting? depth (text ++ more) = (nesting? depth text).bind (nesting? · more) := by
  induction text generalizing depth with
  | nil => rfl
  | cons c rest ih =>
    rw [List.cons_append, nesting?, nesting?]
    split
    · exact ih _
    · split
      · split
        · rfl
        · exact ih _
      · exact ih depth

/-- A text without braces keeps the depth. -/
theorem nesting?_plain (plain : ∀ c ∈ text, isBrace c = false) (depth : Nat) (more : Text) :
    nesting? depth (text ++ more) = nesting? depth more := by
  induction text with
  | nil => rfl
  | cons c rest ih =>
    have unbraced : c ≠ '\x7b' ∧ c ≠ '\x7d' := by
      simpa [isBrace] using plain c List.mem_cons_self
    rw [List.cons_append, nesting?, if_neg unbraced.1, if_neg unbraced.2]
    exact ih fun x listed => plain x (List.mem_cons_of_mem c listed)

/-- A pair of braces around a text without braces keeps the depth. -/
theorem nesting?_pair (plain : ∀ c ∈ inner, isBrace c = false) (depth : Nat) (more : Text) :
    nesting? depth ('\x7b' :: (inner ++ '\x7d' :: more)) = nesting? depth (inner ++ more) := by
  rw [nesting?, if_pos rfl, nesting?_plain plain, nesting?_plain plain, nesting?,
    if_neg (by decide), if_pos rfl, if_neg (Nat.succ_ne_zero depth), Nat.add_sub_cancel]

/-- The depth grows by the opening braces and falls by the closing ones. -/
theorem nesting?_count {last : Nat} (reached : nesting? depth text = some last) :
    last + text.count '\x7d' = depth + text.count '\x7b' := by
  induction text generalizing depth with
  | nil =>
    obtain rfl := Option.some.inj reached
    rfl
  | cons c rest ih =>
    rw [nesting?] at reached
    split at reached
    · next opens =>
      have later := ih reached
      rw [opens, List.count_cons_self, List.count_cons_of_ne (by decide)]
      omega
    · next opens =>
      split at reached
      · next closes =>
        split at reached
        · contradiction
        · have later := ih reached
          rw [closes, List.count_cons_self, List.count_cons_of_ne (by decide)]
          omega
      · next closes =>
        rw [List.count_cons_of_ne opens, List.count_cons_of_ne closes]
        exact ih reached

/-! ## Runs -/

/-- The same characters occur when runs are made single. -/
theorem mem_single : c ∈ single text ↔ c ∈ text := by
  induction text with
  | nil => rfl
  | cons d rest ih =>
    rw [single]
    split
    · next run =>
      rw [ih, List.mem_cons]
      refine ⟨Or.inr, fun listed => listed.elim ?_ id⟩
      rintro rfl
      exact List.mem_of_mem_head? run.2
    · rw [List.mem_cons, List.mem_cons, ih]

/-- Two texts are made single on their own where no run goes on from one to the other. -/
theorem single_append (apart : ∀ c ∈ text.getLast?, isBrace c = true → rest.head? ≠ some c) :
    single (text ++ rest) = single text ++ single rest := by
  induction text with
  | nil => rfl
  | cons c tail ih =>
    cases tail with
    | nil =>
      have ends : ¬ (isBrace c = true ∧ rest.head? = some c) := fun run => apart c rfl run.1 run.2
      have alone : ¬ (isBrace c = true ∧ ([] : Text).head? = some c) := by simp
      rw [List.singleton_append, single, if_neg ends, single, if_neg alone]
      rfl
    | cons d tail =>
      have later := ih apart
      rw [List.cons_append, single, single, List.cons_append, List.head?_cons, List.head?_cons]
      rw [List.cons_append] at later
      split
      · exact later
      · rw [later, List.cons_append]

/-- Text without braces has no runs. -/
theorem single_plain (plain : ∀ c ∈ text, isBrace c = false) (more : Text) :
    single (text ++ more) = text ++ single more := by
  induction text with
  | nil => rfl
  | cons c rest ih =>
    have unbraced : ¬ (isBrace c = true ∧ (rest ++ more).head? = some c) := by
      simp [plain c List.mem_cons_self]
    rw [List.cons_append, single, if_neg unbraced,
      ih fun x listed => plain x (List.mem_cons_of_mem c listed), List.cons_append]

/-- A run becomes one brace. -/
theorem single_run (brace : isBrace c = true) (ended : rest.head? ≠ some c) (length : Nat) :
    single (List.replicate (length + 1) c ++ rest) = c :: single rest := by
  induction length with
  | zero =>
    rw [List.replicate_one, List.singleton_append, single, if_neg fun run => ended run.2]
  | succ length ih =>
    have goesOn : isBrace c = true ∧ (List.replicate (length + 1) c ++ rest).head? = some c :=
      ⟨brace, rfl⟩
    rw [List.replicate_succ, List.cons_append, single, if_pos goesOn, ih]

/-! ## Groups -/

/-- The text of a group has no braces. -/
theorem isBrace_of_isInner (plain : isInner c = true) : isBrace c = false := by
  simp only [isInner, Bool.and_eq_true, bne_iff_ne] at plain
  simp [isBrace, plain]

/-- Characters that are all taken to be one are a run of it. -/
theorem takeWhile_eq_replicate (c : Char) (text : Text) :
    text.takeWhile (· = c) = List.replicate (text.takeWhile (· = c)).length c :=
  List.eq_replicate_of_mem fun _ taken => by simpa using List.mem_takeWhile_imp taken

/-- A group is a run of opening braces, its text and a run of closing braces. -/
theorem group?_eq_some (found : group? text = some (inner, rest)) :
    ∃ opens closes, text = List.replicate (opens + 1) '\x7b' ++
        (inner ++ (List.replicate (closes + 1) '\x7d' ++ rest)) ∧
      inner ≠ [] ∧ (∀ c ∈ inner, isInner c = true) ∧ rest.head? ≠ some '\x7d' := by
  simp only [group?] at found
  split at found
  · next shape =>
    simp only [Option.some.injEq, Prod.mk.injEq] at found
    obtain ⟨rfl, rfl⟩ := found
    obtain ⟨opened, nonempty, closed⟩ := shape
    have run {c : Char} {text : Text} (begins : text.head? = some c) :
        ∃ length, text = List.replicate (length + 1) c ++ text.dropWhile (· = c) := by
      obtain ⟨tail, rfl⟩ := List.head?_eq_some_iff.mp begins
      refine ⟨(tail.takeWhile (· = c)).length, ?_⟩
      conv_lhs => rw [← List.takeWhile_append_dropWhile (p := (· = c)) (l := tail),
        takeWhile_eq_replicate c tail]
      simp [List.replicate_succ]
    obtain ⟨opens, first⟩ := run opened
    obtain ⟨closes, last⟩ := run closed
    refine ⟨opens, closes, ?_, nonempty, fun c listed => List.mem_takeWhile_imp listed, ?_⟩
    · rw [← last, List.takeWhile_append_dropWhile]
      exact first
    · intro goesOn
      have stopped := List.head?_dropWhile_not (· = '\x7d')
        ((text.dropWhile (· = '\x7b')).dropWhile isInner)
      rw [goesOn] at stopped
      simp at stopped
  · contradiction

/-- What holds of a text and of what replacing groups makes of it. -/
structure Reduces (before after : Text) : Prop where
  /-- Only braces are taken. -/
  kept : unbraced after = unbraced before
  /-- The runs come to the same depth. -/
  nesting : nesting? 0 (single after) = nesting? 0 (single before)
  /-- No group is emptied. -/
  filled : Filled before → Filled after

/-- A text reduces to itself. -/
theorem Reduces.refl (text : Text) : Reduces text text := ⟨rfl, rfl, id⟩

/-- Reducing can go on. -/
theorem Reduces.trans (first : Reduces text before) (second : Reduces before after) :
    Reduces text after where
  kept := second.kept.trans first.kept
  nesting := second.nesting.trans first.nesting
  filled := second.filled ∘ first.filled

/-- A text reduces by any of its groups. -/
theorem reduces_group (opens closes : Nat) (nonempty : inner ≠ [])
    (plain : ∀ c ∈ inner, isInner c = true) (fresh : before.getLast? ≠ some '\x7b')
    (ended : rest.head? ≠ some '\x7d') :
    Reduces (before ++ (List.replicate (opens + 1) '\x7b' ++
      (inner ++ (List.replicate (closes + 1) '\x7d' ++ rest)))) (before ++ (inner ++ rest)) := by
  have bare : ∀ c ∈ inner, isBrace c = false := fun c listed => isBrace_of_isInner (plain c listed)
  obtain ⟨first, tail, rfl⟩ := List.exists_cons_of_ne_nil nonempty
  have firstBare : isBrace first = false := bare first List.mem_cons_self
  constructor
  · have braces (c : Char) (brace : isBrace c = true) (length : Nat) :
        unbraced (List.replicate length c) = [] := by
      simp [unbraced, brace]
    simp only [unbraced, List.filter_append] at braces ⊢
    rw [braces _ (by decide), braces _ (by decide), List.nil_append, List.nil_append]
  · have wrapped : single (before ++ (List.replicate (opens + 1) '\x7b' ++
        (first :: tail ++ (List.replicate (closes + 1) '\x7d' ++ rest)))) =
          single before ++ '\x7b' :: (first :: tail ++ '\x7d' :: single rest) := by
      rw [single_append, single_run (by decide), single_plain bare, single_run (by decide) ended]
      · rintro begins
        obtain rfl := Option.some.inj begins
        exact absurd firstBare (by decide)
      · intro c last brace begins
        obtain rfl := Option.some.inj begins
        exact fresh last
    have opened : single (before ++ (first :: tail ++ rest)) =
        single before ++ (first :: tail ++ single rest) := by
      rw [single_append, single_plain bare]
      intro c _ brace begins
      obtain rfl := Option.some.inj begins
      rw [firstBare] at brace
      contradiction
    rw [wrapped, opened, nesting?_append, nesting?_append]
    simp only [nesting?_pair bare]
  · intro filled
    have part {part : Text} (inside : part <:+: before ++ (List.replicate (opens + 1) '\x7b' ++
        (first :: tail ++ (List.replicate (closes + 1) '\x7d' ++ rest)))) : Filled part :=
      List.IsChain.infix filled inside
    have text : Filled (first :: tail) :=
      part ⟨before ++ List.replicate (opens + 1) '\x7b', List.replicate (closes + 1) '\x7d' ++ rest,
        by simp⟩
    have last : Filled rest :=
      part ⟨before ++ (List.replicate (opens + 1) '\x7b' ++
        (first :: tail ++ List.replicate (closes + 1) '\x7d')), [], by simp⟩
    refine List.isChain_append.mpr
      ⟨part ⟨[], _, rfl⟩, List.isChain_append.mpr ⟨text, last, ?_⟩, ?_⟩
    · rintro c last next - ⟨rfl, -⟩
      exact absurd (bare _ (List.mem_of_mem_getLast? last)) (by decide)
    · rintro c - next begins ⟨-, rfl⟩
      obtain rfl := Option.some.inj begins
      exact absurd firstBare (by decide)

/-- What begins after the first of a run of braces is a group only if the run begins one. -/
theorem group?_tail (missing : group? ('\x7b' :: text) = none) : group? text = none := by
  by_cases opens : text.head? = some '\x7b'
  · simpa [group?, opens] using missing
  · exact if_neg fun shape => opens shape.1

/-- A round reduces a text, with other text in front of it. The text in front must not cut a
run of braces that begins a group. -/
theorem reduces_stripOnce (text before : Text)
    (fresh : before.getLast? = some '\x7b' → group? text = none) :
    Reduces (before ++ text) (before ++ stripOnce text) := by
  fun_induction stripOnce text generalizing before with
  | case1 => exact Reduces.refl _
  | case2 c text inner rest found ih =>
    obtain ⟨opens, closes, shape, nonempty, plain, ended⟩ := group?_eq_some found
    have apart : before.getLast? ≠ some '\x7b' := by
      intro last
      rw [fresh last] at found
      contradiction
    have inside : (before ++ inner).getLast? ≠ some '\x7b' := by
      rw [List.getLast?_append_of_ne_nil _ nonempty]
      intro last
      exact absurd (plain _ (List.mem_of_mem_getLast? last)) (by decide)
    have later := ih (before ++ inner) fun last => absurd last inside
    rw [List.append_assoc, List.append_assoc] at later
    rw [shape]
    exact (reduces_group opens closes nonempty plain apart ended).trans later
  | case3 c text missing ih =>
    have later := ih (before ++ [c]) fun last => by
      obtain rfl : c = '\x7b' := by simpa using last
      exact group?_tail missing
    simpa using later

/-- Stripping reduces a text. -/
theorem reduces_strip (text : Text) : Reduces text (strip text) := by
  have round (text : Text) : Reduces text (stripOnce text) :=
    reduces_stripOnce text [] fun last => by contradiction
  fun_induction strip text with
  | case1 text next shorter ih => exact (round text).trans ih
  | case2 text next settled => exact Reduces.refl text

/-! ## What is left -/

/-- No group begins anywhere in a text. -/
def Settled (text : Text) : Prop := ∀ rest, rest <:+ text → group? rest = none

/-- A round that takes nothing finds no group. -/
theorem settled_of_stripOnce (text : Text) :
    (stripOnce text).length ≤ text.length ∧
      ((stripOnce text).length = text.length → Settled text) := by
  fun_induction stripOnce text with
  | case1 =>
    refine ⟨Nat.le_refl 0, fun _ rest suffix => ?_⟩
    obtain rfl := List.suffix_nil.mp suffix
    rfl
  | case2 c text inner rest found ih =>
    have shorter := group?_length found
    rw [List.length_append]
    exact ⟨by omega, fun same => absurd same (by omega)⟩
  | case3 c text missing ih =>
    refine ⟨Nat.succ_le_succ ih.1, fun same rest suffix => ?_⟩
    rcases List.suffix_cons_iff.mp suffix with rfl | later
    · exact missing
    · exact ih.2 (Nat.succ.inj same) rest later

/-- Stripping leaves no group. -/
theorem settled_strip (text : Text) : Settled (strip text) := by
  fun_induction strip text with
  | case1 text next shorter ih => exact ih
  | case2 text next settled =>
    have round := settled_of_stripOnce text
    exact round.2 (Nat.le_antisymm round.1 (Nat.le_of_not_lt settled))

/-- A text between an opening and a closing brace makes a group. -/
theorem group?_closed (nonempty : inner ≠ []) (plain : ∀ c ∈ inner, isInner c = true)
    (rest : Text) : group? ('\x7b' :: (inner ++ '\x7d' :: rest)) ≠ none := by
  have stops : ∀ c ∈ ('\x7d' :: rest).head?, isInner c = false := by simp [isInner]
  obtain ⟨taken, left⟩ := Text.takeWhile_append_of_stops plain stops
  have body : ('\x7b' :: (inner ++ '\x7d' :: rest)).dropWhile (· = '\x7b') =
      inner ++ '\x7d' :: rest := by
    obtain ⟨c, tail, rfl⟩ := List.exists_cons_of_ne_nil nonempty
    have other : ¬ decide (c = '\x7b') = true := by
      rw [decide_eq_true_eq]
      rintro rfl
      exact absurd (plain _ List.mem_cons_self) (by decide)
    rw [List.dropWhile_cons_of_pos (by decide)]
    exact List.dropWhile_cons_of_neg other
  simp [group?, body, taken, left, nonempty]

/-- Where no group is left, no brace closes after one that opens. -/
theorem Settled.unclosed {text rest : Text} (settled : Settled text) (shown : '\\' ∉ text)
    (filled : Filled text) (suffix : '\x7b' :: rest <:+ text) : '\x7d' ∉ rest := by
  induction length : rest.length using Nat.strong_induction_on generalizing rest with
  | _ size ih =>
    subst length
    have hidden : ∀ c ∈ rest, c ≠ '\\' := by
      rintro c listed rfl
      exact shown (suffix.subset (List.mem_cons_of_mem _ listed))
    have parts := List.takeWhile_append_dropWhile (p := isInner) (l := rest)
    have bare : '\x7d' ∉ rest.takeWhile isInner := fun listed =>
      absurd (List.mem_takeWhile_imp listed : isInner '\x7d' = true) (by decide)
    cases later : rest.dropWhile isInner with
    | nil =>
      rw [later, List.append_nil] at parts
      rwa [← parts]
    | cons c tail =>
      rw [later] at parts
      have stopped : isInner c = false := by
        have first := List.head?_dropWhile_not isInner rest
        rw [later] at first
        simpa using first
      have listed : c ∈ rest := by
        rw [← parts]
        simp
      -- What follows the text after the brace is another opening brace: a closing one would make
      -- a group of the text, or an empty group.
      have opens : c = '\x7b' := by
        by_contra other
        obtain rfl : c = '\x7d' := by
          simpa [isInner, hidden c listed, other] using stopped
        cases text : rest.takeWhile isInner with
        | nil =>
          rw [text, List.nil_append] at parts
          have pair : Filled ['\x7b', '\x7d'] :=
            List.IsChain.infix filled
              (List.IsInfix.trans ⟨[], tail, by rw [← parts]; rfl⟩ suffix.isInfix)
          exact absurd pair (by decide)
        | cons d inner =>
          have plain : ∀ c ∈ d :: inner, isInner c = true := fun c listed =>
            List.mem_takeWhile_imp (text ▸ listed)
          have group := settled _ suffix
          rw [← parts, text] at group
          exact group?_closed (List.cons_ne_nil d inner) plain tail group
      subst opens
      have deeper : '\x7d' ∉ tail := by
        refine ih tail.length ?_ (List.IsSuffix.trans ⟨'\x7b' :: rest.takeWhile isInner, ?_⟩ suffix)
          rfl
        · rw [← parts]
          simp
          omega
        · rw [List.cons_append, parts]
      rw [← parts]
      simp [bare, deeper]

/-- Where no group is left, all closing braces come before all opening braces. -/
theorem Settled.strays (settled : Settled text) (shown : '\\' ∉ text) (filled : Filled text) :
    ∃ before after, text = before ++ after ∧ '\x7b' ∉ before ∧ '\x7d' ∉ after := by
  refine ⟨text.takeWhile (· ≠ '\x7b'), text.dropWhile (· ≠ '\x7b'),
    List.takeWhile_append_dropWhile.symm, fun listed => ?_, ?_⟩
  · simpa using List.mem_takeWhile_imp listed
  · cases opened : text.dropWhile (· ≠ '\x7b') with
    | nil => exact List.not_mem_nil
    | cons c rest =>
      have stopped := List.head?_dropWhile_not (· ≠ '\x7b') text
      rw [opened] at stopped
      obtain rfl : c = '\x7b' := by simpa using stopped
      have suffix : '\x7b' :: rest <:+ text := opened ▸ List.dropWhile_suffix _
      have unclosed := settled.unclosed shown filled suffix
      simp [unclosed]

/-- Where all closing braces come before all opening braces and the runs pair up there is no
brace. -/
theorem plain_of_paired (unopened : '\x7b' ∉ before) (unclosed : '\x7d' ∉ after)
    (paired : Paired (single (before ++ after))) : ∀ c ∈ before ++ after, isBrace c = false := by
  have apart : ∀ c ∈ before.getLast?, isBrace c = true → after.head? ≠ some c := by
    intro c last brace begins
    have closes : c ≠ '\x7d' := fun same => unclosed (same ▸ List.mem_of_mem_head? begins)
    have opens : c ≠ '\x7b' := fun same => unopened (same ▸ List.mem_of_mem_getLast? last)
    simp [isBrace, opens, closes] at brace
  rw [Paired, single_append apart, nesting?_append] at paired
  obtain ⟨depth, beforeDepth, afterDepth⟩ := Option.bind_eq_some_iff.mp paired
  have beforeCount := nesting?_count beforeDepth
  have afterCount := nesting?_count afterDepth
  rw [List.count_eq_zero.mpr (mt mem_single.mp unopened)] at beforeCount
  rw [List.count_eq_zero.mpr (mt mem_single.mp unclosed)] at afterCount
  have noCloser : '\x7d' ∉ before := fun listed =>
    absurd (List.count_pos_iff.mpr (mem_single.mpr listed)) (by omega)
  have noOpener : '\x7b' ∉ after := fun listed =>
    absurd (List.count_pos_iff.mpr (mem_single.mpr listed)) (by omega)
  intro c listed
  have closes : c ≠ '\x7d' := by
    rintro rfl
    exact (List.mem_append.mp listed).elim noCloser unclosed
  have opens : c ≠ '\x7b' := by
    rintro rfl
    exact (List.mem_append.mp listed).elim unopened noOpener
  simp [isBrace, opens, closes]

/-- Stripping takes braces and nothing else, and the braces it leaves are strays: those that
close come before those that open. It leaves none exactly when the runs of braces pair up, each
counted as one brace, which is more than that the braces do. -/
theorem strip_exact (shown : '\\' ∉ text) (filled : Filled text) :
    unbraced (strip text) = unbraced text ∧
    (∃ before after, strip text = before ++ after ∧ '\x7b' ∉ before ∧ '\x7d' ∉ after) ∧
    (strip text = unbraced text ↔ Paired (single text)) := by
  have reduces := reduces_strip text
  have hidden : '\\' ∉ strip text := by
    intro listed
    have kept : '\\' ∈ unbraced (strip text) := List.mem_filter.mpr ⟨listed, by decide⟩
    rw [reduces.kept] at kept
    exact shown (List.mem_filter.mp kept).1
  have strays := (settled_strip text).strays hidden (reduces.filled filled)
  refine ⟨reduces.kept, strays, fun stripped => ?_, fun paired => ?_⟩
  · have plain : ∀ c ∈ strip text, isBrace c = false := by
      intro c listed
      rw [stripped] at listed
      simpa using (List.mem_filter.mp listed).2
    rw [Paired, ← reduces.nesting]
    have depth := nesting?_plain plain 0 []
    have alone := single_plain plain []
    rw [List.append_nil] at depth alone
    rw [alone, single, List.append_nil]
    exact depth
  · obtain ⟨before, after, split, unopened, unclosed⟩ := strays
    have left : Paired (single (before ++ after)) := by
      rw [← split, Paired, reduces.nesting]
      exact paired
    have plain := plain_of_paired unopened unclosed left
    rw [← reduces.kept, split]
    exact (List.filter_eq_self.mpr fun c listed => by simp [plain c listed]).symm

/-- A doubly protected title that begins with a protected word, beside another group. -/
theorem strip_exact_title :
    let title := "\x7b\x7bNASA\x7d \x7bmission\x7d\x7d".toList
    '\\' ∉ title ∧ Filled title ∧ Paired (single title) ∧
      strip title = "NASA mission".toList := by
  intro title
  have shown : '\\' ∉ title := by decide
  have filled : Filled title := by decide
  have paired : Paired (single title) := by decide
  exact ⟨shown, filled, paired, (strip_exact shown filled).2.2.mpr paired⟩

/-- A group whose text begins with an inner group loses its opening brace with the inner one and
keeps its closing brace, although its braces pair up. -/
theorem strip_leaves_stray :
    let title := "\x7b\x7bNASA\x7d mission\x7d".toList
    '\\' ∉ title ∧ Filled title ∧ Paired title ∧ unbraced title = "NASA mission".toList ∧
      strip title = "NASA mission\x7d".toList := by
  decide +kernel

end Citations.Braces
