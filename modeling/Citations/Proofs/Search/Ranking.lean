import Citations.Completion.Items
import Citations.Search.Pattern
import Mathlib.Data.List.Basic

/-!
# Searching a list ranks it

A search keeps the items that have a score and puts higher scores first. The sort is stable, so
items with one score stay in the order in which they are listed, and together these facts leave one
possible result only (`Search.Ranks.unique`). Whether an item is found does not depend on the other
items: finding in two lists together interleaves what is found in each of them.
-/
namespace Citations.Search

variable {α : Type}

/-! ## Sorting by a score -/

/-- An item goes in front of those with at most its score. -/
def above (score : α → Nat) (left right : α) : Bool := score right ≤ score left

/-- No item has a higher score than one in front of it. -/
def Descends (score : α → Nat) (items : List α) : Prop :=
  items.Pairwise fun earlier later => above score earlier later = true

section Sorting

variable {score : α → Nat} {left right rest : List α} {first item : α}

/-- Being above is transitive. -/
theorem above_trans (first second third : α) (upper : above score first second = true)
    (lower : above score second third = true) : above score first third = true := by
  have high : score second ≤ score first := of_decide_eq_true upper
  have low : score third ≤ score second := of_decide_eq_true lower
  exact decide_eq_true (Nat.le_trans low high)

/-- Of two items one is above the other. -/
theorem above_total (first second : α) :
    (above score first second || above score second first) = true := by
  have either : score second ≤ score first ∨ score first ≤ score second := Nat.le_total _ _
  simpa [above] using either

/-- Sorted items descend. -/
theorem descends_mergeSort (score : α → Nat) (items : List α) :
    Descends score (items.mergeSort (above score)) :=
  List.pairwise_mergeSort above_trans above_total items

/-- The first of descending items has the highest score. -/
theorem Descends.le_head (descends : Descends score (first :: rest))
    (listed : item ∈ first :: rest) : score item ≤ score first := by
  rcases List.mem_cons.mp listed with rfl | inside
  · exact Nat.le_refl _
  · exact of_decide_eq_true ((List.pairwise_cons.mp descends).1 item inside)

/-- Sorting keeps the order of the items with one score. -/
theorem filter_mergeSort (score : α → Nat) (items : List α) (value : Nat) :
    (items.mergeSort (above score)).filter (score · = value) =
      items.filter (score · = value) := by
  have level : Descends score (items.filter (score · = value)) := by
    apply List.pairwise_of_forall_mem_list
    intro first isFirst second isSecond
    have high : score first = value := of_decide_eq_true (List.mem_filter.mp isFirst).2
    have low : score second = value := of_decide_eq_true (List.mem_filter.mp isSecond).2
    exact decide_eq_true (by omega)
  have kept : (items.filter (score · = value)).Sublist (items.mergeSort (above score)) :=
    List.sublist_mergeSort above_trans above_total level List.filter_sublist
  have again : (items.filter (score · = value)).Sublist
      ((items.mergeSort (above score)).filter (score · = value)) := by
    simpa using kept.filter (score · = value)
  have sizes : ((items.mergeSort (above score)).filter (score · = value)).length =
      (items.filter (score · = value)).length :=
    ((List.mergeSort_perm items (above score)).filter _).length_eq
  exact (again.eq_of_length sizes.symm).symm

/-- Merging keeps the order of the items with one score, those of the first list in front. -/
theorem filter_merge (descends : Descends score left) (value : Nat) :
    (left.merge right (above score)).filter (score · = value) =
      left.filter (score · = value) ++ right.filter (score · = value) := by
  induction left generalizing right with
  | nil => rw [List.nil_merge, List.filter_nil, List.nil_append]
  | cons first rest ih =>
    have later : Descends score rest := (List.pairwise_cons.mp descends).2
    induction right with
    | nil => rw [List.merge_right, List.filter_nil, List.append_nil]
    | cons next more inner =>
      rw [List.cons_merge_cons]
      by_cases upper : above score first next = true
      · rw [if_pos upper, List.filter_cons, ih later, List.filter_cons (x := first)]
        split <;> rfl
      · rw [if_neg upper, List.filter_cons, inner, List.filter_cons (x := next)]
        by_cases here : score next = value
        · -- All of the first list is below `next`, so none of it has this score.
          have apart : ¬ score next ≤ score first := fun most => upper (decide_eq_true most)
          have absent : (first :: rest).filter (score · = value) = [] := by
            apply List.filter_eq_nil_iff.mpr
            intro item listed same
            have most := descends.le_head listed
            have equal : score item = value := of_decide_eq_true same
            omega
          rw [absent, List.nil_append, List.nil_append]
        · simp only [here, decide_false, Bool.false_eq_true, ↓reduceIte]

/-- Lists that agree on the items with each score have the same items. -/
theorem mem_iff_of_filter_eq
    (same : ∀ value, left.filter (score · = value) = right.filter (score · = value)) (item : α) :
    item ∈ left ↔ item ∈ right := by
  have inside : item ∈ left.filter (score · = score item) ↔
      item ∈ right.filter (score · = score item) := by rw [same]
  simpa using inside

/-- Descending items are determined by the items with each score. -/
theorem eq_of_filter_eq (descends : Descends score left) (others : Descends score right)
    (same : ∀ value, left.filter (score · = value) = right.filter (score · = value)) :
    left = right := by
  have listed := mem_iff_of_filter_eq same
  induction left generalizing right with
  | nil =>
    cases right with
    | nil => rfl
    | cons next more => exact absurd ((listed next).mpr List.mem_cons_self) List.not_mem_nil
  | cons first rest ih =>
    cases right with
    | nil => exact absurd ((listed first).mp List.mem_cons_self) List.not_mem_nil
    | cons next more =>
      have least := others.le_head ((listed first).mp List.mem_cons_self)
      have most := descends.le_head ((listed next).mpr List.mem_cons_self)
      have level : score next = score first := Nat.le_antisymm most least
      have heads := same (score first)
      rw [List.filter_cons_of_pos (by simp), List.filter_cons_of_pos (by simp [level])] at heads
      obtain ⟨rfl, -⟩ := List.cons.inj heads
      have tails : ∀ value, rest.filter (score · = value) = more.filter (score · = value) := by
        intro value
        have whole := same value
        rw [List.filter_cons, List.filter_cons] at whole
        split at whole
        · exact (List.cons.inj whole).2
        · exact whole
      have equal : rest = more := ih (List.pairwise_cons.mp descends).2
        (List.pairwise_cons.mp others).2 tails (mem_iff_of_filter_eq tails)
      rw [equal]

/-- Sorting two lists together merges them sorted. -/
theorem mergeSort_append (score : α → Nat) (left right : List α) :
    (left ++ right).mergeSort (above score) =
      (left.mergeSort (above score)).merge (right.mergeSort (above score)) (above score) := by
  have merged : Descends score
      ((left.mergeSort (above score)).merge (right.mergeSort (above score)) (above score)) :=
    List.pairwise_merge above_trans above_total _ _ (descends_mergeSort score left)
      (descends_mergeSort score right)
  apply eq_of_filter_eq (descends_mergeSort score _) merged
  intro value
  rw [filter_merge (descends_mergeSort score left), filter_mergeSort, filter_mergeSort,
    filter_mergeSort, List.filter_append]

end Sorting

/-! ## Two lists in one -/

/-- A list that is made of two lists, the items of each in their order. -/
inductive Interleaved : (left right whole : List α) → Prop
  /-- There is nothing in either list. -/
  | nil : Interleaved [] [] []
  /-- The next item is the next one of the first list. -/
  | left {item : α} {left right whole : List α} :
    Interleaved left right whole → Interleaved (item :: left) right (item :: whole)
  /-- The next item is the next one of the second list. -/
  | right {item : α} {left right whole : List α} :
    Interleaved left right whole → Interleaved left (item :: right) (item :: whole)

/-- A list is made of itself and nothing. -/
theorem Interleaved.alone (items : List α) : Interleaved items [] items := by
  induction items with
  | nil => exact .nil
  | cons item rest ih => exact .left ih

/-- Merging two lists interleaves them. -/
theorem interleaved_merge (le : α → α → Bool) (left right : List α) :
    Interleaved left right (left.merge right le) := by
  induction left generalizing right with
  | nil =>
    rw [List.nil_merge]
    induction right with
    | nil => exact .nil
    | cons next more inner => exact .right inner
  | cons first rest ih =>
    induction right with
    | nil =>
      rw [List.merge_right]
      exact .alone _
    | cons next more inner =>
      rw [List.cons_merge_cons]
      by_cases upper : le first next = true
      · rw [if_pos upper]
        exact .left (ih _)
      · rw [if_neg upper]
        exact .right inner

/-! ## Ranking -/

/-- The items that have a score, ranked. -/
structure Ranks (score? : α → Option Nat) (items result : List α) : Prop where
  /-- The result has the items with a score, each as often as it is listed. -/
  kept : result.Perm (items.filter fun item => (score? item).isSome)
  /-- No item has a higher score than one in front of it. -/
  ordered : result.Pairwise fun earlier later => ∀ high low,
    score? earlier = some high → score? later = some low → low ≤ high
  /-- Items with one score are in the order in which they are listed. -/
  stable : ∀ score, result.filter (score? · = some score) = items.filter (score? · = some score)

section Ranking

variable {score? : α → Option Nat} {items result other : List α}

/-- The score of an item, for those that have one. -/
def scoreOrZero (score? : α → Option Nat) (item : α) : Nat := (score? item).getD 0

/-- Among items that have a score, those with a score are chosen by it. -/
theorem filter_scoreOrZero (scored : ∀ item ∈ items, (score? item).isSome = true) (value : Nat) :
    items.filter (scoreOrZero score? · = value) = items.filter (score? · = some value) := by
  apply List.filter_congr
  intro item listed
  obtain ⟨score, found⟩ := Option.isSome_iff_exists.mp (scored item listed)
  simp [scoreOrZero, found]

/-- Ranking sorts the items that have a score. -/
theorem ranked_eq (score? : α → Option Nat) (items : List α) :
    ranked score? items = (items.filter fun item => (score? item).isSome).mergeSort
      (above (scoreOrZero score?)) := by
  have scores : ∀ pair ∈ items.filterMap fun item => (score? item).map (·, item),
      scoreOrZero score? pair.2 = pair.1 := by
    intro pair listed
    obtain ⟨item, -, made⟩ := List.mem_filterMap.mp listed
    obtain ⟨score, found, rfl⟩ := Option.map_eq_some_iff.mp made
    rw [scoreOrZero, found, Option.getD_some]
  have names (items : List α) :
      (items.filterMap fun item => (score? item).map (·, item)).map (·.2) =
        items.filter fun item => (score? item).isSome := by
    induction items with
    | nil => rfl
    | cons item rest ih => cases found : score? item <;> simp [found, ih]
  rw [ranked, ← names]
  apply List.map_mergeSort
  intro first isFirst second isSecond
  rw [above, scores first isFirst, scores second isSecond]

/-- Ranked items have a score. -/
theorem Ranks.scored (ranks : Ranks score? items result) :
    ∀ item ∈ result, (score? item).isSome = true := fun _ listed =>
  (List.mem_filter.mp (ranks.kept.mem_iff.mp listed)).2

/-- Ranked items descend. -/
theorem Ranks.descends (ranks : Ranks score? items result) :
    Descends (scoreOrZero score?) result := by
  apply ranks.ordered.imp_of_mem
  intro earlier later isEarlier isLater ordered
  obtain ⟨high, isHigh⟩ := Option.isSome_iff_exists.mp (ranks.scored earlier isEarlier)
  obtain ⟨low, isLow⟩ := Option.isSome_iff_exists.mp (ranks.scored later isLater)
  apply decide_eq_true
  rw [scoreOrZero, scoreOrZero, isHigh, isLow]
  exact ordered high low isHigh isLow

/-- Ranking ranks. -/
theorem ranks_ranked (score? : α → Option Nat) (items : List α) :
    Ranks score? items (ranked score? items) := by
  have scored : ∀ item ∈ items.filter fun item => (score? item).isSome,
      (score? item).isSome = true := fun item listed => (List.mem_filter.mp listed).2
  rw [ranked_eq]
  constructor
  case kept => exact List.mergeSort_perm _ _
  case ordered =>
    apply (descends_mergeSort (scoreOrZero score?) _).imp
    intro earlier later upper high low isHigh isLow
    have most : scoreOrZero score? later ≤ scoreOrZero score? earlier := of_decide_eq_true upper
    rwa [scoreOrZero, scoreOrZero, isHigh, isLow] at most
  case stable =>
    intro score
    rw [← filter_scoreOrZero fun item listed => scored item (List.mem_mergeSort.mp listed),
      filter_mergeSort, filter_scoreOrZero scored, List.filter_filter]
    apply List.filter_congr
    intro item _
    by_cases found : score? item = some score <;> simp [found]

/-- Items are ranked in one way only. -/
theorem Ranks.unique (first : Ranks score? items result) (second : Ranks score? items other) :
    result = other := by
  apply eq_of_filter_eq first.descends second.descends
  intro value
  rw [filter_scoreOrZero first.scored, filter_scoreOrZero second.scored, first.stable,
    second.stable]

/-- Ranking two lists together interleaves their rankings. -/
theorem interleaved_ranked (score? : α → Option Nat) (items others : List α) :
    Interleaved (ranked score? items) (ranked score? others) (ranked score? (items ++ others)) := by
  rw [ranked_eq, ranked_eq, ranked_eq, List.filter_append, mergeSort_append]
  exact interleaved_merge _ _ _

/-- Items with one score for all of them stay as they are. -/
theorem ranked_level (score : Nat) (items : List α) :
    ranked (fun _ => some score) items = items := by
  have ranks : Ranks (fun _ => some score) items items := by
    constructor
    case kept => simp
    case ordered =>
      apply List.pairwise_of_forall
      intro _ _ high low isHigh isLow
      exact Nat.le_of_eq (Option.some.inj (isLow.symm.trans isHigh))
    case stable => exact fun _ => rfl
  exact (ranks_ranked _ items).unique ranks

end Ranking

/-! ## Browsing -/

/-- The score of an item of a list for browsing. A blank query matches everything alike. -/
def browsingScore? (query : Text) (item : BrowserItem) : Option Nat :=
  if Text.isBlankText query then some 0 else scoreAll? (atoms query) (.ofText item.searched)

/-- A search ranks the items by their scores. -/
theorem search_eq_ranked (items : List BrowserItem) (query : Text) :
    search BrowserItem.searched items query = ranked (browsingScore? query) items := by
  by_cases blank : Text.isBlankText query = true
  · have level : browsingScore? query = fun _ => some 0 := funext fun _ => if_pos blank
    rw [search, if_pos blank, level, ranked_level]
  · have scores : browsingScore? query = fun item =>
        scoreAll? (atoms query) (.ofText item.searched) := funext fun _ => if_neg blank
    rw [search, if_neg blank, scores]

/-- Searching a list for browsing ranks the items that have a score, and nothing else does. With a
blank query it gives all items as they are listed. Whether an item is found depends on that item and
the query only, and what is found in two lists together is what is found in each of them,
interleaved. -/
theorem search_ranks (items : List BrowserItem) (query : Text) :
    (∀ result, Ranks (browsingScore? query) items result ↔
      result = search BrowserItem.searched items query) ∧
    (Text.isBlankText query = true → search BrowserItem.searched items query = items) ∧
    (∀ item ∈ items, item ∈ search BrowserItem.searched items query ↔
      (browsingScore? query item).isSome = true) ∧
    ∀ others, Interleaved (search BrowserItem.searched items query)
      (search BrowserItem.searched others query)
      (search BrowserItem.searched (items ++ others) query) := by
  have ranks : Ranks (browsingScore? query) items (search BrowserItem.searched items query) := by
    rw [search_eq_ranked]
    exact ranks_ranked _ _
  refine ⟨fun result => ⟨fun other => other.unique ranks, ?_⟩, fun blank => if_pos blank, ?_, ?_⟩
  · rintro rfl
    exact ranks
  · intro item listed
    rw [ranks.kept.mem_iff, List.mem_filter, and_iff_right listed]
  · intro others
    rw [search_eq_ranked, search_eq_ranked, search_eq_ranked]
    exact interleaved_ranked _ _ _

/-- A blank query gives everything, and a query gives an item that has a score for it. -/
theorem search_ranks_zebra :
    let dogs : BrowserItem := ⟨"Dogs Today".toList, "doe2021".toList, "Nature".toList⟩
    let zebra : BrowserItem := ⟨"Zebra Stripes".toList, "zed1999".toList, "Fur".toList⟩
    let found := search BrowserItem.searched [dogs, zebra]
    Text.isBlankText [' '] = true ∧ found [' '] = [dogs, zebra] ∧ zebra ∈ [dogs, zebra] ∧
      (browsingScore? "zebra".toList zebra).isSome = true ∧ zebra ∈ found "zebra".toList := by
  intro dogs zebra found
  have blank : Text.isBlankText [' '] = true := by decide
  have listed : zebra ∈ [dogs, zebra] := by simp
  have scored : (browsingScore? "zebra".toList zebra).isSome = true := by decide +kernel
  have everything : found [' '] = [dogs, zebra] := (search_ranks [dogs, zebra] [' ']).2.1 blank
  have inside : zebra ∈ found "zebra".toList :=
    ((search_ranks [dogs, zebra] "zebra".toList).2.2.1 zebra listed).mpr scored
  exact ⟨blank, everything, listed, scored, inside⟩

end Citations.Search
