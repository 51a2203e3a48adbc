import Citations.Proofs.Json.Written
import Mathlib.Data.Char
import Mathlib.Data.List.Lex

/-!
# The order of members

The members of an object that is read are in the ascending order of their names, by code point, at
any depth and whatever the order in which they are written (`read?_ordered`). The reader puts every
member where its name belongs; each of its steps keeps the open values in order.
-/
namespace Citations

/-- What every step keeps, some steps keep. -/
theorem kept_of_foldlM {α β : Type} {step? : β → α → Option β} {items : List α} {first last : β}
    (Kept : β → Prop)
    (steps : ∀ item ∈ items, ∀ before after, Kept before → step? before item = some after →
      Kept after)
    (start : Kept first) (moved : items.foldlM step? first = some last) : Kept last := by
  induction items generalizing first with
  | nil =>
    obtain rfl := Option.some.inj moved
    exact start
  | cons item rest ih =>
    rw [List.foldlM_cons] at moved
    obtain ⟨middle, step, remaining⟩ := Option.bind_eq_some_iff.mp moved
    obtain ⟨here, later⟩ := List.forall_mem_cons.mp steps
    exact ih later (here first middle start step) remaining

namespace Json

/-! ## Names -/

/-- A name precedes those that are greater, character by character. -/
theorem precedes_iff {left right : Text} : precedes left right = true ↔ left < right := by
  induction left generalizing right with
  | nil =>
    cases right with
    | nil => simp [precedes]
    | cons b right => simp [precedes]
  | cons a left ih =>
    cases right with
    | nil => simp [precedes]
    | cons b right =>
      rw [precedes, List.cons_lt_cons_iff]
      by_cases same : a = b
      · subst same
        rw [if_pos rfl, ih]
        simp
      · have codes : a.toNat < b.toNat ↔ a < b := Iff.rfl
        rw [if_neg same, decide_eq_true_eq, codes]
        simp [same]

/-- A member that is among the others after one was put there is that one or was there before. -/
theorem mem_setMember {name : Text} {value : Json} {members : List (Text × Json)}
    {member : Text × Json} (listed : member ∈ setMember name value members) :
    member = (name, value) ∨ member ∈ members := by
  induction members with
  | nil => exact Or.inl (List.mem_singleton.mp listed)
  | cons first rest ih =>
    obtain ⟨other, kept⟩ := first
    rw [setMember] at listed
    split at listed
    · rcases List.mem_cons.mp listed with put | inside
      · exact Or.inl put
      · exact Or.inr (List.mem_cons_of_mem _ inside)
    · split at listed
      · exact List.mem_cons.mp listed
      · rcases List.mem_cons.mp listed with rfl | inside
        · exact Or.inr List.mem_cons_self
        · exact (ih inside).imp_right (List.mem_cons_of_mem _)

/-- A member that is put among members in order stands where its name belongs. -/
theorem pairwise_setMember {name : Text} {value : Json} {members : List (Text × Json)}
    (ascending : members.Pairwise (·.1 < ·.1)) :
    (setMember name value members).Pairwise (·.1 < ·.1) := by
  induction members with
  | nil => exact List.pairwise_singleton _ _
  | cons member rest ih =>
    obtain ⟨other, kept⟩ := member
    obtain ⟨least, later⟩ := List.pairwise_cons.mp ascending
    rw [setMember]
    split
    · next same =>
      subst same
      exact List.pairwise_cons.mpr ⟨least, later⟩
    · next differs =>
      split
      · next before =>
        have less : name < other := precedes_iff.mp before
        refine List.pairwise_cons.mpr ⟨fun next listed => ?_, ascending⟩
        rcases List.mem_cons.mp listed with rfl | inside
        · exact less
        · exact lt_trans less (least next inside)
      · next behind =>
        have less : other < name := by
          rcases lt_trichotomy name other with before | same | after
          · exact absurd (precedes_iff.mpr before) behind
          · exact absurd same differs
          · exact after
        refine List.pairwise_cons.mpr ⟨fun next listed => ?_, ih later⟩
        rcases mem_setMember listed with rfl | inside
        · exact less
        · exact least next inside

/-! ## Values -/

mutual

/-- In every object of a value the names ascend. -/
def Ordered : Json → Prop
  | .array items => ItemsOrdered items
  | .object members => members.Pairwise (·.1 < ·.1) ∧ MembersOrdered members
  | _ => True

/-- In every object of the items of an array the names ascend. -/
def ItemsOrdered : List Json → Prop
  | [] => True
  | item :: rest => Ordered item ∧ ItemsOrdered rest

/-- In every object among the members of an object the names ascend. -/
def MembersOrdered : List (Text × Json) → Prop
  | [] => True
  | (_, value) :: rest => Ordered value ∧ MembersOrdered rest

end

/-- The items of an array are in order exactly if each one is. -/
theorem itemsOrdered_iff {items : List Json} :
    ItemsOrdered items ↔ ∀ item ∈ items, Ordered item := by
  induction items with
  | nil => simp [ItemsOrdered]
  | cons item rest ih => rw [ItemsOrdered, ih, List.forall_mem_cons]

/-- The members of an object are in order exactly if each value is. -/
theorem membersOrdered_iff {members : List (Text × Json)} :
    MembersOrdered members ↔ ∀ member ∈ members, Ordered member.2 := by
  induction members with
  | nil => simp [MembersOrdered]
  | cons member rest ih => rw [MembersOrdered, ih, List.forall_mem_cons]

/-! ## Reading -/

/-- An open array or object whose finished parts are in order. -/
def Frame.Ordered : Frame → Prop
  | .array items => ∀ item ∈ items, Json.Ordered item
  | .object members _ =>
    members.Pairwise (·.1 < ·.1) ∧ ∀ member ∈ members, Json.Ordered member.2

/-- A machine whose values are in order, those that are still open and the finished one. -/
structure Machine.Ordered (machine : Machine) : Prop where
  /-- The open values are in order. -/
  frames : ∀ frame ∈ machine.stack, frame.Ordered
  /-- The finished value is in order. -/
  finished : ∀ value, machine.awaiting = .finished value → Json.Ordered value

/-- A literal is a scalar, so there is nothing in it to be out of order. -/
def Token.Ordered (token : Token) : Prop := ∀ value, token = .literal value → Json.Ordered value

section Reading

variable {machine next : Machine} {token : Token} {value : Json} {stack : List Frame}

/-- A machine that awaits more is in order if the open values are. -/
theorem Machine.Ordered.of_frames {awaiting : Awaiting}
    (frames : ∀ frame ∈ stack, frame.Ordered) (more : ∀ value, awaiting ≠ .finished value) :
    Machine.Ordered ⟨stack, awaiting⟩ :=
  ⟨frames, fun value ended => absurd ended (more value)⟩

/-- A value in order is put among values in order. -/
theorem Machine.give_ordered (ordered : Json.Ordered value)
    (frames : ∀ frame ∈ stack, frame.Ordered) : (Machine.give value stack).Ordered := by
  cases stack with
  | nil =>
    refine ⟨frames, fun other ended => ?_⟩
    obtain rfl := Awaiting.finished.inj ended
    exact ordered
  | cons frame outer =>
    obtain ⟨innermost, others⟩ := List.forall_mem_cons.mp frames
    cases frame with
    | array items =>
      have given : Frame.Ordered (.array (value :: items)) :=
        List.forall_mem_cons.mpr ⟨ordered, innermost⟩
      exact .of_frames (List.forall_mem_cons.mpr ⟨given, others⟩) nofun
    | object members name =>
      have given : Frame.Ordered (.object (setMember name value members) name) := by
        refine ⟨pairwise_setMember innermost.1, fun member listed => ?_⟩
        rcases mem_setMember listed with rfl | inside
        · exact ordered
        · exact innermost.2 member inside
      exact .of_frames (List.forall_mem_cons.mpr ⟨given, others⟩) nofun

/-- A value begins in order. -/
theorem Machine.begin?_ordered (ordered : token.Ordered)
    (frames : ∀ frame ∈ stack, frame.Ordered) (begun : begin? stack token = some next) :
    next.Ordered := by
  have entered (frame : Frame) (awaiting : Awaiting) (empty : frame.Ordered)
      (more : ∀ value, awaiting ≠ .finished value)
      (opened : enter? frame awaiting stack = some next) : next.Ordered := by
    rw [enter?] at opened
    split at opened
    · obtain rfl := Option.some.inj opened
      exact .of_frames (List.forall_mem_cons.mpr ⟨empty, frames⟩) more
    · contradiction
  cases token with
  | openArray => exact entered (.array []) .firstItem (List.forall_mem_nil _) nofun begun
  | openObject =>
    exact entered (.object [] []) .firstName ⟨List.Pairwise.nil, List.forall_mem_nil _⟩ nofun begun
  | text value =>
    obtain rfl := Option.some.inj begun
    exact give_ordered trivial frames
  | literal value =>
    obtain rfl := Option.some.inj begun
    exact give_ordered (ordered value rfl) frames
  | closeArray => contradiction
  | closeObject => contradiction
  | comma => contradiction
  | colon => contradiction

/-- Every token leaves a machine in order. -/
theorem Machine.step?_ordered (ordered : machine.Ordered) (plain : token.Ordered)
    (moved : machine.step? token = some next) : next.Ordered := by
  obtain ⟨stack, awaiting⟩ := machine
  have frames : ∀ frame ∈ stack, frame.Ordered := ordered.frames
  dsimp only [step?] at moved
  split at moved
  case h_1 items outer =>
    obtain rfl := Option.some.inj moved
    exact give_ordered trivial (List.forall_mem_cons.mp frames).2
  case h_2 | h_3 => exact begin?_ordered plain frames moved
  case h_4 members name outer =>
    obtain rfl := Option.some.inj moved
    exact give_ordered ⟨List.Pairwise.nil, trivial⟩ (List.forall_mem_cons.mp frames).2
  -- A name takes the place of the one before it; the members stay.
  case h_5 name members last outer | h_6 name members last outer =>
    obtain rfl := Option.some.inj moved
    obtain ⟨innermost, others⟩ := List.forall_mem_cons.mp frames
    exact .of_frames (List.forall_mem_cons.mpr ⟨innermost, others⟩) nofun
  case h_7 | h_8 | h_9 =>
    obtain rfl := Option.some.inj moved
    exact .of_frames frames nofun
  case h_10 items outer =>
    obtain rfl := Option.some.inj moved
    obtain ⟨innermost, others⟩ := List.forall_mem_cons.mp frames
    have finished : Json.Ordered (.array items.reverse) :=
      itemsOrdered_iff.mpr fun item listed => innermost item (List.mem_reverse.mp listed)
    exact give_ordered finished others
  case h_11 members name outer =>
    obtain rfl := Option.some.inj moved
    obtain ⟨innermost, others⟩ := List.forall_mem_cons.mp frames
    have finished : Json.Ordered (.object members) :=
      ⟨innermost.1, membersOrdered_iff.mpr innermost.2⟩
    exact give_ordered finished others
  case h_12 => contradiction

/-- Some tokens leave a machine in order. -/
theorem Machine.foldlM_ordered {tokens : List Token} (plain : ∀ token ∈ tokens, token.Ordered)
    (ordered : machine.Ordered) (moved : tokens.foldlM step? machine = some next) :
    next.Ordered :=
  kept_of_foldlM Machine.Ordered
    (fun token listed _ _ kept step => step?_ordered kept (plain token listed) step) ordered moved

/-- Whatever a token is made of, it is in order if all that are made that way are. -/
theorem Token.Ordered.of_map {α : Type} {made? : Option α} {make : α → Token × Text} {rest : Text}
    (read : made?.map make = some (token, rest)) (plain : ∀ part, (make part).1.Ordered) :
    token.Ordered := by
  obtain ⟨part, -, made⟩ := Option.map_eq_some_iff.mp read
  have ordered := plain part
  rw [made] at ordered
  exact ordered

/-- The literal that a text begins with is a scalar. -/
theorem token?_ordered {input rest : Text} (read : token? input = some (token, rest)) :
    token.Ordered := by
  cases input with
  | nil => contradiction
  | cons c tail =>
    have mark {only : Token} (same : some (only, tail) = some (token, rest))
        (plain : only.Ordered) : token.Ordered := by
      obtain ⟨rfl, -⟩ := Prod.mk.inj (Option.some.inj same)
      exact plain
    have scalar {value : Json} (plain : value.Ordered) : (Token.literal value).Ordered := by
      rintro _ ⟨⟩
      exact plain
    rw [token?] at read
    -- Six marks come first, then a text, three words and a number.
    iterate 6
      obtain ⟨-, read⟩ | ⟨-, read⟩ := ite_eq_iff.mp read
      · exact mark read (by rintro _ ⟨⟩)
    obtain ⟨-, read⟩ | ⟨-, read⟩ := ite_eq_iff.mp read
    · exact .of_map read (by rintro _ _ ⟨⟩)
    iterate 3
      obtain ⟨-, read⟩ | ⟨-, read⟩ := ite_eq_iff.mp read
      · exact .of_map read fun _ => scalar trivial
    exact .of_map read fun _ => scalar trivial

/-- The tokens of a text are in order. -/
theorem tokens?_ordered {input : Text} {tokens : List Token} (read : tokens? input = some tokens) :
    ∀ token ∈ tokens, token.Ordered := by
  fun_induction tokens? input generalizing tokens with
  | case1 input empty =>
    obtain rfl := Option.some.inj read
    exact List.forall_mem_nil _
  | case2 => contradiction
  | case3 input c tail kept first rest taken ih =>
    obtain ⟨others, later, rfl⟩ := Option.map_eq_some_iff.mp read
    exact List.forall_mem_cons.mpr ⟨token?_ordered taken, ih later⟩

/-- In every object of a value that is read the names ascend. -/
theorem read?_ordered {input : Text} (read : read? input = some value) : value.Ordered := by
  unfold read? at read
  obtain ⟨tokens, written, rest⟩ := Option.bind_eq_some_iff.mp read
  obtain ⟨machine, moved, ended⟩ := Option.bind_eq_some_iff.mp rest
  have initial : Machine.Ordered ⟨[], .value⟩ := .of_frames (List.forall_mem_nil _) nofun
  have last := Machine.foldlM_ordered (tokens?_ordered written) initial moved
  split at ended
  · next found finished =>
    obtain rfl := Option.some.inj ended
    exact last.finished found finished
  · contradiction

end Reading

end Json

end Citations
