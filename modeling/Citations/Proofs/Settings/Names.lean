import Citations.Proofs.Json.Order
import Citations.Settings.Layer

/-!
# The names in settings files

In a settings file a name stands once, whatever its format. Statements of a TOML document change
what one name stands for or give a new name a meaning; the members of a JSON object are in the
ascending order of their names.
-/
namespace Citations

namespace Toml

variable {name : Text} {members after : Members} {update : Option Item → Option Item}
  {value : Toml} {key path : List Text}

/-- A change keeps the names there are, and adds at most the one it is made to. -/
theorem names_of_change? (changed : change? name update members = some after) :
    after.map Prod.fst = members.map Prod.fst ∨
      name ∉ members.map Prod.fst ∧ after.map Prod.fst = members.map Prod.fst ++ [name] := by
  induction members generalizing after with
  | nil =>
    obtain ⟨made, -, rfl⟩ := Option.map_eq_some_iff.mp changed
    exact .inr ⟨List.not_mem_nil, rfl⟩
  | cons member rest ih =>
    obtain ⟨other, item⟩ := member
    rw [change?] at changed
    split at changed
    · obtain ⟨made, -, rfl⟩ := Option.map_eq_some_iff.mp changed
      exact .inl rfl
    · next apart =>
      obtain ⟨later, made, rfl⟩ := Option.map_eq_some_iff.mp changed
      rcases ih made with same | ⟨fresh, more⟩
      · exact .inl (congrArg (other :: ·) same)
      · refine .inr ⟨?_, congrArg (other :: ·) more⟩
        rw [List.map_cons, List.mem_cons, not_or]
        exact ⟨Ne.symm apart, fresh⟩

/-- Names that are distinct stay so when one is changed. -/
theorem distinct_of_change? (distinct : (members.map Prod.fst).Nodup)
    (changed : change? name update members = some after) : (after.map Prod.fst).Nodup := by
  rcases names_of_change? changed with same | ⟨fresh, more⟩
  · rwa [same]
  · rw [more, ← List.concat_eq_append]
    exact distinct.concat fresh

/-- Names that are distinct stay so when a key is given a value. -/
theorem distinct_of_assign? (distinct : (members.map Prod.fst).Nodup)
    (assigned : assign? value key members = some after) : (after.map Prod.fst).Nodup := by
  match key with
  | [] => contradiction
  | [name] => exact distinct_of_change? distinct assigned
  | name :: _ :: _ => exact distinct_of_change? distinct assigned

/-- Names that are distinct stay so when the item at a path is changed. -/
theorem distinct_of_reach? (distinct : (members.map Prod.fst).Nodup)
    (reached : reach? update path members = some after) : (after.map Prod.fst).Nodup := by
  match path with
  | [] => contradiction
  | [name] => exact distinct_of_change? distinct reached
  | name :: _ :: _ => exact distinct_of_change? distinct reached

/-- Names that are distinct stay so with every statement. -/
theorem Draft.distinct_of_add? {draft next : Draft} {statement : Statement}
    (distinct : (draft.members.map Prod.fst).Nodup) (added : draft.add? statement = some next) :
    (next.members.map Prod.fst).Nodup := by
  cases statement with
  | tableHeader path =>
    obtain ⟨members, reached, rfl⟩ := Option.map_eq_some_iff.mp added
    exact distinct_of_reach? distinct reached
  | listHeader path =>
    obtain ⟨members, reached, rfl⟩ := Option.map_eq_some_iff.mp added
    exact distinct_of_reach? distinct reached
  | assignment key value =>
    rw [Draft.add?] at added
    split at added
    · obtain ⟨members, assigned, rfl⟩ := Option.map_eq_some_iff.mp added
      exact distinct_of_assign? distinct assigned
    · obtain ⟨members, reached, rfl⟩ := Option.map_eq_some_iff.mp added
      exact distinct_of_reach? distinct reached

/-- A finished table has the names of the table under construction. -/
theorem names_finished (members : Members) :
    (finished members).map Prod.fst = members.map Prod.fst := by
  induction members with
  | nil => rfl
  | cons member rest ih =>
    rw [finished, List.map_cons, List.map_cons, ih]

/-- A name stands once in a TOML document. -/
theorem distinct_of_read? {text : Text} {found : List (Text × Toml)}
    (read : read? text = some found) : (found.map Prod.fst).Nodup := by
  unfold read? at read
  obtain ⟨-, refused⟩ | ⟨-, read⟩ := ite_eq_iff.mp read
  · contradiction
  · obtain ⟨draft, built, made⟩ := Option.bind_eq_some_iff.mp read
    obtain rfl := Option.some.inj made
    have initial : ((⟨[], []⟩ : Draft).members.map Prod.fst).Nodup := List.nodup_nil
    rw [names_finished]
    exact kept_of_foldlM (fun draft : Draft => (draft.members.map Prod.fst).Nodup)
      (fun _ _ _ _ => Draft.distinct_of_add?) initial built

end Toml

namespace Settings

/-- The members of a TOML table keep their names. -/
theorem Value.names_ofTomlMembers (members : List (Text × Toml)) :
    (Value.ofTomlMembers members).map Prod.fst = members.map Prod.fst := by
  induction members with
  | nil => rfl
  | cons member rest ih =>
    rw [Value.ofTomlMembers, List.map_cons, List.map_cons, ih]

/-- The members of a JSON object keep their names. -/
theorem Value.names_ofJsonMembers (members : List (Text × Json)) :
    (Value.ofJsonMembers members).map Prod.fst = members.map Prod.fst := by
  induction members with
  | nil => rfl
  | cons member rest ih =>
    rw [Value.ofJsonMembers, List.map_cons, List.map_cons, ih]

/-- A name stands once in a settings file. -/
theorem distinct_of_layer? {reader : SettingsReader} {format : SettingsFormat} {content : Text}
    {members : Members} (read : layer? reader format content = some members) :
    (members.map Prod.fst).Nodup := by
  cases format with
  | toml =>
    obtain ⟨found, document, rfl⟩ := Option.map_eq_some_iff.mp read
    rw [Value.names_ofTomlMembers]
    exact Toml.distinct_of_read? document
  | json =>
    rw [layer?] at read
    split at read
    · next found document =>
      obtain rfl := Option.some.inj read
      rw [Value.names_ofJsonMembers]
      have ascending : found.Pairwise (·.1 < ·.1) := (Json.read?_ordered document).1
      exact List.pairwise_map.mpr (ascending.imp ne_of_lt)
    · contradiction
  | json5 => exact reader.distinct read
  | yaml => exact reader.distinct read
  | ini => exact reader.distinct read
  | ron => exact reader.distinct read

end Settings

end Citations
