import Citations.Toml.Value

/-!
# Tables under construction

The lines of a TOML document build up a table. A header opens a table or adds one to a list of
tables; a dotted key goes through tables that it makes on the way. A table has one definition: a
header may define a table that so far was only passed through by headers, a dotted key may add to
one that dotted keys made, and everything else that is there already stands in the way.
-/
namespace Citations.Toml

/-- Where a table comes from. -/
inductive Origin where
  /-- A header of its own. -/
  | header
  /-- A header of a table inside it. -/
  | passedThrough
  /-- A dotted key. -/
  | dottedKey
  deriving DecidableEq, Repr

/-- What a name stands for in a table under construction. -/
inductive Item where
  /-- A value, which is complete. -/
  | value (value : Toml)
  /-- A table. -/
  | table (origin : Origin) (members : List (Text × Item))
  /-- A list of tables, the last one first. -/
  | tables (list : List (List (Text × Item)))

/-- The members of a table under construction. -/
abbrev Members := List (Text × Item)

/-- Change what a name stands for, or give it a meaning. -/
def change? (name : Text) (update : Option Item → Option Item) : Members → Option Members
  | [] => (update none).map fun made => [(name, made)]
  | (other, item) :: rest =>
    if other = name then (update (some item)).map fun made => (other, made) :: rest
    else (change? name update rest).map ((other, item) :: ·)

/-- Give a key a value. The parts before the last one name tables. -/
def assign? (value : Toml) : (key : List Text) → Members → Option Members
  | [], _ => none
  | [name], members =>
    change? name (fun
      | none => some (.value value)
      | some _ => none) members
  | name :: inner, members =>
    change? name (fun
      | none => (assign? value inner []).map (.table .dottedKey)
      | some (.table .dottedKey found) => (assign? value inner found).map (.table .dottedKey)
      | some (.table .passedThrough found) =>
        if inner.length = 1 then none
        else (assign? value inner found).map (.table .passedThrough)
      | some (.tables (last :: earlier)) =>
        if inner.length = 1 then none
        else (assign? value inner last).map fun made => .tables (made :: earlier)
      | _ => none) members

/-- Change the item at a path, making the tables on the way. In a list of tables the way goes
through the last one. -/
def reach? (update : Option Item → Option Item) : (path : List Text) → Members → Option Members
  | [], _ => none
  | [name], members => change? name update members
  | name :: inner, members =>
    change? name (fun
      | none => (reach? update inner []).map (.table .passedThrough)
      | some (.table origin found) => (reach? update inner found).map (.table origin)
      | some (.tables (last :: earlier)) =>
        (reach? update inner last).map fun made => .tables (made :: earlier)
      | _ => none) members

/-- Define a table. -/
def openTable : Option Item → Option Item
  | none => some (.table .header [])
  | some (.table .passedThrough found) => some (.table .header found)
  | _ => none

/-- Add a table to a list of tables. -/
def addTable : Option Item → Option Item
  | none => some (.tables [[]])
  | some (.tables list) => some (.tables ([] :: list))
  | _ => none

/-- Give a key a value in the table that a header defined. -/
def assignWithin (value : Toml) (key : List Text) : Option Item → Option Item
  | some (.table origin found) => (assign? value key found).map (.table origin)
  | some (.tables (last :: earlier)) =>
    (assign? value key last).map fun made => .tables (made :: earlier)
  | _ => none

mutual

/-- The finished value of an item. -/
def Item.toToml : Item → Toml
  | .value value => value
  | .table _ members => .table (finished members)
  | .tables list => .array (finishedTables list).reverse

/-- The finished values of the members of a table. -/
def finished : List (Text × Item) → List (Text × Toml)
  | [] => []
  | (name, item) :: rest => (name, item.toToml) :: finished rest

/-- The finished tables of a list. -/
def finishedTables : List (List (Text × Item)) → List Toml
  | [] => []
  | members :: rest => .table (finished members) :: finishedTables rest

end

/-- A statement of a document. -/
inductive Statement where
  /-- The header of a table. -/
  | tableHeader (path : List Text)
  /-- The header of a table in a list. -/
  | listHeader (path : List Text)
  /-- A key and its value. -/
  | assignment (key : List Text) (value : Toml)

/-- A document under construction. -/
structure Draft where
  /-- The table of the document. -/
  members : Members
  /-- The path of the last header. -/
  path : List Text

/-- One more statement. -/
def Draft.add? (draft : Draft) : Statement → Option Draft
  | .tableHeader path => (reach? openTable path draft.members).map (⟨·, path⟩)
  | .listHeader path => (reach? addTable path draft.members).map (⟨·, path⟩)
  | .assignment key value =>
    if draft.path = [] then (assign? value key draft.members).map (⟨·, []⟩)
    else (reach? (assignWithin value key) draft.path draft.members).map (⟨·, draft.path⟩)

/-- The table that assignments alone build. -/
def tableOf? (assignments : List (List Text × Toml)) : Option Toml :=
  (assignments.foldlM (fun members (key, value) => assign? value key members) []).map fun members =>
    .table (finished members)

end Citations.Toml
