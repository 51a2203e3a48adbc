import Citations.Bibliography.Entry
import Citations.Notice

/-!
# Loaded entries

The store has one slot for each loaded source, in the order in which the sources were first
loaded. The entries of a slot are only ever replaced as a whole, so the list of all entries
keeps its order when a source is read again.
-/
namespace Citations

/-- A loaded source and its entries. -/
structure Slot where
  /-- The source. -/
  path : Path
  /-- Its entries in their order. -/
  entries : List Entry
  deriving DecidableEq, Repr

/-- The slots in the order of their first loading. -/
structure Store where
  /-- The slots. -/
  slots : List Slot
  deriving DecidableEq, Repr

namespace Store

/-- The store without slots. -/
def empty : Store := ⟨[]⟩

/-- Give a source its entries, in its slot or in a new last one. -/
def upsertSlot (path : Path) (entries : List Entry) : List Slot → List Slot
  | [] => [⟨path, entries⟩]
  | slot :: rest =>
    if Path.Same slot.path path then ⟨slot.path, entries⟩ :: rest
    else slot :: upsertSlot path entries rest

/-- Replace the entries of a source. -/
def upsert (store : Store) (path : Path) (entries : List Entry) : Store :=
  ⟨upsertSlot path entries store.slots⟩

/-- The sources in order. -/
def sources (store : Store) : List Path := store.slots.map (·.path)

/-- Whether a source has a slot. -/
def holds (store : Store) (path : Path) : Bool :=
  store.slots.any fun slot => Path.Same slot.path path

/-- Drop the slot of a source. -/
def evict (store : Store) (path : Path) : Store :=
  ⟨store.slots.filter fun slot => !decide (Path.Same slot.path path)⟩

/-- All entries, source by source. -/
def entries (store : Store) : List Entry := store.slots.flatMap (·.entries)

/-- The entries of a source that has a slot. -/
def entriesOf? (store : Store) (path : Path) : Option (List Entry) :=
  (store.slots.find? fun slot => Path.Same slot.path path).map (·.entries)

/-- The first entry with a key, looked for source by source. -/
def find? (store : Store) (key : Text) : Option Entry :=
  store.slots.findSome? fun slot => slot.entries.find? (·.key = key)

/-- Whether no slot has an entry. -/
def isEmpty (store : Store) : Bool := store.slots.all (·.entries.isEmpty)

/-- Keys, each with the number of entries that have it, in the order of first occurrence. -/
abbrev Tally := List (Text × Nat)

/-- Count one more entry with a key. -/
def Tally.add (key : Text) : Tally → Tally
  | [] => [(key, 1)]
  | (other, count) :: rest =>
    if other = key then (other, count + 1) :: rest else (other, count) :: add key rest

/-- The number of entries that have each key. -/
def tally (entries : List Entry) : Tally :=
  entries.foldl (fun counted entry => Tally.add entry.key counted) []

/-- The keys that more than one entry has, by first occurrence. -/
def repeatedKeys (entries : List Entry) : List Text :=
  ((tally entries).filter fun counted => 1 < counted.2).map (·.1)

/-- What listing all entries reports: the repeated keys, if there are any. -/
def notices (store : Store) : List Notice :=
  match repeatedKeys store.entries with
  | [] => []
  | keys => [.duplicateKeys keys]

end Store

end Citations
