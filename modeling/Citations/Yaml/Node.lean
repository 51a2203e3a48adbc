import Citations.Yaml.Token

/-!
# YAML nodes

The tokens of a text make up a document: a tree of scalars, sequences and mappings. A node may
carry a tag and an anchor, and an alias stands for an anchored node. Anchors are known by
numbers: an anchor's number is how many different names the text has given before it, and an
alias refers to the number that its name had last. Where a name is given twice, two nodes may
come to share a number; the later node then stands for it.
-/
namespace Citations.Yaml

/-- A node of a document. -/
inductive Node where
  /-- The node with an anchor of this number. -/
  | alias (anchor : Nat)
  /-- A scalar, plain or not. -/
  | scalar (anchor? : Option Nat) (tag? : Option Text) (isPlain : Bool) (value : Text)
  /-- Nodes in order. -/
  | sequence (anchor? : Option Nat) (tag? : Option Text) (items : List Node)
  /-- Pairs of a key and a value. -/
  | mapping (anchor? : Option Nat) (tag? : Option Text) (pairs : List (Node × Node))

/-- The scalar that stands where a node is left out. -/
def Node.omitted : Node := .scalar none none true []

/-- What is left of the tokens, and the anchor names so far, latest first. -/
structure Supply where
  /-- The tokens not yet used. -/
  tokens : List Token
  /-- The names given to nodes, latest first. -/
  names : List Text

namespace Supply

/-- Without the next token. -/
def drop (supply : Supply) : Supply := { supply with tokens := supply.tokens.tail }

/-- Whether one of some tokens comes next. -/
def isAt (supply : Supply) (expected : List Token) : Bool :=
  supply.tokens.head?.any expected.contains

/-- Name the next anchored node; the result is its number. -/
def name (supply : Supply) (name : Text) : Supply × Nat :=
  ({ supply with names := name :: supply.names }, supply.names.eraseDups.length)

/-- The number that a name was given last. -/
def number? (name : Text) : List Text → Option Nat
  | [] => none
  | latest :: before =>
    if latest = name then some before.eraseDups.length else number? name before

end Supply

/-- What tag handles stand for. -/
abbrev Handles := List (Text × Text)

/-- The handles that need no directive. -/
def standardHandles : Handles :=
  [("!".toList, "!".toList), ("!!".toList, "tag:yaml.org,2002:".toList)]

/-- The tag that a handle and a suffix write. -/
def Handles.tag? (handles : Handles) (handle suffix : Text) : Option Text :=
  if handle = [] then some suffix
  else (handles.find? (·.1 = handle)).map fun (_, expansion) => expansion ++ suffix

/-- The anchor and the tag before a node, in either order. -/
structure Properties where
  /-- The number of the anchor. -/
  anchor? : Option Nat
  /-- The tag. -/
  tag? : Option Text

/-- Read an anchor, if there is one. -/
def readAnchor (supply : Supply) : Supply × Option Nat :=
  match supply.tokens with
  | .anchor name :: _ =>
    let (named, number) := supply.drop.name name
    (named, some number)
  | _ => (supply, none)

/-- Read a tag, if there is one; a handle that stands for nothing is an error. -/
def readTag? (handles : Handles) (supply : Supply) : Option (Supply × Option Text) :=
  match supply.tokens with
  | .tag handle suffix :: _ => (handles.tag? handle suffix).map fun tag => (supply.drop, some tag)
  | _ => some (supply, none)

/-- Read the properties of a node. -/
def readProperties? (handles : Handles) (supply : Supply) : Option (Supply × Properties) := do
  let (supply, before?) := readAnchor supply
  let (supply, tag?) ← readTag? handles supply
  if before?.isSome ∨ tag?.isNone then some (supply, ⟨before?, tag?⟩)
  else
    let (supply, anchor?) := readAnchor supply
    some (supply, ⟨anchor?, tag?⟩)

mutual

/-- A node. Indented collections may only begin where `inBlock`, and a sequence without an
indentation of its own only as the key or the value of an indented mapping. -/
def node? (handles : Handles) (inBlock indentless : Bool) :
    (fuel : Nat) → Supply → Option (Node × Supply)
  | 0, _ => none
  | fuel + 1, supply =>
    match supply.tokens with
    | .alias name :: _ => (Supply.number? name supply.names).map fun number =>
        (.alias number, supply.drop)
    | _ => do
      let (supply, properties) ← readProperties? handles supply
      let anchor? := properties.anchor?
      let tag? := properties.tag?
      match supply.tokens with
      | .scalar isPlain value :: _ =>
        if tag? = some ['!'] then some (.scalar anchor? none isPlain value, supply.drop)
        else some (.scalar anchor? tag? isPlain value, supply.drop)
      | .flowSequence :: _ => do
        let (items, supply) ← flowItems? handles true fuel supply.drop
        some (.sequence anchor? tag? items, supply)
      | .flowMapping :: _ => do
        let (pairs, supply) ← flowPairs? handles true fuel supply.drop
        some (.mapping anchor? tag? pairs, supply)
      | .item :: _ =>
        if indentless then do
          let (items, supply) ← openItems? handles fuel supply
          some (.sequence anchor? tag? items, supply)
        else if anchor?.isSome ∨ tag?.isSome then some (.scalar anchor? tag? true [], supply)
        else none
      | token :: _ =>
        if inBlock ∧ token = .blockSequence then do
          let (items, supply) ← blockItems? handles fuel supply.drop
          some (.sequence anchor? tag? items, supply)
        else if inBlock ∧ token = .blockMapping then do
          let (pairs, supply) ← blockPairs? handles fuel supply.drop
          some (.mapping anchor? tag? pairs, supply)
        else if anchor?.isSome ∨ tag?.isSome then some (.scalar anchor? tag? true [], supply)
        else none
      | [] =>
        if anchor?.isSome ∨ tag?.isSome then some (.scalar anchor? tag? true [], supply) else none

/-- A node, unless one of some tokens or the end of the text shows that it is left out. -/
def nodeUnless? (handles : Handles) (inBlock indentless : Bool) (ends : List Token) :
    (fuel : Nat) → Supply → Option (Node × Supply)
  | 0, _ => none
  | fuel + 1, supply =>
    if supply.isAt ends then some (.omitted, supply)
    else node? handles inBlock indentless fuel supply

/-- The items of an indented sequence and its end. -/
def blockItems? (handles : Handles) : (fuel : Nat) → Supply → Option (List Node × Supply)
  | 0, _ => none
  | fuel + 1, supply =>
    match supply.tokens with
    | .item :: _ => do
      let (item, supply) ← nodeUnless? handles true false [.item, .blockEnd] fuel supply.drop
      let (items, supply) ← blockItems? handles fuel supply
      some (item :: items, supply)
    | .blockEnd :: _ => some ([], supply.drop)
    | _ => none

/-- The items of a sequence without an indentation of its own. -/
def openItems? (handles : Handles) : (fuel : Nat) → Supply → Option (List Node × Supply)
  | 0, _ => none
  | fuel + 1, supply =>
    match supply.tokens with
    | .item :: _ => do
      let (item, supply) ←
        nodeUnless? handles true false [.item, .key, .value, .blockEnd] fuel supply.drop
      let (items, supply) ← openItems? handles fuel supply
      some (item :: items, supply)
    | _ => some ([], supply)

/-- The pairs of an indented mapping and its end. -/
def blockPairs? (handles : Handles) : (fuel : Nat) → Supply → Option (List (Node × Node) × Supply)
  | 0, _ => none
  | fuel + 1, supply =>
    match supply.tokens with
    | .key :: _ => do
      let (key, supply) ←
        nodeUnless? handles true true [.key, .value, .blockEnd] fuel supply.drop
      let (value, supply) ←
        if supply.isAt [.value] then
          nodeUnless? handles true true [.key, .value, .blockEnd] fuel supply.drop
        else some (.omitted, supply)
      let (pairs, supply) ← blockPairs? handles fuel supply
      some ((key, value) :: pairs, supply)
    | .blockEnd :: _ => some ([], supply.drop)
    | _ => none

/-- The items of a bracketed sequence and its end. A key among them makes a mapping of one
pair. -/
def flowItems? (handles : Handles) (isFirst : Bool) :
    (fuel : Nat) → Supply → Option (List Node × Supply)
  | 0, _ => none
  | fuel + 1, supply =>
    if supply.isAt [.flowSequenceEnd] then some ([], supply.drop)
    else if !isFirst && !supply.isAt [.comma] then none
    else
      let supply := if isFirst then supply else supply.drop
      if supply.isAt [.flowSequenceEnd] then some ([], supply.drop)
      else do
        let (item, supply) ←
          if supply.isAt [.key] then flowPair? handles fuel supply.drop
          else node? handles false false fuel supply
        let (items, supply) ← flowItems? handles false fuel supply
        some (item :: items, supply)

/-- The mapping of one pair inside a bracketed sequence, after its key token. Where the key is
left out, the token in its place is passed over. -/
def flowPair? (handles : Handles) : (fuel : Nat) → Supply → Option (Node × Supply)
  | 0, _ => none
  | fuel + 1, supply => do
    let (key, supply) ←
      if supply.isAt [.value, .comma, .flowSequenceEnd] then some (.omitted, supply.drop)
      else node? handles false false fuel supply
    let (value, supply) ←
      if supply.isAt [.value] then
        nodeUnless? handles false false [.comma, .flowSequenceEnd] fuel supply.drop
      else some (.omitted, supply)
    some (.mapping none none [(key, value)], supply)

/-- The pairs of a braced mapping and its end. -/
def flowPairs? (handles : Handles) (isFirst : Bool) :
    (fuel : Nat) → Supply → Option (List (Node × Node) × Supply)
  | 0, _ => none
  | fuel + 1, supply =>
    if supply.isAt [.flowMappingEnd] then some ([], supply.drop)
    else if !isFirst && !supply.isAt [.comma] then none
    else
      let supply := if isFirst then supply else supply.drop
      if supply.isAt [.flowMappingEnd] then some ([], supply.drop)
      else if supply.isAt [.key] then do
        let (key, supply) ←
          nodeUnless? handles false false [.value, .comma, .flowMappingEnd] fuel supply.drop
        let (value, supply) ←
          if supply.isAt [.value] then
            nodeUnless? handles false false [.comma, .flowMappingEnd] fuel supply.drop
          else some (.omitted, supply)
        let (pairs, supply) ← flowPairs? handles false fuel supply
        some ((key, value) :: pairs, supply)
      else do
        let (key, supply) ← node? handles false false fuel supply
        let (pairs, supply) ← flowPairs? handles false fuel supply
        some ((key, .omitted) :: pairs, supply)

end

/-- The directives at the front: at most one version, which is 1.1 or 1.2, and no handle
twice. -/
def directives? : (hasVersion : Bool) → (handles : Handles) → List Token →
    Option (Handles × List Token)
  | hasVersion, handles, .version major minor :: rest =>
    if hasVersion ∨ major ≠ 1 ∨ (minor ≠ 1 ∧ minor ≠ 2) then none
    else directives? true handles rest
  | hasVersion, handles, .tagHandle handle expansion :: rest =>
    if handles.any (·.1 = handle) then none
    else directives? hasVersion (handles ++ [(handle, expansion)]) rest
  | _, handles, rest => some (handles, rest)

/-- Whether nothing but ends of documents is left. -/
def isFinished (tokens : List Token) : Bool := tokens.all (· = .documentEnd)

/-- Whether a directive or the start of a document comes first. -/
def startsDocument : List Token → Bool
  | .version .. :: _ => true
  | .tagHandle .. :: _ => true
  | .documentStart :: _ => true
  | _ => false

/-- The only document of a text. There is none when the text is malformed, has no document or
has several. -/
def document? (text : Text) : Option Node := do
  let tokens ← tokens? text
  let fuel := 3 * tokens.length + 3
  if tokens = [] then none
  else if startsDocument tokens then
    let (handles, rest) ← directives? false [] tokens
    match rest with
    | .documentStart :: rest =>
      if startsDocument rest ∨ rest = [] ∨ rest.head? = some .documentEnd then
        if isFinished rest then some .omitted else none
      else
        let (root, supply) ← node? (handles ++ standardHandles) true false fuel ⟨rest, []⟩
        if isFinished supply.tokens then some root else none
    | _ => none
  else
    let (root, supply) ← node? standardHandles true false fuel ⟨tokens, []⟩
    if isFinished supply.tokens then some root else none

mutual

/-- The last node with an anchor of a number, in a node. -/
def Node.anchored? (number : Nat) : Node → Option Node
  | .alias _ => none
  | .scalar anchor? tag? isPlain value =>
    if anchor? = some number then some (.scalar anchor? tag? isPlain value) else none
  | .sequence anchor? tag? items =>
    (anchoredItem? number items).or
      (if anchor? = some number then some (.sequence anchor? tag? items) else none)
  | .mapping anchor? tag? pairs =>
    (anchoredPair? number pairs).or
      (if anchor? = some number then some (.mapping anchor? tag? pairs) else none)

/-- The last node with an anchor of a number, in items. -/
def anchoredItem? (number : Nat) : List Node → Option Node
  | [] => none
  | item :: rest => (anchoredItem? number rest).or (item.anchored? number)

/-- The last node with an anchor of a number, in pairs. -/
def anchoredPair? (number : Nat) : List (Node × Node) → Option Node
  | [] => none
  | (key, value) :: rest =>
    (anchoredPair? number rest).or ((value.anchored? number).or (key.anchored? number))

end

/-- What a node of a document stands for: an alias stands for the node it refers to. -/
def Node.resolve (root : Node) : Node → Node
  | .alias number => (root.anchored? number).getD .omitted
  | node => node

end Citations.Yaml
