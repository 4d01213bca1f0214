import ImportPolicy.Text.Table
import ImportPolicy.Yaml.Meaning
import ImportPolicy.Yaml.Token

/-! # Nodes of YAML

A document is a tree of nodes. An alias stands for the node whose anchor it names. Inside this node
it stands for the whole node once more, which then has no end.

* `Node` — a scalar, a sequence or a mapping with what its tag means, or a node around this one.
* `Node.ofTokens?` — the tree of the only document in a list of tokens, if there is one. -/

namespace ImportPolicy.Yaml

/-- A node of a document. -/
inductive Node where
  | scalar (meaning : Meaning) (text : Text)
  | sequence (meaning : Meaning) (items : List Node)
  | mapping (meaning : Meaning) (entries : List (Node × Node))
  | again
  deriving Inhabited

namespace Node

/-- What the tag of a node means. That of a node around it is not known yet. -/
def meaning : Node → Meaning
  | .scalar m _ => m
  | .sequence m _ => m
  | .mapping m _ => m
  | .again => .unknown

/-- The empty plain scalar. -/
def nothing : Node := .scalar (Meaning.ofPlain []) []

/-- What is known while nodes are read: the tokens ahead, the meanings of tag handles, and the
    anchors with their nodes. An anchor whose node is not complete has none. -/
structure State where
  tokens : List Token
  handles : Table Text
  anchors : Table (Option Node)

/-- A step of reading nodes. -/
abbrev Step := StateT State (Except Failure)

/-- The next token. -/
def peek : Step (Option Token) := do return (← get).tokens.head?

/-- Moves past the next token. -/
def drop : Step Unit := modify fun s => { s with tokens := s.tokens.drop 1 }

/-- Whether the next token satisfies a test. -/
def nextIs (test : Token → Bool) : Step Bool := do return (← peek).elim false test

/-- The refusal of a text that breaks the rules. -/
def refuse {α : Type} : Step α := throw .malformed

/-- Moves past the next token, which has to satisfy a test. -/
def expect (test : Token → Bool) : Step Unit := do
  if ← nextIs test then drop else refuse

/-! ## Tests on tokens -/

/-- Tests for single tokens. -/
def isBlockEnd : Token → Bool | .blockEnd => true | _ => false
@[inherit_doc isBlockEnd] def isBlockItem : Token → Bool | .blockItem => true | _ => false
@[inherit_doc isBlockEnd] def isKey : Token → Bool | .key => true | _ => false
@[inherit_doc isBlockEnd] def isValue : Token → Bool | .value => true | _ => false
@[inherit_doc isBlockEnd] def isFlowItem : Token → Bool | .flowItem => true | _ => false
@[inherit_doc isBlockEnd] def isListEnd : Token → Bool | .flowSequenceEnd => true | _ => false
@[inherit_doc isBlockEnd] def isMapEnd : Token → Bool | .flowMappingEnd => true | _ => false
@[inherit_doc isBlockEnd] def isDocumentEnd : Token → Bool | .documentEnd => true | _ => false

/-- Whether a token ends the key or the value of a block mapping that has no text. -/
def endsEntry (t : Token) : Bool := isKey t || isValue t || isBlockEnd t

/-! ## Properties -/

/-- The tag that a written tag stands for. -/
def fullTag (t : Tag) : Step Text := do
  match t.handle with
  | none => return t.suffix
  | some handle =>
    match (← get).handles.find? handle with
    | some start => return start ++ t.suffix
    | none => refuse

/-- An anchor and a tag before a node, in either order. -/
def properties : Step (Option Text × Option Text) := do
  match ← peek with
  | some (.anchor name) =>
    drop
    match ← peek with
    | some (.tag t) => drop; return (some name, some (← fullTag t))
    | _ => return (some name, none)
  | some (.tag t) =>
    drop
    match ← peek with
    | some (.anchor name) => drop; return (some name, some (← fullTag t))
    | _ => return (none, some (← fullTag t))
  | _ => return (none, none)

/-- The tag that leaves the kind of a node open. -/
def openTag : Text := "!"

/-- What the tag of a collection means; without one it is the given kind. -/
def collectionMeaning (tag : Option Text) (plain : Meaning) : Meaning :=
  match tag with
  | none => plain
  | some t => if t = openTag then plain else Meaning.ofTag t

/-- What the tag of a scalar means. Without one, a plain scalar has the kind of its text. -/
def scalarMeaning (tag : Option Text) (isPlain : Bool) (text : Text) : Meaning :=
  match tag with
  | none => if isPlain then Meaning.ofPlain text else .text
  | some t => if t = openTag then Meaning.ofPlain text else Meaning.ofTag t

/-- Notes an anchor with its node, or with none while the node is read. -/
def note (anchor : Option Text) (node : Option Node) : Step Unit := do
  match anchor with
  | some name => modify fun s => { s with anchors := s.anchors.put name node }
  | none => return

/-- Refuses an anchor whose name is taken. -/
def checkAnchor (anchor : Option Text) : Step Unit := do
  match anchor with
  | some name => if ((← get).anchors.find? name).isSome then refuse
  | none => return

/-- The node of an alias. -/
def aliased (name : Text) : Step Node := do
  match (← get).anchors.find? name with
  | some (some node) => return node
  | some none => return .again
  | none => refuse

/-! ## Nodes -/

mutual

/-- A node. Block collections are allowed where `inBlock` says so, and a sequence that is not
    indented where `bare` says so. -/
def read : Nat → Bool → Bool → Step Node
  | 0, _, _ => refuse
  | fuel + 1, inBlock, bare => do
    match ← peek with
    | some (.alias name) => drop; aliased name
    | _ =>
      let (anchor, tag) ← properties
      checkAnchor anchor
      let collect (plain : Meaning) (step : Step Node) : Step Node := do
        -- Inside its own node an anchor is known, but the node is not complete.
        note anchor none
        let node ← step
        let meaning := collectionMeaning tag plain
        let node := match node with
          | .sequence _ items => Node.sequence meaning items
          | .mapping _ entries => Node.mapping meaning entries
          | node => node
        note anchor (some node)
        return node
      let next ← peek
      match next with
      | some (.scalar text isPlain) =>
        drop
        let node := Node.scalar (scalarMeaning tag isPlain text) text
        note anchor (some node)
        return node
      | some .flowSequence =>
        drop; collect .list (do return .sequence .list (← flowItems fuel true))
      | some .flowMapping =>
        drop; collect .mapping (do return .mapping .mapping (← flowEntries fuel true))
      | _ =>
        if bare && next.any isBlockItem then
          collect .list (do return .sequence .list (← bareItems fuel))
        else match inBlock, next with
          | true, some .blockSequence =>
            drop; collect .list (do return .sequence .list (← blockItems fuel))
          | true, some .blockMapping =>
            drop; collect .mapping (do return .mapping .mapping (← blockEntries fuel))
          | _, _ =>
            -- An anchor or a tag alone stands for a scalar without text.
            if anchor.isSome || tag.isSome then
              let node := Node.scalar (scalarMeaning tag true []) []
              note anchor (some node)
              return node
            else refuse

/-- The items of a block sequence, up to its end. -/
def blockItems : Nat → Step (List Node)
  | 0 => refuse
  | fuel + 1 => do
    if ← nextIs isBlockItem then
      drop
      let item ←
        if ← nextIs fun t => isBlockItem t || isBlockEnd t then pure nothing
        else read fuel true false
      return item :: (← blockItems fuel)
    else
      expect isBlockEnd
      return []

/-- The items of a sequence that is not indented more than the mapping around it. -/
def bareItems : Nat → Step (List Node)
  | 0 => refuse
  | fuel + 1 => do
    if ← nextIs isBlockItem then
      drop
      let item ←
        if ← nextIs fun t => isBlockItem t || endsEntry t then pure nothing
        else read fuel true false
      return item :: (← bareItems fuel)
    else return []

/-- The entries of a block mapping, up to its end. -/
def blockEntries : Nat → Step (List (Node × Node))
  | 0 => refuse
  | fuel + 1 => do
    let hasKey ← nextIs isKey
    if hasKey then
      drop
      let key ← if ← nextIs endsEntry then pure nothing else read fuel true true
      let value ←
        if ← nextIs isValue then do
          drop
          if ← nextIs endsEntry then pure nothing else read fuel true true
        else pure nothing
      return (key, value) :: (← blockEntries fuel)
    else
      expect isBlockEnd
      return []

/-- The items of a flow sequence, up to its end. A pair without braces is a mapping of its own. -/
def flowItems : Nat → Bool → Step (List Node)
  | 0, _ => refuse
  | fuel + 1, isFirst => do
    if ← nextIs isListEnd then
      drop
      return []
    else
      if !isFirst then expect isFlowItem
      if ← nextIs isKey then
        drop
        let endsPart (t : Token) : Bool := isFlowItem t || isListEnd t
        let key ←
          if ← nextIs fun t => isValue t || endsPart t then pure nothing else read fuel false false
        let value ←
          if ← nextIs isValue then do
            drop
            if ← nextIs endsPart then pure nothing else read fuel false false
          else pure nothing
        return .mapping .mapping [(key, value)] :: (← flowItems fuel false)
      else if ← nextIs isListEnd then
        drop
        return []
      else
        let item ← read fuel false false
        return item :: (← flowItems fuel false)

/-- The entries of a flow mapping, up to its end. -/
def flowEntries : Nat → Bool → Step (List (Node × Node))
  | 0, _ => refuse
  | fuel + 1, isFirst => do
    if ← nextIs isMapEnd then
      drop
      return []
    else
      if !isFirst then expect isFlowItem
      let endsPart (t : Token) : Bool := isFlowItem t || isMapEnd t
      if ← nextIs isKey then
        drop
        let key ←
          if ← nextIs fun t => isValue t || endsPart t then pure nothing else read fuel false false
        let value ←
          if ← nextIs isValue then do
            drop
            if ← nextIs endsPart then pure nothing else read fuel false false
          else pure nothing
        return (key, value) :: (← flowEntries fuel false)
      else if ← nextIs isMapEnd then
        drop
        return []
      else
        let key ← read fuel false false
        -- A key without a colon has no value.
        return (key, nothing) :: (← flowEntries fuel false)

end

/-! ## Documents -/

/-- The handles that every document knows. -/
def knownHandles : Table Text := [("!", "!"), ("!!", Meaning.tagStart)]

/-- The directives before a document: the handles that they declare, and whether a version was
    given. -/
def directives : Nat → Bool → Table Text → Step (Table Text)
  | 0, _, _ => refuse
  | fuel + 1, hasVersion, handles => do
    match ← peek with
    | some (.directive d) =>
      drop
      match d with
      | .version major =>
        if hasVersion ∨ major ≠ 1 then refuse else directives fuel true handles
      | .handle handle start =>
        if (handles.find? handle).isSome then refuse
        else directives fuel hasVersion (handles.put handle start)
      | .other => directives fuel hasVersion handles
    | _ => return handles

/-- Whether a token cannot start the content of a document. -/
def isOutside : Token → Bool
  | .directive _ => true
  | .documentStart => true
  | .documentEnd => true
  | _ => false

/-- Moves past the ends of documents. -/
def documentEnds : Nat → Step Unit
  | 0 => refuse
  | fuel + 1 => do
    if ← nextIs isDocumentEnd then
      drop
      documentEnds fuel

/-- The only document of the tokens ahead, if there is one. -/
def document (fuel : Nat) : Step (Option Node) := do
  let isImplicit := match ← peek with
    | some (.directive _) => false
    | some .documentStart => false
    | some _ => true
    | none => false
  let node ←
    if isImplicit then do
      modify fun s => { s with handles := knownHandles }
      pure (some (← read fuel true false))
    else do
      match ← peek with
      | none => pure none
      | some _ =>
        let declared ← directives fuel false []
        modify fun s => { s with handles := Table.update knownHandles declared }
        expect fun t => match t with
          | .documentStart => true
          | _ => false
        let next ← peek
        if next.elim true isOutside then pure (some nothing)
        else pure (some (← read fuel true false))
  documentEnds fuel
  match ← peek with
  | none => return node
  | some _ => refuse

/-- The tree of the only document in a list of tokens, if there is one. -/
def ofTokens? (tokens : List Token) : Except Failure (Option Node) :=
  let fuel := 4 * tokens.length + 8
  (document fuel ⟨tokens, [], []⟩).map (·.1)

end Node

end ImportPolicy.Yaml
