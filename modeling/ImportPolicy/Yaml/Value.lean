import ImportPolicy.Text.Lines
import ImportPolicy.Yaml.Node
import ImportPolicy.Yaml.Scalar
import ImportPolicy.Yaml.Tokens

/-! # Values of documents

A document is the value of its root node. A mapping takes the entries of the mappings merged into
it first, so that its own entries replace them.

The nodes of a document are visited level by level. Of several faults the one on the highest level
counts, and of these the first. That a node contains itself shows only when all others are visited.

* `Visited` — a result, or the fault that counts with its level.
* `Node.visit` — the value of a node.
* `Yaml.load` — the value of a text.
* `Yaml.isList` — whether that value is a list, which may contain itself. -/

namespace ImportPolicy.Yaml

/-- A fault so many levels below the node that is visited. -/
structure Fault where
  level : Nat
  failure : Failure

/-- Whether a fault counts more than one that was visited before. -/
def Fault.outranks (g f : Fault) : Bool :=
  if f.failure = .endless then g.failure ≠ .endless
  else g.failure ≠ .endless && g.level < f.level

/-- A result, or the fault that counts. -/
abbrev Visited := Except Fault

namespace Visited

variable {α β : Type}

/-- A result on the level of the node. -/
def here (result : Except Failure α) : Visited α := result.mapError fun f => ⟨0, f⟩

/-- The refusal of a node that breaks the rules. -/
def refused : Visited α := throw ⟨0, .malformed⟩

/-- The same result one level further down. -/
def deeper (result : Visited α) : Visited α := result.mapError fun f => ⟨f.level + 1, f.failure⟩

/-- Two results, the first of which was visited first on each level. -/
def both (first : Visited α) (second : Visited β) : Visited (α × β) :=
  match first, second with
  | .ok a, .ok b => .ok (a, b)
  | .error f, .ok _ => .error f
  | .ok _, .error g => .error g
  | .error f, .error g => .error (if g.outranks f then g else f)

/-- All results of a list. -/
def all : List (Visited α) → Visited (List α)
  | [] => .ok []
  | first :: rest => (both first (all rest)).map fun r => r.1 :: r.2

/-- A key of a mapping. What cannot be a key is refused before its parts are visited. -/
def asKey (key : Visited Value) : Visited Value :=
  match key with
  | .ok v => if v.isKey then .ok v else refused
  | .error f => if f.level = 0 ∧ f.failure ≠ .endless then .error f else refused

end Visited

/-- The key and the value of an entry. -/
abbrev VisitedEntry := Visited (Value × Value)

namespace Node

mutual

/-- The text of a scalar. A mapping stands for the text that it holds at the key `=`. -/
def scalarText? : Node → Option Text
  | .scalar _ t => some t
  | .sequence _ _ => none
  | .mapping _ entries => defaultText? entries
  | .again => none

/-- The text at the first key `=`. -/
def defaultText? : List (Node × Node) → Option Text
  | [] => none
  | (key, value) :: rest =>
    if key.meaning = .default then scalarText? value else defaultText? rest

end

mutual

/-- The value of a node. -/
def visit : Node → Visited Value
  | .scalar meaning t => Visited.here (Scalar.value meaning t)
  | .sequence meaning items =>
    match meaning with
    | .list => (Visited.deeper (Visited.all (visitAll items))).map .list
    | .orderedPairs => (Visited.deeper (Visited.all (visitPairs items))).map .list
    | .mapping => Visited.deeper Visited.refused
    | .set => Visited.deeper Visited.refused
    | _ => Visited.refused
  | .mapping meaning entries =>
    let own : Visited Mapping := Visited.deeper <|
      match visitEntries entries with
      | some (merged, own) => (Visited.all (merged ++ own)).map Mapping.ofList
      | none => Visited.refused
    match meaning with
    | .mapping => own.map .map
    | .set => own.map fun entries => .set (entries.map (·.1))
    | .list => Visited.deeper Visited.refused
    | .orderedPairs => Visited.deeper Visited.refused
    | _ =>
      match defaultText? entries with
      | some t => Visited.here (Scalar.value meaning t)
      | none => Visited.refused
  | .again => throw ⟨0, .endless⟩

/-- The values of nodes. -/
def visitAll : List Node → List (Visited Value)
  | [] => []
  | node :: rest => visit node :: visitAll rest

/-- The pairs that mappings of one entry stand for. -/
def visitPairs : List Node → List (Visited Value)
  | [] => []
  | node :: rest =>
    (match node with
      | .mapping _ [(key, value)] =>
        (Visited.both (visit key) (visit value)).map fun r => .pair r.1 r.2
      | _ => Visited.refused) :: visitPairs rest

/-- The entries that are merged into a mapping, and its own; none if something that is no mapping
    is merged. The key `=` is a text. -/
def visitEntries : List (Node × Node) → Option (List VisitedEntry × List VisitedEntry)
  | [] => some ([], [])
  | (key, value) :: rest => do
    let (merged, own) ← visitEntries rest
    if key.meaning = .merge then return ((← visitMerged value) ++ merged, own)
    else
      let visitedKey := match key.meaning with
        | .default => Visited.here ((scalarText? key).elim (throw .malformed) fun t => pure (.str t))
        | _ => visit key
      return (merged, Visited.both (Visited.asKey visitedKey) (visit value) :: own)

/-- The entries that a merged node brings. Of a list of mappings the last comes first. -/
def visitMerged : Node → Option (List VisitedEntry)
  | .scalar _ _ => none
  | .sequence _ items => (visitMergedAll items).map fun parts => parts.reverse.flatten
  | .mapping _ entries => (visitEntries entries).map fun r => r.1 ++ r.2
  | .again => some [throw ⟨0, .endless⟩]

/-- The entries that each mapping of a list brings. -/
def visitMergedAll : List Node → Option (List (List VisitedEntry))
  | [] => some []
  | node :: rest => do
    let here ← match node with
      | .mapping _ entries => (visitEntries entries).map fun r => r.1 ++ r.2
      | _ => none
    return here :: (← visitMergedAll rest)

end

/-- The value of a node. -/
def value (node : Node) : Except Failure Value := (visit node).mapError (·.failure)

end Node

/-- The root of the only document in a text, if there is one. -/
def root? (cs : List Char) : Except Failure (Option Node) := do
  Node.ofTokens? (← tokens (Text.unifyNewlines cs))

/-- The value of the only document in a text. A text without a document is null. -/
def load (cs : List Char) : Except Failure Value := do
  match ← root? cs with
  | some node => node.value
  | none => return .null

/-- Whether the only document in a text is a sequence. -/
def isList (cs : List Char) : Bool :=
  match root? cs with
  | .ok (some (.sequence _ _)) => true
  | _ => false

end ImportPolicy.Yaml
