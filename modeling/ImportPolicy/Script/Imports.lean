import ImportPolicy.Script.Escape
import ImportPolicy.Script.Node

/-! # Import sites

Where a tree names another module: in an import or export with a source, and in a call of
`require` with one string literal.

* `ImportSite` — a specifier with the syntax and the position it was found at.
* `walk` — all nodes below some nodes with their positions, in document order.
* `Node.isStaticRequire` — the calls that name a module.
* `Node.value` — the text that a node stands for as a specifier.
* `importSites` — the sites of a tree. -/

namespace ImportPolicy.Script

/-- The syntax that a specifier was found in. -/
inductive ImportKind where
  | importing
  | exporting
  | requiring
  deriving DecidableEq

/-- The name of an import kind in reports. -/
def ImportKind.name : ImportKind → String
  | .importing => "import"
  | .exporting => "export"
  | .requiring => "require"

/-- The import kind of a declaration. -/
def DeclarationKind.importKind : DeclarationKind → ImportKind
  | .importing => .importing
  | .exporting => .exporting

/-- A place where a module is named. -/
structure ImportSite where
  specifier : Text
  kind : ImportKind
  line : Int
  column : Int
  deriving DecidableEq

/-! ## Nodes in document order -/

/-- A node and the position of its first character. -/
structure Located where
  node : Node
  start : Position

/-- The nodes of a row, each with its position. -/
def locate (p : Position) : List Node → List Located
  | [] => []
  | node :: nodes => ⟨node, p⟩ :: locate (p.after node.text) nodes

/-- The nodes directly inside a node, with their positions. -/
def Located.children (l : Located) : List Located := locate l.start l.node.children

mutual

/-- The number of nodes in a tree. -/
def Node.size : Node → Nat
  | .leaf _ => 1
  | .string _ => 1
  | .call callee between arguments => 1 + (callee.size + (sizeOfNodes between + sizeOfNodes arguments))
  | .declaration _ clause source rest =>
    1 + (clause.length + (source.toList.length + sizeOfNodes rest))
  | .group _ children => 1 + sizeOfNodes children

/-- The number of nodes in some trees. -/
def sizeOfNodes : List Node → Nat
  | [] => 0
  | node :: nodes => node.size + sizeOfNodes nodes

end

/-- The number of nodes below and including some located nodes. -/
def pendingSize (pending : List Located) : Nat := sizeOfNodes (pending.map Located.node)

theorem sizeOfNodes_append (s t : List Node) :
    sizeOfNodes (s ++ t) = sizeOfNodes s + sizeOfNodes t := by
  induction s with
  | nil => simp [sizeOfNodes]
  | cons node nodes ih => simp [sizeOfNodes, ih, Nat.add_assoc]

theorem sizeOfNodes_leaves (leaves : List Leaf) :
    sizeOfNodes (leaves.map .leaf) = leaves.length := by
  induction leaves with
  | nil => rfl
  | cons l rest ih => simp [sizeOfNodes, Node.size, ih, Nat.add_comm]

theorem Node.size_eq (node : Node) : node.size = 1 + sizeOfNodes node.children := by
  cases node with
  | leaf l => rfl
  | string s => rfl
  | call callee between arguments =>
    simp [Node.size, Node.children, sizeOfNodes, sizeOfNodes_append]
  | declaration kind clause source rest =>
    cases source <;>
      simp [Node.size, Node.children, sizeOfNodes, sizeOfNodes_append, sizeOfNodes_leaves]
  | group kind nodes => simp [Node.size, Node.children]

theorem map_node_locate (p : Position) (nodes : List Node) :
    (locate p nodes).map Located.node = nodes := by
  induction nodes generalizing p with
  | nil => rfl
  | cons node nodes ih => simp [locate, ih]

/-- All nodes of some pending trees in document order. The first pending node is visited, and its
    children become the first pending ones. -/
def walk (pending : List Located) : List Located :=
  match pending with
  | [] => []
  | l :: rest => l :: walk (l.children ++ rest)
termination_by pendingSize pending
decreasing_by
  simp [pendingSize, sizeOfNodes, sizeOfNodes_append, Located.children, map_node_locate,
    Node.size_eq l.node]

/-! ## Specifiers -/

/-- The text of the pieces of a string literal. -/
def partsValue : List StringPart → Except Escape.Error Text
  | [] => .ok []
  | .fragment chars :: parts => do return Text.ofChars chars ++ (← partsValue parts)
  | .escape sequence :: parts => do
    let here ← Escape.decode (Text.ofChars sequence)
    return here ++ (← partsValue parts)

/-- The text that a string literal denotes. -/
def StringLiteral.value (s : StringLiteral) : Except Escape.Error Text := partsValue s.parts

/-- The text that a node stands for as a specifier: what a string literal denotes, or the
    characters of any other node without the first and the last. -/
def Node.value : Node → Except Escape.Error Text
  | .string s => s.value
  | node => .ok (Text.ofChars (node.text.drop 1).dropLast)

/-- Whether a node is a call of the plain identifier `require` whose arguments, comments left out,
    are one string literal. -/
def Node.isStaticRequire : Node → Bool
  | .call (.leaf ⟨.identifier, text⟩) _ arguments =>
    text = "require".toList &&
      match arguments.filter fun node => node.isNamed && !node.isComment with
      | [.string _] => true
      | _ => false
  | _ => false

/-- The first argument of a call, comments counted. -/
def Node.firstArgument? : Node → Option Node
  | .call _ _ arguments => arguments.find? Node.isNamed
  | _ => none

/-- The site of a specifier at a position. -/
def siteAt (kind : ImportKind) (p : Position) (specifier : Text) : ImportSite :=
  ⟨specifier, kind, p.line, p.column⟩

/-- The site of a node: of a declaration at its source, of a static call of `require` where the
    call starts. -/
def Located.site? (l : Located) : Except Escape.Error (Option ImportSite) :=
  match l.node with
  | .declaration kind clause (some source) _ => do
    let specifier ← source.value
    let p := l.start.after (clause.flatMap Leaf.text)
    return some (siteAt kind.importKind p specifier)
  | node =>
    match node.isStaticRequire, node.firstArgument? with
    | true, some argument => do
      let specifier ← argument.value
      return some (siteAt .requiring l.start specifier)
    | _, _ => .ok none

/-- The sites of some nodes in order. -/
def sitesOf : List Located → Except Escape.Error (List ImportSite)
  | [] => .ok []
  | l :: rest => do
    let here ← l.site?
    return here.toList ++ (← sitesOf rest)

/-- The sites of the trees of a source, in document order. -/
def importSites (trees : List Node) : Except Escape.Error (List ImportSite) :=
  sitesOf (walk (locate .start trees))

/-- The positions of the static calls of `require`, in document order. -/
def staticRequires (trees : List Node) : List Position :=
  ((walk (locate .start trees)).filter fun l => l.node.isStaticRequire).map Located.start

end ImportPolicy.Script
