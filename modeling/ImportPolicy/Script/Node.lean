import ImportPolicy.Script.Position

/-! # Syntax trees

A tree keeps every character of its source: the leaves are tokens, blanks and comments, and the
text of a tree is the text of its leaves in order. Positions are therefore not stored; they follow
from the text that stands before a node.

* `Leaf`, `StringLiteral`, `Node` — the trees.
* `Node.text`, `textOf` — the text of a tree and of a list of trees.
* `Node.children` — the nodes directly inside a node, in document order.
* `Node.isNamed` — whether a node is more than a mark, a keyword or a blank. -/

namespace ImportPolicy.Script

/-- What a leaf is. -/
inductive LeafKind where
  | mark
  | blank
  | comment
  | markupComment
  | identifier
  | literal
  deriving DecidableEq

/-- A leaf of a tree: a mark or keyword, a blank, a comment, a comment in the style of markup, an
    identifier, or another word or literal. -/
structure Leaf where
  kind : LeafKind
  text : List Char
  deriving DecidableEq

/-- A piece of a string literal: characters that stand for themselves, or an escape with its
    backslash. -/
inductive StringPart where
  | fragment (chars : List Char)
  | escape (sequence : List Char)
  deriving DecidableEq

/-- The characters of a piece. -/
def StringPart.text : StringPart → List Char
  | .fragment chars => chars
  | .escape sequence => sequence

/-- A string literal: its quote and what stands between the quotes. -/
structure StringLiteral where
  quote : Char
  parts : List StringPart
  deriving DecidableEq

/-- The characters of a string literal with its quotes. -/
def StringLiteral.text (s : StringLiteral) : List Char :=
  s.quote :: (s.parts.flatMap StringPart.text ++ [s.quote])

/-- The statements that may name another module. -/
inductive DeclarationKind where
  | importing
  | exporting
  deriving DecidableEq

/-- What a group of nodes is. -/
inductive GroupKind where
  | access
  | array
  | arrow
  | attribute
  | block
  | classBody
  | classDefinition
  | decorator
  | element
  | function
  | member
  | newObject
  | object
  | operation
  | parameters
  | parenthesized
  | spread
  | statement
  | substitution
  | tagged
  | template
  | typeExpression
  deriving DecidableEq

/-- A node of a syntax tree.

    * `call` has its callee, what stands between the callee and the opening parenthesis, and the
      arguments with their parentheses.
    * `declaration` is an import or export: its words and marks up to the source, the source if it
      has one, and what follows. -/
inductive Node where
  | leaf (l : Leaf)
  | string (s : StringLiteral)
  | call (callee : Node) (between arguments : List Node)
  | declaration (kind : DeclarationKind) (clause : List Leaf) (source : Option StringLiteral)
      (rest : List Node)
  | group (kind : GroupKind) (children : List Node)

instance : Inhabited Node := ⟨.group .block []⟩

mutual

/-- The source text of a node. -/
def Node.text : Node → List Char
  | .leaf l => l.text
  | .string s => s.text
  | .call callee between arguments => callee.text ++ (textOf between ++ textOf arguments)
  | .declaration _ clause source rest =>
    clause.flatMap Leaf.text ++ (source.elim [] StringLiteral.text ++ textOf rest)
  | .group _ children => textOf children

/-- The source text of a list of nodes. -/
def textOf : List Node → List Char
  | [] => []
  | node :: nodes => node.text ++ textOf nodes

end

@[simp] theorem textOf_nil : textOf [] = [] := rfl

@[simp] theorem textOf_cons (node : Node) (nodes : List Node) :
    textOf (node :: nodes) = node.text ++ textOf nodes := rfl

@[simp] theorem textOf_append (s t : List Node) : textOf (s ++ t) = textOf s ++ textOf t := by
  induction s with
  | nil => rfl
  | cons node nodes ih => simp [ih]

theorem textOf_map_leaf (leaves : List Leaf) :
    textOf (leaves.map .leaf) = leaves.flatMap Leaf.text := by
  induction leaves with
  | nil => rfl
  | cons l rest ih => simp [ih, Node.text]

/-- The nodes directly inside a node. -/
def Node.children : Node → List Node
  | .leaf _ => []
  | .string _ => []
  | .call callee between arguments => callee :: (between ++ arguments)
  | .declaration _ clause source rest =>
    clause.map .leaf ++ ((source.toList.map .string) ++ rest)
  | .group _ children => children

/-- A node that has children is the text of its children. -/
theorem Node.textOf_children (node : Node) (h : node.children ≠ []) :
    textOf node.children = node.text := by
  cases node with
  | leaf l => simp [children] at h
  | string s => simp [children] at h
  | call callee between arguments => simp [children, Node.text]
  | declaration kind clause source rest =>
    cases source <;> simp [children, Node.text, textOf_map_leaf]
  | group kind nodes => simp [children, Node.text]

/-- Whether a node is more than a mark, a keyword or a blank. -/
def Node.isNamed : Node → Bool
  | .leaf l => l.kind ≠ .mark && l.kind ≠ .blank
  | _ => true

/-- Whether a node is an ordinary comment. -/
def Node.isComment : Node → Bool
  | .leaf l => l.kind = .comment
  | _ => false

/-- One node for a list of nodes: the node itself if there is one only, else a group. -/
def Node.bundle (kind : GroupKind) : List Node → Node
  | [node] => node
  | nodes => .group kind nodes

@[simp] theorem Node.text_bundle (kind : GroupKind) (nodes : List Node) :
    (Node.bundle kind nodes).text = textOf nodes := by
  unfold bundle
  split
  · simp
  · rfl

/-- The leaves at the front of a list of nodes, and the other nodes. -/
def leadingLeaves : List Node → List Leaf × List Node
  | .leaf l :: nodes =>
    let more := leadingLeaves nodes
    (l :: more.1, more.2)
  | nodes => ([], nodes)

theorem text_leadingLeaves (nodes : List Node) :
    (leadingLeaves nodes).1.flatMap Leaf.text ++ textOf (leadingLeaves nodes).2 = textOf nodes := by
  fun_induction leadingLeaves nodes with
  | case1 l nodes more ih => simpa [Node.text, more] using ih
  | case2 nodes h => simp

/-- A declaration whose source is the first node that is no leaf, if that is a string. -/
def Node.sourced (kind : DeclarationKind) (nodes : List Node) : Node :=
  match (leadingLeaves nodes).2 with
  | .string s :: rest => .declaration kind (leadingLeaves nodes).1 (some s) rest
  | rest => .declaration kind (leadingLeaves nodes).1 none rest

@[simp] theorem Node.text_sourced (kind : DeclarationKind) (nodes : List Node) :
    (Node.sourced kind nodes).text = textOf nodes := by
  have h := text_leadingLeaves nodes
  unfold sourced
  split
  · next s rest e => rw [← h, e]; simp [Node.text]
  · rw [← h]; simp [Node.text]

end ImportPolicy.Script
