import ImportPolicy.Script.Imports

/-! # Static calls of `require`

A static call has one string literal among its named arguments, and comments around it. The
specifier is taken from the first named argument, which is a comment if one stands before the
literal.

* `Node.Requires` — a node is a static call with some comments before its literal.
* `Node.isStaticRequire_iff` — the recognised calls are these.
* `Node.Requires.value_firstArgument` — what is taken for the specifier. -/

namespace ImportPolicy.Script

/-- A node is a call of the identifier `require`, and its named arguments are a string literal with
    some comments before it and perhaps others after it. -/
inductive Node.Requires : Node → (before : List Node) → StringLiteral → Prop where
  | call {between arguments before after : List Node} {s : StringLiteral}
      (named : arguments.filter Node.isNamed = before ++ .string s :: after)
      (comments : ∀ node ∈ before ++ after, node.isComment = true) :
      Requires (.call (.leaf ⟨.identifier, "require".toList⟩) between arguments) before s

theorem filter_named_not_comment (arguments : List Node) :
    arguments.filter (fun node => node.isNamed && !node.isComment) =
      (arguments.filter Node.isNamed).filter fun node => !node.isComment := by
  rw [List.filter_filter]
  congr 1
  funext node
  exact Bool.and_comm _ _

/-- One string is left of some nodes without comments exactly if all others are comments. -/
theorem filter_not_comment_eq_string_iff {nodes : List Node} {s : StringLiteral} :
    nodes.filter (fun node => !node.isComment) = [.string s] ↔
      ∃ before after, nodes = before ++ .string s :: after ∧
        ∀ node ∈ before ++ after, node.isComment = true := by
  constructor
  · intro left
    obtain ⟨before, after, split, commentsBefore, -, rest⟩ := List.filter_eq_cons_iff.1 left
    have commentsAfter := List.filter_eq_nil_iff.1 rest
    refine ⟨before, after, split, ?_⟩
    intro node member
    rcases List.mem_append.1 member with member | member
    · simpa using commentsBefore node member
    · simpa using commentsAfter node member
  · rintro ⟨before, after, rfl, comments⟩
    have noneBefore : before.filter (fun node => !node.isComment) = [] := by
      rw [List.filter_eq_nil_iff]
      intro node member
      simp [comments node (List.mem_append_left _ member)]
    have noneAfter : after.filter (fun node => !node.isComment) = [] := by
      rw [List.filter_eq_nil_iff]
      intro node member
      simp [comments node (List.mem_append_right _ member)]
    rw [List.filter_append, noneBefore, List.nil_append,
      List.filter_cons_of_pos (by rfl), noneAfter]

/-- The recognised calls are those with one literal and otherwise comments. -/
theorem Node.isStaticRequire_iff {node : Node} :
    node.isStaticRequire = true ↔ ∃ before s, node.Requires before s := by
  constructor
  · intro static
    unfold isStaticRequire at static
    split at static
    next text between arguments =>
      obtain ⟨isRequire, oneLiteral⟩ := Bool.and_eq_true_iff.1 static
      split at oneLiteral
      next s left =>
        rw [filter_named_not_comment, filter_not_comment_eq_string_iff] at left
        obtain ⟨before, after, named, comments⟩ := left
        obtain rfl := of_decide_eq_true isRequire
        exact ⟨before, s, .call named comments⟩
      · cases oneLiteral
    · cases static
  · rintro ⟨before, s, ⟨named, comments⟩⟩
    have left := filter_not_comment_eq_string_iff.2 ⟨_, _, named, comments⟩
    rw [← filter_named_not_comment] at left
    simp [isStaticRequire, left]

variable {node : Node} {before : List Node} {s : StringLiteral}

theorem Node.Requires.isStaticRequire (requires : node.Requires before s) :
    node.isStaticRequire = true :=
  Node.isStaticRequire_iff.2 ⟨before, s, requires⟩

/-- The first argument is the first comment before the literal, or the literal if there is none. -/
theorem Node.Requires.firstArgument? (requires : node.Requires before s) :
    node.firstArgument? = (before ++ [Node.string s]).head? := by
  cases requires with
  | call named comments =>
    rw [Node.firstArgument?, ← List.head?_filter, named]
    cases before <;> rfl

theorem Node.Requires.comments (requires : node.Requires before s) :
    ∀ comment ∈ before, comment.isComment = true := by
  cases requires with
  | call named comments =>
    exact fun comment member => comments comment (List.mem_append_left _ member)

theorem Node.Requires.literal_mem_children (requires : node.Requires before s) :
    Node.string s ∈ node.children := by
  cases requires with
  | call named comments =>
    have isNamed : Node.string s ∈ List.filter Node.isNamed _ :=
      named ▸ List.mem_append_right _ List.mem_cons_self
    exact List.mem_cons_of_mem _ (List.mem_append_right _ (List.mem_filter.1 isNamed).1)

/-- A comment as a specifier: its characters without the first and the last. -/
theorem value_of_isComment {comment : Node} (isComment : comment.isComment = true) :
    comment.value = .ok (Text.ofChars (comment.text.drop 1).dropLast) := by
  cases comment with
  | leaf l => rfl
  | string s => cases isComment
  | call callee between arguments => cases isComment
  | declaration kind clause source rest => cases isComment
  | group kind children => cases isComment

/-- The specifier at a static call whose literal has a value: this value, unless a comment comes
    before. Then it is the comment's text without its first and its last character. -/
def specifierBehind (before : List Node) (value : Text) : Text :=
  match before with
  | [] => value
  | comment :: _ => Text.ofChars (comment.text.drop 1).dropLast

theorem Node.Requires.value_firstArgument {value : Text} (requires : node.Requires before s)
    (denotes : s.value = .ok value) :
    ∃ argument, node.firstArgument? = some argument ∧
      argument.value = .ok (specifierBehind before value) := by
  have first := requires.firstArgument?
  cases before with
  | nil => exact ⟨.string s, first, denotes⟩
  | cons comment others =>
    have isComment := requires.comments comment List.mem_cons_self
    exact ⟨comment, first, value_of_isComment isComment⟩

end ImportPolicy.Script
