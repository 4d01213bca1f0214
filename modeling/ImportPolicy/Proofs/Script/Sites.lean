import ImportPolicy.Proofs.Script.Escapes
import ImportPolicy.Proofs.Script.Requiring
import ImportPolicy.Proofs.Traversals

/-! # Sites of nodes

Every import or export with a source and every static call of `require` has one site, and no other
node has any.

* `Node.Reads` — the literal that the site of a node takes its specifier from.
* `Located.Names` — a node has a site.
* `sitesOf_eq_ok_iff` — the sites of some nodes are those of the naming nodes, one each, in order.
* `sitesOf_answers_iff` — there are sites if the literals that are read have values.
* `value_answers_iff` — a literal has a value if its escapes have texts. -/

namespace ImportPolicy.Script

/-! ## Where the source of a declaration stands -/

theorem length_locate (p : Position) (nodes : List Node) :
    (locate p nodes).length = nodes.length := by
  rw [← List.length_map (f := Located.node), map_node_locate]

theorem locate_append (p : Position) (nodes more : List Node) :
    locate p (nodes ++ more) = locate p nodes ++ locate (p.after (textOf nodes)) more := by
  induction nodes generalizing p with
  | nil => rfl
  | cons node rest ih =>
    rw [List.cons_append, locate, ih, locate, textOf_cons, Position.after_append, List.cons_append]

/-- The source of a declaration is the child after its words and marks. -/
theorem children_declaration_source (kind : DeclarationKind) (clause : List Leaf)
    (s : StringLiteral) (rest : List Node) (start : Position) :
    (Located.mk (.declaration kind clause (some s) rest) start).children[clause.length]? =
      some ⟨.string s, start.after (clause.flatMap Leaf.text)⟩ := by
  have length : (locate start (clause.map Node.leaf)).length = clause.length := by
    rw [length_locate, List.length_map]
  rw [Located.children, Node.children, locate_append, textOf_map_leaf,
    List.getElem?_append_right (Nat.le_of_eq length), length, Nat.sub_self]
  rfl

/-! ## The site of a node -/

/-- Whether a node names a module: an import or export with a source, or a static call of
    `require`. -/
def Node.namesModule : Node → Bool
  | .declaration _ _ (some _) _ => true
  | node => node.isStaticRequire

/-- The literal that the site of a node takes its specifier from. -/
inductive Node.Reads : Node → StringLiteral → Prop where
  | source {kind : DeclarationKind} {clause : List Leaf} {s : StringLiteral} {rest : List Node} :
      Reads (.declaration kind clause (some s) rest) s
  | argument {node : Node} {s : StringLiteral} (requires : node.Requires [] s) : Reads node s

/-- A node has a site. A declaration has it where its source stands, a call where the call
    starts. -/
inductive Located.Names : Located → ImportSite → Prop where
  | declaration {kind : DeclarationKind} {clause : List Leaf} {s : StringLiteral}
      {rest : List Node} {start place : Position} {specifier : Text}
      (source :
        (Located.mk (.declaration kind clause (some s) rest) start).children[clause.length]? =
          some ⟨.string s, place⟩)
      (denotes : s.value = .ok specifier) :
      Names ⟨.declaration kind clause (some s) rest, start⟩
        (siteAt kind.importKind place specifier)
  | call {l : Located} {argument : Node} {specifier : Text}
      (static : l.node.isStaticRequire = true) (first : l.node.firstArgument? = some argument)
      (denotes : argument.value = .ok specifier) :
      Names l (siteAt .requiring l.start specifier)

theorem site?_declaration (kind : DeclarationKind) (clause : List Leaf) (s : StringLiteral)
    (rest : List Node) (start : Position) :
    (Located.mk (.declaration kind clause (some s) rest) start).site? =
      s.value.map fun specifier =>
        some (siteAt kind.importKind (start.after (clause.flatMap Leaf.text)) specifier) := by
  simp only [Located.site?]
  cases s.value <;> rfl

theorem site?_of_isStaticRequire {l : Located} {argument : Node}
    (static : l.node.isStaticRequire = true) (first : l.node.firstArgument? = some argument) :
    l.site? = argument.value.map fun specifier => some (siteAt .requiring l.start specifier) := by
  obtain ⟨node, start⟩ := l
  cases node with
  | call callee between arguments =>
    simp only [Located.site?, static, first]
    cases argument.value <;> rfl
  | leaf l => cases first
  | string s => cases first
  | declaration kind clause source rest => cases first
  | group kind children => cases first

theorem site?_of_not_namesModule {l : Located} (silent : l.node.namesModule = false) :
    l.site? = .ok none := by
  obtain ⟨node, start⟩ := l
  unfold Located.site?
  split
  next kind clause s rest isDeclaration => cases isDeclaration; cases silent
  next other =>
    have notStatic : node.isStaticRequire = false := by
      unfold Node.namesModule at silent
      split at silent
      · cases silent
      · exact silent
    simp [notStatic]

/-- A node that names a module is a declaration with a source or a static call. -/
theorem namesModule_cases {l : Located} (naming : l.node.namesModule = true) :
    (∃ kind clause s rest, l.node = .declaration kind clause (some s) rest) ∨
      ∃ before s, l.node.Requires before s := by
  unfold Node.namesModule at naming
  split at naming
  next kind clause s rest isDeclaration => exact .inl ⟨kind, clause, s, rest, isDeclaration⟩
  next => exact .inr (Node.isStaticRequire_iff.1 naming)

theorem namesModule_of_isStaticRequire {node : Node} (static : node.isStaticRequire = true) :
    node.namesModule = true := by
  unfold Node.namesModule
  split
  · rfl
  · exact static

theorem names_declaration_iff {kind : DeclarationKind} {clause : List Leaf} {s : StringLiteral}
    {rest : List Node} {start : Position} {site : ImportSite} :
    Located.Names ⟨.declaration kind clause (some s) rest, start⟩ site ↔
      ∃ specifier, s.value = .ok specifier ∧
        siteAt kind.importKind (start.after (clause.flatMap Leaf.text)) specifier = site := by
  have source := children_declaration_source kind clause s rest start
  constructor
  · intro names
    cases names with
    | declaration place denotes =>
      cases place.symm.trans source
      exact ⟨_, denotes, rfl⟩
    | call static _ _ => cases static
  · rintro ⟨specifier, denotes, same⟩
    cases same
    exact .declaration source denotes

theorem names_call_iff {l : Located} {argument : Node} {site : ImportSite}
    (static : l.node.isStaticRequire = true) (first : l.node.firstArgument? = some argument) :
    l.Names site ↔ ∃ specifier, argument.value = .ok specifier ∧
      siteAt .requiring l.start specifier = site := by
  constructor
  · intro names
    cases names with
    | declaration _ _ => cases static
    | call _ first' denotes =>
      cases first'.symm.trans first
      exact ⟨_, denotes, rfl⟩
  · rintro ⟨specifier, denotes, same⟩
    cases same
    exact .call static first denotes

theorem map_some_eq_ok_iff {ε α β : Type} {outcome : Except ε α} {f : α → β} {found : Option β} :
    (outcome.map fun a => some (f a)) = .ok found ↔
      ∃ b, found = some b ∧ ∃ a, outcome = .ok a ∧ f a = b := by
  cases outcome with
  | error e => simp [Except.map]
  | ok a => simp [Except.map, eq_comm]

theorem site?_eq_ok_iff {l : Located} (naming : l.node.namesModule = true)
    {found : Option ImportSite} :
    l.site? = .ok found ↔ ∃ site, found = some site ∧ l.Names site := by
  rcases namesModule_cases naming with ⟨kind, clause, s, rest, declares⟩ | ⟨before, s, requires⟩
  · obtain ⟨node, start⟩ := l
    cases declares
    simp only [names_declaration_iff]
    rw [site?_declaration, map_some_eq_ok_iff]
  · have static := requires.isStaticRequire
    obtain ⟨argument, isFirst⟩ : ∃ argument, l.node.firstArgument? = some argument := by
      rw [requires.firstArgument?]
      cases before <;> exact ⟨_, rfl⟩
    simp only [names_call_iff static isFirst]
    rw [site?_of_isStaticRequire static isFirst, map_some_eq_ok_iff]

/-! ## The sites of a row -/

theorem sitesOf_cons_eq_ok_iff {l : Located} {rest : List Located} {sites : List ImportSite} :
    sitesOf (l :: rest) = .ok sites ↔
      ∃ here later, l.site? = .ok here ∧ sitesOf rest = .ok later ∧
        sites = here.toList ++ later := by
  rw [sitesOf]
  cases l.site? with
  | error e => simp [bind, Except.bind]
  | ok here =>
    cases sitesOf rest with
    | error e => simp [bind, Except.bind]
    | ok later => simp [bind, Except.bind, pure, Except.pure, eq_comm]

/-- The sites of some nodes are those of the nodes among them that name modules, one for each and in
    the same order. -/
theorem sitesOf_eq_ok_iff {nodes : List Located} {sites : List ImportSite} :
    sitesOf nodes = .ok sites ↔
      List.Forall₂ Located.Names (nodes.filter fun l => l.node.namesModule) sites := by
  induction nodes generalizing sites with
  | nil => simp [sitesOf, eq_comm]
  | cons l rest ih =>
    rw [sitesOf_cons_eq_ok_iff]
    cases naming : l.node.namesModule with
    | false =>
      have dropped : (l :: rest).filter (fun l => l.node.namesModule) =
          rest.filter fun l => l.node.namesModule := List.filter_cons_of_neg (by simp [naming])
      rw [dropped, ← ih, site?_of_not_namesModule naming]
      simp
    | true =>
      have kept : (l :: rest).filter (fun l => l.node.namesModule) =
          l :: rest.filter fun l => l.node.namesModule := List.filter_cons_of_pos naming
      rw [kept, List.forall₂_cons_left_iff]
      simp only [site?_eq_ok_iff naming, ih]
      constructor
      · rintro ⟨_, later, ⟨site, rfl, names⟩, others, rfl⟩
        exact ⟨site, later, names, others, rfl⟩
      · rintro ⟨site, later, names, others, rfl⟩
        exact ⟨some site, later, ⟨site, rfl, names⟩, others, rfl⟩

/-! ## When there are sites -/

/-- A static call reads its literal exactly if no comment stands before it. -/
theorem Node.Requires.reads_iff {node : Node} {before : List Node} {s t : StringLiteral}
    (requires : node.Requires before s) : node.Reads t ↔ before = [] ∧ t = s := by
  constructor
  · intro reads
    cases reads with
    | source => cases requires
    | argument alone =>
      have first := alone.firstArgument?.symm.trans requires.firstArgument?
      cases before with
      | nil => cases first; exact ⟨rfl, rfl⟩
      | cons comment others =>
        cases first
        cases requires.comments _ List.mem_cons_self
  · rintro ⟨rfl, rfl⟩
    exact .argument requires

theorem Node.Reads.namesModule {node : Node} {s : StringLiteral} (reads : node.Reads s) :
    node.namesModule = true := by
  cases reads with
  | source => rfl
  | argument requires => exact namesModule_of_isStaticRequire requires.isStaticRequire

/-- A node that names a module has a site exactly if the literal it reads has a value. -/
theorem exists_names_iff {l : Located} (naming : l.node.namesModule = true) :
    (∃ site, l.Names site) ↔ ∀ s, l.node.Reads s → ∃ value, s.value = .ok value := by
  rcases namesModule_cases naming with ⟨kind, clause, s, rest, declares⟩ | ⟨before, s, requires⟩
  · obtain ⟨node, start⟩ := l
    cases declares
    simp only [names_declaration_iff]
    constructor
    · rintro ⟨site, value, denotes, -⟩ t reads
      cases reads with
      | source => exact ⟨value, denotes⟩
      | argument requires => cases requires
    · intro denotes
      obtain ⟨value, denotes⟩ := denotes s .source
      exact ⟨_, value, denotes, rfl⟩
  · have static := requires.isStaticRequire
    have first := requires.firstArgument?
    constructor
    · rintro ⟨site, names⟩ t reads
      obtain ⟨rfl, rfl⟩ := requires.reads_iff.1 reads
      obtain ⟨value, denotes, -⟩ := (names_call_iff static first).1 names
      exact ⟨value, denotes⟩
    · intro denotes
      cases before with
      | nil =>
        obtain ⟨value, denotes⟩ := denotes s (.argument requires)
        exact ⟨_, .call static first denotes⟩
      | cons comment others =>
        -- The literal is not read: a comment always has a value.
        have isComment := requires.comments comment List.mem_cons_self
        exact ⟨_, .call static first (value_of_isComment isComment)⟩

/-- Some nodes have their sites exactly if every literal that one of them reads has a value. -/
theorem sitesOf_answers_iff {nodes : List Located} :
    (∃ sites, sitesOf nodes = .ok sites) ↔
      ∀ l ∈ nodes, ∀ s, l.node.Reads s → ∃ value, s.value = .ok value := by
  simp only [sitesOf_eq_ok_iff, exists_forall₂_iff, List.mem_filter]
  constructor
  · intro named l visited s reads
    have naming := reads.namesModule
    exact (exists_names_iff naming).1 (named l ⟨visited, naming⟩) s reads
  · rintro denotes l ⟨visited, naming⟩
    exact (exists_names_iff naming).2 (denotes l visited)

/-! ## Values of literals -/

theorem Node.Reads.mem_children {node : Node} {s : StringLiteral} (reads : node.Reads s) :
    Node.string s ∈ node.children := by
  cases reads with
  | source => simp [Node.children]
  | argument requires => exact requires.literal_mem_children

/-- The characters of a piece that is an escape. -/
def StringPart.escape? : StringPart → Option (List Char)
  | .escape sequence => some sequence
  | .fragment _ => none

/-- The escapes of a literal. -/
def StringLiteral.escapes (s : StringLiteral) : List (List Char) :=
  s.parts.filterMap StringPart.escape?

/-- The escapes of a node that is a literal. -/
def Node.escapes : Node → List (List Char)
  | .string s => s.escapes
  | _ => []

theorem value_answers_iff {s : StringLiteral} :
    (∃ value, s.value = .ok value) ↔ ∀ sequence ∈ s.escapes, Escape.Decodes sequence := by
  obtain ⟨quote, parts⟩ := s
  simp only [StringLiteral.value, StringLiteral.escapes]
  induction parts with
  | nil => simp [partsValue]
  | cons part parts ih =>
    cases part with
    | fragment chars =>
      rw [List.filterMap_cons_none (f := StringPart.escape?) rfl, ← ih, partsValue]
      cases partsValue parts <;> simp [bind, Except.bind, pure, Except.pure]
    | escape sequence =>
      rw [List.filterMap_cons_some (f := StringPart.escape?) (b := sequence) rfl,
        List.forall_mem_cons, ← ih, partsValue, Escape.Decodes]
      cases Escape.decode (Text.ofChars sequence) with
      | error e => simp [bind, Except.bind]
      | ok text => cases partsValue parts <;> simp [bind, Except.bind, pure, Except.pure]

/-! ## The sites of static calls -/

theorem Located.Names.isStaticRequire_iff {l : Located} {site : ImportSite}
    (names : l.Names site) : l.node.isStaticRequire = true ↔ site.kind = .requiring := by
  cases names with
  | call static _ _ => exact ⟨fun _ => rfl, fun _ => static⟩
  | @declaration kind _ _ _ _ _ _ _ _ =>
    constructor
    · intro static
      cases static
    · intro requiring
      cases kind <;> cases requiring

theorem filter_namesModule_isStaticRequire (nodes : List Located) :
    (nodes.filter fun l => l.node.namesModule).filter (fun l => l.node.isStaticRequire) =
      nodes.filter fun l => l.node.isStaticRequire := by
  rw [List.filter_filter]
  apply List.filter_congr
  intro l _
  cases static : l.node.isStaticRequire with
  | false => rfl
  | true => exact namesModule_of_isStaticRequire static

/-- The sites of kind `requiring` are those of the static calls. -/
theorem forall₂_names_requiring {nodes : List Located} {sites : List ImportSite}
    (names : List.Forall₂ Located.Names (nodes.filter fun l => l.node.namesModule) sites) :
    List.Forall₂ (fun l site => l.node.isStaticRequire = true ∧ l.Names site)
      (nodes.filter fun l => l.node.isStaticRequire)
      (sites.filter fun site => site.kind = .requiring) := by
  have requiring := List.rel_filter (R := Located.Names)
    (p := fun l => l.node.isStaticRequire) (q := fun site => site.kind = .requiring)
    (fun _ _ names => by simpa using names.isStaticRequire_iff) names
  rw [filter_namesModule_isStaticRequire] at requiring
  rw [List.forall₂_and_left]
  exact ⟨fun l member => (List.mem_filter.1 member).2, requiring⟩

theorem Located.Names.eq_siteAt {l : Located} {site : ImportSite} (names : l.Names site)
    {argument : Node} (static : l.node.isStaticRequire = true)
    (first : l.node.firstArgument? = some argument) {specifier : Text}
    (denotes : argument.value = .ok specifier) : site = siteAt .requiring l.start specifier := by
  obtain ⟨specifier', denotes', rfl⟩ := (names_call_iff static first).1 names
  cases denotes.symm.trans denotes'
  rfl

end ImportPolicy.Script
