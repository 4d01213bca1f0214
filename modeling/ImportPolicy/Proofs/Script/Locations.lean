import ImportPolicy.Proofs.Script.Columns
import ImportPolicy.Proofs.Script.Extraction

/-! # Where sites stand

A visited node stands where its text does, so that the site of an import or export stands at the
literal that is its source and that of a call of `require` at this name. What is inside a node or
follows it and names a module stands behind the place where the node names its own.

* `row_induction` — the induction over rows of nodes and what is inside them.
* `start_of_mem_preorder` — where the text of a visited node stands.
* `Node.exists_silent_children` — what a node that names a module starts with.
* `pairwise_place` — the places of the nodes that name modules increase.
* `importSites_locations` — what stands where the sites of a source are said to be. -/

namespace ImportPolicy.Script

/-! ## Where nodes stand -/

theorem Position.eq_or_before_after (p : Position) (text : List Char) :
    p.after text = p ∨ p.Before (p.after text) := by
  by_cases empty : text = []
  · exact .inl (by rw [empty, after_nil])
  · exact .inr (before_after p empty)

theorem preorder_locate_nil (p : Position) : preorder (locate p []) = [] := by
  rw [locate, preorder]

theorem preorder_locate_cons (p : Position) (node : Node) (nodes : List Node) :
    preorder (locate p (node :: nodes)) =
      ⟨node, p⟩ :: (preorder (locate p node.children) ++
        preorder (locate (p.after node.text) nodes)) := by
  rw [locate, preorder, Located.children]

/-- What holds of a row, as soon as it holds of what is inside its first node and of the nodes behind
    that one, holds of every row wherever it stands. -/
@[elab_as_elim]
theorem row_induction {motive : Position → List Node → Prop} (empty : ∀ p, motive p [])
    (node : ∀ p node nodes, motive p node.children → motive (p.after node.text) nodes →
      motive p (node :: nodes))
    (p : Position) (nodes : List Node) : motive p nodes := by
  generalize isRow : locate p nodes = row
  fun_induction preorder row generalizing p nodes with
  | case1 =>
    cases nodes with
    | nil => exact empty p
    | cons first nodes => cases isRow
  | case2 l rest inside behind =>
    cases nodes with
    | nil => exact empty p
    | cons first nodes =>
      obtain ⟨rfl, rfl⟩ := List.cons.inj isRow
      exact node p first nodes (inside p _ rfl) (behind _ nodes rfl)

/-- A visited node stands behind the text before it. -/
theorem start_of_mem_preorder {p : Position} {nodes : List Node} {l : Located}
    (visited : l ∈ preorder (locate p nodes)) :
    ∃ front back, textOf nodes = front ++ (l.node.text ++ back) ∧ l.start = p.after front := by
  induction p, nodes using row_induction with
  | empty p => simp [preorder_locate_nil] at visited
  | node p node nodes inside behind =>
    rw [preorder_locate_cons, List.mem_cons, List.mem_append] at visited
    rcases visited with rfl | below | after
    · exact ⟨[], textOf nodes, by simp, rfl⟩
    · obtain ⟨front, back, whole, start⟩ := inside below
      have someChildren : node.children ≠ [] := by
        intro none
        simp [none, preorder_locate_nil] at below
      rw [Node.textOf_children node someChildren] at whole
      exact ⟨front, back ++ textOf nodes, by simp [whole], start⟩
    · obtain ⟨front, back, whole, start⟩ := behind after
      exact ⟨node.text ++ front, back, by simp [whole], by simp [start]⟩

/-! ## Where nodes name modules -/

/-- The text of a node before the place where it names a module: the words and marks before the
    source of a declaration. -/
def Node.lead : Node → List Char
  | .declaration _ clause (some _) _ => clause.flatMap Leaf.text
  | _ => []

/-- What stands at this place: the literal that is the source, or the name `require`. -/
def Node.mark : Node → List Char
  | .declaration _ _ (some s) _ => s.text
  | _ => "require".toList

/-- The place where a node names a module. -/
def Located.place (l : Located) : Position := l.start.after l.node.lead

theorem Node.mark_ne_nil (node : Node) : node.mark ≠ [] := by
  unfold mark
  split <;> simp [StringLiteral.text]

/-- A node that has no children and names no module. -/
structure Node.IsSilent (node : Node) : Prop where
  childless : node.children = []
  names : node.namesModule = false

/-- A node that names a module starts with nodes that have no part in other sites. They hold what
    stands before the place where it does, and what stands there. -/
theorem Node.exists_silent_children {node : Node} (naming : node.namesModule = true) :
    ∃ silent others back, node.children = silent ++ others ∧
      (∀ child ∈ silent, child.IsSilent) ∧
      textOf silent = node.lead ++ (node.mark ++ back) := by
  rcases namesModule_cases (l := ⟨node, .start⟩) naming with
    ⟨kind, clause, s, rest, rfl⟩ | ⟨before, s, requires⟩
  · refine ⟨clause.map .leaf ++ [.string s], rest, [], by simp [children], ?_, ?_⟩
    · intro child member
      rcases List.mem_append.1 member with member | member
      · obtain ⟨leaf, -, rfl⟩ := List.mem_map.1 member
        exact ⟨rfl, rfl⟩
      · obtain rfl := List.mem_singleton.1 member
        exact ⟨rfl, rfl⟩
    · simp [textOf_map_leaf, lead, mark, Node.text]
  · cases requires with
    | @call between arguments before after s named comments =>
      refine ⟨[.leaf ⟨.identifier, "require".toList⟩], between ++ arguments, [], rfl, ?_, ?_⟩
      · intro child member
        obtain rfl := List.mem_singleton.1 member
        exact ⟨rfl, rfl⟩
      · simp [lead, mark, Node.text]

theorem Node.exists_text {node : Node} (naming : node.namesModule = true) :
    ∃ back, node.text = node.lead ++ (node.mark ++ back) := by
  obtain ⟨silent, others, back, children, -, text⟩ := exists_silent_children naming
  have someChildren : node.children ≠ [] := by
    intro none
    rw [none, eq_comm, List.append_eq_nil_iff] at children
    simp [children.1, mark_ne_nil] at text
  exact ⟨back ++ textOf others, by simp [← textOf_children node someChildren, children, text]⟩

/-- What a visited node names a module with stands in the source at its place. -/
theorem place_of_mem_preorder {p : Position} {nodes : List Node} {l : Located}
    (visited : l ∈ preorder (locate p nodes)) (naming : l.node.namesModule = true) :
    ∃ front back, textOf nodes = front ++ (l.node.mark ++ back) ∧ l.place = p.after front := by
  obtain ⟨front, back, whole, start⟩ := start_of_mem_preorder visited
  obtain ⟨more, text⟩ := Node.exists_text naming
  refine ⟨front ++ l.node.lead, more ++ back, by simp [whole, text], ?_⟩
  rw [Located.place, start, Position.after_append]

/-! ## Places increase -/

section

variable {p : Position} {nodes : List Node} {l : Located}

theorem eq_or_before_place (visited : l ∈ preorder (locate p nodes))
    (naming : l.node.namesModule = true) : l.place = p ∨ p.Before l.place := by
  obtain ⟨front, back, -, place⟩ := place_of_mem_preorder visited naming
  rw [place]
  exact p.eq_or_before_after front

theorem place_before_end (visited : l ∈ preorder (locate p nodes))
    (naming : l.node.namesModule = true) : l.place.Before (p.after (textOf nodes)) := by
  obtain ⟨front, back, whole, place⟩ := place_of_mem_preorder visited naming
  rw [place, whole, Position.after_append]
  exact Position.before_after _ (by simp [l.node.mark_ne_nil])

/-- What names a module in a row behind some position does so behind it. -/
theorem before_place {q : Position} (ahead : q.Before p) (visited : l ∈ preorder (locate p nodes))
    (naming : l.node.namesModule = true) : q.Before l.place := by
  rcases eq_or_before_place visited naming with same | behind
  · rwa [same]
  · exact ahead.trans behind

theorem not_names_of_silent (silent : ∀ node ∈ nodes, node.IsSilent)
    (visited : l ∈ preorder (locate p nodes)) : l.node.namesModule = false := by
  induction nodes generalizing p with
  | nil => simp [preorder_locate_nil] at visited
  | cons node nodes inductionHypothesis =>
    rw [List.forall_mem_cons] at silent
    rw [preorder_locate_cons, silent.1.childless, preorder_locate_nil, List.nil_append] at visited
    rcases List.mem_cons.1 visited with rfl | visited
    · exact silent.1.names
    · exact inductionHypothesis silent.2 visited

/-- What is inside a node that names a module and names one itself does so behind its place. -/
theorem place_before_inside {inner : Located} (naming : l.node.namesModule = true)
    (inside : inner ∈ preorder l.children) (names : inner.node.namesModule = true) :
    l.place.Before inner.place := by
  obtain ⟨silent, others, back, children, isSilent, text⟩ := Node.exists_silent_children naming
  rw [Located.children, children, locate_append, preorder_append, text] at inside
  rcases List.mem_append.1 inside with inside | inside
  · simp [not_names_of_silent isSilent inside] at names
  · apply before_place _ inside names
    rw [Position.after_append, ← Located.place]
    exact Position.before_after _ (by simp [l.node.mark_ne_nil])

theorem pairwise_place (p : Position) (nodes : List Node) :
    ((preorder (locate p nodes)).filter fun l => l.node.namesModule).Pairwise
      fun first second => first.place.Before second.place := by
  rw [List.pairwise_filter]
  induction p, nodes using row_induction with
  | empty p =>
    rw [preorder_locate_nil]
    exact List.Pairwise.nil
  | node p node nodes inside behind =>
    -- What is inside the first node or names a module by it does so before the node ends.
    have within : ∀ l ∈ preorder (locate p [node]), l.node.namesModule = true →
        l.place.Before (p.after node.text) := by
      intro l visited naming
      simpa using place_before_end visited naming
    rw [preorder_locate_cons, preorder_locate_nil, List.append_nil, List.forall_mem_cons] at within
    rw [preorder_locate_cons, List.pairwise_cons, List.pairwise_append]
    refine ⟨?_, inside, behind, ?_⟩
    · intro l visited naming names
      rcases List.mem_append.1 visited with below | after
      · exact place_before_inside naming below names
      · exact before_place (within.1 naming) after names
    · intro l below l' after naming names
      exact before_place (within.2 l below naming) after names

end

/-! ## Sites -/

/-- A site of a node is right in a source. The site of a declaration has the value of its source, and
    this literal stands there with its quote first; at that of a static call stands the name
    `require`. -/
inductive Located.PointsInto (source : List Char) : Located → ImportSite → Prop where
  | declaration {kind : DeclarationKind} {clause : List Leaf} {s : StringLiteral}
      {rest : List Node} {start : Position} {site : ImportSite} (isKind : site.kind = kind.importKind)
      (denotes : s.value = .ok site.specifier)
      (stands : StandsAt source s.text site.line site.column) :
      PointsInto source ⟨.declaration kind clause (some s) rest, start⟩ site
  | call {l : Located} {site : ImportSite} (static : l.node.isStaticRequire = true)
      (isKind : site.kind = .requiring)
      (stands : StandsAt source "require".toList site.line site.column) : PointsInto source l site

/-- One site stands before another in a source. -/
def ImportSite.Before (first second : ImportSite) : Prop :=
  first.line < second.line ∨ first.line = second.line ∧ first.column < second.column

theorem Node.mark_of_isStaticRequire {node : Node} (static : node.isStaticRequire = true) :
    node.lead = [] ∧ node.mark = "require".toList := by
  cases node with
  | declaration kind clause source rest => cases static
  | leaf l => exact ⟨rfl, rfl⟩
  | string s => exact ⟨rfl, rfl⟩
  | call callee between arguments => exact ⟨rfl, rfl⟩
  | group kind children => exact ⟨rfl, rfl⟩

theorem Located.Names.place {l : Located} {site : ImportSite} (names : l.Names site) :
    site.line = l.place.line ∧ site.column = l.place.column := by
  cases names with
  | @declaration kind clause s rest start place specifier isSource denotes =>
    cases isSource.symm.trans (children_declaration_source kind clause s rest start)
    exact ⟨rfl, rfl⟩
  | call static first denotes =>
    rw [Located.place, (Node.mark_of_isStaticRequire static).1]
    exact ⟨rfl, rfl⟩

theorem Located.Names.pointsInto {source : List Char} {l : Located} {site : ImportSite}
    (names : l.Names site) (stands : StandsAt source l.node.mark site.line site.column) :
    l.PointsInto source site := by
  cases names with
  | declaration isSource denotes => exact .declaration rfl denotes stands
  | call static first denotes =>
    rw [(Node.mark_of_isStaticRequire static).2] at stands
    exact .call static rfl stands

theorem standsAt_place {source : List Char} {nodes : List Node} {l : Located}
    (whole : textOf nodes = source) (visited : l ∈ preorder (locate .start nodes))
    (naming : l.node.namesModule = true) :
    StandsAt source l.node.mark l.place.line l.place.column := by
  obtain ⟨front, back, text, place⟩ := place_of_mem_preorder visited naming
  rw [← whole, text, place]
  exact standsAt_after front l.node.mark back

/-- The sites of nodes whose places increase stand one behind another. -/
theorem pairwise_before {nodes : List Located} {sites : List ImportSite}
    (names : List.Forall₂ Located.Names nodes sites)
    (increasing : nodes.Pairwise fun first second => first.place.Before second.place) :
    sites.Pairwise ImportSite.Before := by
  have keys : sites.map (fun site => (site.line, site.column)) =
      nodes.map fun l => ((l.place.line : Int), (l.place.column : Int)) := by
    rw [eq_comm, ← List.forall₂_eq_eq_eq, List.forall₂_map_left_iff, List.forall₂_map_right_iff]
    exact names.imp fun l site names => by rw [names.place.1, names.place.2]
  have sorted : (sites.map fun site => (site.line, site.column)).Pairwise
      fun first second => first.1 < second.1 ∨ first.1 = second.1 ∧ first.2 < second.2 := by
    rw [keys, List.pairwise_map]
    apply increasing.imp
    intro first second before
    unfold Position.Before at before
    dsimp only
    omega
  rwa [List.pairwise_map] at sorted

theorem ImportSite.Before.ne {first second : ImportSite} (before : first.Before second) :
    (first.line, first.column) ≠ (second.line, second.column) := by
  intro same
  obtain ⟨line, column⟩ := Prod.mk.inj same
  unfold ImportSite.Before at before
  omega

/-- The sites of a source, one for each node that names a module, stand at the literal that is the
    source of a declaration or at the name `require`. Each stands behind the ones before it, so that
    no two are at one place. -/
theorem importSites_locations (language : Language) (source : List Char) {sites : List ImportSite}
    (found : importSites (parse language source) = .ok sites) :
    List.Forall₂ (Located.PointsInto source)
      ((walk (locate .start (parse language source))).filter fun l => l.node.namesModule) sites ∧
    sites.Pairwise ImportSite.Before ∧
    (sites.map fun site => (site.line, site.column)).Nodup := by
  rw [importSites, sitesOf_eq_ok_iff] at found
  have increasing := pairwise_place .start (parse language source)
  rw [← walk_eq_preorder] at increasing
  have sorted := pairwise_before found increasing
  refine ⟨?_, sorted, ?_⟩
  · -- Only what the walk visits is known to stand in the source.
    have visited : ∀ l ∈ (walk (locate .start (parse language source))).filter
        (fun l => l.node.namesModule),
        l ∈ walk (locate .start (parse language source)) ∧ l.node.namesModule = true :=
      fun _ member => List.mem_filter.1 member
    apply ((List.forall₂_and_left _ _).2 ⟨visited, found⟩).imp
    rintro l site ⟨⟨visited, naming⟩, names⟩
    rw [walk_eq_preorder] at visited
    have stands := standsAt_place (textOf_parse language source) visited naming
    rw [← names.place.1, ← names.place.2] at stands
    exact names.pointsInto stands
  · rw [List.Nodup, List.pairwise_map]
    exact sorted.imp ImportSite.Before.ne

/-- Sites behind characters of several bytes, on lines that end in different ways and inside one
    another. -/
def scatteredSites : List Char :=
  "/* \u00e9 */ import a from './a';\r\nf('\u20ac', require('b'), () => \x7b\n  require('c') \x7d)".toList

theorem importSites_locations_scatteredSites :
    ∃ sites, importSites (parse .javascript scatteredSites) = .ok sites ∧
      sites.map (fun site => (site.line, site.column)) = [(1, 24), (2, 10), (3, 3)] ∧
      List.Forall₂ (Located.PointsInto scatteredSites)
        ((walk (locate .start (parse .javascript scatteredSites))).filter fun l =>
          l.node.namesModule) sites ∧
      sites.Pairwise ImportSite.Before ∧
      (sites.map fun site => (site.line, site.column)).Nodup := by
  have found : importSites (parse .javascript scatteredSites) =
      .ok [⟨"./a", .importing, 1, 24⟩, ⟨"b", .requiring, 2, 10⟩, ⟨"c", .requiring, 3, 3⟩] := by
    decide +kernel
  exact ⟨_, found, rfl, importSites_locations .javascript scatteredSites found⟩

end ImportPolicy.Script
