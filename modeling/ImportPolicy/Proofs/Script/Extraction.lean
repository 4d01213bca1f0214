import ImportPolicy.Proofs.Script.DocumentOrder
import ImportPolicy.Proofs.Script.Sites
import ImportPolicy.Script.Grammar

/-! # The sites of a source

* `escapesIn` — the escapes of the literals of some trees.
* `importSites_documentOrder` — the sites are those of the nodes that name modules, in document
  order.
* `importSites_requiring` — the specifier of each static call of `require`.
* `importSites_answers_iff` — a source has sites unless a literal that is read holds an escape whose
  number is too large. -/

namespace ImportPolicy.Script

/-- The escapes of the literals of some trees. -/
def escapesIn (trees : List Node) : List (List Char) :=
  (walk (locate .start trees)).flatMap fun l => l.node.escapes

theorem mem_locate_of_mem {p : Position} {nodes : List Node} {node : Node} (member : node ∈ nodes) :
    ∃ place, Located.mk node place ∈ locate p nodes := by
  rw [← map_node_locate p nodes] at member
  obtain ⟨⟨_, place⟩, located, rfl⟩ := List.mem_map.1 member
  exact ⟨place, located⟩

theorem mem_escapesIn {trees : List Node} {l : Located}
    (visited : l ∈ walk (locate .start trees)) {s : StringLiteral}
    (child : Node.string s ∈ l.node.children) {sequence : List Char}
    (member : sequence ∈ s.escapes) : sequence ∈ escapesIn trees := by
  obtain ⟨place, located⟩ := mem_locate_of_mem (p := l.start) child
  exact List.mem_flatMap.2 ⟨_, child_mem_walk visited located, member⟩

theorem value_child {trees : List Node}
    (decodes : ∀ sequence ∈ escapesIn trees, Escape.Decodes sequence) {l : Located}
    (visited : l ∈ walk (locate .start trees)) {s : StringLiteral}
    (child : Node.string s ∈ l.node.children) : ∃ value, s.value = .ok value :=
  value_answers_iff.2 fun sequence member => decodes sequence (mem_escapesIn visited child member)

theorem importSites_of_decodes {trees : List Node}
    (decodes : ∀ sequence ∈ escapesIn trees, Escape.Decodes sequence) :
    ∃ sites, importSites trees = .ok sites :=
  sitesOf_answers_iff.2 fun _ visited _ reads => value_child decodes visited reads.mem_children

/-- Modules named beside and inside one another. -/
def nestedSites : List Node :=
  parse .javascript
    ("import a from './a';\n".toList ++
      "f(require('\\x62'), () => \x7b require('c')(require(/* d */ 'd')) \x7d)".toList)

theorem nestedSites_decodes : ∀ sequence ∈ escapesIn nestedSites, Escape.Decodes sequence := by
  decide +kernel

/-! ## Which sites there are -/

/-- The sites of a source whose escapes decode: the walk meets all nodes in document order, and each
    node that names a module has one site, in this order, and there are no others. The sites of kind
    `requiring` stand where the static calls do. -/
theorem importSites_documentOrder (trees : List Node)
    (decodes : ∀ sequence ∈ escapesIn trees, Escape.Decodes sequence) :
    InDocumentOrder (locate .start trees) (walk (locate .start trees)) ∧
    walk (locate .start trees) = preorder (locate .start trees) ∧
    ∃ sites, importSites trees = .ok sites ∧
      List.Forall₂ Located.Names
        ((walk (locate .start trees)).filter fun l => l.node.namesModule) sites ∧
      (sites.filter fun site => site.kind = .requiring).map (fun site => (site.line, site.column)) =
        (staticRequires trees).map fun p => ((p.line : Int), (p.column : Int)) := by
  obtain ⟨sites, found⟩ := importSites_of_decodes decodes
  have names := sitesOf_eq_ok_iff.1 found
  refine ⟨walk_inDocumentOrder _, walk_eq_preorder _, sites, found, names, ?_⟩
  rw [staticRequires, List.map_map, eq_comm, ← List.forall₂_eq_eq_eq, List.forall₂_map_left_iff,
    List.forall₂_map_right_iff]
  apply (forall₂_names_requiring names).imp
  rintro l site ⟨static, names⟩
  cases names with
  | declaration _ _ => cases static
  | call _ _ _ => rfl

theorem nestedSites_documentOrder :
    (∀ sequence ∈ escapesIn nestedSites, Escape.Decodes sequence) ∧
    InDocumentOrder (locate .start nestedSites) (walk (locate .start nestedSites)) ∧
    walk (locate .start nestedSites) = preorder (locate .start nestedSites) ∧
    ∃ sites, importSites nestedSites = .ok sites ∧
      List.Forall₂ Located.Names
        ((walk (locate .start nestedSites)).filter fun l => l.node.namesModule) sites ∧
      (sites.filter fun site => site.kind = .requiring).map (fun site => (site.line, site.column)) =
        (staticRequires nestedSites).map fun p => ((p.line : Int), (p.column : Int)) :=
  ⟨nestedSites_decodes, importSites_documentOrder nestedSites nestedSites_decodes⟩

/-! ## Specifiers of static calls -/

/-- The site of each static call of a source whose escapes decode. Its specifier is the value of the
    literal if no comment stands before the literal. -/
theorem importSites_requiring (trees : List Node)
    (decodes : ∀ sequence ∈ escapesIn trees, Escape.Decodes sequence) :
    ∃ sites, importSites trees = .ok sites ∧
      List.Forall₂
        (fun l site => ∃ before s value, l.node.Requires before s ∧ s.value = .ok value ∧
          site = siteAt .requiring l.start (specifierBehind before value))
        ((walk (locate .start trees)).filter fun l => l.node.isStaticRequire)
        (sites.filter fun site => site.kind = .requiring) := by
  obtain ⟨sites, found⟩ := importSites_of_decodes decodes
  have paired := forall₂_names_requiring (sitesOf_eq_ok_iff.1 found)
  refine ⟨sites, found, ?_⟩
  -- Only a visited call has a literal whose escapes are known to decode.
  have visited : ∀ l ∈ (walk (locate .start trees)).filter (fun l => l.node.isStaticRequire),
      l ∈ walk (locate .start trees) := fun _ member => (List.mem_filter.1 member).1
  apply ((List.forall₂_and_left _ _).2 ⟨visited, paired⟩).imp
  rintro l site ⟨visited, static, names⟩
  obtain ⟨before, s, requires⟩ := Node.isStaticRequire_iff.1 static
  obtain ⟨value, denotes⟩ := value_child decodes visited requires.literal_mem_children
  obtain ⟨argument, first, specifier⟩ := requires.value_firstArgument denotes
  exact ⟨before, s, value, requires, denotes, names.eq_siteAt static first specifier⟩

theorem nestedSites_requiring :
    (∀ sequence ∈ escapesIn nestedSites, Escape.Decodes sequence) ∧
    ∃ sites, importSites nestedSites = .ok sites ∧
      List.Forall₂
        (fun l site => ∃ before s value, l.node.Requires before s ∧ s.value = .ok value ∧
          site = siteAt .requiring l.start (specifierBehind before value))
        ((walk (locate .start nestedSites)).filter fun l => l.node.isStaticRequire)
        (sites.filter fun site => site.kind = .requiring) :=
  ⟨nestedSites_decodes, importSites_requiring nestedSites nestedSites_decodes⟩

/-- The comment before the literal of `commentedCall`. -/
def leadingComment : Node := .leaf ⟨.comment, "/* c */".toList⟩

/-- A call of `require` with a comment before its literal. -/
def commentedCall : Node :=
  .call (.leaf ⟨.identifier, "require".toList⟩) []
    [.leaf ⟨.mark, ['(']⟩, leadingComment, .leaf ⟨.blank, [' ']⟩,
      .string ⟨'\'', [.fragment ['a']]⟩, .leaf ⟨.mark, [')']⟩]

/-- The literal of a static call is `a`, but the specifier is the inside of the comment. -/
theorem commentedCall_specifier :
    parse .javascript "require(/* c */ 'a')".toList = [commentedCall] ∧
    commentedCall.Requires [leadingComment] ⟨'\'', [.fragment ['a']]⟩ ∧
    StringLiteral.value ⟨'\'', [.fragment ['a']]⟩ = .ok "a" ∧
    importSites [commentedCall] = .ok [⟨"* c *", .requiring, 1, 1⟩] := by
  have named : (commentedCall.children.drop 1).filter Node.isNamed =
      [leadingComment] ++ .string ⟨'\'', [.fragment ['a']]⟩ :: [] := rfl
  exact ⟨rfl, .call named (by decide), by decide +kernel, by decide +kernel⟩

/-! ## When there are sites -/

/-- Every accepted escape has a text, but for a number in braces that is too large, and a source has
    its sites unless a literal that is read holds such an escape. -/
theorem importSites_answers_iff (trees : List Node)
    (accepted : ∀ sequence ∈ escapesIn trees, Escape.Accepted sequence) :
    (∀ sequence, Escape.Accepted sequence →
      (Escape.Decodes sequence ↔ ¬ Escape.TooLarge sequence)) ∧
    ((∃ sites, importSites trees = .ok sites) ↔
      ∀ l ∈ walk (locate .start trees), ∀ s, l.node.Reads s →
        ∀ sequence ∈ s.escapes, ¬ Escape.TooLarge sequence) := by
  refine ⟨fun _ => Escape.decodes_iff_not_tooLarge, ?_⟩
  rw [importSites, sitesOf_answers_iff]
  simp only [value_answers_iff]
  constructor
  · intro decodes l visited s reads sequence member tooLarge
    exact tooLarge.not_decodes (decodes l visited s reads sequence member)
  · intro fits l visited s reads sequence member
    have isAccepted := accepted sequence (mem_escapesIn visited reads.mem_children member)
    exact (Escape.decodes_iff_not_tooLarge isAccepted).2 (fits l visited s reads sequence member)

/-- A number that is too large where nothing reads it, and the greatest one that is not. -/
def greatNumbers : List Node :=
  parse .javascript "f('\\u\x7b80000000\x7d', require('\\u\x7b7fffFFFF\x7d'))".toList

theorem greatNumbers_accepted : ∀ sequence ∈ escapesIn greatNumbers, Escape.Accepted sequence := by
  have escapes : escapesIn greatNumbers =
      ['\\' :: NumberForm.braces.body "80000000".toList,
        '\\' :: NumberForm.braces.body "7fffFFFF".toList] := by decide +kernel
  intro sequence member
  rw [escapes] at member
  rcases List.mem_pair.1 member with rfl | rfl
  · exact .number ⟨List.all_eq_true.1 rfl, by decide⟩
  · exact .number ⟨List.all_eq_true.1 rfl, by decide⟩

theorem greatNumbers_answers_iff :
    (∀ sequence ∈ escapesIn greatNumbers, Escape.Accepted sequence) ∧
    (∀ sequence, Escape.Accepted sequence →
      (Escape.Decodes sequence ↔ ¬ Escape.TooLarge sequence)) ∧
    ((∃ sites, importSites greatNumbers = .ok sites) ↔
      ∀ l ∈ walk (locate .start greatNumbers), ∀ s, l.node.Reads s →
        ∀ sequence ∈ s.escapes, ¬ Escape.TooLarge sequence) :=
  ⟨greatNumbers_accepted, importSites_answers_iff greatNumbers greatNumbers_accepted⟩

/-- An accepted escape has no text, and a call that reads it leaves a source without sites. -/
theorem decode_tooLarge_fails :
    Escape.Accepted ('\\' :: NumberForm.braces.body "80000000".toList) ∧
    Escape.decode (Text.ofChars ('\\' :: NumberForm.braces.body "80000000".toList)) =
      .error .numberTooLarge ∧
    importSites (parse .javascript "require('\\u\x7b80000000\x7d')".toList) =
      .error .numberTooLarge :=
  ⟨.number ⟨List.all_eq_true.1 rfl, by decide⟩, by decide +kernel, by decide +kernel⟩

end ImportPolicy.Script
