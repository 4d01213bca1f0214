import ImportPolicy.Script.Imports

/-! # Document order

The walk over a row of trees keeps a stack of pending nodes. It meets every node once, a node
before what is inside it and that before what follows the node.

* `preorder` — the nodes of a row as a recursion on the trees.
* `nodeAt?` — the node at an address.
* `visits` — the nodes of a row in document order, each with its address.
* `walk_eq_preorder` — the stack does what the recursion does.
* `visits_sorted`, `mem_visits_iff` — the addresses increase, and none is left out.
* `walk_inDocumentOrder` — the walk meets the nodes in document order. -/

namespace ImportPolicy.Script

theorem pendingSize_cons (l : Located) (rest : List Located) :
    pendingSize (l :: rest) = 1 + pendingSize l.children + pendingSize rest := by
  have children : pendingSize l.children = sizeOfNodes l.node.children := by
    rw [pendingSize, Located.children, map_node_locate]
  rw [children, pendingSize, List.map_cons, sizeOfNodes, l.node.size_eq]
  rfl

/-! ## The recursion -/

/-- The nodes of a row of trees: a node comes first, then what is inside it, then the rest of the
    row. -/
def preorder (row : List Located) : List Located :=
  match row with
  | [] => []
  | l :: rest => l :: (preorder l.children ++ preorder rest)
termination_by pendingSize row
decreasing_by all_goals rw [pendingSize_cons]; omega

theorem preorder_append (row more : List Located) :
    preorder (row ++ more) = preorder row ++ preorder more := by
  induction row with
  | nil => rw [preorder, List.nil_append, List.nil_append]
  | cons l rest ih =>
    rw [List.cons_append, preorder, ih, preorder, List.cons_append, List.append_assoc]

/-- The stack of pending nodes does what the recursion does. -/
theorem walk_eq_preorder (row : List Located) : walk row = preorder row := by
  fun_induction walk row with
  | case1 => rw [preorder]
  | case2 l rest ih => rw [ih, preorder_append, preorder]

theorem child_mem_walk {row : List Located} {l child : Located} (visited : l ∈ walk row)
    (inside : child ∈ l.children) : child ∈ walk row := by
  fun_induction walk row with
  | case1 => exact absurd visited List.not_mem_nil
  | case2 first rest ih =>
    cases visited with
    | tail _ later => exact List.mem_cons_of_mem _ (ih later)
    | head =>
      -- The children have just been put on the stack, so the walk meets them.
      obtain ⟨before, after, split⟩ := List.append_of_mem inside
      have met : child ∈ preorder (before ++ child :: after ++ rest) := by
        rw [List.append_assoc, preorder_append, List.cons_append, preorder]
        exact List.mem_append_right _ List.mem_cons_self
      rw [walk_eq_preorder, split]
      exact List.mem_cons_of_mem _ met

/-! ## Addresses -/

/-- The node at an address in a row: the first number picks a tree of the row, the next one a child
    of it, and so on. -/
def nodeAt? (row : List Located) : List Nat → Option Located
  | [] => none
  | [k] => row[k]?
  | k :: j :: address => row[k]?.bind fun l => nodeAt? l.children (j :: address)

/-- The nodes of a row in document order with their addresses, where the numbers of the row start
    at `k`. -/
def visits (k : Nat) (row : List Located) : List (List Nat × Located) :=
  match row with
  | [] => []
  | l :: rest =>
    ([k], l) :: ((visits 0 l.children).map (fun visit => (k :: visit.1, visit.2)) ++
      visits (k + 1) rest)
termination_by pendingSize row
decreasing_by all_goals rw [pendingSize_cons]; omega

theorem map_snd_visits (k : Nat) (row : List Located) :
    (visits k row).map Prod.snd = preorder row := by
  fun_induction visits k row with
  | case1 => rw [preorder, List.map_nil]
  | case2 k l rest inside after =>
    rw [preorder, List.map_cons, List.map_append, List.map_map, ← inside, ← after]
    rfl

/-- Every address of a row starts with a number of the row. -/
theorem address_of_mem_visits {k : Nat} {row : List Located} {visit : List Nat × Located}
    (member : visit ∈ visits k row) : ∃ j address, visit.1 = j :: address ∧ k ≤ j := by
  fun_induction visits k row with
  | case1 => exact absurd member List.not_mem_nil
  | case2 k l rest inside after =>
    rcases List.mem_cons.1 member with rfl | member
    · exact ⟨k, [], rfl, Nat.le_refl k⟩
    rcases List.mem_append.1 member with member | member
    · obtain ⟨below, -, rfl⟩ := List.mem_map.1 member
      exact ⟨k, below.1, rfl, Nat.le_refl k⟩
    · obtain ⟨j, address, starts, bound⟩ := after member
      exact ⟨j, address, starts, Nat.le_of_succ_le bound⟩

/-- Addresses increase along a row: a node's address comes before those of the nodes inside it, and
    these before the addresses of what follows. -/
theorem visits_sorted (k : Nat) (row : List Located) :
    ((visits k row).map Prod.fst).Pairwise (· < ·) := by
  fun_induction visits k row with
  | case1 => exact List.Pairwise.nil
  | case2 k l rest inside after =>
    have ahead : ∀ visit ∈ visits (k + 1) rest, ∀ address, k :: address < visit.1 := by
      intro visit member address
      obtain ⟨j, later, starts, bound⟩ := address_of_mem_visits member
      rw [starts, List.cons_lt_cons_iff]
      exact .inl bound
    rw [List.map_cons, List.map_append, List.map_map, List.pairwise_cons, List.pairwise_append]
    refine ⟨?_, ?_, after, ?_⟩
    · intro address member
      rcases List.mem_append.1 member with member | member
      · obtain ⟨below, isBelow, rfl⟩ := List.mem_map.1 member
        obtain ⟨j, deeper, starts, -⟩ := address_of_mem_visits isBelow
        simp only [Function.comp_apply, starts, List.cons_lt_cons_iff]
        exact .inr ⟨trivial, List.nil_lt_cons j deeper⟩
      · obtain ⟨visit, later, rfl⟩ := List.mem_map.1 member
        exact ahead visit later []
    · rw [List.pairwise_map] at inside ⊢
      exact inside.imp fun increasing => List.cons_lt_cons_iff.2 (.inr ⟨rfl, increasing⟩)
    · intro address member other otherMember
      obtain ⟨below, -, rfl⟩ := List.mem_map.1 member
      obtain ⟨visit, later, rfl⟩ := List.mem_map.1 otherMember
      exact ahead visit later below.1

theorem nil_not_mem_visits {k : Nat} {row : List Located} {l : Located} :
    ([], l) ∉ visits k row := by
  intro member
  obtain ⟨j, address, starts, -⟩ := address_of_mem_visits member
  exact absurd starts (List.cons_ne_nil j address).symm

theorem nodeAt?_zero (l : Located) (rest : List Located) {address : List Nat}
    (nonempty : address ≠ []) :
    nodeAt? (l :: rest) (0 :: address) = nodeAt? l.children address := by
  cases address with
  | nil => exact absurd rfl nonempty
  | cons j deeper => rfl

theorem nodeAt?_succ (l : Located) (rest : List Located) (i : Nat) (address : List Nat) :
    nodeAt? (l :: rest) ((i + 1) :: address) = nodeAt? rest (i :: address) := by
  cases address <;> rfl

theorem mem_visits_add_iff {k i : Nat} {row : List Located} {address : List Nat} {l : Located} :
    ((k + i) :: address, l) ∈ visits k row ↔ nodeAt? row (i :: address) = some l := by
  fun_induction visits k row generalizing i address l with
  | case1 => cases address <;> simp [nodeAt?]
  | case2 k first rest inside after =>
    -- The rest of the row is numbered from `k + 1`, so lower numbers are not met there.
    have later : ∀ {j deeper}, j ≤ k → (j :: deeper, l) ∉ visits (k + 1) rest := by
      intro j deeper bound member
      obtain ⟨j', _, starts, above⟩ := address_of_mem_visits member
      obtain ⟨rfl, -⟩ := List.cons.inj starts
      omega
    cases i with
    | succ i =>
      rw [nodeAt?_succ, ← after, Nat.add_right_comm]
      simp [Nat.add_assoc]
    | zero =>
      cases address with
      | nil => simp [nodeAt?, later (Nat.le_refl k), nil_not_mem_visits, eq_comm]
      | cons j deeper =>
        rw [nodeAt?_zero _ _ (List.cons_ne_nil j deeper), ← inside]
        simp [later (Nat.le_refl k)]

/-- The visits of a row are the addresses at which there is a node. -/
theorem mem_visits_iff {row : List Located} {address : List Nat} {l : Located} :
    (address, l) ∈ visits 0 row ↔ nodeAt? row address = some l := by
  cases address with
  | nil => simp [nil_not_mem_visits, nodeAt?]
  | cons j deeper => rw [← mem_visits_add_iff, Nat.zero_add]

/-- Some nodes are the nodes of a row in document order: those at all its addresses, in increasing
    order of the addresses. -/
def InDocumentOrder (row nodes : List Located) : Prop :=
  ∃ addresses : List (List Nat), addresses.Pairwise (· < ·) ∧
    (∀ address, address ∈ addresses ↔ (nodeAt? row address).isSome = true) ∧
    addresses.map (nodeAt? row) = nodes.map some

theorem walk_inDocumentOrder (row : List Located) : InDocumentOrder row (walk row) := by
  refine ⟨(visits 0 row).map Prod.fst, visits_sorted 0 row, ?_, ?_⟩
  · intro address
    rw [Option.isSome_iff_exists]
    constructor
    · intro member
      obtain ⟨⟨_, l⟩, visit, rfl⟩ := List.mem_map.1 member
      exact ⟨l, mem_visits_iff.1 visit⟩
    · rintro ⟨l, found⟩
      exact List.mem_map.2 ⟨(address, l), mem_visits_iff.2 found, rfl⟩
  · rw [walk_eq_preorder, ← map_snd_visits 0 row, List.map_map, List.map_map]
    apply List.map_congr_left
    intro visit member
    exact mem_visits_iff.1 member

end ImportPolicy.Script
