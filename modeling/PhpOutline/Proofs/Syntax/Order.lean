import PhpOutline.Proofs.Syntax.Walk

namespace PhpOutline.Syntax

/-! Document order.

The path of a node, read as a word of child numbers, tells where the node stands:
a node comes before all that is below it, and what is below an earlier child
before what is below a later one.  The subtree of a node lists its nodes in this
order, so it lists none of them twice.
-/

namespace Location

variable {location node child first second parent left right : Location}

/-- The nodes at the upper ends of some steps, the nearest first. -/
def stepParents : List Step → List Location
  | [] => []
  | step :: rest => ⟨step.parent, rest⟩ :: stepParents rest

/-- The nodes around a node, the nearest first and the root last. -/
def ancestors (location : Location) : List Location :=
  stepParents location.above

/-- The node is the other one or stands somewhere below it. -/
def IsUnder (node top : Location) : Prop :=
  node = top ∨ top ∈ node.ancestors

/-- The order of the nodes in a document. -/
def Precedes (first second : Location) : Prop :=
  first.path < second.path

theorem Precedes.ne (precedes : first.Precedes second) : first ≠ second := by
  rintro rfl
  exact List.lt_irrefl _ precedes

theorem Precedes.asymm (precedes : first.Precedes second) : ¬ second.Precedes first :=
  List.lt_asymm precedes

theorem path_of_getElem?_children {number : Nat} (found : parent.children[number]? = some child) :
    child.path = parent.path ++ [number] := by
  rw [children, childrenFrom_getElem?, Option.map_eq_some_iff] at found
  obtain ⟨tree, _, rfl⟩ := found
  simp [path]

theorem ancestors_of_mem_children (member : child ∈ parent.children) :
    child.ancestors = parent :: parent.ancestors := by
  obtain ⟨_, number, above⟩ := above_of_mem_children member
  simp only [ancestors, above, stepParents]

theorem exists_path_of_mem_ancestors {top : Location} (member : top ∈ node.ancestors) :
    ∃ number suffix, node.path = top.path ++ number :: suffix := by
  obtain ⟨here, above⟩ := node
  induction above generalizing here with
  | nil => cases member
  | cons step rest inductionHypothesis =>
      have split : path ⟨here, step :: rest⟩ = path ⟨step.parent, rest⟩ ++ [step.index] := by
        simp [path]
      rcases List.mem_cons.mp member with same | further
      · subst top
        exact ⟨step.index, [], split⟩
      · obtain ⟨number, suffix, same⟩ := inductionHypothesis step.parent further
        exact ⟨number, suffix ++ [step.index], by rw [split, same]; simp⟩

theorem IsUnder.exists_path {top : Location} (under : node.IsUnder top) :
    ∃ suffix, node.path = top.path ++ suffix := by
  rcases under with same | above
  · subst node
    exact ⟨[], (List.append_nil _).symm⟩
  · obtain ⟨number, suffix, same⟩ := exists_path_of_mem_ancestors above
    exact ⟨number :: suffix, same⟩

theorem precedes_of_path_eq {number : Nat} {suffix : List Nat}
    (same : second.path = first.path ++ number :: suffix) : first.Precedes second := by
  have extended : first.path ++ [] < first.path ++ number :: suffix :=
    List.append_left_lt .nil
  rw [List.append_nil, ← same] at extended
  exact extended

theorem precedes_of_mem_ancestors (member : first ∈ second.ancestors) : first.Precedes second := by
  obtain ⟨number, suffix, same⟩ := exists_path_of_mem_ancestors member
  exact precedes_of_path_eq same

theorem precedes_of_isUnder_child (member : child ∈ parent.children)
    (under : node.IsUnder child) : parent.Precedes node := by
  obtain ⟨number, found⟩ := List.mem_iff_getElem?.mp member
  obtain ⟨suffix, same⟩ := under.exists_path
  rw [path_of_getElem?_children found, List.append_assoc] at same
  exact precedes_of_path_eq same

/-- What stands below an earlier child comes before what stands below a later one. -/
theorem precedes_of_isUnder_children {number later : Nat}
    (atNumber : parent.children[number]? = some left)
    (atLater : parent.children[later]? = some right) (earlier : number < later)
    (underLeft : first.IsUnder left) (underRight : second.IsUnder right) :
    first.Precedes second := by
  obtain ⟨leftSuffix, leftPath⟩ := underLeft.exists_path
  obtain ⟨rightSuffix, rightPath⟩ := underRight.exists_path
  rw [Precedes, leftPath, rightPath, path_of_getElem?_children atNumber,
    path_of_getElem?_children atLater, List.append_assoc, List.append_assoc]
  exact List.append_left_lt (.rel earlier)

theorem Reached.isUnder {start : Location} (reached : Reached start node) :
    node.IsUnder start := by
  induction reached with
  | here => exact .inl rfl
  | child _ member inductionHypothesis =>
      right
      rw [ancestors_of_mem_children (mem_children_of_mem_namedChildren member)]
      rcases inductionHypothesis with same | above
      · rw [same]
        exact List.mem_cons_self
      · exact List.mem_cons_of_mem _ above

theorem mem_ancestors_of_mem_subtree (isChild : child ∈ parent.namedChildren)
    (below : node ∈ child.subtree) : parent ∈ node.ancestors := by
  have fromChild := mem_subtree_iff_reached.mp below
  have after := precedes_of_isUnder_child (mem_children_of_mem_namedChildren isChild)
    fromChild.isUnder
  exact ((Reached.here.child isChild).trans fromChild).isUnder.resolve_left after.ne.symm

/-- In a list of nodes in document order the place of a node tells what comes
before it. -/
theorem lt_of_precedes {nodes : List Location} {place other : Nat}
    (ordered : nodes.Pairwise Precedes) (atPlace : nodes[place]? = some first)
    (atOther : nodes[other]? = some second) (precedes : first.Precedes second) :
    place < other := by
  obtain ⟨inPlace, rfl⟩ := List.getElem?_eq_some_iff.mp atPlace
  obtain ⟨inOther, rfl⟩ := List.getElem?_eq_some_iff.mp atOther
  rcases Nat.lt_trichotomy place other with less | same | greater
  · exact less
  · subst other
    exact absurd rfl precedes.ne
  · exact absurd (List.pairwise_iff_getElem.mp ordered other place inOther inPlace greater)
      precedes.asymm

theorem nodup_of_ordered {nodes : List Location} (ordered : nodes.Pairwise Precedes) :
    nodes.Nodup :=
  ordered.imp Precedes.ne

theorem pairwise_subtree_children (location : Location) :
    location.namedChildren.Pairwise fun left right =>
      ∀ first ∈ left.subtree, ∀ second ∈ right.subtree, first.Precedes second := by
  apply List.Pairwise.filter
  rw [List.pairwise_iff_getElem]
  intro number later inNumber inLater earlier first below second other
  exact precedes_of_isUnder_children (List.getElem?_eq_getElem inNumber)
    (List.getElem?_eq_getElem inLater) earlier (mem_subtree_iff_reached.mp below).isUnder
    (mem_subtree_iff_reached.mp other).isUnder

/-- A relation between a node and all that is below it, and between what is below
different children, holds along the subtree. -/
theorem pairwise_subtree_of {R : Location → Location → Prop}
    (below : ∀ node, Reached location node → ∀ child ∈ node.namedChildren,
      ∀ other ∈ child.subtree, R node other)
    (beside : ∀ node, Reached location node → node.namedChildren.Pairwise fun left right =>
      ∀ first ∈ left.subtree, ∀ second ∈ right.subtree, R first second) :
    location.subtree.Pairwise R := by
  induction location using named_induction with
  | step location inductionHypothesis =>
      rw [subtree_eq, List.pairwise_cons]
      constructor
      · intro node member
        obtain ⟨child, isChild, inside⟩ := List.mem_flatMap.mp member
        exact below location .here child isChild node inside
      · refine List.pairwise_flatMap.mpr ⟨?_, beside location .here⟩
        intro child isChild
        have fromChild : ∀ node, Reached child node → Reached location node :=
          fun _ reached => (Reached.here.child isChild).trans reached
        exact inductionHypothesis child isChild
          (fun node reached => below node (fromChild node reached))
          (fun node reached => beside node (fromChild node reached))

theorem pairwise_subtree (location : Location) : location.subtree.Pairwise Precedes := by
  apply pairwise_subtree_of
  · intro node _ child isChild other inside
    exact precedes_of_mem_ancestors (mem_ancestors_of_mem_subtree isChild inside)
  · exact fun node _ => node.pairwise_subtree_children

/-- A node is reached from the root if it is in the tree and nothing between them,
nor the node itself, is a mere token. -/
theorem reached_root_iff {tree : Tree} :
    Reached (root tree) node ↔ Within tree node ∧
      ∀ other ∈ node :: node.ancestors, other.above ≠ [] → other.isNamed = true := by
  constructor
  · intro reached
    induction reached with
    | here =>
        refine ⟨.root, ?_⟩
        intro other member below
        cases List.mem_singleton.mp member
        exact absurd rfl below
    | @child parent child _ member inductionHypothesis =>
        obtain ⟨within, named⟩ := inductionHypothesis
        refine ⟨within.namedChild member, ?_⟩
        rw [ancestors_of_mem_children (mem_children_of_mem_namedChildren member)]
        intro other isOther below
        rcases List.mem_cons.mp isOther with same | further
        · subst other
          exact (List.mem_filter.mp member).2
        · exact named other further below
  · rintro ⟨within, named⟩
    induction within with
    | root => exact .here
    | @child parent child within member inductionHypothesis =>
        rw [ancestors_of_mem_children member] at named
        have reached : Reached (Location.root tree) parent :=
          inductionHypothesis fun other isOther => named other (List.mem_cons_of_mem _ isOther)
        have childNamed : child.isNamed = true := by
          apply named child List.mem_cons_self
          obtain ⟨_, number, above⟩ := above_of_mem_children member
          rw [above]
          exact List.cons_ne_nil _ _
        exact reached.child (List.mem_filter.mpr ⟨member, childNamed⟩)

theorem mem_walk_namedChildren_iff :
    node ∈ walk location.namedChildren ↔ Reached location node ∧ node ≠ location := by
  have ordered := location.pairwise_subtree
  rw [subtree_eq, List.pairwise_cons] at ordered
  rw [walk_eq_flatMap, ← mem_subtree_iff_reached, subtree_eq location, List.mem_cons]
  constructor
  · intro below
    exact ⟨.inr below, (ordered.1 node below).ne.symm⟩
  · rintro ⟨same | below, different⟩
    · exact absurd same different
    · exact below

theorem pairwise_walk_namedChildren {R : Location → Location → Prop}
    (pairs : location.subtree.Pairwise R) : (walk location.namedChildren).Pairwise R := by
  rw [subtree_eq, ← walk_eq_flatMap, List.pairwise_cons] at pairs
  exact pairs.2

theorem walk_namedChildren_ordered (location : Location) :
    (walk location.namedChildren).Pairwise Precedes :=
  pairwise_walk_namedChildren location.pairwise_subtree

theorem length_walk_le (stack : List Location) : (walk stack).length ≤ weight stack := by
  induction stack using walk.induct with
  | case1 => simp [walk]
  | case2 location stack inductionHypothesis =>
      have smaller := location.weight_namedChildren_lt
      rw [weight_append] at inductionHypothesis
      rw [walk, List.length_cons]
      simp only [weight]
      omega

end Location

end PhpOutline.Syntax
