import Mathlib.Data.List.Basic
import PhpOutline.Proofs.Syntax.Order

namespace PhpOutline.Syntax

/-! Faults in a tree.

A node tells of a fault exactly if it or a node below it is one, or is flagged as faulty.
So the search may leave out the subtrees that tell of none: it comes to the first fault
among all nodes of the tree, mere tokens included.
-/

/-- `Tree.isFault` by the label alone. -/
def Label.isFault (label : Label) : Bool :=
  label.type == "ERROR" || label.missing

namespace Tree

mutual

theorem hasFault_iff (tree : Tree) :
    tree.hasFault = true ↔
      ∃ label ∈ tree.labels, label.isFault = true ∨ label.flagged = true := by
  cases tree with
  | node label children =>
      have below := anyFault_iff children
      have here : (label.flagged || label.type == "ERROR" || label.missing) = true ↔
          label.isFault = true ∨ label.flagged = true := by
        rw [Bool.or_assoc, Bool.or_eq_true, or_comm]
        exact Iff.rfl
      rw [hasFault, Bool.or_eq_true, here, below, labels]
      simp only [List.mem_cons, or_and_right, exists_or, exists_eq_left]

theorem anyFault_iff (trees : List Tree) :
    anyFault trees = true ↔
      ∃ label ∈ labelsAll trees, label.isFault = true ∨ label.flagged = true := by
  cases trees with
  | nil => simp [anyFault, labelsAll]
  | cons tree rest =>
      rw [anyFault, Bool.or_eq_true, hasFault_iff tree, anyFault_iff rest, labelsAll]
      simp only [List.mem_append, or_and_right, exists_or]

end

theorem isFault_of_hasFault (tree : Tree) (faultless : tree.hasFault = false) :
    ∀ label ∈ tree.labels, label.isFault = false := by
  intro label member
  apply Bool.eq_false_iff.mpr
  intro fault
  rw [tree.hasFault_iff.mpr ⟨label, member, .inl fault⟩] at faultless
  cases faultless

end Tree

mutual

/-- A tree at a place, and all that is below it, tokens too, parents before children and
earlier before later. -/
def fullPreorder (above : List Step) : Tree → List Location
  | .node label children =>
      ⟨.node label children, above⟩ ::
        fullPreorderBelow (.node label children) above 0 children

def fullPreorderBelow (parent : Tree) (above : List Step) (index : Nat) :
    List Tree → List Location
  | [] => []
  | child :: rest =>
      fullPreorder (⟨parent, index⟩ :: above) child ++
        fullPreorderBelow parent above (index + 1) rest

end

namespace Location

/-- A node and all nodes below it, in document order. -/
def nodes (location : Location) : List Location :=
  fullPreorder location.above location.here

def isFault (location : Location) : Bool :=
  location.here.isFault

theorem fullPreorderBelow_eq_flatMap (location : Location) (index : Nat) (trees : List Tree) :
    fullPreorderBelow location.here location.above index trees =
      (location.childrenFrom index trees).flatMap nodes := by
  induction trees generalizing index with
  | nil => rfl
  | cons tree rest inductionHypothesis =>
      rw [fullPreorderBelow, inductionHypothesis, childrenFrom, List.flatMap_cons]
      rfl

theorem nodes_eq (location : Location) :
    location.nodes = location :: location.children.flatMap nodes := by
  obtain ⟨⟨label, children⟩, above⟩ := location
  change fullPreorder above (.node label children) = _
  rw [fullPreorder]
  exact congrArg (List.cons _) (fullPreorderBelow_eq_flatMap ⟨.node label children, above⟩ 0 children)

theorem labelsAll_childrenFrom (location : Location) (index : Nat) (trees : List Tree) :
    (location.childrenFrom index trees).flatMap (fun child => child.here.labels) =
      Tree.labelsAll trees := by
  induction trees generalizing index with
  | nil => rfl
  | cons tree rest inductionHypothesis =>
      rw [childrenFrom, List.flatMap_cons, inductionHypothesis, Tree.labelsAll]

theorem map_label_nodes (location : Location) :
    location.nodes.map label = location.here.labels := by
  induction location using children_induction with
  | step location inductionHypothesis =>
      have below : (location.children.flatMap nodes).map label =
          location.children.flatMap fun child => child.here.labels := by
        rw [List.map_flatMap]
        exact List.flatMap_congr inductionHypothesis
      rw [nodes_eq, List.map_cons, below, children, labelsAll_childrenFrom, Tree.labels_eq]
      rfl

/-- The search leaves out subtrees, but no fault: it finds the first fault among all nodes
below the stack. -/
theorem firstFault?_eq_find? (stack : List Location) :
    firstFault? stack = (stack.flatMap nodes).find? isFault := by
  induction stack using firstFault?.induct with
  | case1 => simp [firstFault?]
  | case2 location stack fault =>
      rw [firstFault?, if_pos fault, List.flatMap_cons, nodes_eq, List.cons_append,
        List.find?_cons_of_pos (p := isFault) fault]
  | case3 location stack sound faulty inductionHypothesis =>
      rw [firstFault?, if_neg sound, if_pos faulty, inductionHypothesis, List.flatMap_append,
        List.flatMap_cons, nodes_eq, List.cons_append, List.find?_cons_of_neg (p := isFault) sound]
  | case4 location stack sound faultless inductionHypothesis =>
      have none : location.nodes.find? isFault = Option.none := by
        apply List.find?_eq_none.mpr
        intro node member
        have isLabel : node.label ∈ location.here.labels := by
          rw [← map_label_nodes]
          exact List.mem_map_of_mem member
        have faultless := Bool.not_eq_true _ ▸ faultless
        exact Bool.eq_false_iff.mp (location.here.isFault_of_hasFault faultless _ isLabel)
      rw [firstFault?, if_neg sound, if_neg faultless, inductionHypothesis, List.flatMap_cons,
        List.find?_append, none, Option.none_or]

theorem firstFault?_label (stack : List Location) :
    (firstFault? stack).map label =
      (stack.flatMap fun location => location.here.labels).find? Label.isFault := by
  have labels : (stack.flatMap fun location => location.here.labels) =
      (stack.flatMap nodes).map label := by
    rw [List.map_flatMap]
    exact List.flatMap_congr fun location _ => location.map_label_nodes.symm
  rw [labels, List.find?_map, firstFault?_eq_find?]
  rfl

theorem self_mem_nodes (location : Location) : location ∈ location.nodes := by
  rw [nodes_eq]
  exact List.mem_cons_self

theorem child_mem_nodes {location node child : Location} (member : node ∈ location.nodes)
    (isChild : child ∈ node.children) : child ∈ location.nodes := by
  induction location using children_induction with
  | step location inductionHypothesis =>
      rw [nodes_eq] at member ⊢
      apply List.mem_cons_of_mem
      rcases List.mem_cons.mp member with same | below
      · subst node
        exact List.mem_flatMap.mpr ⟨child, isChild, child.self_mem_nodes⟩
      · obtain ⟨top, isTop, inner⟩ := List.mem_flatMap.mp below
        exact List.mem_flatMap.mpr ⟨top, isTop, inductionHypothesis top isTop inner⟩

theorem within_of_mem_nodes {tree : Tree} {location node : Location}
    (within : Within tree location) (member : node ∈ location.nodes) : Within tree node := by
  induction location using children_induction with
  | step location inductionHypothesis =>
      rw [nodes_eq] at member
      rcases List.mem_cons.mp member with same | below
      · subst node
        exact within
      · obtain ⟨child, isChild, inner⟩ := List.mem_flatMap.mp below
        exact inductionHypothesis child isChild (within.child isChild) inner

theorem mem_nodes_root_iff {tree : Tree} {node : Location} :
    node ∈ (root tree).nodes ↔ Within tree node := by
  constructor
  · exact within_of_mem_nodes .root
  · intro within
    induction within with
    | root => exact self_mem_nodes _
    | child _ isChild inductionHypothesis => exact child_mem_nodes inductionHypothesis isChild

theorem ancestors_subset {top node : Location} (above : top ∈ node.ancestors) :
    top.ancestors ⊆ node.ancestors := by
  obtain ⟨here, steps⟩ := node
  induction steps generalizing here with
  | nil => cases above
  | cons step rest inductionHypothesis =>
      rcases List.mem_cons.mp above with same | further
      · subst top
        exact List.subset_cons_self _ _
      · exact List.subset_cons_of_subset _ (inductionHypothesis step.parent further)

theorem isUnder_of_mem_nodes {location node : Location} (member : node ∈ location.nodes) :
    node.IsUnder location := by
  induction location using children_induction with
  | step location inductionHypothesis =>
      rw [nodes_eq] at member
      rcases List.mem_cons.mp member with same | below
      · exact .inl same
      · obtain ⟨child, isChild, inner⟩ := List.mem_flatMap.mp below
        have parent : location ∈ child.ancestors := by
          rw [ancestors_of_mem_children isChild]
          exact List.mem_cons_self
        rcases inductionHypothesis child isChild inner with same | above
        · subst node
          exact .inr parent
        · exact .inr (ancestors_subset above parent)

theorem pairwise_nodes (location : Location) : location.nodes.Pairwise Precedes := by
  induction location using children_induction with
  | step location inductionHypothesis =>
      rw [nodes_eq, List.pairwise_cons]
      constructor
      · intro node below
        obtain ⟨child, isChild, inner⟩ := List.mem_flatMap.mp below
        exact precedes_of_isUnder_child isChild (isUnder_of_mem_nodes inner)
      · refine List.pairwise_flatMap.mpr ⟨inductionHypothesis, ?_⟩
        rw [List.pairwise_iff_getElem]
        intro number later inNumber inLater earlier first isFirst second isSecond
        exact precedes_of_isUnder_children (List.getElem?_eq_getElem inNumber)
          (List.getElem?_eq_getElem inLater) earlier (isUnder_of_mem_nodes isFirst)
          (isUnder_of_mem_nodes isSecond)

end Location

end PhpOutline.Syntax
