import PhpOutline.Proofs.Syntax.Within

namespace PhpOutline.Syntax

namespace Location

/-- A node and all that is reached from it through named children. -/
def subtree (location : Location) : List Location :=
  preorder location.above location.here

/-- A recursion along the children that skips those that are not named goes
through the named ones. -/
theorem eq_flatMap_named (location : Location) {visit : Location → List α}
    {below : Nat → List Tree → List α} (nil : ∀ index, below index [] = [])
    (cons : ∀ index tree rest, below index (tree :: rest) =
      (if tree.isNamed then visit ⟨tree, ⟨location.here, index⟩ :: location.above⟩ else []) ++
        below (index + 1) rest)
    (index : Nat) (trees : List Tree) :
    below index trees = ((location.childrenFrom index trees).filter isNamed).flatMap visit := by
  induction trees generalizing index with
  | nil => rw [nil, childrenFrom, List.filter_nil, List.flatMap_nil]
  | cons tree rest inductionHypothesis =>
      have sameName : isNamed ⟨tree, ⟨location.here, index⟩ :: location.above⟩ = tree.isNamed :=
        rfl
      rw [cons, inductionHypothesis, childrenFrom, List.filter_cons, sameName]
      split
      · rw [List.flatMap_cons]
      · rw [List.nil_append]

theorem preorderBelow_eq_flatMap (parent : Tree) (above : List Step) (index : Nat)
    (trees : List Tree) :
    preorderBelow parent above index trees =
      ((childrenFrom ⟨parent, above⟩ index trees).filter isNamed).flatMap subtree :=
  eq_flatMap_named ⟨parent, above⟩ (fun _ => rfl) (fun _ _ _ => rfl) index trees

theorem subtree_eq (location : Location) :
    location.subtree = location :: location.namedChildren.flatMap subtree := by
  cases location with
  | mk here above =>
      cases here with
      | node label children =>
          change preorder above (.node label children) = _
          rw [preorder, preorderBelow_eq_flatMap]
          rfl

/-- The stack holds what is still to visit: the walk lists it subtree by
subtree. -/
theorem walk_eq_flatMap (stack : List Location) : walk stack = stack.flatMap subtree := by
  induction stack using walk.induct with
  | case1 => simp [walk]
  | case2 location stack inductionHypothesis =>
      rw [walk, inductionHypothesis, List.flatMap_append, List.flatMap_cons, subtree_eq location,
        List.cons_append]

theorem weight_le_of_mem {location : Location} {locations : List Location}
    (member : location ∈ locations) : location.here.size ≤ weight locations := by
  induction locations with
  | nil => cases member
  | cons first rest inductionHypothesis =>
      simp only [weight]
      rcases List.mem_cons.mp member with same | later
      · subst first
        omega
      · have bound := inductionHypothesis later
        omega

/-- What follows from the children for every node holds of all nodes. -/
theorem children_induction {motive : Location → Prop}
    (step : ∀ location, (∀ child ∈ location.children, motive child) → motive location)
    (location : Location) : motive location := by
  induction size : location.here.size using Nat.strongRecOn generalizing location with
  | ind count inductionHypothesis =>
      apply step
      intro child member
      have smaller : child.here.size < count := by
        have bound := weight_le_of_mem member
        have total := location.weight_children_lt
        omega
      exact inductionHypothesis child.here.size smaller child rfl

theorem named_induction {motive : Location → Prop}
    (step : ∀ location, (∀ child ∈ location.namedChildren, motive child) → motive location)
    (location : Location) : motive location := by
  induction location using children_induction with
  | step location inductionHypothesis =>
      apply step
      intro child member
      exact inductionHypothesis child (mem_children_of_mem_namedChildren member)

/-- The nodes that a node leads to through named children. -/
inductive Reached (start : Location) : Location → Prop where
  | here : Reached start start
  | child {parent child : Location} :
      Reached start parent → child ∈ parent.namedChildren → Reached start child

theorem Reached.trans {first second third : Location} (start : Reached first second)
    (rest : Reached second third) : Reached first third := by
  induction rest with
  | here => exact start
  | child _ member inductionHypothesis => exact inductionHypothesis.child member

theorem Reached.within {tree : Tree} {start node : Location} (reached : Reached start node)
    (within : Within tree start) : Within tree node := by
  induction reached with
  | here => exact within
  | child _ member inductionHypothesis => exact inductionHypothesis.namedChild member

theorem Reached.labels_subset {start node : Location} (reached : Reached start node) :
    node.here.labels ⊆ start.here.labels := by
  induction reached with
  | here => exact List.Subset.refl _
  | child _ member inductionHypothesis =>
      have isChild := (above_of_mem_children (mem_children_of_mem_namedChildren member)).1
      exact List.Subset.trans (Tree.labels_subset_of_mem_children isChild) inductionHypothesis

theorem Reached.label_mem {start node : Location} (reached : Reached start node) :
    node.label ∈ start.here.labels := by
  apply reached.labels_subset
  rw [Tree.labels_eq]
  exact List.mem_cons_self

theorem self_mem_subtree (location : Location) : location ∈ location.subtree := by
  rw [subtree_eq]
  exact List.mem_cons_self

theorem namedChild_mem_subtree {location node child : Location} (member : node ∈ location.subtree)
    (named : child ∈ node.namedChildren) : child ∈ location.subtree := by
  induction location using named_induction with
  | step location inductionHypothesis =>
      rw [subtree_eq] at member ⊢
      apply List.mem_cons_of_mem
      rcases List.mem_cons.mp member with same | below
      · subst node
        exact List.mem_flatMap.mpr ⟨child, named, child.self_mem_subtree⟩
      · obtain ⟨top, isChild, inner⟩ := List.mem_flatMap.mp below
        exact List.mem_flatMap.mpr ⟨top, isChild, inductionHypothesis top isChild inner⟩

theorem mem_subtree_iff_reached {location node : Location} :
    node ∈ location.subtree ↔ Reached location node := by
  constructor
  · intro member
    induction location using named_induction with
    | step location inductionHypothesis =>
        rw [subtree_eq] at member
        rcases List.mem_cons.mp member with same | below
        · subst node
          exact .here
        · obtain ⟨child, isChild, inner⟩ := List.mem_flatMap.mp below
          exact (Reached.here.child isChild).trans (inductionHypothesis child isChild inner)
  · intro reached
    induction reached with
    | here => exact location.self_mem_subtree
    | child _ named inductionHypothesis => exact namedChild_mem_subtree inductionHypothesis named

end Location

end PhpOutline.Syntax
