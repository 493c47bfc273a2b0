import PhpOutline.Declaration.Extraction

namespace PhpOutline.Syntax

/-! The nodes of one tree in their places.

`Within` says that a location is a place of a tree, and all ways from a node to
another one, upwards, downwards and to earlier siblings, stay inside the tree.
What holds of all labels of a tree therefore holds of every node that a query
about one of its nodes can come across.
-/

namespace Tree

mutual

/-- The labels of all nodes of a tree, named or not, parents before children. -/
def labels : Tree → List Label
  | .node label children => label :: labelsAll children

def labelsAll : List Tree → List Label
  | [] => []
  | tree :: rest => tree.labels ++ labelsAll rest

end

theorem labels_eq (tree : Tree) : tree.labels = tree.label :: labelsAll tree.children := by
  cases tree
  rfl

theorem labels_subset_labelsAll {tree : Tree} {trees : List Tree} (member : tree ∈ trees) :
    tree.labels ⊆ labelsAll trees := by
  induction trees with
  | nil => cases member
  | cons first rest inductionHypothesis =>
      simp only [labelsAll]
      rcases List.mem_cons.mp member with same | later
      · subst first
        exact List.subset_append_left _ _
      · exact List.subset_append_of_subset_right _ (inductionHypothesis later)

theorem labels_subset_of_mem_children {tree child : Tree} (member : child ∈ tree.children) :
    child.labels ⊆ tree.labels := by
  rw [tree.labels_eq]
  exact List.subset_cons_of_subset _ (labels_subset_labelsAll member)

end Tree

namespace Location

theorem childrenFrom_getElem? (location : Location) (index offset : Nat) (trees : List Tree) :
    (location.childrenFrom index trees)[offset]? = trees[offset]?.map fun tree =>
      ⟨tree, ⟨location.here, index + offset⟩ :: location.above⟩ := by
  induction trees generalizing index offset with
  | nil => simp [childrenFrom]
  | cons tree rest inductionHypothesis =>
      cases offset with
      | zero => simp [childrenFrom]
      | succ offset =>
          simp only [childrenFrom, List.getElem?_cons_succ, inductionHypothesis]
          rw [Nat.add_right_comm, Nat.add_assoc]

theorem number_of_mem_childrenFrom {location child : Location} {index : Nat} {trees : List Tree}
    (member : child ∈ location.childrenFrom index trees) :
    ∃ number, child.above = ⟨location.here, number⟩ :: location.above ∧
      index ≤ number ∧ number < index + trees.length ∧
      trees[number - index]? = some child.here := by
  obtain ⟨offset, found⟩ := List.mem_iff_getElem?.mp member
  rw [childrenFrom_getElem?, Option.map_eq_some_iff] at found
  obtain ⟨tree, atOffset, rfl⟩ := found
  obtain ⟨inTrees, _⟩ := List.getElem?_eq_some_iff.mp atOffset
  refine ⟨index + offset, rfl, by omega, by omega, ?_⟩
  rw [Nat.add_sub_cancel_left]
  exact atOffset

theorem above_of_mem_childrenFrom {location child : Location} {index : Nat} {trees : List Tree}
    (member : child ∈ location.childrenFrom index trees) :
    child.here ∈ trees ∧
      ∃ number, child.above = ⟨location.here, number⟩ :: location.above := by
  obtain ⟨number, above, _, _, found⟩ := number_of_mem_childrenFrom member
  exact ⟨List.mem_of_getElem? found, number, above⟩

theorem above_of_mem_children {location child : Location} (member : child ∈ location.children) :
    child.here ∈ location.here.children ∧
      ∃ number, child.above = ⟨location.here, number⟩ :: location.above :=
  above_of_mem_childrenFrom member

theorem map_here_childrenFrom (location : Location) (index : Nat) (trees : List Tree) :
    (location.childrenFrom index trees).map here = trees := by
  induction trees generalizing index with
  | nil => rfl
  | cons tree rest inductionHypothesis => rw [childrenFrom, List.map_cons, inductionHypothesis]

theorem map_here_namedChildren (location : Location) :
    location.namedChildren.map here = location.here.children.filter Tree.isNamed := by
  have listed := location.map_here_childrenFrom 0 location.here.children
  rw [← listed, List.filter_map]
  rfl

theorem mem_children_of_mem_namedChildren {location child : Location}
    (member : child ∈ location.namedChildren) : child ∈ location.children :=
  (List.mem_filter.mp member).1

theorem parent?_of_mem_children {location child : Location}
    (member : child ∈ location.children) : child.parent? = some location := by
  obtain ⟨_, number, above⟩ := above_of_mem_children member
  simp only [parent?, above]

theorem mem_children_of_childByField? {location child : Location} {field : String}
    (found : location.childByField? field = some child) : child ∈ location.children :=
  List.mem_of_find?_eq_some found

/-- The nodes of a tree in their places. -/
inductive Within (tree : Tree) : Location → Prop where
  | root : Within tree (Location.root tree)
  | child {parent child : Location} :
      Within tree parent → child ∈ parent.children → Within tree child

variable {tree : Tree} {location other : Location}

theorem Within.namedChild (within : Within tree location)
    (member : other ∈ location.namedChildren) : Within tree other :=
  within.child (mem_children_of_mem_namedChildren member)

theorem Within.childByField? {field : String} (within : Within tree location)
    (found : location.childByField? field = some other) : Within tree other :=
  within.child (mem_children_of_childByField? found)

theorem Within.parent (within : Within tree location) (found : location.parent? = some other) :
    Within tree other := by
  cases within with
  | root => cases found
  | child inner member =>
      rw [parent?_of_mem_children member] at found
      cases found
      exact inner

theorem mem_namedChildren_of_mem_earlierNamedSiblings
    (member : other ∈ location.earlierNamedSiblings) :
    ∃ parent, location.parent? = some parent ∧ other ∈ parent.namedChildren := by
  unfold earlierNamedSiblings at member
  cases steps : location.above with
  | nil => simp [steps] at member
  | cons step rest =>
      simp only [steps, List.mem_reverse] at member
      obtain ⟨before, named⟩ := List.mem_filter.mp member
      exact ⟨⟨step.parent, rest⟩, by simp [parent?, steps],
        List.mem_filter.mpr ⟨List.mem_of_mem_take before, named⟩⟩

theorem mem_children_of_mem_earlierNamedSiblings
    (member : other ∈ location.earlierNamedSiblings) :
    ∃ parent, location.parent? = some parent ∧ other ∈ parent.children := by
  obtain ⟨parent, isParent, isChild⟩ := mem_namedChildren_of_mem_earlierNamedSiblings member
  exact ⟨parent, isParent, mem_children_of_mem_namedChildren isChild⟩

theorem Within.earlierNamedSibling (within : Within tree location)
    (member : other ∈ location.earlierNamedSiblings) : Within tree other := by
  obtain ⟨parent, isParent, isChild⟩ := mem_children_of_mem_earlierNamedSiblings member
  exact (within.parent isParent).child isChild

theorem Within.previousNamedSibling? (within : Within tree location)
    (found : location.previousNamedSibling? = some other) : Within tree other :=
  within.earlierNamedSibling (List.mem_of_mem_head? found)

theorem scope_eq_parent (node : Location) :
    node.scope =
      match node.parent? with
      | none => .topLevel node
      | some parent =>
          if parent.type == "program" then .topLevel node
          else if parent.type == "namespace_definition" then .inside parent
          else parent.scope := by
  obtain ⟨here, above⟩ := node
  cases above with
  | nil => rfl
  | cons step rest => rfl

/-- The node at which the climb to a namespace ends. -/
def Scope.place : Scope → Location
  | .inside owner => owner
  | .topLevel statement => statement

theorem Within.scopeFrom {here : Tree} {above : List Step}
    (within : Within tree ⟨here, above⟩) : Within tree (Location.scopeFrom here above).place := by
  induction above generalizing here with
  | nil => exact within
  | cons step rest inductionHypothesis =>
      have parent : Within tree ⟨step.parent, rest⟩ := within.parent rfl
      unfold Location.scopeFrom
      split
      · exact within
      · split
        · exact parent
        · exact inductionHypothesis parent

theorem Within.scope (within : Within tree location) : Within tree location.scope.place :=
  within.scopeFrom

/-- What every node collects from its children, the root collects from all nodes. -/
theorem Within.subset {collected : Tree → List α}
    (each : ∀ tree child : Tree, child ∈ tree.children → collected child ⊆ collected tree)
    (within : Within tree location) : collected location.here ⊆ collected tree := by
  induction within with
  | root => exact List.Subset.refl _
  | child _ member inductionHypothesis =>
      have isChild := (above_of_mem_children member).1
      exact List.Subset.trans (each _ _ isChild) inductionHypothesis

theorem Within.labels_subset (within : Within tree location) :
    location.here.labels ⊆ tree.labels :=
  within.subset fun _ _ => Tree.labels_subset_of_mem_children

theorem Within.label_mem (within : Within tree location) : location.label ∈ tree.labels := by
  apply within.labels_subset
  rw [Tree.labels_eq]
  exact List.mem_cons_self

theorem above_ne_nil_of_mem_children {parent child : Location} (member : child ∈ parent.children) :
    child.above ≠ [] := by
  obtain ⟨_, number, above⟩ := above_of_mem_children member
  rw [above]
  exact List.cons_ne_nil _ _

/-- Below the root all labels are those of its children and what is below them. -/
theorem Within.label_mem_labelsAll (within : Within tree location) (below : location.above ≠ []) :
    location.label ∈ Tree.labelsAll tree.children := by
  have covered : location.here.labels ⊆ Tree.labelsAll tree.children := by
    induction within with
    | root => exact absurd rfl below
    | child inner member inductionHypothesis =>
        have isChild := (above_of_mem_children member).1
        cases inner with
        | root => exact Tree.labels_subset_labelsAll isChild
        | child _ isInner =>
            exact List.Subset.trans (Tree.labels_subset_of_mem_children isChild)
              (inductionHypothesis (above_ne_nil_of_mem_children isInner))
  apply covered
  rw [Tree.labels_eq]
  exact List.mem_cons_self

end Location

end PhpOutline.Syntax
