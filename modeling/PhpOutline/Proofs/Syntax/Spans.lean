import Mathlib.Data.List.Chain
import PhpOutline.Proofs.Syntax.Order

namespace PhpOutline.Syntax

open PhpOutline.Text (Bytes)

theorem lineAt_mono {content : Bytes} {offset later : Nat} (before : offset ≤ later) :
    lineAt content offset ≤ lineAt content later :=
  Nat.succ_le_succ ((List.take_prefix_take_left before).count_le newline)

theorem one_le_lineAt (content : Bytes) (offset : Nat) : 1 ≤ lineAt content offset :=
  Nat.le_add_left 1 _

namespace Tree

mutual

/-- A tree and the trees below it, named or not, parents before children. -/
def subtrees : Tree → List Tree
  | .node label children => .node label children :: subtreesAll children

def subtreesAll : List Tree → List Tree
  | [] => []
  | tree :: rest => tree.subtrees ++ subtreesAll rest

end

theorem subtrees_eq (tree : Tree) : tree.subtrees = tree :: subtreesAll tree.children := by
  cases tree
  rfl

theorem subtreesAll_eq_flatMap (trees : List Tree) :
    subtreesAll trees = trees.flatMap subtrees := by
  induction trees with
  | nil => rfl
  | cons tree rest inductionHypothesis =>
      rw [subtreesAll, inductionHypothesis, List.flatMap_cons]

theorem self_mem_subtrees (tree : Tree) : tree ∈ tree.subtrees := by
  rw [subtrees_eq]
  exact List.mem_cons_self

theorem subtrees_subset_of_mem_children {tree child : Tree} (member : child ∈ tree.children) :
    child.subtrees ⊆ tree.subtrees := by
  intro node below
  rw [tree.subtrees_eq, subtreesAll_eq_flatMap]
  exact List.mem_cons_of_mem _ (List.mem_flatMap.mpr ⟨child, member, below⟩)

/-- Every span ends where it starts or later, lies inside the span of the parent, and
starts no earlier than the span of the sibling in front ends. -/
structure SpansNest (tree : Tree) : Prop where
  ordered : ∀ node ∈ tree.subtrees, node.label.start ≤ node.label.stop
  inside : ∀ node ∈ tree.subtrees, ∀ child ∈ node.children,
    node.label.start ≤ child.label.start ∧ child.label.stop ≤ node.label.stop
  successive : ∀ node ∈ tree.subtrees,
    node.children.IsChain fun left right => left.label.stop ≤ right.label.start

instance (tree : Tree) : Decidable tree.SpansNest :=
  decidable_of_iff
    ((∀ node ∈ tree.subtrees, node.label.start ≤ node.label.stop) ∧
      (∀ node ∈ tree.subtrees, ∀ child ∈ node.children,
        node.label.start ≤ child.label.start ∧ child.label.stop ≤ node.label.stop) ∧
      ∀ node ∈ tree.subtrees,
        node.children.IsChain fun left right => left.label.stop ≤ right.label.start)
    ⟨fun ⟨ordered, inside, successive⟩ => ⟨ordered, inside, successive⟩,
    fun nest => ⟨nest.ordered, nest.inside, nest.successive⟩⟩

/-- No tree of a row starts before an earlier one has ended, next to it or not. -/
theorem pairwise_of_successive {trees : List Tree}
    (ordered : ∀ tree ∈ trees, tree.label.start ≤ tree.label.stop)
    (successive : trees.IsChain fun left right => left.label.stop ≤ right.label.start) :
    trees.Pairwise fun left right => left.label.stop ≤ right.label.start := by
  induction trees with
  | nil => exact .nil
  | cons first rest inductionHypothesis =>
      obtain ⟨next, others⟩ := List.isChain_cons.mp successive
      have following := inductionHypothesis
        (fun tree member => ordered tree (List.mem_cons_of_mem first member)) others
      refine List.pairwise_cons.mpr ⟨?_, following⟩
      intro tree member
      cases rest with
      | nil => cases member
      | cons second rest =>
          have toSecond : first.label.stop ≤ second.label.start := next second rfl
          rcases List.mem_cons.mp member with same | further
          · rw [same]
            exact toSecond
          · -- The second stands between, and ends where it starts or later.
            have through := ordered second (List.mem_cons_of_mem first List.mem_cons_self)
            have onward := (List.pairwise_cons.mp following).1 tree further
            omega

end Tree

namespace Location

variable {tree : Tree} {location : Location}

/-- The second node has its span inside that of the first. -/
def Covers (outer inner : Location) : Prop :=
  outer.label.start ≤ inner.label.start ∧ inner.label.stop ≤ outer.label.stop

/-- The second node is below the first and inside its span, or starts where the span of
the first has ended. -/
def NestsOrFollows (first second : Location) : Prop :=
  (first ∈ second.ancestors ∧ first.Covers second) ∨ first.label.stop ≤ second.label.start

theorem NestsOrFollows.lines {first second : Location} (content : Bytes)
    (apart : first.NestsOrFollows second) :
    (first ∈ second.ancestors ∧ first.startLine content ≤ second.startLine content ∧
        second.endLine content ≤ first.endLine content) ∨
      first.endLine content ≤ second.startLine content := by
  rcases apart with ⟨below, covers⟩ | follows
  · exact .inl ⟨below, lineAt_mono covers.1, lineAt_mono covers.2⟩
  · exact .inr (lineAt_mono follows)

theorem Within.subtrees_subset (within : Within tree location) :
    location.here.subtrees ⊆ tree.subtrees :=
  within.subset fun _ _ => Tree.subtrees_subset_of_mem_children

theorem Within.here_mem_subtrees (within : Within tree location) :
    location.here ∈ tree.subtrees :=
  within.subtrees_subset location.here.self_mem_subtrees

end Location

namespace Tree.SpansNest

open Location

variable {tree : Tree} {location node : Location} (nest : tree.SpansNest)

include nest

theorem start_le_stop (within : Within tree location) :
    location.label.start ≤ location.label.stop :=
  nest.ordered _ within.here_mem_subtrees

theorem covers (within : Within tree location) (reached : Reached location node) :
    location.Covers node := by
  induction reached with
  | here => exact ⟨Nat.le_refl _, Nat.le_refl _⟩
  | @child parent child above member inductionHypothesis =>
      have isChild := (above_of_mem_children (mem_children_of_mem_namedChildren member)).1
      have inside : parent.Covers child :=
        nest.inside _ (above.within within).here_mem_subtrees _ isChild
      exact ⟨Nat.le_trans inductionHypothesis.1 inside.1,
        Nat.le_trans inside.2 inductionHypothesis.2⟩

theorem pairwise_namedChildren (within : Within tree location) :
    location.namedChildren.Pairwise fun left right => left.label.stop ≤ right.label.start := by
  apply List.Pairwise.filter
  have ordered : ∀ child ∈ location.here.children, child.label.start ≤ child.label.stop := by
    intro child member
    apply nest.ordered child
    exact within.subtrees_subset
      (subtrees_subset_of_mem_children member child.self_mem_subtrees)
  have pairs := pairwise_of_successive ordered (nest.successive _ within.here_mem_subtrees)
  rw [← map_here_childrenFrom location 0 location.here.children] at pairs
  exact List.pairwise_map.mp pairs

/-- In document order, the spans of a subtree nest or follow each other. -/
theorem pairwise_subtree (within : Within tree location) :
    location.subtree.Pairwise NestsOrFollows := by
  apply pairwise_subtree_of
  · intro node reached child isChild other below
    have under := (Reached.here.child isChild).trans (mem_subtree_iff_reached.mp below)
    exact .inl ⟨mem_ancestors_of_mem_subtree isChild below,
      nest.covers (reached.within within) under⟩
  · intro node reached
    have nodeWithin := reached.within within
    -- What is below one child ends with that child at the latest, before the next starts.
    apply (nest.pairwise_namedChildren nodeWithin).imp_of_mem
    intro left right isLeft isRight apart first inFirst second inSecond
    have inLeft := nest.covers (nodeWithin.namedChild isLeft) (mem_subtree_iff_reached.mp inFirst)
    have inRight := nest.covers (nodeWithin.namedChild isRight)
      (mem_subtree_iff_reached.mp inSecond)
    exact .inr (Nat.le_trans inLeft.2 (Nat.le_trans apart inRight.1))

end Tree.SpansNest

end PhpOutline.Syntax
