import PhpOutline.Proofs.Related
import PhpOutline.Proofs.Syntax.Walk

namespace PhpOutline.Syntax

/-! Two trees side by side.

The second tree has all nodes of the first, and some extra ones.  Nodes are paired if
the same steps lead to both, where steps pass over the extra nodes.
-/

namespace Location

theorem childrenFrom_append (location : Location) (index : Nat) (left right : List Tree) :
    location.childrenFrom index (left ++ right) =
      location.childrenFrom index left ++ location.childrenFrom (index + left.length) right := by
  induction left generalizing index with
  | nil => simp [childrenFrom]
  | cons tree rest inductionHypothesis =>
      simp only [List.cons_append, childrenFrom, inductionHypothesis, List.length_cons]
      rw [Nat.add_assoc, Nat.add_comm 1]

theorem childrenFrom_forall₂ {R : Location → Location → Prop} {left right : Location}
    (each : ∀ tree index number, R ⟨tree, ⟨left.here, index⟩ :: left.above⟩
      ⟨tree, ⟨right.here, number⟩ :: right.above⟩) (index number : Nat) (trees : List Tree) :
    List.Forall₂ R (left.childrenFrom index trees) (right.childrenFrom number trees) := by
  induction trees generalizing index number with
  | nil => exact .nil
  | cons tree rest inductionHypothesis =>
      exact .cons (each tree index number) (inductionHypothesis (index + 1) (number + 1))

/-- What goes on from nodes to their named children relates all nodes below them. -/
theorem subtree_forall₂ {R : Location → Location → Prop}
    (namedChildren : ∀ {left right}, R left right →
      List.Forall₂ R left.namedChildren right.namedChildren)
    {left right : Location} (related : R left right) :
    List.Forall₂ R left.subtree right.subtree := by
  induction left using named_induction generalizing right with
  | step left inductionHypothesis =>
      rw [subtree_eq left, subtree_eq right]
      apply List.Forall₂.cons related
      have children : List.Forall₂
          (fun first second => List.Forall₂ R first.subtree second.subtree)
          left.namedChildren right.namedChildren :=
        forall₂_of_mem (namedChildren related) fun first isChild _ _ child =>
          inductionHypothesis first isChild child
      exact List.rel_flatMap children fun _ _ below => below

theorem above_of_mem_earlierNamedSiblings {location sibling : Location}
    (member : sibling ∈ location.earlierNamedSiblings) :
    ∃ step rest number, location.above = step :: rest ∧
      sibling.above = ⟨step.parent, number⟩ :: rest ∧ number < step.index := by
  unfold earlierNamedSiblings at member
  cases steps : location.above with
  | nil => simp [steps] at member
  | cons step rest =>
      simp only [steps, List.mem_reverse, List.mem_filter] at member
      obtain ⟨number, found⟩ := List.mem_iff_getElem?.mp member.1
      rw [List.getElem?_take] at found
      split at found
      case isFalse => cases found
      rename_i before
      rw [children, childrenFrom_getElem?, Option.map_eq_some_iff] at found
      obtain ⟨tree, _, rfl⟩ := found
      exact ⟨step, rest, number, rfl, by simp, before⟩

/-- Nodes of two trees to which the same steps lead, when those that are extra in the
second tree do not count. -/
inductive Paired (extra : Location → Bool) (tree other : Tree) : Location → Location → Prop
  | root : Paired extra tree other (root tree) (root other)
  | child {left right child twin : Location} {number : Nat} :
      Paired extra tree other left right → left.children[number]? = some child →
      (right.children.filter fun node => !extra node)[number]? = some twin →
      Paired extra tree other child twin

/-- `Twin` holds between the roots and goes on to the children, so that no node of the
first tree is without a pair. -/
structure Pairing (extra : Location → Bool) (tree other : Tree)
    (Twin : Location → Location → Prop) : Prop where
  top : Twin (root tree) (root other)
  isNamed_eq : ∀ {left right}, Twin left right → left.above ≠ [] → left.isNamed = right.isNamed
  children : ∀ {left right}, Twin left right →
    List.Forall₂ Twin left.children (right.children.filter fun node => !extra node)

variable {extra : Location → Bool} {tree other : Tree} {Twin : Location → Location → Prop}
  {left right : Location}

theorem Paired.within (paired : Paired extra tree other left right) : Within tree left := by
  induction paired with
  | root => exact .root
  | child _ atNumber _ inductionHypothesis =>
      exact inductionHypothesis.child (List.mem_of_getElem? atNumber)

theorem Paired.within_other (paired : Paired extra tree other left right) :
    Within other right := by
  induction paired with
  | root => exact .root
  | child _ _ atTwin inductionHypothesis =>
      exact inductionHypothesis.child (List.mem_filter.mp (List.mem_of_getElem? atTwin)).1

theorem Paired.parent (paired : Paired extra tree other left right) :
    Option.Rel (Paired extra tree other) left.parent? right.parent? := by
  cases paired with
  | root => exact .none
  | child above atNumber atTwin =>
      have inFilter := (List.mem_filter.mp (List.mem_of_getElem? atTwin)).1
      rw [parent?_of_mem_children (List.mem_of_getElem? atNumber), parent?_of_mem_children inFilter]
      exact .some above

/-- Only the root has nothing extra to fear: every other paired node is itself no
extra one. -/
theorem Paired.not_extra (paired : Paired extra tree other left right) (below : left.above ≠ []) :
    extra right = false := by
  cases paired with
  | root => exact absurd rfl below
  | child _ _ atTwin =>
      have kept := (List.mem_filter.mp (List.mem_of_getElem? atTwin)).2
      exact (Bool.not_eq_true' _).mp kept

theorem exists_take_filter {keeps : α → Bool} {items : List α} {number : Nat} {item : α}
    (found : (items.filter keeps)[number]? = some item) :
    ∃ place, items[place]? = some item ∧
      (items.take place).filter keeps = (items.filter keeps).take number := by
  induction items generalizing number with
  | nil => simp at found
  | cons first rest inductionHypothesis =>
      cases kept : keeps first with
      | true =>
          rw [List.filter_cons_of_pos kept] at found ⊢
          cases number with
          | zero => exact ⟨0, found, rfl⟩
          | succ number =>
              obtain ⟨place, atPlace, same⟩ := inductionHypothesis found
              exact ⟨place + 1, atPlace, by simp [kept, same]⟩
      | false =>
          rw [List.filter_cons_of_neg (by simp [kept])] at found ⊢
          obtain ⟨place, atPlace, same⟩ := inductionHypothesis found
          exact ⟨place + 1, atPlace, by simp [kept, same]⟩

namespace Pairing

variable (pairing : Pairing extra tree other Twin)

include pairing

theorem twin (paired : Paired extra tree other left right) : Twin left right := by
  induction paired with
  | root => exact pairing.top
  | @child left right child twin number _ atNumber atTwin inductionHypothesis =>
      obtain ⟨inLeft, rfl⟩ := List.getElem?_eq_some_iff.mp atNumber
      obtain ⟨inRight, rfl⟩ := List.getElem?_eq_some_iff.mp atTwin
      exact (List.forall₂_iff_get.mp (pairing.children inductionHypothesis)).2 number inLeft inRight

theorem children_paired (paired : Paired extra tree other left right) :
    List.Forall₂ (Paired extra tree other) left.children
      (right.children.filter fun node => !extra node) := by
  apply List.forall₂_iff_get.mpr
  refine ⟨(pairing.children (pairing.twin paired)).length_eq, ?_⟩
  intro number inLeft inRight
  exact paired.child (List.getElem?_eq_getElem inLeft) (List.getElem?_eq_getElem inRight)

theorem earlierNamedSiblings_paired (paired : Paired extra tree other left right) :
    List.Forall₂ (Paired extra tree other) left.earlierNamedSiblings
      (right.earlierNamedSiblings.filter fun node => !extra node) := by
  cases paired with
  | root => exact .nil
  | @child above aboveOther _ _ number parents atNumber atTwin =>
      obtain ⟨place, atPlace, before⟩ := exists_take_filter atTwin
      have listed := List.forall₂_take number (pairing.children_paired parents)
      rw [← before] at listed
      have siblings := forall₂_of_mem listed fun one isOne _ _ pair =>
        And.intro pair (above_ne_nil_of_mem_children (List.mem_of_mem_take isOne))
      rw [Location.children, childrenFrom_getElem?, Option.map_eq_some_iff] at atNumber atPlace
      obtain ⟨leftTree, _, rfl⟩ := atNumber
      obtain ⟨rightTree, _, rfl⟩ := atPlace
      simp only [earlierNamedSiblings, Nat.zero_add, List.filter_reverse]
      apply List.rel_reverse
      rw [List.filter_comm]
      have named := forall₂_filter siblings fun _ _ pair =>
        pairing.isNamed_eq (pairing.twin pair.1) pair.2
      exact named.imp fun _ _ pair => pair.1

end Pairing

/-- Both nodes are the roots, or the same subtree somewhere below them. -/
def SameBelow (tree other : Tree) (left right : Location) : Prop :=
  (left = root tree ∧ right = root other) ∨
    (left.here = right.here ∧ left.above ≠ [] ∧ right.above ≠ [])

theorem SameBelow.here_eq (same : SameBelow tree other left right) (below : left.above ≠ []) :
    left.here = right.here ∧ right.above ≠ [] := by
  rcases same with ⟨isRoot, _⟩ | ⟨here, _, deep⟩
  · subst left
    exact absurd rfl below
  · exact ⟨here, deep⟩

end Location

end PhpOutline.Syntax
