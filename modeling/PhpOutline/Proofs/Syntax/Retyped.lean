import PhpOutline.Proofs.Syntax.Paired

namespace PhpOutline.Syntax

/-- The tree with another type for its root. -/
def Tree.retyped (type : String) : Tree → Tree
  | .node label children => .node { label with type } children

@[simp] theorem Tree.type_retyped (type : String) (tree : Tree) :
    (tree.retyped type).type = type := by
  cases tree
  rfl

@[simp] theorem Tree.children_retyped (type : String) (tree : Tree) :
    (tree.retyped type).children = tree.children := by
  cases tree
  rfl

namespace Location

/-- Nodes to which the same steps lead from roots of two types. -/
abbrev SameSteps (tree : Tree) (type : String) : Location → Location → Prop :=
  Paired (fun _ => false) tree (tree.retyped type)

variable {tree : Tree} {type : String} {left right : Location}

theorem pairing_retyped (tree : Tree) (type : String) :
    Pairing (fun _ => false) tree (tree.retyped type) (SameBelow tree (tree.retyped type)) where
  top := .inl ⟨rfl, rfl⟩
  isNamed_eq same below := congrArg Tree.isNamed (same.here_eq below).1
  children := by
    intro left right same
    simp only [Bool.not_false, List.filter_true]
    have below : left.here.children = right.here.children := by
      rcases same with ⟨rfl, rfl⟩ | ⟨here, _, _⟩
      · exact (Tree.children_retyped type tree).symm
      · rw [here]
    rw [children, children, below]
    apply childrenFrom_forall₂
    exact fun _ _ _ => .inr ⟨rfl, List.cons_ne_nil _ _, List.cons_ne_nil _ _⟩

namespace SameSteps

theorem here_eq (same : SameSteps tree type left right) (below : left.above ≠ []) :
    left.here = right.here :=
  (((pairing_retyped tree type).twin same).here_eq below).1

theorem type_cases (same : SameSteps tree type left right) :
    (left = root tree ∧ right = root (tree.retyped type)) ∨ left.type = right.type := by
  rcases (pairing_retyped tree type).twin same with roots | ⟨here, _, _⟩
  · exact .inl roots
  · exact .inr (congrArg Tree.type here)

theorem namedChildren (same : SameSteps tree type left right) :
    List.Forall₂ (SameSteps tree type) left.namedChildren right.namedChildren := by
  have pairing := pairing_retyped tree type
  have children := pairing.children_paired same
  simp only [Bool.not_false, List.filter_true] at children
  have below := forall₂_of_mem children fun _ isChild _ _ pair =>
    And.intro pair (above_ne_nil_of_mem_children isChild)
  have named := forall₂_filter below fun _ _ pair => congrArg Tree.isNamed (here_eq pair.1 pair.2)
  exact named.imp fun _ _ pair => pair.1

theorem earlierNamedSiblings (same : SameSteps tree type left right) :
    List.Forall₂ (fun first second => first.here = second.here) left.earlierNamedSiblings
      right.earlierNamedSiblings := by
  have siblings := (pairing_retyped tree type).earlierNamedSiblings_paired same
  simp only [Bool.not_false, List.filter_true] at siblings
  apply forall₂_of_mem siblings
  intro sibling member _ _ pair
  obtain ⟨parent, _, isChild⟩ := mem_children_of_mem_earlierNamedSiblings member
  exact here_eq pair (above_ne_nil_of_mem_children isChild)

end SameSteps

/-- Where the climbs to a namespace end for a node of a program, and for that node below a
broken root. -/
inductive ScopesPaired (tree : Tree) (type : String) : Scope → Scope → Prop
  | inside {owner twin : Location} (here : owner.here = twin.here) :
      ScopesPaired tree type (.inside owner) (.inside twin)
  | topLevel {statement twin : Location} (deep : statement.above.length ≠ 1)
      (same : SameSteps tree type statement twin) :
      ScopesPaired tree type (.topLevel statement) (.topLevel twin)
  | beyond {statement : Location} (top : statement.above.length = 1)
      (parent : statement.parent? = some (root tree)) :
      ScopesPaired tree type (.topLevel statement) (.topLevel (root (tree.retyped type)))

/-- A climb that a program stops at its root goes on to the root itself where that is called
otherwise. -/
theorem scopes_paired (program : tree.type = "program")
    (other : type ≠ "program" ∧ type ≠ "namespace_definition")
    (same : SameSteps tree type left right) :
    ScopesPaired tree type left.scope right.scope := by
  -- The climb takes as many steps on both sides, so induct on those of the first.
  obtain ⟨here, above⟩ := left
  induction above generalizing here right with
  | nil =>
      have parent := same.parent
      rw [scope_eq_parent, scope_eq_parent]
      generalize right.parent? = second at parent ⊢
      cases parent with
      | none => exact .topLevel (by simp) same
  | cons step rest inductionHypothesis =>
      have parent := same.parent
      rw [scope_eq_parent, scope_eq_parent]
      generalize found : right.parent? = second at parent ⊢
      cases parent with
      | @some _ twin parents =>
          have climbed := inductionHypothesis step.parent parents
          simp only [parent?]
          rcases (pairing_retyped tree type).twin parents with ⟨isRoot, rfl⟩ | ⟨sameHere, deep, _⟩
          · have noSiblings : (root (tree.retyped type)).scope =
              .topLevel (root (tree.retyped type)) := rfl
            have broken : (root (tree.retyped type)).type = type := Tree.type_retyped type tree
            have top : (⟨step.parent, rest⟩ : Location).type = "program" := by
              rw [isRoot]
              exact program
            rw [top, broken, noSiblings, beq_eq_false_iff_ne.mpr other.1,
              beq_eq_false_iff_ne.mpr other.2]
            refine .beyond ?_ (congrArg some isRoot)
            rw [show rest = [] from congrArg Location.above isRoot]
            rfl
          · have sameType : (⟨step.parent, rest⟩ : Location).type = twin.type :=
              congrArg Tree.type sameHere
            rw [sameType]
            split
            · refine .topLevel ?_ same
              simpa using deep
            · split
              · exact .inside sameHere
              · exact climbed

end Location

end PhpOutline.Syntax
