import PhpOutline.Proofs.Syntax.Faults
import PhpOutline.Proofs.Syntax.Paired

namespace PhpOutline.Syntax

/-! Trees with a comment more.

An inserted comment moves its later siblings by one number.  Every other node stays
where it was, with what was around it and below it.
-/

namespace Tree

/-- A named leaf that fills no field and is no fault. -/
structure IsComment (tree : Tree) : Prop where
  type : tree.type = "comment"
  field : tree.label.field = none
  named : tree.isNamed = true
  leaf : tree.children = []
  sound : tree.hasFault = false

/-- The second tree is the first one with the comment at the end of the path.  The
comment neither becomes the last named child of an argument or a const element nor
gives a value to a const element that has none. -/
inductive Inserted (comment : Tree) : List Nat → Tree → Tree → Prop
  | here {label : Label} {before after : List Tree}
      (notLast : label.type = "argument" ∨ label.type = "const_element" →
        ∃ later ∈ after, later.isNamed = true)
      (several : label.type = "const_element" →
        2 ≤ ((before ++ after).filter isNamed).length) :
      Inserted comment [before.length] (.node label (before ++ after))
        (.node label (before ++ comment :: after))
  | inside {label : Label} {before after : List Tree} {path : List Nat} {tree other : Tree}
      (inner : Inserted comment path tree other) :
      Inserted comment (before.length :: path) (.node label (before ++ tree :: after))
        (.node label (before ++ other :: after))

variable {comment tree other : Tree} {path : List Nat}

theorem anyFault_append (left right : List Tree) :
    anyFault (left ++ right) = (anyFault left || anyFault right) := by
  induction left with
  | nil => simp [anyFault]
  | cons tree rest inductionHypothesis => simp [anyFault, inductionHypothesis, Bool.or_assoc]

theorem labelsAll_append (left right : List Tree) :
    labelsAll (left ++ right) = labelsAll left ++ labelsAll right := by
  induction left with
  | nil => simp [labelsAll]
  | cons tree rest inductionHypothesis => simp [labelsAll, inductionHypothesis]

theorem Inserted.path_ne_nil (inserted : Inserted comment path tree other) : path ≠ [] := by
  cases inserted <;> simp

theorem Inserted.label_eq (inserted : Inserted comment path tree other) :
    tree.label = other.label := by
  cases inserted <;> rfl

theorem Inserted.hasFault_eq (inserted : Inserted comment path tree other)
    (sound : comment.hasFault = false) : tree.hasFault = other.hasFault := by
  induction inserted with
  | here => simp [hasFault, anyFault_append, anyFault, sound]
  | inside _ inductionHypothesis => simp [hasFault, anyFault_append, anyFault, inductionHypothesis]

theorem Inserted.labels_split (inserted : Inserted comment path tree other) :
    ∃ first second, tree.labels = first ++ second ∧
      other.labels = first ++ (comment.labels ++ second) := by
  induction inserted with
  | @here label before after _ _ =>
      exact ⟨label :: labelsAll before, labelsAll after, by simp [labels, labelsAll_append],
        by simp [labels, labelsAll_append, labelsAll]⟩
  | @inside label before after _ tree other _ inductionHypothesis =>
      obtain ⟨first, second, same, sameOther⟩ := inductionHypothesis
      exact ⟨label :: (labelsAll before ++ first), second ++ labelsAll after,
        by simp [labels, labelsAll_append, labelsAll, same],
        by simp [labels, labelsAll_append, labelsAll, sameOther]⟩

theorem Inserted.labels_subset (inserted : Inserted comment path tree other) :
    tree.labels ⊆ other.labels := by
  obtain ⟨first, second, same, sameOther⟩ := inserted.labels_split
  rw [same, sameOther]
  intro label member
  simp only [List.mem_append] at member ⊢
  exact member.imp_right .inr

end Tree

open PhpOutline.Syntax.Tree (Inserted IsComment)

namespace Location

/-- The node stands where the comment was inserted. -/
def isInserted (path : List Nat) (node : Location) : Bool :=
  node.path == path

/-- Both nodes are the same and off the way to the comment, or the comment is
inserted below them. -/
def Twins (comment : Tree) (path : List Nat) (left right : Location) : Prop :=
  (left.here = right.here ∧ ¬ right.path <+: path) ∨
    ∃ rest, path = right.path ++ rest ∧ Inserted comment rest left.here right.here

variable {comment tree other : Tree} {path : List Nat} {left right child : Location}

theorem firstFault?_inserted (inserted : Inserted comment path tree other)
    (sound : comment.hasFault = false) :
    (firstFault? [root tree]).map label = (firstFault? [root other]).map label := by
  -- The search for a fault sees labels only, and passes over those of the comment.
  obtain ⟨first, second, same, sameOther⟩ := inserted.labels_split
  have none : comment.labels.find? Label.isFault = Option.none :=
    List.find?_eq_none.mpr fun label member => by
      simp [Tree.isFault_of_hasFault comment sound label member]
  rw [firstFault?_label, firstFault?_label, List.flatMap_singleton, List.flatMap_singleton, root,
    root, same, sameOther, List.find?_append, List.find?_append, List.find?_append, none,
    Option.none_or]

theorem path_of_mem_childrenFrom {parent : Location} {index : Nat} {trees : List Tree}
    (member : child ∈ parent.childrenFrom index trees) :
    ∃ number, child.path = parent.path ++ [number] ∧ index ≤ number ∧
      number < index + trees.length ∧ trees[number - index]? = some child.here := by
  obtain ⟨number, above, bounds⟩ := number_of_mem_childrenFrom member
  exact ⟨number, by simp [path, above], bounds⟩

theorem children_split {parent : Location} {before after : List Tree} {tree : Tree}
    (split : parent.here.children = before ++ tree :: after) :
    parent.children = parent.childrenFrom 0 before ++
      ⟨tree, ⟨parent.here, before.length⟩ :: parent.above⟩ ::
        parent.childrenFrom (before.length + 1) after := by
  rw [children, split, childrenFrom_append, childrenFrom, Nat.zero_add]

theorem not_prefix_of_ne {front rest : List Nat} {number step : Nat} (different : number ≠ step) :
    ¬ front ++ [number] <+: front ++ step :: rest := by
  simp [List.prefix_append_right_inj, different]

theorem twins_beside {index number : Nat} {trees : List Tree}
    (off : ∀ step, number ≤ step → step < number + trees.length →
      ¬ right.path ++ [step] <+: path) :
    List.Forall₂ (Twins comment path) (left.childrenFrom index trees)
      ((right.childrenFrom number trees).filter fun node => !isInserted path node) := by
  have aside : ∀ child ∈ right.childrenFrom number trees, ¬ child.path <+: path := by
    intro child member
    obtain ⟨step, same, first, last, _⟩ := path_of_mem_childrenFrom member
    rw [same]
    exact off step first last
  have kept : ∀ child ∈ right.childrenFrom number trees, (!isInserted path child) = true := by
    intro child member
    have different : child.path ≠ path := fun same => aside child member (same ▸ List.prefix_rfl)
    simp [isInserted, different]
  rw [List.filter_eq_self.mpr kept]
  have same : List.Forall₂ (fun one another : Location => one.here = another.here)
      (left.childrenFrom index trees) (right.childrenFrom number trees) :=
    childrenFrom_forall₂ (fun _ _ _ => rfl) index number trees
  exact forall₂_of_mem same fun _ _ child member here => .inl ⟨here, aside child member⟩

theorem Twins.label_eq (twins : Twins comment path left right) : left.label = right.label := by
  rcases twins with ⟨here, _⟩ | ⟨_, _, inserted⟩
  · exact congrArg Tree.label here
  · exact inserted.label_eq

theorem Twins.children (twins : Twins comment path left right) :
    List.Forall₂ (Twins comment path) left.children
      (right.children.filter fun node => !isInserted path node) := by
  rcases twins with ⟨here, aside⟩ | ⟨rest, way, inserted⟩
  · rw [Location.children, Location.children, here]
    apply twins_beside
    intro step _ _ onWay
    exact aside ((List.prefix_append _ _).trans onWay)
  · generalize leftTree : left.here = leftHere at inserted
    generalize rightTree : right.here = rightHere at inserted
    cases inserted with
    | @here label before after _ _ =>
        have dropped : isInserted path
            ⟨comment, ⟨right.here, before.length⟩ :: right.above⟩ = true := by
          simp [isInserted, way, Location.path]
        have plain : left.children =
            left.childrenFrom 0 before ++ left.childrenFrom before.length after := by
          rw [Location.children, leftTree, Tree.children, childrenFrom_append, Nat.zero_add]
        rw [plain, children_split (congrArg Tree.children rightTree), List.filter_append,
          List.filter_cons_of_neg (by simp [dropped])]
        apply List.rel_append
        · exact twins_beside fun step _ last => way ▸ not_prefix_of_ne (by omega)
        · exact twins_beside fun step first _ => way ▸ not_prefix_of_ne (by omega)
    | @inside label before after rest tree other inner =>
        have kept : isInserted path
            ⟨other, ⟨right.here, before.length⟩ :: right.above⟩ = false := by
          simp [isInserted, way, Location.path, inner.path_ne_nil]
        rw [children_split (congrArg Tree.children leftTree),
          children_split (congrArg Tree.children rightTree), List.filter_append,
          List.filter_cons_of_pos (by simp [kept])]
        apply List.rel_append
        · exact twins_beside fun step _ last => way ▸ not_prefix_of_ne (by omega)
        · apply List.Forall₂.cons
          · exact .inr ⟨rest, by simp [way, Location.path], inner⟩
          · exact twins_beside fun step first _ => way ▸ not_prefix_of_ne (by omega)

/-- Where the comment shows up, the trees are those of the insertion. -/
theorem Twins.of_isInserted (twins : Twins comment path left right)
    (member : child ∈ right.children) (found : isInserted path child = true) :
    ∃ label before after, left.here = .node label (before ++ after) ∧
      right.here = .node label (before ++ comment :: after) ∧
      path = right.path ++ [before.length] ∧
      (label.type = "argument" ∨ label.type = "const_element" →
        ∃ later ∈ after, later.isNamed = true) ∧
      (label.type = "const_element" → 2 ≤ ((before ++ after).filter Tree.isNamed).length) := by
  obtain ⟨number, same, _⟩ := path_of_mem_childrenFrom member
  have atPath : path = right.path ++ [number] := (beq_iff_eq.mp found).symm.trans same
  rcases twins with ⟨_, aside⟩ | ⟨rest, way, inserted⟩
  · exact absurd (atPath ▸ List.prefix_append _ _) aside
  · obtain rfl : rest = [number] := List.append_cancel_left (way.symm.trans atPath)
    generalize left.here = leftTree at inserted ⊢
    generalize right.here = rightTree at inserted ⊢
    cases inserted with
    | here notLast several => exact ⟨_, _, _, rfl, rfl, atPath, notLast, several⟩
    | inside inner => exact absurd rfl inner.path_ne_nil

theorem number_eq_of_isInserted {parent : Location} {step number : Nat}
    (way : path = parent.path ++ [step]) (found : isInserted path child = true)
    (same : child.path = parent.path ++ [number]) : step = number := by
  have stands : [step] = [number] :=
    List.append_cancel_left (way.symm.trans ((beq_iff_eq.mp found).symm.trans same))
  exact List.head_eq_of_cons_eq stands

theorem Twins.here_of_isInserted (twins : Twins comment path left right)
    (member : child ∈ right.children) (found : isInserted path child = true) :
    child.here = comment := by
  obtain ⟨label, before, after, _, here, way, _⟩ := twins.of_isInserted member found
  obtain ⟨number, same, _, _, atNumber⟩ := path_of_mem_childrenFrom member
  obtain rfl := number_eq_of_isInserted way found same
  rw [here] at atNumber
  simpa [Tree.children] using atNumber.symm

/-- The comment stands in front of another named child of an argument or a const
element. -/
theorem Twins.last_kept (twins : Twins comment path left right)
    (closes : right.type = "argument" ∨ right.type = "const_element") :
    ∀ last, right.namedChildren.getLast? = some last → isInserted path last = false := by
  intro last isLast
  by_contra found
  have found := Bool.not_eq_false _ ▸ found
  have member := mem_children_of_mem_namedChildren (List.mem_of_getLast? isLast)
  obtain ⟨label, before, after, _, here, way, notLast, _⟩ := twins.of_isInserted member found
  rw [type, here] at closes
  obtain ⟨later, isLater, named⟩ := notLast closes
  have following : (right.childrenFrom (before.length + 1) after).filter isNamed ≠ [] := by
    rw [← right.map_here_childrenFrom (before.length + 1) after] at isLater
    obtain ⟨node, isNode, rfl⟩ := List.mem_map.mp isLater
    exact List.ne_nil_of_mem (List.mem_filter.mpr ⟨isNode, named⟩)
  rw [namedChildren, children_split (congrArg Tree.children here), List.filter_append,
    ← List.singleton_append, List.filter_append, ← List.append_assoc,
    List.getLast?_append_of_ne_nil _ following] at isLast
  obtain ⟨number, same, first, _⟩ :=
    path_of_mem_childrenFrom (List.mem_filter.mp (List.mem_of_getLast? isLast)).1
  have stands := number_eq_of_isInserted way found same
  omega

/-- A const element has a value with the comment only if it has one without. -/
theorem Twins.several_kept (twins : Twins comment path left right)
    (element : right.type = "const_element") (several : 2 ≤ right.namedChildren.length) :
    2 ≤ left.namedChildren.length := by
  by_cases found : ∃ child ∈ right.children, isInserted path child = true
  · obtain ⟨child, member, isExtra⟩ := found
    obtain ⟨label, before, after, here, otherHere, _, _, kept⟩ :=
      twins.of_isInserted member isExtra
    rw [type, otherHere] at element
    rw [← List.length_map Location.here, map_here_namedChildren, here]
    exact kept element
  · have kept : ∀ child ∈ right.children, (!isInserted path child) = true := by
      intro child member
      cases isExtra : isInserted path child with
      | true => exact absurd ⟨child, member, isExtra⟩ found
      | false => rfl
    have listed := twins.children
    rw [List.filter_eq_self.mpr kept] at listed
    have named : List.Forall₂ (Twins comment path) left.namedChildren right.namedChildren :=
      forall₂_filter listed fun _ _ child => congrArg Label.named child.label_eq
    rw [named.length_eq]
    exact several

/-- All nodes keep their places but for the numbers after the comment. -/
theorem pairing_inserted (inserted : Inserted comment path tree other) :
    Pairing (isInserted path) tree other (Twins comment path) where
  top := .inr ⟨path, rfl, inserted⟩
  isNamed_eq twins _ := congrArg Label.named twins.label_eq
  children := Twins.children

end Location

end PhpOutline.Syntax
