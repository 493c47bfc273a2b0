import PhpOutline.Proofs.Declaration.Counterparts
import PhpOutline.Proofs.Declaration.Naming
import PhpOutline.Proofs.Search
import PhpOutline.Proofs.Syntax.Paired

namespace PhpOutline

open PhpOutline.Syntax
open PhpOutline.Text (Bytes)

namespace Syntax.Location

/-- Both nodes have the same tree below them. -/
def SameTree (left right : Location) : Prop :=
  left.here = right.here

/-- The parent of the node is the body of a class. -/
def isBelowClassBody (node : Location) : Bool :=
  match node.parent? with
  | some owner => isClassBodyType owner.type
  | none => false

/-- The same node in places that no classification tells apart. -/
structure Alike (left right : Location) : Prop where
  here : SameTree left right
  isBelowClassBody : left.isBelowClassBody = right.isBelowClassBody
  isInClassBody : left.isInClassBody = right.isInClassBody

variable {content : Bytes} {left right : Location}

theorem SameTree.label_eq (same : SameTree left right) : left.label = right.label :=
  congrArg Tree.label same

theorem SameTree.children (same : SameTree left right) :
    List.Forall₂ SameTree left.children right.children := by
  unfold Location.children
  rw [show left.here = right.here from same]
  exact childrenFrom_forall₂ (fun _ _ _ => rfl) 0 0 _

theorem counterparts_sameTree (content : Bytes) :
    Counterparts content content (fun _ => false) SameTree := by
  apply Counterparts.of_none SameTree.label_eq
  · intro left right same
    rw [bytes, bytes, same.label_eq]
  · intro left right same
    rw [startLine, startLine, same.label_eq]
  · intro left right same
    rw [endLine, endLine, same.label_eq]
  · exact SameTree.children
  · exact fun _ _ _ => rfl

namespace Alike

theorem kind_eq (alike : Alike left right) : left.kind content = right.kind content :=
  (counterparts_sameTree content).kind_eq alike.here alike.isInClassBody

theorem startLine_eq (alike : Alike left right) :
    left.startLine content = right.startLine content :=
  (counterparts_sameTree content).startLine_eq alike.here

theorem endLine_eq (alike : Alike left right) : left.endLine content = right.endLine content :=
  (counterparts_sameTree content).endLine_eq alike.here

theorem naming?_eq (alike : Alike left right) (origin : Option String)
    (anonymousPrefix : String) (outer : Option String) :
    left.naming? content origin anonymousPrefix outer =
      right.naming? content origin anonymousPrefix outer := by
  have counterparts := counterparts_sameTree content
  have literal : left.argumentValues.head?.bind (text? content) =
      right.argumentValues.head?.bind (text? content) :=
    counterparts.bind_text?_eq (forall₂_head? (counterparts.argumentValues alike.here))
  unfold naming?
  rw [alike.kind_eq, alike.startLine_eq, literal, counterparts.givenElementName_eq alike.here,
    counterparts.givenName_eq alike.here]

theorem obstruct_eq (alike : Alike left right) (obstacle : Obstacle) :
    left.obstruct content obstacle = right.obstruct content obstacle := by
  unfold obstruct
  rw [(counterparts_sameTree content).type_eq alike.here, alike.startLine_eq]

theorem namedChildren (alike : Alike left right) :
    List.Forall₂ Alike left.namedChildren right.namedChildren := by
  have here : left.here = right.here := alike.here
  have children : List.Forall₂ Alike left.children right.children := by
    unfold children
    rw [here]
    apply childrenFrom_forall₂
    intro tree index number
    refine ⟨rfl, ?_, alike.isBelowClassBody⟩
    change isClassBodyType left.here.type = isClassBodyType right.here.type
    rw [here]
  exact forall₂_filter children fun _ _ child => congrArg Tree.isNamed child.here

theorem subtree (alike : Alike left right) : List.Forall₂ Alike left.subtree right.subtree :=
  subtree_forall₂ namedChildren alike

end Alike

end Syntax.Location

open PhpOutline.Syntax.Location (Alike)

/-- Below nodes that are alike the declarations are alike. -/
theorem declarations_alike {content : Bytes} {category : Category} {left right : List Location}
    (alike : List.Forall₂ Alike left right) :
    List.Forall₂ Alike (declarations content category left)
      (declarations content category right) := by
  apply forall₂_filter
  · exact List.rel_flatMap alike fun _ _ node => node.subtree
  · intro first second node
    rw [node.kind_eq]

end PhpOutline
