import PhpOutline.Proofs.Declaration.Relocation
import PhpOutline.Proofs.Search

namespace PhpOutline

/-! Conversions of nodes with a counterpart in another document.

Beside what is below a node, its conversion looks at what is around it: the nodes
above for the kind and the namespace, and earlier siblings for the namespace and the
doc comment.  Nothing looks forward.
-/

open PhpOutline.Syntax
open PhpOutline.Syntax.Location (opensNamespace)
open PhpOutline.Text (Bytes)

namespace Syntax.Location

theorem enclosingNamespace_eq_parent (content : Bytes) (node : Location) :
    node.enclosingNamespace content =
      match node.parent? with
      | none => .ok none
      | some parent =>
          if parent.type == "program" then node.openNamespace content
          else if parent.type == "namespace_definition" then parent.declaredName content
          else parent.enclosingNamespace content := by
  unfold enclosingNamespace
  rw [scope_eq_parent]
  obtain ⟨here, above⟩ := node
  cases above with
  | nil => rfl
  | cons step rest =>
      simp only [parent?]
      split_ifs <;> rfl

end Syntax.Location

/-- Nodes that say the same stand in surroundings that say the same, as far as
declarations look: upwards, and back to earlier siblings. -/
structure Surroundings (content other : Bytes) (extra : Location → Bool)
    (Same Around : Location → Location → Prop) : Prop where
  counterparts : Counterparts content other extra Same
  around : ∀ {left right}, Same left right → Around left right
  type_eq : ∀ {left right}, Around left right → left.type = right.type
  parent : ∀ {left right}, Around left right → Option.Rel Around left.parent? right.parent?
  earlier : ∀ {left right}, Around left right →
    List.Forall₂ Same left.earlierNamedSiblings
      (right.earlierNamedSiblings.filter fun sibling => !extra sibling)
  earlierRemark : ∀ {left right}, Around left right →
    ∀ sibling ∈ right.earlierNamedSiblings, extra sibling = true → sibling.IsRemark
  declaredName_eq : ∀ {left right}, Around left right → right.type = "namespace_definition" →
    left.declaredName content = right.declaredName other

namespace Surroundings

variable {content other : Bytes} {extra : Location → Bool}
  {Same Around : Location → Location → Prop} {left right : Location}

section Around

variable (surroundings : Surroundings content other extra Same Around)
  (around : Around left right)

include surroundings around

theorem isInClassBody_eq : left.isInClassBody = right.isInClassBody := by
  have parent := surroundings.parent around
  unfold Location.isInClassBody
  generalize left.parent? = first at parent ⊢
  generalize right.parent? = second at parent ⊢
  cases parent with
  | none => rfl
  | @some above aboveOther parents =>
      have owner := surroundings.parent parents
      rw [Option.bind_some, Option.bind_some]
      generalize above.parent? = first at owner ⊢
      generalize aboveOther.parent? = second at owner ⊢
      cases owner with
      | none => rfl
      | some owners => simp only [surroundings.type_eq owners]

theorem openNamespace_eq : left.openNamespace content = right.openNamespace other := by
  apply surroundings.counterparts.openNamespace_eq
  apply forall₂_find?_kept (surroundings.earlier around)
  · exact fun _ _ same => surroundings.counterparts.opensNamespace_eq same
  · intro sibling member isExtra
    rw [opensNamespace, (surroundings.earlierRemark around sibling member isExtra).type]
    rfl

theorem enclosingNamespace_eq :
    left.enclosingNamespace content = right.enclosingNamespace other := by
  -- The climb takes as many steps on both sides, so induct on those of the first.
  obtain ⟨here, above⟩ := left
  induction above generalizing here right with
  | nil =>
      have parent := surroundings.parent around
      rw [Location.enclosingNamespace_eq_parent, Location.enclosingNamespace_eq_parent]
      generalize right.parent? = second at parent ⊢
      cases parent with
      | none => rfl
  | cons step rest inductionHypothesis =>
      have parent := surroundings.parent around
      have opened := surroundings.openNamespace_eq around
      rw [Location.enclosingNamespace_eq_parent, Location.enclosingNamespace_eq_parent]
      generalize right.parent? = second at parent ⊢
      cases parent with
      | @some _ aboveOther parents =>
          have climbed := inductionHypothesis step.parent parents
          have sameType := surroundings.type_eq parents
          simp only [Location.parent?, opened, climbed, sameType]
          split
          · rfl
          · split
            · rename_i definition
              exact surroundings.declaredName_eq parents (beq_iff_eq.mp definition)
            · rfl

/-- The doc comment is the same unless something extra stands right in front. -/
theorem docComment_eq
    (kept : ∀ previous, right.previousNamedSibling? = some previous → extra previous = false) :
    left.docComment content = right.docComment other := by
  have earlier := surroundings.earlier around
  apply surroundings.counterparts.docComment_eq
  unfold Location.previousNamedSibling? at kept ⊢
  cases siblings : right.earlierNamedSiblings with
  | nil =>
      rw [siblings] at earlier
      exact forall₂_head? earlier
  | cons nearest rest =>
      rw [siblings] at kept earlier
      rw [List.filter_cons_of_pos (by rw [kept nearest rfl]; rfl)] at earlier
      have head := forall₂_head? earlier
      exact head

end Around

section Same

variable (surroundings : Surroundings content other extra Same Around) (same : Same left right)
  (origin : Option String) {differ : Option String → Option String → Prop}

include surroundings same

theorem kind_eq : left.kind content = right.kind other :=
  surroundings.counterparts.kind_eq same
    (surroundings.isInClassBody_eq (surroundings.around same))

theorem docAnchor_around : Around (left.docAnchor content) (right.docAnchor other) := by
  unfold Location.docAnchor
  rw [surroundings.kind_eq same]
  split
  · have parent := surroundings.parent (surroundings.around same)
    generalize left.parent? = first at parent ⊢
    generalize right.parent? = second at parent ⊢
    cases parent with
    | none => exact surroundings.around same
    | some parents => exact parents
  · exact surroundings.around same

theorem convert_standard_agree (anonymousPrefix : String) {category : Category}
    (admitted : category.admits (right.kind other) = true)
    (docs : Agree differ ((left.docAnchor content).docComment content)
      ((right.docAnchor other).docComment other)) :
    Agree (Entry.SameBut differ)
      ((Converter.standard anonymousPrefix).convert content origin left)
      ((Converter.standard anonymousPrefix).convert other origin right) := by
  have outers : AgreeUnless False Eq (left.enclosingNamespace content)
      (right.enclosingNamespace other) := by
    rw [surroundings.enclosingNamespace_eq (surroundings.around same)]
    exact .agree (Agree.refl _)
  have converted := surroundings.counterparts.convert_standard_relocates origin same outers
    anonymousPrefix (surroundings.kind_eq same) admitted docs
  exact converted.without_excuse.imp fun _ _ relocates => relocates.sameBut

end Same

end Surroundings

section Declarations

variable {content other : Bytes} {category : Category}

theorem declarations_eq_flatMap (nodes : List Location) :
    declarations content category nodes =
      nodes.flatMap fun node => declarations content category [node] := by
  induction nodes with
  | nil => rfl
  | cons node rest inductionHypothesis =>
      rw [List.flatMap_cons, ← inductionHypothesis, ← declarations_append, List.singleton_append]

theorem declarations_of_admitted {node : Location}
    (admitted : category.admits (node.kind content) = true) :
    declarations content category [node] =
      node :: declarations content category node.namedChildren := by
  unfold declarations
  rw [List.flatMap_singleton, Location.subtree_eq, List.filter_cons, if_pos admitted]

theorem declarations_remark {node : Location} (remark : node.IsRemark) :
    declarations content category [node] = [] := by
  have kind : node.kind content = .other := by
    unfold Location.kind
    rw [remark.type]
    rfl
  have nothing : node.namedChildren = [] := by
    rw [Location.namedChildren, Location.children, remark.leaf]
    rfl
  rw [declarations_of_refused (by rw [kind]; cases category <;> rfl), nothing]
  rfl

theorem declarations_kept {extra : Location → Bool} {nodes : List Location}
    (remark : ∀ node ∈ nodes, extra node = true → node.IsRemark) :
    declarations content category (nodes.filter fun node => !extra node) =
      declarations content category nodes := by
  induction nodes with
  | nil => rfl
  | cons node rest inductionHypothesis =>
      have later := inductionHypothesis fun other member =>
        remark other (List.mem_cons_of_mem node member)
      rw [← List.singleton_append, declarations_append, List.filter_append, declarations_append,
        later]
      cases isExtra : extra node with
      | true =>
          rw [declarations_remark (remark node List.mem_cons_self isExtra), List.filter_singleton,
            isExtra]
          rfl
      | false =>
          rw [List.filter_singleton, isExtra]
          rfl

theorem Surroundings.declarations_node {extra : Location → Bool}
    {Same Around : Location → Location → Prop} {left right : Location}
    (surroundings : Surroundings content other extra Same Around) (same : Same left right) :
    List.Forall₂ Same (declarations content category [left])
      (declarations other category [right]) := by
  induction left using Location.named_induction generalizing right with
  | step left inductionHypothesis =>
      have kinds := surroundings.kind_eq same
      have children : List.Forall₂ Same (declarations content category left.namedChildren)
          (declarations other category right.namedChildren) := by
        have listed := surroundings.counterparts.namedChildren same
        rw [← declarations_kept fun child member =>
          surroundings.counterparts.remark same child
            (Location.mem_children_of_mem_namedChildren member)]
        rw [declarations_eq_flatMap left.namedChildren, declarations_eq_flatMap (List.filter _ _)]
        apply List.rel_flatMap (forall₂_of_mem listed fun child isChild _ _ related =>
          inductionHypothesis child isChild related)
        exact fun _ _ below => below
      cases admitted : category.admits (right.kind other) with
      | true =>
          rw [declarations_of_admitted admitted, declarations_of_admitted (kinds ▸ admitted)]
          exact .cons same children
      | false =>
          rw [declarations_of_refused admitted, declarations_of_refused (kinds ▸ admitted)]
          exact children

/-- Where nodes correspond but for remarks, so do the declarations below them. -/
theorem Surroundings.declarations {extra : Location → Bool}
    {Same Around : Location → Location → Prop} {lefts rights : List Location}
    (surroundings : Surroundings content other extra Same Around)
    (listed : List.Forall₂ Same lefts (rights.filter fun node => !extra node))
    (remark : ∀ node ∈ rights, extra node = true → node.IsRemark) :
    List.Forall₂ Same (declarations content category lefts)
      (declarations other category rights) := by
  rw [← declarations_kept remark, declarations_eq_flatMap lefts,
    declarations_eq_flatMap (List.filter _ _)]
  exact List.rel_flatMap listed fun _ _ same => surroundings.declarations_node same

end Declarations

end PhpOutline
