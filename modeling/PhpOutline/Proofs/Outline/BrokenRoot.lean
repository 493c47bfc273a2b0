import PhpOutline.Proofs.Declaration.Alike
import PhpOutline.Proofs.Declaration.Relocation
import PhpOutline.Proofs.Outline.Entries
import PhpOutline.Proofs.Syntax.Retyped

namespace PhpOutline

/-! Outlines of broken documents.

Where a document is badly broken the root of its tree is an error, and the statements stand
right below that.  They have the entries that they have in a program, but for one thing: a
namespace statement without braces holds in programs only.
-/

open PhpOutline.Syntax
open PhpOutline.Syntax.Location (SameTree SameSteps counterparts_sameTree opensNamespace)
open PhpOutline.Text (Bytes)

namespace Syntax.Location

/-- The namespace statement without braces that holds for a node at the top of a document. -/
def governing? (node : Location) : Option Location :=
  match node.scope with
  | .inside _ => none
  | .topLevel statement =>
      if statement.above.length = 1 then statement.earlierNamedSiblings.find? opensNamespace
      else none

end Syntax.Location

/-- The name of a namespace statement without braces at the top of the document is no text. -/
def HasUnreadableNamespace (content : Bytes) (tree : Tree) : Prop :=
  ∃ opening ∈ (Location.root tree).namedChildren,
    opensNamespace opening = true ∧ ∃ failure, opening.declaredName content = .error failure

section Retyped

variable (content : Bytes) {tree : Tree} {type : String} {left right : Location}

theorem isInClassBody_retyped (noBody : isClassBodyType tree.type = isClassBodyType type)
    (same : SameSteps tree type left right) : left.isInClassBody = right.isInClassBody := by
  have parent := same.parent
  unfold Location.isInClassBody
  generalize left.parent? = first at parent ⊢
  generalize right.parent? = second at parent ⊢
  cases parent with
  | none => rfl
  | @some above aboveOther parents =>
      have owner := Location.Paired.parent parents
      rw [Option.bind_some, Option.bind_some]
      generalize above.parent? = first at owner ⊢
      generalize aboveOther.parent? = second at owner ⊢
      cases owner with
      | none => rfl
      | some owners =>
          rcases SameSteps.type_cases owners with ⟨rfl, rfl⟩ | sameType
          · have broken : (Location.root (tree.retyped type)).type = type :=
              Tree.type_retyped type tree
            simp only [broken]
            exact noBody
          · simp only [sameType]

theorem docComment_retyped (same : SameSteps tree type left right) :
    left.docComment content = right.docComment content :=
  (counterparts_sameTree content).docComment_eq (forall₂_head? same.earlierNamedSiblings)

theorem enclosingNamespace_retyped (program : tree.type = "program")
    (other : type ≠ "program" ∧ type ≠ "namespace_definition")
    (same : SameSteps tree type left right) :
    AgreeUnless (HasUnreadableNamespace content tree)
      (fun outer other => other = left.governing?.elim outer fun _ => none)
      (left.enclosingNamespace content) (right.enclosingNamespace content) := by
  have scopes := Location.scopes_paired program other same
  unfold Location.enclosingNamespace Location.governing?
  generalize left.scope = first at scopes ⊢
  generalize right.scope = second at scopes ⊢
  cases scopes with
  | inside here =>
      dsimp only
      rw [(counterparts_sameTree content).declaredName_eq here]
      exact .agree ((Agree.refl _).imp fun _ _ same => same.symm)
  | @topLevel statement twin deep same =>
      have opening := forall₂_find? same.earlierNamedSiblings fun _ _ sibling =>
        (counterparts_sameTree content).opensNamespace_eq sibling
      have opened := (counterparts_sameTree content).openNamespace_eq opening
      change AgreeUnless _ _ (statement.openNamespace content) (twin.openNamespace content)
      dsimp only
      rw [opened, if_neg deep]
      exact .agree ((Agree.refl _).imp fun _ _ same => same.symm)
  | @beyond statement top parent =>
      dsimp only
      rw [if_pos top]
      cases found : statement.earlierNamedSiblings.find? opensNamespace with
      | none => exact .agree (.ok rfl)
      | some opening =>
          dsimp only
          cases read : opening.declaredName content with
          | ok outer => exact .agree (.ok rfl)
          | error failure =>
            refine .excused ⟨opening, ?_, List.find?_some found, failure, read⟩ _ _
            obtain ⟨above, isParent, isChild⟩ :=
              Location.mem_namedChildren_of_mem_earlierNamedSiblings
                (List.mem_of_find?_eq_some found)
            cases parent.symm.trans isParent
            exact isChild

/-- Nodes below the roots to which the same steps lead. -/
def SameNode (tree : Tree) (type : String) (left right : Location) : Prop :=
  SameSteps tree type left right ∧ left.above ≠ []

theorem SameNode.namedChildren (same : SameSteps tree type left right) :
    List.Forall₂ (SameNode tree type) left.namedChildren right.namedChildren :=
  forall₂_of_mem same.namedChildren fun _ isChild _ _ pair =>
    ⟨pair, Location.above_ne_nil_of_mem_children
      (Location.mem_children_of_mem_namedChildren isChild)⟩

theorem SameNode.here_eq (same : SameNode tree type left right) : SameTree left right :=
  SameSteps.here_eq same.1 same.2

theorem SameNode.kind_eq (noBody : isClassBodyType tree.type = isClassBodyType type)
    (same : SameNode tree type left right) : left.kind content = right.kind content :=
  (counterparts_sameTree content).kind_eq same.here_eq (isInClassBody_retyped noBody same.1)

theorem declarations_retyped (category : Category)
    (noBody : isClassBodyType tree.type = isClassBodyType type) :
    List.Forall₂ (SameNode tree type)
      (declarations content category (Reading.statements ⟨content, tree⟩))
      (declarations content category (Reading.statements ⟨content, tree.retyped type⟩)) := by
  apply forall₂_filter
  · apply List.rel_flatMap (SameNode.namedChildren .root)
    exact fun _ _ same => Location.subtree_forall₂ (fun pair => SameNode.namedChildren pair.1) same
  · intro first second same
    rw [same.kind_eq content noBody]

theorem docAnchor_retyped (noBody : isClassBodyType tree.type = isClassBodyType type)
    (same : SameNode tree type left right) :
    SameSteps tree type (left.docAnchor content) (right.docAnchor content) := by
  unfold Location.docAnchor
  rw [same.kind_eq content noBody]
  split
  · have parent := same.1.parent
    generalize left.parent? = first at parent ⊢
    generalize right.parent? = second at parent ⊢
    cases parent with
    | none => exact same.1
    | some parents => exact parents
  · exact same.1

theorem convert_retyped (program : tree.type = "program")
    (other : type ≠ "program" ∧ type ≠ "namespace_definition" ∧ isClassBodyType type = false)
    (origin : Option String) (anonymousPrefix : String) {category : Category}
    (admitted : category.admits (right.kind content) = true)
    (same : SameNode tree type left right) :
    AgreeUnless (HasUnreadableNamespace content tree)
      (fun entry found => found = left.governing?.elim entry fun _ => entry.moved none)
      ((Converter.standard anonymousPrefix).convert content origin left)
      ((Converter.standard anonymousPrefix).convert content origin right) := by
  have noBody : isClassBodyType tree.type = isClassBodyType type := by
    rw [program, other.2.2]
    rfl
  have outers := enclosingNamespace_retyped content program ⟨other.1, other.2.1⟩ same.1
  have docs : Agree Eq ((left.docAnchor content).docComment content)
      ((right.docAnchor content).docComment content) := by
    rw [docComment_retyped content (docAnchor_retyped content noBody same)]
    exact Agree.refl _
  apply ((counterparts_sameTree content).convert_standard_relocates origin same.here_eq outers
    anonymousPrefix (same.kind_eq content noBody) admitted docs).imp id
  intro entry found relocates
  cases relocates with
  | unscoped fixed same =>
      rw [← same.eq, fixed]
      cases left.governing? <;> rfl
  | inScope moves inside same =>
      rw [← same.eq, moves]
      cases left.governing? with
      | none => exact inside
      | some _ => rfl

end Retyped

/-- Below a root that is an error the statements of a program have the entries that they have in
the program, place by place, and fail as they do there.  But what stands behind a namespace
statement without braces, and at the top, is in no namespace any more.  Such a statement is not
even looked at, so a name of it that is no text is no obstacle. -/
theorem outline_brokenRoot {tree : Tree} (program : tree.type = "program")
    (anonymousPrefix : String) (document : Document) (category : Category) :
    AgreeUnless
      (∃ content, Text.encode document.text = .ok content ∧ HasUnreadableNamespace content tree)
      (fun entries others => ∃ content, Text.encode document.text = .ok content ∧
        entries.length = others.length ∧
        entries.length =
          (declarations content category (Reading.statements ⟨content, tree⟩)).length ∧
        ∀ (number : Nat) entry other node, entries[number]? = some entry →
          others[number]? = some other →
          (declarations content category (Reading.statements ⟨content, tree⟩))[number]? =
            some node →
          other = node.governing?.elim entry fun _ => entry.moved none)
      (outline (.fixed false tree) (.standard anonymousPrefix) document category).result
      (outline (.fixed false (tree.retyped "ERROR")) (.standard anonymousPrefix) document
        category).result := by
  have error : "ERROR" ≠ "program" ∧ "ERROR" ≠ "namespace_definition" ∧
      isClassBodyType "ERROR" = false := by decide
  have noBody : isClassBodyType tree.type = isClassBodyType "ERROR" := by
    rw [program]
    rfl
  rw [outline_result_eq_bind, outline_result_eq_bind]
  cases encoded : Text.encode document.text with
  | error run =>
      rw [Frontend.read_surrogates encoded, Frontend.read_surrogates encoded]
      exact .agree (.error _)
  | ok content =>
      have lenient (root : Tree) :
          ((Frontend.fixed false root).read document).result = .ok ⟨content, root⟩ :=
        Frontend.read_fixed encoded nofun
      rw [lenient, lenient]
      have each := forall₂_of_mem (declarations_retyped content category noBody)
        fun left _ right member same =>
          Converter.record_agreeUnless document.origin (same.kind_eq content noBody)
            fun fileName => convert_retyped content program error fileName anonymousPrefix
              (List.mem_filter.mp member).2 same
      have agree := mapM_agreeUnless_at (R := fun (node : Location) _ (entry found : Entry) =>
        found = node.governing?.elim entry fun _ => entry.moved none) each
      apply agree.imp fun unreadable => ⟨content, rfl, unreadable⟩
      rintro entries others ⟨ofNodes, ofTwins, sameLength, places⟩
      refine ⟨content, rfl, by omega, ofNodes, ?_⟩
      intro number entry other node atEntry atOther atNode
      have inTwins : number < others.length := (List.getElem?_eq_some_iff.mp atOther).1
      exact places number node _ entry other atNode (List.getElem?_eq_getElem (ofTwins ▸ inTwins))
        atEntry atOther

/-- A namespace `A` without braces, and a class `B` behind it. -/
def openedProgram : Tree :=
  let node (type : String) (start stop : Nat) (field : Option String) : List Tree → Tree :=
    .node ⟨type, start, stop, field, true, false, false⟩
  node "program" 0 3 none
    [node "namespace_definition" 0 2 none [node "namespace_name" 0 1 (some "name") []],
    node "class_declaration" 2 3 none [node "name" 2 3 (some "name") []]]

def openedText : Document :=
  .ofChars 'A' [';', 'B']

theorem outline_brokenRoot_opened :
    openedProgram.type = "program" ∧
      (outline (.fixed false openedProgram) (.standard "class@anonymous") openedText
        .classLike).result =
        .ok [.classLike ⟨⟨"A\\B", "B", some "A", none, 1, 1, none⟩, .plain, false, [], none, [], [],
          []⟩] ∧
      ∃ others, (outline (.fixed false (openedProgram.retyped "ERROR"))
          (.standard "class@anonymous") openedText .classLike).result = .ok others ∧
        others.length = 1 ∧ ∀ other, others[0]? = some other →
          other.heading = ⟨"B", "B", none, none, 1, 1, none⟩ := by
  have program : openedProgram.type = "program" := rfl
  have outlined : (outline (.fixed false openedProgram) (.standard "class@anonymous") openedText
      .classLike).result =
      .ok [.classLike ⟨⟨"A\\B", "B", some "A", none, 1, 1, none⟩, .plain, false, [], none, [], [],
        []⟩] := by
    decide +kernel
  have agree := outline_brokenRoot program "class@anonymous" openedText .classLike
  rw [outlined] at agree
  refine ⟨program, outlined, ?_⟩
  generalize (outline (.fixed false (openedProgram.retyped "ERROR")) (.standard "class@anonymous")
    openedText .classLike).result = broken at agree
  cases agree with
  | agree agree =>
      cases agree with
      | @ok _ others related =>
          obtain ⟨content, encoded, count, _, places⟩ := related
          cases encoded
          refine ⟨others, rfl, count.symm, ?_⟩
          intro other first
          rw [places 0 _ other _ rfl first rfl]
          decide +kernel

/-- The class is in the namespace in a program, and in none below an error. -/
theorem outline_error_released :
    (outline (.fixed false openedProgram) (.standard "class@anonymous") openedText
        .classLike).result.toOption.map (List.map Entry.heading) =
      some [⟨"A\\B", "B", some "A", none, 1, 1, none⟩] ∧
    (outline (.fixed false (openedProgram.retyped "ERROR")) (.standard "class@anonymous") openedText
        .classLike).result.toOption.map (List.map Entry.heading) =
      some [⟨"B", "B", none, none, 1, 1, none⟩] := by
  decide +kernel

end PhpOutline
