import Mathlib.Data.List.Nodup
import PhpOutline.Proofs.Declaration.Members
import PhpOutline.Proofs.Declaration.Surroundings
import PhpOutline.Proofs.Outline.Entries
import PhpOutline.Proofs.Syntax.Order

namespace PhpOutline

/-! Every member of a class is listed once.

The search looks up from a const element to see whether it belongs to a class; the
entry of a class looks down for the elements and methods that it lists.  Where bodies
and members stand in their usual places, both find the same nodes.
-/

open PhpOutline.Syntax
open PhpOutline.Text (Bytes)

namespace Syntax.Location

variable {tree : Tree} {node parent child : Location}

/-- The nodes that a search from the root goes through. -/
def visits (tree : Tree) : List Location :=
  walk (root tree).namedChildren

theorem visits_nodup (tree : Tree) : (visits tree).Nodup :=
  nodup_of_ordered (root tree).walk_namedChildren_ordered

theorem mem_visits_of_namedChild (member : node ∈ visits tree)
    (isChild : child ∈ node.namedChildren) : child ∈ visits tree := by
  obtain ⟨reached, _⟩ := mem_walk_namedChildren_iff.mp member
  apply mem_walk_namedChildren_iff.mpr
  refine ⟨reached.child isChild, ?_⟩
  rintro rfl
  exact above_ne_nil_of_mem_children (mem_children_of_mem_namedChildren isChild) rfl

theorem visited_parent (member : node ∈ visits tree) (isParent : node.parent? = some parent)
    (notRoot : parent.type ≠ tree.type) : node ∈ parent.namedChildren ∧ parent ∈ visits tree := by
  obtain ⟨reached, different⟩ := mem_walk_namedChildren_iff.mp member
  cases reached with
  | here => exact absurd rfl different
  | child above isChild =>
      rw [parent?_of_mem_children (mem_children_of_mem_namedChildren isChild)] at isParent
      cases isParent
      refine ⟨isChild, mem_walk_namedChildren_iff.mpr ⟨above, ?_⟩⟩
      rintro rfl
      exact notRoot rfl

theorem nodup_flatMap_children {nodes : List Location} {below : Location → List Location}
    (once : nodes.Nodup) (each : ∀ node, (below node).Nodup)
    (areChildren : ∀ node, ∀ child ∈ below node, child ∈ node.children) :
    (nodes.flatMap below).Nodup := by
  apply List.nodup_flatMap.mpr
  refine ⟨fun node _ => each node, once.imp ?_⟩
  intro first second different child inFirst inSecond
  have parents := (parent?_of_mem_children (areChildren first child inFirst)).symm.trans
    (parent?_of_mem_children (areChildren second child inSecond))
  exact different (Option.some.inj parents)

theorem flatMap_children_perm {nodes children : List Location}
    {below : Location → List Location} (once : nodes.Nodup) (onceChildren : children.Nodup)
    (each : ∀ node, (below node).Nodup)
    (areChildren : ∀ node, ∀ child ∈ below node, child ∈ node.children)
    (same : ∀ child, (∃ node ∈ nodes, child ∈ below node) ↔ child ∈ children) :
    (nodes.flatMap below).Perm children := by
  -- Neither list has a node twice, so all that counts is which nodes they have.
  apply (List.perm_ext_iff_of_nodup (nodup_flatMap_children once each areChildren)
    onceChildren).mpr
  intro child
  rw [List.mem_flatMap, same]

theorem namedChildren_nodup (location : Location) : location.namedChildren.Nodup :=
  location.pairwise_subtree_children.imp fun ordered =>
    (ordered _ (self_mem_subtree _) _ (self_mem_subtree _)).ne

end Syntax.Location

open Syntax.Location (visits listedMethods listedElements)

/-- Class bodies, methods and const elements stand where the grammar puts them. -/
structure MembersPlaced (content : Bytes) (tree : Tree) : Prop where
  isProgram : tree.type = "program"
  bodyOwned : ∀ body ∈ visits tree, isClassBodyType body.type = true →
    ∃ owner, body.parent? = some owner ∧ owner.body? = some body ∧
      (owner.kind content).isClassLike = true
  bodyType : ∀ owner ∈ visits tree, (owner.kind content).isClassLike = true →
    ∀ body, owner.body? = some body → isClassBodyType body.type = true
  methodPlace : ∀ method ∈ visits tree, method.kind content = .method →
    ∃ body, method.parent? = some body ∧ isClassBodyType body.type = true
  elementPlace : ∀ element ∈ visits tree, element.type = "const_element" →
    ∃ declaration, element.parent? = some declaration ∧
      declaration.type = "const_declaration"

/-- The bodies of visited classes are no mere tokens. -/
def BodiesNamed (content : Bytes) (tree : Tree) : Prop :=
  ∀ owner ∈ visits tree, (owner.kind content).isClassLike = true →
    ∀ body, owner.body? = some body → body.isNamed = true

instance (content : Bytes) (tree : Tree) : Decidable (MembersPlaced content tree) :=
  decidable_of_iff
    (tree.type = "program" ∧
      (∀ body ∈ visits tree, isClassBodyType body.type = true →
        ∃ owner ∈ body.parent?, owner.body? = some body ∧
          (owner.kind content).isClassLike = true) ∧
      (∀ owner ∈ visits tree, (owner.kind content).isClassLike = true →
        ∀ body ∈ owner.body?, isClassBodyType body.type = true) ∧
      (∀ method ∈ visits tree, method.kind content = .method →
        ∃ body ∈ method.parent?, isClassBodyType body.type = true) ∧
      ∀ element ∈ visits tree, element.type = "const_element" →
        ∃ declaration ∈ element.parent?, declaration.type = "const_declaration")
    ⟨fun ⟨isProgram, bodyOwned, bodyType, methodPlace, elementPlace⟩ =>
      ⟨isProgram, bodyOwned, bodyType, methodPlace, elementPlace⟩,
    fun placed => ⟨placed.isProgram, placed.bodyOwned, placed.bodyType, placed.methodPlace,
      placed.elementPlace⟩⟩

instance (content : Bytes) (tree : Tree) : Decidable (BodiesNamed content tree) :=
  inferInstanceAs (Decidable (∀ owner ∈ visits tree, (owner.kind content).isClassLike = true →
    ∀ body ∈ owner.body?, body.isNamed = true))

namespace MembersPlaced

variable {content : Bytes} {tree : Tree} {node parent : Location}
  (placed : MembersPlaced content tree)

include placed

theorem visited_body (member : node ∈ visits tree) (isParent : node.parent? = some parent)
    (isBody : isClassBodyType parent.type = true) :
    node ∈ parent.namedChildren ∧ parent ∈ visits tree := by
  apply Location.visited_parent member isParent
  rw [placed.isProgram]
  intro program
  rw [program] at isBody
  cases isBody

variable (named : BodiesNamed content tree)

include named

/-- What looks like the body of a class is the body of a class. -/
theorem bodies_perm :
    (((visits tree).filter fun node => (node.kind content).isClassLike).flatMap fun owner =>
        owner.body?.toList).Perm
      ((visits tree).filter fun node => isClassBodyType node.type) := by
  apply Location.flatMap_children_perm ((Location.visits_nodup tree).filter _)
    ((Location.visits_nodup tree).filter _)
  · intro owner
    cases owner.body? <;> simp
  · intro owner body isBody
    exact Location.mem_children_of_body? (Option.mem_toList.mp isBody)
  · intro body
    simp only [List.mem_filter, Option.mem_toList]
    constructor
    · rintro ⟨owner, ⟨visited, isClass⟩, found⟩
      have isChild : body ∈ owner.namedChildren := List.mem_filter.mpr
        ⟨Location.mem_children_of_body? found, named owner visited isClass body found⟩
      exact ⟨Location.mem_visits_of_namedChild visited isChild,
        placed.bodyType owner visited isClass body found⟩
    · rintro ⟨visited, isBody⟩
      obtain ⟨owner, isParent, found, isClass⟩ := placed.bodyOwned body visited isBody
      have notProgram : owner.type ≠ tree.type := by
        rw [placed.isProgram]
        intro program
        have other : owner.kind content = .other := by
          unfold Location.kind
          rw [program]
          rfl
        rw [other] at isClass
        cases isClass
      exact ⟨owner, ⟨(Location.visited_parent visited isParent notProgram).2, isClass⟩, found⟩

theorem methods_perm :
    (((visits tree).filter fun node => (node.kind content).isClassLike).flatMap
        listedMethods).Perm
      ((visits tree).filter fun node => node.kind content == .method) := by
  have bodies := (placed.bodies_perm named).flatMap_right fun body =>
    body.namedChildren.filter (·.type == "method_declaration")
  rw [List.flatMap_assoc] at bodies
  apply bodies.trans
  apply Location.flatMap_children_perm ((Location.visits_nodup tree).filter _)
    ((Location.visits_nodup tree).filter _)
  · exact fun body => body.namedChildren_nodup.filter _
  · intro body method member
    exact Location.mem_children_of_mem_namedChildren (List.mem_filter.mp member).1
  · intro method
    simp only [List.mem_filter, beq_iff_eq]
    constructor
    · rintro ⟨body, ⟨visited, _⟩, isChild, isMethod⟩
      exact ⟨Location.mem_visits_of_namedChild visited isChild,
        Location.kind_eq_method_iff.mpr isMethod⟩
    · rintro ⟨visited, isMethod⟩
      obtain ⟨body, isParent, isBody⟩ := placed.methodPlace method visited isMethod
      obtain ⟨isChild, bodyVisited⟩ := placed.visited_body visited isParent isBody
      exact ⟨body, ⟨bodyVisited, isBody⟩, isChild, Location.kind_eq_method_iff.mp isMethod⟩

theorem elements_perm :
    (((visits tree).filter fun node => (node.kind content).isClassLike).flatMap
        listedElements).Perm
      ((visits tree).filter fun node => node.kind content == .classConstant) := by
  have bodies := (placed.bodies_perm named).flatMap_right fun body =>
    (body.namedChildren.filter (·.type == "const_declaration")).flatMap fun declaration =>
      declaration.namedChildren.filter (·.type == "const_element")
  rw [List.flatMap_assoc] at bodies
  apply bodies.trans
  rw [← List.flatMap_assoc]
  apply Location.flatMap_children_perm
    (Location.nodup_flatMap_children ((Location.visits_nodup tree).filter _)
      (fun body => body.namedChildren_nodup.filter _)
      fun body declaration member =>
        Location.mem_children_of_mem_namedChildren (List.mem_filter.mp member).1)
    ((Location.visits_nodup tree).filter _)
  · exact fun declaration => declaration.namedChildren_nodup.filter _
  · intro declaration element member
    exact Location.mem_children_of_mem_namedChildren (List.mem_filter.mp member).1
  · intro element
    simp only [List.mem_flatMap, List.mem_filter, beq_iff_eq]
    constructor
    · rintro ⟨declaration, ⟨body, ⟨visited, isBody⟩, inBody, isDeclaration⟩, isChild, isElement⟩
      have declared := Location.mem_visits_of_namedChild visited inBody
      refine ⟨Location.mem_visits_of_namedChild declared isChild, ?_⟩
      have parent := Location.parent?_of_mem_children
        (Location.mem_children_of_mem_namedChildren isChild)
      have owner := Location.parent?_of_mem_children
        (Location.mem_children_of_mem_namedChildren inBody)
      rw [Location.kind_of_element isElement, Location.isInClassBody_eq parent, owner,
        Option.any_some, if_pos isBody]
    · rintro ⟨visited, constant⟩
      have isElement := Location.type_of_element (.inr constant)
      obtain ⟨declaration, isParent, isDeclaration⟩ :=
        placed.elementPlace element visited isElement
      obtain ⟨isChild, declared⟩ := Location.visited_parent visited isParent (by
        rw [isDeclaration, placed.isProgram]
        decide)
      have inClassBody : element.isInClassBody = true := by
        by_contra outside
        rw [Location.kind_of_element isElement, if_neg outside] at constant
        cases constant
      rw [Location.isInClassBody_eq isParent, Option.any_eq_true] at inClassBody
      obtain ⟨body, isOwner, isBody⟩ := inClassBody
      obtain ⟨inBody, bodyVisited⟩ := placed.visited_body declared isOwner isBody
      exact ⟨declaration, ⟨body, ⟨bodyVisited, isBody⟩, inBody, isDeclaration⟩, isChild, isElement⟩

end MembersPlaced

theorem declarations_eq_visits (reading : Reading) (category : Category) :
    declarations reading.content category reading.statements =
      (visits reading.root).filter fun node => category.admits (node.kind reading.content) := by
  rw [visits, Location.walk_eq_flatMap]
  rfl

section Entries

variable {frontend : Frontend} {document : Document} {reading : Reading}
  {anonymousPrefix : String} {entries : List Entry}

/-- The entries of an outline of classes are those of the visited classes. -/
theorem classEntries_of_outline (read : (frontend.read document).result = .ok reading)
    (done : (outline frontend (.standard anonymousPrefix) document .classLike).result =
      .ok entries) :
    ∃ classes : List ClassEntry, entries = classes.map .classLike ∧
      List.Forall₂ (fun node entry => ∃ fileName, node.classEntry reading.content fileName
          anonymousPrefix (node.kind reading.content) = .ok entry)
        ((visits reading.root).filter fun node => (node.kind reading.content).isClassLike)
        classes := by
  rw [outline_result_eq_mapM .classLike read, mapM_ok_iff, declarations_eq_visits] at done
  apply exists_map_of_forall₂
  apply forall₂_of_mem done
  intro node member entry _ recorded
  obtain ⟨fileName, _, converted⟩ := Converter.record_eq_ok_iff.mp recorded
  have admitted := (List.mem_filter.mp member).2
  rw [Converter.convert_standard_classLike admitted] at converted
  obtain ⟨classEntry, done, isEntry⟩ := map_eq_ok_iff.mp converted
  exact ⟨classEntry, ⟨fileName, done⟩, isEntry⟩

theorem constantEntries_of_outline (read : (frontend.read document).result = .ok reading)
    (done : (outline frontend (.standard anonymousPrefix) document .constant).result =
      .ok entries) :
    ∃ constants : List ConstantEntry, entries = constants.map .constant ∧
      List.Forall₂ (fun node entry => ∃ fileName, node.constantEntry reading.content fileName
          (node.kind reading.content) = .ok entry)
        ((visits reading.root).filter fun node =>
          Category.constant.admits (node.kind reading.content))
        constants := by
  rw [outline_result_eq_mapM .constant read, mapM_ok_iff, declarations_eq_visits] at done
  apply exists_map_of_forall₂
  apply forall₂_of_mem done
  intro node member entry _ recorded
  obtain ⟨fileName, _, converted⟩ := Converter.record_eq_ok_iff.mp recorded
  have admitted := (List.mem_filter.mp member).2
  rw [Converter.convert_standard_constant admitted] at converted
  obtain ⟨constantEntry, done, isEntry⟩ := map_eq_ok_iff.mp converted
  exact ⟨constantEntry, ⟨fileName, done⟩, isEntry⟩

end Entries

/-- The entries that are no definitions are those of the const elements outside of
classes. -/
theorem recordsElement_of_constants {content : Bytes} {nodes : List Location}
    {constants : List ConstantEntry}
    (each : List.Forall₂
      (fun node entry => ∃ fileName,
        node.constantEntry content fileName (node.kind content) = .ok entry)
      (nodes.filter fun node => Category.constant.admits (node.kind content)) constants) :
    List.Forall₂ (Location.RecordsElement content)
      (nodes.filter fun node => node.kind content == .constant)
      (constants.filter fun entry => !entry.isDefine) := by
  have decided : List.Forall₂
      (fun node entry =>
        (∃ fileName, node.constantEntry content fileName (node.kind content) = .ok entry) ∧
          (node.kind content == .constant) = !entry.isDefine)
      (nodes.filter fun node => Category.constant.admits (node.kind content)) constants := by
    apply forall₂_of_mem each
    intro node member entry _ recorded
    refine ⟨recorded, ?_⟩
    obtain ⟨_, done⟩ := recorded
    rw [(Location.constantEntry_reads done).isDefine]
    have admitted : Category.constant.admits (node.kind content) = true :=
      (List.mem_filter.mp member).2
    rcases Bool.or_eq_true_iff.mp admitted with constant | define
    · rw [beq_iff_eq.mp constant]
      rfl
    · rw [beq_iff_eq.mp define]
      rfl
  have kept := forall₂_filter decided fun _ _ done => done.2
  have same : (nodes.filter fun node => Category.constant.admits (node.kind content)).filter
      (fun node => node.kind content == .constant) =
        nodes.filter fun node => node.kind content == .constant := by
    rw [List.filter_filter]
    apply List.filter_congr
    intro node _
    cases constant : node.kind content == .constant with
    | true => rw [beq_iff_eq.mp constant]; rfl
    | false => rfl
  rw [same] at kept
  apply forall₂_of_mem kept
  rintro node member entry _ ⟨⟨_, done⟩, _⟩
  have constant : node.kind content = .constant := beq_iff_eq.mp (List.mem_filter.mp member).2
  apply Location.constantEntry_recordsElement _ done
  rw [constant]
  decide

/-- A const element belongs to a class, or is a constant of its own. -/
theorem elements_split (content : Bytes) (nodes : List Location) :
    ((nodes.filter fun node => node.kind content == .classConstant) ++
        nodes.filter fun node => node.kind content == .constant).Perm
      (nodes.filter fun node => node.type == "const_element") := by
  have inside : (nodes.filter fun node => node.type == "const_element").filter
      (fun node => node.kind content == .classConstant) =
        nodes.filter fun node => node.kind content == .classConstant := by
    rw [List.filter_filter]
    apply List.filter_congr
    intro node _
    cases constant : node.kind content == .classConstant with
    | true =>
        have element := Location.type_of_element (.inr (beq_iff_eq.mp constant))
        rw [element]
        rfl
    | false => rfl
  have outside : (nodes.filter fun node => node.type == "const_element").filter
      (fun node => !(node.kind content == .classConstant)) =
        nodes.filter fun node => node.kind content == .constant := by
    rw [List.filter_filter]
    apply List.filter_congr
    intro node _
    by_cases element : node.type = "const_element"
    · rw [Location.kind_of_element element, element]
      cases node.isInClassBody <;> rfl
    · have noConstant : node.kind content ≠ .constant := fun constant =>
        element (Location.type_of_element (.inl constant))
      rw [beq_false_of_ne noConstant, beq_false_of_ne element, Bool.and_false]
  rw [← inside, ← outside]
  exact List.filter_append_perm _ _

/-- Where bodies and members stand in their usual places, every named method and every
named const element is reported once: the methods and the class constants in the lists
of the classes, the other elements by entries of their own, in document order.  Every
element is of one of both kinds. -/
theorem members_conserved {frontend : Frontend} {document : Document} {reading : Reading}
    {anonymousPrefix : String} {classLikes constantLikes : List Entry}
    (read : (frontend.read document).result = .ok reading)
    (placed : MembersPlaced reading.content reading.root)
    (named : BodiesNamed reading.content reading.root)
    (classesDone : (outline frontend (.standard anonymousPrefix) document .classLike).result =
      .ok classLikes)
    (constantsDone : (outline frontend (.standard anonymousPrefix) document .constant).result =
      .ok constantLikes) :
    ∃ (classes : List ClassEntry) (constants : List ConstantEntry),
      classLikes = classes.map .classLike ∧ constantLikes = constants.map .constant ∧
      (∃ names, collect (Location.declaredName reading.content)
          ((visits reading.root).filter fun node => node.kind reading.content == .method) =
            .ok names ∧
        (classes.flatMap ClassEntry.methodNames).Perm names) ∧
      (∃ names, collect (Location.elementName reading.content)
          ((visits reading.root).filter fun node =>
            node.kind reading.content == .classConstant) = .ok names ∧
        (classes.flatMap ClassEntry.constantNames).Perm names) ∧
      List.Forall₂ (Location.RecordsElement reading.content)
        ((visits reading.root).filter fun node => node.kind reading.content == .constant)
        (constants.filter fun entry => !entry.isDefine) ∧
      (((visits reading.root).filter fun node => node.kind reading.content == .classConstant) ++
        (visits reading.root).filter fun node => node.kind reading.content == .constant).Perm
        ((visits reading.root).filter fun node => node.type == "const_element") := by
  obtain ⟨classes, rfl, classEach⟩ := classEntries_of_outline read classesDone
  obtain ⟨constants, rfl, constantEach⟩ := constantEntries_of_outline read constantsDone
  have methods := collect_flatMap (classEach.imp fun _ _ ⟨_, done⟩ =>
    (Location.classEntry_members done).1)
  have elements := collect_flatMap (classEach.imp fun _ _ ⟨_, done⟩ =>
    (Location.classEntry_members done).2)
  exact ⟨classes, constants, rfl, rfl, collect_perm (placed.methods_perm named) methods,
    collect_perm (placed.elements_perm named) elements,
    recordsElement_of_constants constantEach, elements_split _ _⟩

def memberDocument : Document :=
  .ofChars 'A' ['B', 'C']

/-- A class with a method and a constant, in a body that may be a mere token. -/
def memberClass (bodyNamed : Bool) : Tree :=
  .node ⟨"program", 0, 3, none, true, false, false⟩
    [.node ⟨"class_declaration", 0, 3, none, true, false, false⟩
      [.node ⟨"name", 0, 1, some "name", true, false, false⟩ [],
      .node ⟨"declaration_list", 1, 3, some "body", bodyNamed, false, false⟩
        [.node ⟨"method_declaration", 1, 2, none, true, false, false⟩
          [.node ⟨"name", 1, 2, some "name", true, false, false⟩ []],
        .node ⟨"const_declaration", 2, 3, none, true, false, false⟩
          [.node ⟨"const_element", 2, 3, none, true, false, false⟩
            [.node ⟨"name", 2, 3, none, true, false, false⟩ []]]]]]

/-- What is recorded of the class, whatever its body is. -/
def memberEntry : ClassEntry where
  heading := ⟨"A", "A", none, none, 1, 1, none⟩
  form := .plain
  isAnonymous := false
  modifiers := []
  parentName := none
  interfaceNames := []
  methodNames := ["B"]
  constantNames := ["C"]

theorem membersPlaced_memberClass : MembersPlaced [65, 66, 67] (memberClass true) := by
  decide +kernel

theorem bodiesNamed_memberClass : BodiesNamed [65, 66, 67] (memberClass true) := by
  decide +kernel

theorem members_memberClass :
    ((Frontend.fixed true (memberClass true)).read memberDocument).result =
        .ok ⟨[65, 66, 67], memberClass true⟩ ∧
      MembersPlaced [65, 66, 67] (memberClass true) ∧
      BodiesNamed [65, 66, 67] (memberClass true) ∧
      (outline (.fixed true (memberClass true)) (.standard "class@anonymous") memberDocument
        .classLike).result = .ok [.classLike memberEntry] ∧
      (outline (.fixed true (memberClass true)) (.standard "class@anonymous") memberDocument
        .constant).result = .ok [] ∧
      (∃ names, collect (Location.declaredName [65, 66, 67])
          ((visits (memberClass true)).filter fun node =>
            node.kind [65, 66, 67] == .method) = .ok names ∧ ["B"].Perm names) ∧
      ∃ names, collect (Location.elementName [65, 66, 67])
          ((visits (memberClass true)).filter fun node =>
            node.kind [65, 66, 67] == .classConstant) = .ok names ∧ ["C"].Perm names := by
  have read : ((Frontend.fixed true (memberClass true)).read memberDocument).result =
      .ok ⟨[65, 66, 67], memberClass true⟩ := Frontend.read_fixed rfl fun _ => rfl
  have classesDone : (outline (.fixed true (memberClass true)) (.standard "class@anonymous")
      memberDocument .classLike).result = .ok [.classLike memberEntry] := by
    decide +kernel
  have constantsDone : (outline (.fixed true (memberClass true)) (.standard "class@anonymous")
      memberDocument .constant).result = .ok [] := by decide +kernel
  obtain ⟨classes, _, same, _, methods, elements, _⟩ := members_conserved read
    membersPlaced_memberClass bodiesNamed_memberClass classesDone constantsDone
  obtain ⟨entry, rfl, isEntry⟩ := List.map_eq_singleton_iff.mp same.symm
  cases isEntry
  exact ⟨read, membersPlaced_memberClass, bodiesNamed_memberClass, classesDone, constantsDone,
    methods, elements⟩

/-- A body that is a mere token is listed by its class, but not gone through. -/
theorem members_token :
    ((Frontend.fixed true (memberClass false)).read memberDocument).result =
        .ok ⟨[65, 66, 67], memberClass false⟩ ∧
      MembersPlaced [65, 66, 67] (memberClass false) ∧
      (outline (.fixed true (memberClass false)) (.standard "class@anonymous") memberDocument
        .classLike).result = .ok [.classLike memberEntry] ∧
      (outline (.fixed true (memberClass false)) (.standard "class@anonymous") memberDocument
        .constant).result = .ok [] ∧
      collect (Location.declaredName [65, 66, 67])
        ((visits (memberClass false)).filter fun node =>
          node.kind [65, 66, 67] == .method) = .ok [] ∧
      ¬ memberEntry.methodNames.Perm [] := by
  refine ⟨Frontend.read_fixed rfl fun _ => rfl, by decide +kernel, by decide +kernel,
    by decide +kernel, ?_, by decide⟩
  rw [visits, Location.walk_eq_flatMap]
  rfl

end PhpOutline
