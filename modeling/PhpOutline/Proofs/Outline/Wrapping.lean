import PhpOutline.Proofs.Declaration.Alike
import PhpOutline.Proofs.Declaration.Namespace
import PhpOutline.Proofs.Outline.Entries

namespace PhpOutline

open PhpOutline.Syntax
open PhpOutline.Syntax.Location (Alike Within isNamed)
open PhpOutline.Text (Bytes)

/-- How an entry changes between the namespaces `outer` and `other`: if its names
hang on the namespace they follow it, and all else stays. -/
structure Entry.Moves (left : Entry) (outer other : Option String) (right : Entry) : Prop where
  shortName : left.heading.shortName = right.heading.shortName
  startLine : left.heading.startLine = right.heading.startLine
  endLine : left.heading.endLine = right.heading.endLine
  isUnscoped : left.isUnscoped = right.isUnscoped
  unscoped : left.isUnscoped = true →
    left.heading.name = right.heading.name ∧
      left.heading.namespaceName = right.heading.namespaceName
  inScope : left.isUnscoped = false →
    left.heading.namespaceName = outer ∧
      left.heading.name = qualify outer left.heading.shortName ∧
      right.heading.namespaceName = other ∧
      right.heading.name = qualify other right.heading.shortName

namespace Syntax.Location

variable {content : Bytes} {origin : Option String} {anonymousPrefix : String}
  {left right : Location} {outer other : Option String} {subject : Subject}

theorem Alike.moves {leftNaming rightNaming : Naming} {leftEntry rightEntry : Entry}
    (alike : Alike left right) (leftRecords : left.Records content leftNaming leftEntry)
    (rightRecords : right.Records content rightNaming rightEntry)
    (shortName : leftNaming.shortName = rightNaming.shortName)
    (unscoped : rightEntry.isUnscoped = true →
      leftNaming.name = rightNaming.name ∧
        leftNaming.namespaceName = rightNaming.namespaceName)
    (inScope : rightEntry.isUnscoped = false →
      leftNaming.namespaceName = outer ∧
        leftNaming.name = qualify outer leftNaming.shortName ∧
        rightNaming.namespaceName = other ∧
        rightNaming.name = qualify other rightNaming.shortName) :
    leftEntry.Moves outer other rightEntry := by
  have sameScope : leftEntry.isUnscoped = rightEntry.isUnscoped := by
    rw [leftRecords.isUnscoped, rightRecords.isUnscoped, alike.kind_eq]
  refine ⟨?_, ?_, ?_, sameScope, ?_, ?_⟩
  · rw [leftRecords.shortName, rightRecords.shortName, shortName]
  · rw [leftRecords.startLine, rightRecords.startLine, alike.startLine_eq]
  · rw [leftRecords.endLine, rightRecords.endLine, alike.endLine_eq]
  · rw [sameScope, leftRecords.name, rightRecords.name, leftRecords.namespaceName,
      rightRecords.namespaceName]
    exact unscoped
  · rw [sameScope, leftRecords.name, rightRecords.name, leftRecords.namespaceName,
      rightRecords.namespaceName, leftRecords.shortName, rightRecords.shortName]
    exact inScope

/-- The conversions of nodes that are alike agree, whatever namespaces they stand
in. -/
theorem Alike.converts_agree {leftOutcome rightOutcome : Except Failure Entry}
    (alike : Alike left right) (proper : outer ≠ some "") (otherProper : other ≠ some "")
    (leftConverts : left.ConvertsBy content subject
      (left.naming? content origin anonymousPrefix outer) leftOutcome)
    (rightConverts : right.ConvertsBy content subject
      (right.naming? content origin anonymousPrefix other) rightOutcome) :
    Agree (fun first second => first.Moves outer other second) leftOutcome rightOutcome := by
  have refused (leftFails : left.ConvertsBy content subject none leftOutcome)
      (rightFails : right.ConvertsBy content subject none rightOutcome) :
      Agree (fun first second => first.Moves outer other second) leftOutcome rightOutcome := by
    rw [show leftOutcome = _ from leftFails, show rightOutcome = _ from rightFails,
      alike.obstruct_eq]
    exact .error _
  rw [alike.naming?_eq] at leftConverts
  -- The kind, which both nodes share, decides whether the namespaces matter.
  cases kind : right.kind content == .anonymousClass || right.kind content == .define with
  | true =>
      rw [naming?_of_unscoped kind other] at leftConverts
      cases found : right.naming? content origin anonymousPrefix other with
      | none =>
          rw [found] at leftConverts rightConverts
          exact refused leftConverts rightConverts
      | some naming =>
          rw [found] at leftConverts rightConverts
          obtain ⟨leftEntry, rfl, leftRecords⟩ := leftConverts
          obtain ⟨rightEntry, rfl, rightRecords⟩ := rightConverts
          apply Agree.ok
          apply alike.moves leftRecords rightRecords rfl (fun _ => ⟨rfl, rfl⟩)
          rw [rightRecords.isUnscoped, kind]
          exact nofun
  | false =>
      rw [naming?_of_scoped proper kind] at leftConverts
      rw [naming?_of_scoped otherProper kind] at rightConverts
      cases found : right.scopedName? content with
      | none =>
          rw [found] at leftConverts rightConverts
          exact refused leftConverts rightConverts
      | some shortName =>
          rw [found] at leftConverts rightConverts
          obtain ⟨leftEntry, rfl, leftRecords⟩ := leftConverts
          obtain ⟨rightEntry, rfl, rightRecords⟩ := rightConverts
          apply Agree.ok
          apply alike.moves leftRecords rightRecords rfl ?_ (fun _ => ⟨rfl, rfl, rfl, rfl⟩)
          rw [rightRecords.isUnscoped, kind]
          exact nofun

end Syntax.Location

/-- All declarations of the tree are among the statements `tops`, and stand in the
namespace `outer`. -/
structure Situated (content : Bytes) (category : Category) (tree : Tree)
    (tops : List Location) (outer : Option String) : Prop where
  declared : declarations content category (Reading.statements ⟨content, tree⟩) =
    declarations content category tops
  enclosing : ∀ node ∈ declarations content category tops,
    node.enclosingNamespace content = .ok outer
  proper : outer ≠ some ""

/-- The outlines of trees with the same statements agree, whatever namespaces these
stand in. -/
theorem Situated.outlines_agree {content : Bytes} {category : Category} {left right : Tree}
    {tops others : List Location} {outer other : Option String} {document : Document}
    {leftFrontend rightFrontend : Frontend} {anonymousPrefix : String}
    (situated : Situated content category left tops outer)
    (otherSituated : Situated content category right others other)
    (alike : List.Forall₂ Alike tops others)
    (readable : Readable content left) (otherReadable : Readable content right)
    (read : (leftFrontend.read document).result = .ok ⟨content, left⟩)
    (otherRead : (rightFrontend.read document).result = .ok ⟨content, right⟩) :
    Agree (List.Forall₂ fun first second => first.Moves outer other second)
      (outline leftFrontend (.standard anonymousPrefix) document category).result
      (outline rightFrontend (.standard anonymousPrefix) document category).result := by
  rw [outline_result_eq_mapM category read, outline_result_eq_mapM category otherRead]
  dsimp only
  apply mapM_agree
  rw [situated.declared, otherSituated.declared]
  apply forall₂_of_mem (declarations_alike alike)
  intro node member twin twinMember nodes
  have inside : Within left node ∧ category.admits (node.kind content) = true := by
    rw [← situated.declared] at member
    exact within_of_mem_declarations ⟨content, left⟩ member
  have twinInside : Within right twin ∧ category.admits (twin.kind content) = true := by
    rw [← otherSituated.declared] at twinMember
    exact within_of_mem_declarations ⟨content, right⟩ twinMember
  apply Converter.record_agree document.origin nodes.kind_eq
  intro fileName
  exact nodes.converts_agree situated.proper otherSituated.proper
    (Location.convert_standard fileName anonymousPrefix readable inside.1 inside.2
      (situated.enclosing node member))
    (Location.convert_standard fileName anonymousPrefix otherReadable twinInside.1
      twinInside.2 (otherSituated.enclosing twin twinMember))

/-- What stands around the statements of a namespace: the name, and the labels of
the nodes above. -/
structure NamespaceFrame where
  program : Label
  definition : Label
  body : Label
  name : Tree
  isProgram : program.type = "program"
  isDefinition : definition.type = "namespace_definition"
  isBlock : body.type = "compound_statement"
  definitionNamed : definition.named = true
  bodyNamed : body.named = true
  nameField : name.label.field = some "name"
  bodyField : body.field = some "body"

namespace NamespaceFrame

variable (frame : NamespaceFrame) (statements : List Tree)

/-- The statements in the braces of a namespace. -/
def bracketed : Tree :=
  .node frame.program [.node frame.definition [frame.name, .node frame.body statements]]

/-- The statements after a namespace statement without braces. -/
def unbracketed : Tree :=
  .node frame.program (.node frame.definition [frame.name] :: statements)

/-- The statements without the namespace. -/
def bare : Tree :=
  .node frame.program statements

/-- The definition with braces in its place. -/
def around : Location :=
  ⟨.node frame.definition [frame.name, .node frame.body statements],
    [⟨frame.bracketed statements, 0⟩]⟩

/-- The name as the first child of a definition. -/
def nameIn (definition : Location) : Location :=
  ⟨frame.name, ⟨definition.here, 0⟩ :: definition.above⟩

/-- The braces in their place. -/
def block : Location :=
  ⟨.node frame.body statements,
    [⟨.node frame.definition [frame.name, .node frame.body statements], 1⟩,
      ⟨frame.bracketed statements, 0⟩]⟩

/-- The definition without braces in its place. -/
def opening : Location :=
  ⟨.node frame.definition [frame.name], [⟨frame.unbracketed statements, 0⟩]⟩

/-- The statements after the definition in their places. -/
def following : List Location :=
  ((Location.root (frame.unbracketed statements)).childrenFrom 1 statements).filter isNamed

variable {frame} {statements} {content : Bytes} {category : Category}

theorem isClassBodyType_program : isClassBodyType frame.program.type = false := by
  rw [frame.isProgram]
  rfl

theorem isClassBodyType_definition : isClassBodyType frame.definition.type = false := by
  rw [frame.isDefinition]
  rfl

theorem isClassBodyType_body : isClassBodyType frame.body.type = false := by
  rw [frame.isBlock]
  rfl

theorem type_unbracketed : (frame.unbracketed statements).type = "program" :=
  frame.isProgram

theorem type_bare : (frame.bare statements).type = "program" :=
  frame.isProgram

theorem childByField?_name {definition : Location} {rest : List Tree}
    (first : definition.here.children = frame.name :: rest) :
    definition.childByField? "name" = some (frame.nameIn definition) := by
  have field : (frame.nameIn definition).label.field = some "name" := frame.nameField
  unfold Location.childByField? Location.children
  rw [first]
  change List.find? _ (frame.nameIn definition :: _) = _
  rw [List.find?_cons_of_pos (by rw [field]; rfl)]

theorem statements_bracketed :
    Reading.statements ⟨content, frame.bracketed statements⟩ = [frame.around statements] := by
  have named : isNamed (frame.around statements) = true := frame.definitionNamed
  change List.filter isNamed [frame.around statements] = _
  rw [List.filter_cons_of_pos named, List.filter_nil]

theorem statements_unbracketed :
    Reading.statements ⟨content, frame.unbracketed statements⟩ =
      frame.opening statements :: frame.following statements := by
  have named : isNamed (frame.opening statements) = true := frame.definitionNamed
  change List.filter isNamed (frame.opening statements :: _) = _
  rw [List.filter_cons_of_pos named]
  rfl

/-- A definition is no declaration, and neither is the block in its braces. -/
theorem declarations_of_type (node : Location)
    (type : node.type = "namespace_definition" ∨ node.type = "compound_statement") :
    declarations content category [node] = declarations content category node.namedChildren := by
  apply declarations_of_refused
  unfold Location.kind
  rcases type with same | same
  · rw [same]
    cases category <;> rfl
  · rw [same]
    cases category <;> rfl

/-- The name of a namespace has no declarations in its place if it has none on its
own. -/
theorem declarations_name {place : Location} (here : place.here = frame.name)
    (isBelowClassBody : place.isBelowClassBody = false)
    (isInClassBody : place.isInClassBody = false)
    (none : declarations content category [Location.root frame.name] = []) :
    declarations content category ([place].filter isNamed) = [] := by
  have alike : Alike (Location.root frame.name) place :=
    ⟨here.symm, isBelowClassBody.symm, isInClassBody.symm⟩
  have related : List.Forall₂ Alike (declarations content category [Location.root frame.name])
      (declarations content category [place]) := declarations_alike (.cons alike .nil)
  rw [none] at related
  rw [List.filter_cons]
  split
  · exact List.forall₂_nil_left_iff.mp related
  · rfl

theorem declarations_bracketed
    (none : declarations content category [Location.root frame.name] = []) :
    declarations content category (Reading.statements ⟨content, frame.bracketed statements⟩) =
      declarations content category (frame.block statements).namedChildren := by
  have children : (frame.around statements).namedChildren =
      [frame.nameIn (frame.around statements)].filter isNamed ++ [frame.block statements] := by
    have named : isNamed (frame.block statements) = true := frame.bodyNamed
    change List.filter isNamed ([frame.nameIn _] ++ [frame.block statements]) = _
    rw [List.filter_append, List.filter_cons_of_pos named, List.filter_nil]
  have inName : declarations content category
      ([frame.nameIn (frame.around statements)].filter isNamed) = [] :=
    declarations_name rfl isClassBodyType_definition isClassBodyType_program none
  rw [statements_bracketed,
    declarations_of_type (frame.around statements) (.inl frame.isDefinition), children,
    declarations_append, inName, List.nil_append,
    declarations_of_type (frame.block statements) (.inr frame.isBlock)]

theorem declarations_unbracketed
    (none : declarations content category [Location.root frame.name] = []) :
    declarations content category (Reading.statements ⟨content, frame.unbracketed statements⟩) =
      declarations content category (frame.following statements) := by
  have inName : declarations content category (frame.opening statements).namedChildren = [] :=
    declarations_name rfl isClassBodyType_definition isClassBodyType_program none
  rw [statements_unbracketed, ← List.singleton_append, declarations_append,
    declarations_of_type (frame.opening statements) (.inl frame.isDefinition), inName,
    List.nil_append]

theorem alike_statements {tree : Tree} (isProgram : tree.type = "program") (first : Nat) :
    List.Forall₂ Alike (frame.block statements).namedChildren
      (((Location.root tree).childrenFrom first statements).filter isNamed) := by
  have outside : isClassBodyType tree.type = false := by
    rw [isProgram]
    rfl
  apply forall₂_filter
  · apply Location.childrenFrom_forall₂
    intro tree index number
    exact ⟨rfl, isClassBodyType_body.trans outside.symm, isClassBodyType_definition⟩
  · exact fun _ _ child => congrArg Tree.isNamed child.here

variable {outer : String}

theorem enclosingNamespace_block
    (nameText : (Location.root frame.name).text? content = some outer) :
    (frame.block statements).enclosingNamespace content = .ok (some outer) := by
  have child : frame.block statements ∈ (frame.around statements).children :=
    List.mem_cons_of_mem _ List.mem_cons_self
  have isDefinition : (frame.around statements).type = "namespace_definition" :=
    frame.isDefinition
  rw [Location.enclosingNamespace_child child (by rw [isDefinition]; decide), isDefinition]
  exact Location.declaredName_of_childByField? (childByField?_name rfl) nameText

theorem enclosingNamespace_of_mem_block {statement : Location}
    (nameText : (Location.root frame.name).text? content = some outer)
    (member : statement ∈ (frame.block statements).namedChildren) :
    statement.enclosingNamespace content = .ok (some outer) := by
  have isBlock : (frame.block statements).type = "compound_statement" := frame.isBlock
  rw [Location.enclosingNamespace_child (Location.mem_children_of_mem_namedChildren member)
    (by rw [isBlock]; decide), isBlock]
  exact enclosingNamespace_block nameText

theorem enclosingNamespace_of_mem_following {statement : Location}
    (plain : ∀ tree ∈ statements, tree.type ≠ "namespace_definition")
    (nameText : (Location.root frame.name).text? content = some outer)
    (member : statement ∈ frame.following statements) :
    statement.enclosingNamespace content = .ok (some outer) := by
  have body : (frame.opening statements).childByField? "body" = none := by
    have field : (frame.nameIn (frame.opening statements)).label.field = some "name" :=
      frame.nameField
    change List.find? _ [frame.nameIn (frame.opening statements)] = _
    rw [List.find?_cons_of_neg (by rw [field]; decide), List.find?_nil]
  have opens : (frame.opening statements).opensNamespace = true := by
    have isDefinition : (frame.opening statements).type = "namespace_definition" :=
      frame.isDefinition
    rw [Location.opensNamespace, body, isDefinition]
    rfl
  have named : (frame.opening statements).isNamed = true := frame.definitionNamed
  have first : (Location.root (frame.unbracketed statements)).children[0]? =
      some (frame.opening statements) := rfl
  have rest : (frame.unbracketed statements).children.drop 1 = statements := rfl
  rw [Location.enclosingNamespace_of_mem_childrenFrom type_unbracketed rest plain
    (List.mem_filter.mp member).1, Location.namespaceBefore_succ content first, named, opens]
  exact Location.declaredName_of_childByField? (childByField?_name rfl) nameText

theorem enclosingNamespace_of_mem_bare {statement : Location}
    (plain : ∀ tree ∈ statements, tree.type ≠ "namespace_definition")
    (member : statement ∈ Reading.statements ⟨content, frame.bare statements⟩) :
    statement.enclosingNamespace content = .ok none := by
  have rest : (frame.bare statements).children.drop 0 = statements := rfl
  rw [Location.enclosingNamespace_of_mem_childrenFrom type_bare rest plain
    (List.mem_filter.mp member).1]
  rfl

/-- No statement has a definition or a program in it. -/
def Plain (statements : List Tree) : Prop :=
  ∀ label ∈ Tree.labelsAll statements,
    label.type ≠ "program" ∧ label.type ≠ "namespace_definition"

theorem Plain.type_ne (plain : Plain statements) :
    ∀ tree ∈ statements, tree.type ≠ "namespace_definition" := by
  intro tree member
  have top : tree.label ∈ tree.labels := by
    rw [Tree.labels_eq]
    exact List.mem_cons_self
  exact (plain tree.label (Tree.labels_subset_labelsAll member top)).2

theorem Plain.enclosingNamespace {tops : List Location} {namespaceName : Option String}
    {node : Location} (plain : Plain statements) (isStatement : ∀ top ∈ tops, top.here ∈ statements)
    (enclosing : ∀ top ∈ tops, top.enclosingNamespace content = .ok namespaceName)
    (member : node ∈ declarations content category tops) :
    node.enclosingNamespace content = .ok namespaceName := by
  obtain ⟨top, isTop, inside⟩ := List.mem_flatMap.mp (List.mem_filter.mp member).1
  rw [(Location.mem_subtree_iff_reached.mp inside).enclosingNamespace_eq]
  · exact enclosing top isTop
  · exact fun label inTop =>
      plain label (Tree.labels_subset_labelsAll (isStatement top isTop) inTop)

theorem situated_bracketed (plain : Plain statements) (proper : outer ≠ "")
    (nameText : (Location.root frame.name).text? content = some outer)
    (none : declarations content category [Location.root frame.name] = []) :
    Situated content category (frame.bracketed statements)
      (frame.block statements).namedChildren (some outer) := by
  refine ⟨declarations_bracketed none, ?_, by simpa using proper⟩
  intro node
  apply plain.enclosingNamespace
  · intro statement member
    exact (Location.above_of_mem_children (Location.mem_children_of_mem_namedChildren member)).1
  · exact fun statement => enclosingNamespace_of_mem_block nameText

theorem situated_unbracketed (plain : Plain statements) (proper : outer ≠ "")
    (nameText : (Location.root frame.name).text? content = some outer)
    (none : declarations content category [Location.root frame.name] = []) :
    Situated content category (frame.unbracketed statements)
      (frame.following statements) (some outer) := by
  refine ⟨declarations_unbracketed none, ?_, by simpa using proper⟩
  intro node
  apply plain.enclosingNamespace
  · intro statement member
    exact (Location.above_of_mem_childrenFrom (List.mem_filter.mp member).1).1
  · exact fun statement => enclosingNamespace_of_mem_following plain.type_ne nameText

theorem situated_bare (frame : NamespaceFrame) (content : Bytes) (category : Category)
    (plain : Plain statements) :
    Situated content category (frame.bare statements)
      (Reading.statements ⟨content, frame.bare statements⟩) none := by
  refine ⟨rfl, ?_, nofun⟩
  intro node
  apply plain.enclosingNamespace
  · intro statement member
    exact (Location.above_of_mem_childrenFrom (List.mem_filter.mp member).1).1
  · exact fun statement => enclosingNamespace_of_mem_bare plain.type_ne

theorem labels_unbracketed_subset :
    (frame.unbracketed statements).labels ⊆ (frame.bracketed statements).labels := by
  intro label
  simp only [unbracketed, bracketed, Tree.labels, Tree.labelsAll, List.mem_cons, List.mem_append]
  tauto

theorem labels_bare_subset :
    (frame.bare statements).labels ⊆ (frame.bracketed statements).labels := by
  intro label
  simp only [bare, bracketed, Tree.labels, Tree.labelsAll, List.mem_cons, List.mem_append]
  tauto

end NamespaceFrame

/-- The entries have the same names and lines. -/
structure Entry.SameNames (left right : Entry) : Prop where
  name : left.heading.name = right.heading.name
  shortName : left.heading.shortName = right.heading.shortName
  namespaceName : left.heading.namespaceName = right.heading.namespaceName
  startLine : left.heading.startLine = right.heading.startLine
  endLine : left.heading.endLine = right.heading.endLine

/-- The first entry is the second one put into a namespace: anonymous classes and
`define` calls keep their names, all others get that of the namespace in front. -/
structure Entry.IsInside (namespaceName : String) (inside outside : Entry) : Prop where
  shortName : inside.heading.shortName = outside.heading.shortName
  startLine : inside.heading.startLine = outside.heading.startLine
  endLine : inside.heading.endLine = outside.heading.endLine
  isUnscoped : inside.isUnscoped = outside.isUnscoped
  unscoped : inside.isUnscoped = true →
    inside.heading.name = outside.heading.name ∧
      inside.heading.namespaceName = outside.heading.namespaceName
  inScope : inside.isUnscoped = false →
    inside.heading.namespaceName = some namespaceName ∧
      inside.heading.name = namespaceName ++ "\\" ++ inside.heading.shortName ∧
      outside.heading.namespaceName = none ∧
      outside.heading.name = outside.heading.shortName

theorem Entry.Moves.sameNames {left right : Entry} {outer : Option String}
    (moves : left.Moves outer outer right) : left.SameNames right := by
  cases unscoped : left.isUnscoped with
  | true =>
      obtain ⟨name, namespaceName⟩ := moves.unscoped unscoped
      exact ⟨name, moves.shortName, namespaceName, moves.startLine, moves.endLine⟩
  | false =>
      obtain ⟨namespaceName, name, otherNamespace, otherName⟩ := moves.inScope unscoped
      refine ⟨?_, moves.shortName, ?_, moves.startLine, moves.endLine⟩
      · rw [name, otherName, moves.shortName]
      · rw [namespaceName, otherNamespace]

theorem Entry.Moves.isInside {inside outside : Entry} {outer : String} (proper : outer ≠ "")
    (moves : inside.Moves (some outer) none outside) : inside.IsInside outer outside := by
  refine ⟨moves.shortName, moves.startLine, moves.endLine, moves.isUnscoped, moves.unscoped, ?_⟩
  intro inScope
  obtain ⟨namespaceName, name, otherNamespace, otherName⟩ := moves.inScope inScope
  have given : ¬ outer.isEmpty = true := fun empty => proper (String.isEmpty_iff.mp empty)
  rw [qualify, if_neg given] at name
  exact ⟨namespaceName, name, otherNamespace, otherName⟩

/-- The outlines of statements in the braces of a namespace, after a namespace
statement, and in no namespace end alike: with one failure for all three, or with
as many entries in the same order.  The first two give the same names, and the
third differs by the namespace. -/
theorem outline_namespaces_agree {frame : NamespaceFrame} {statements : List Tree}
    {content : Bytes} {outer : String} {document : Document} {strict : Bool}
    (anonymousPrefix : String) (category : Category)
    (encoded : Text.encode document.text = .ok content)
    (aligned : Aligned content (frame.bracketed statements))
    (faultless : strict = true → (frame.bracketed statements).hasFault = false ∧
      (frame.unbracketed statements).hasFault = false ∧
      (frame.bare statements).hasFault = false)
    (plain : ∀ label ∈ Tree.labelsAll statements,
      label.type ≠ "program" ∧ label.type ≠ "namespace_definition")
    (nameText : (Location.root frame.name).text? content = some outer) (proper : outer ≠ "")
    (noDeclaration : declarations content category [Location.root frame.name] = []) :
    Agree (List.Forall₂ Entry.SameNames)
      (outline (.fixed strict (frame.bracketed statements)) (.standard anonymousPrefix) document
        category).result
      (outline (.fixed strict (frame.unbracketed statements)) (.standard anonymousPrefix) document
        category).result ∧
    Agree (List.Forall₂ (Entry.IsInside outer))
      (outline (.fixed strict (frame.bracketed statements)) (.standard anonymousPrefix) document
        category).result
      (outline (.fixed strict (frame.bare statements)) (.standard anonymousPrefix) document
        category).result := by
  have bracketed := NamespaceFrame.situated_bracketed plain proper nameText noDeclaration
  have unbracketed := NamespaceFrame.situated_unbracketed plain proper nameText noDeclaration
  have bare := NamespaceFrame.situated_bare frame content category plain
  have readable := aligned.readable
  have readableUnbracketed :=
    (aligned.of_labels_subset NamespaceFrame.labels_unbracketed_subset).readable
  have readableBare := (aligned.of_labels_subset NamespaceFrame.labels_bare_subset).readable
  have read := Frontend.read_fixed encoded fun isStrict => (faultless isStrict).1
  have readUnbracketed := Frontend.read_fixed encoded fun isStrict => (faultless isStrict).2.1
  have readBare := Frontend.read_fixed encoded fun isStrict => (faultless isStrict).2.2
  constructor
  · apply (bracketed.outlines_agree unbracketed
      (NamespaceFrame.alike_statements NamespaceFrame.type_unbracketed 1) readable
      readableUnbracketed read readUnbracketed).imp
    exact fun _ _ => List.Forall₂.imp fun _ _ moves => moves.sameNames
  · apply (bracketed.outlines_agree bare
      (NamespaceFrame.alike_statements NamespaceFrame.type_bare 0) readable readableBare read
      readBare).imp
    exact fun _ _ => List.Forall₂.imp fun _ _ moves => moves.isInside proper

/-- A document of a namespace `A` and a class `B`. -/
def pairDocument : Document :=
  ⟨[.scalar 'A', .scalar 'B'], none, List.cons_ne_nil _ _⟩

def pairFrame : NamespaceFrame where
  program := ⟨"program", 0, 2, none, true, false, false⟩
  definition := ⟨"namespace_definition", 0, 2, none, true, false, false⟩
  body := ⟨"compound_statement", 1, 2, some "body", true, false, false⟩
  name := .node ⟨"namespace_name", 0, 1, some "name", true, false, false⟩ []
  isProgram := rfl
  isDefinition := rfl
  isBlock := rfl
  definitionNamed := rfl
  bodyNamed := rfl
  nameField := rfl
  bodyField := rfl

def pairStatements : List Tree :=
  [.node ⟨"class_declaration", 1, 2, none, true, false, false⟩
    [.node ⟨"name", 1, 2, some "name", true, false, false⟩ []]]

/-- What is recorded of the class. -/
def pairEntry (name : String) (namespaceName : Option String) : Entry :=
  .classLike
    { heading := ⟨name, "B", namespaceName, none, 1, 1, none⟩
      form := .plain
      isAnonymous := false
      modifiers := []
      parentName := none
      interfaceNames := []
      methodNames := []
      constantNames := [] }

theorem outline_pair_agree :
    Text.encode pairDocument.text = .ok (Text.encodeChars ['A', 'B']) ∧
      Aligned (Text.encodeChars ['A', 'B']) (pairFrame.bracketed pairStatements) ∧
      (pairFrame.bracketed pairStatements).hasFault = false ∧
      (pairFrame.unbracketed pairStatements).hasFault = false ∧
      (pairFrame.bare pairStatements).hasFault = false ∧
      (∀ label ∈ Tree.labelsAll pairStatements,
        label.type ≠ "program" ∧ label.type ≠ "namespace_definition") ∧
      (Location.root pairFrame.name).text? (Text.encodeChars ['A', 'B']) = some "A" ∧
      declarations (Text.encodeChars ['A', 'B']) .classLike [Location.root pairFrame.name] = [] ∧
      (outline (.fixed true (pairFrame.bracketed pairStatements)) (.standard "class@anonymous")
        pairDocument .classLike).result = .ok [pairEntry "A\\B" (some "A")] ∧
      (outline (.fixed true (pairFrame.unbracketed pairStatements)) (.standard "class@anonymous")
        pairDocument .classLike).result = .ok [pairEntry "A\\B" (some "A")] ∧
      (outline (.fixed true (pairFrame.bare pairStatements)) (.standard "class@anonymous")
        pairDocument .classLike).result = .ok [pairEntry "B" none] ∧
      Entry.SameNames (pairEntry "A\\B" (some "A")) (pairEntry "A\\B" (some "A")) ∧
      Entry.IsInside "A" (pairEntry "A\\B" (some "A")) (pairEntry "B" none) := by
  have encoded : Text.encode pairDocument.text = .ok (Text.encodeChars ['A', 'B']) := rfl
  have aligned : Aligned (Text.encodeChars ['A', 'B']) (pairFrame.bracketed pairStatements) :=
    ⟨['A', 'B'], rfl, by decide⟩
  have faultless : (pairFrame.bracketed pairStatements).hasFault = false ∧
      (pairFrame.unbracketed pairStatements).hasFault = false ∧
      (pairFrame.bare pairStatements).hasFault = false := by decide
  have plain : ∀ label ∈ Tree.labelsAll pairStatements,
      label.type ≠ "program" ∧ label.type ≠ "namespace_definition" := by decide
  have nameText :
      (Location.root pairFrame.name).text? (Text.encodeChars ['A', 'B']) = some "A" := by
    decide +kernel
  have noDeclaration : declarations (Text.encodeChars ['A', 'B']) .classLike
      [Location.root pairFrame.name] = [] := rfl
  have bracketed : (outline (.fixed true (pairFrame.bracketed pairStatements))
      (.standard "class@anonymous") pairDocument .classLike).result =
      .ok [pairEntry "A\\B" (some "A")] := by decide +kernel
  have unbracketed : (outline (.fixed true (pairFrame.unbracketed pairStatements))
      (.standard "class@anonymous") pairDocument .classLike).result =
      .ok [pairEntry "A\\B" (some "A")] := by decide +kernel
  have bare : (outline (.fixed true (pairFrame.bare pairStatements))
      (.standard "class@anonymous") pairDocument .classLike).result =
      .ok [pairEntry "B" none] := by decide +kernel
  obtain ⟨same, inside⟩ := outline_namespaces_agree "class@anonymous" .classLike encoded aligned
    (fun _ => faultless) plain nameText (by decide) noDeclaration
  rw [bracketed, unbracketed] at same
  rw [bracketed, bare] at inside
  refine ⟨encoded, aligned, faultless.1, faultless.2.1, faultless.2.2, plain, nameText,
    noDeclaration, bracketed, unbracketed, bare, ?_, ?_⟩
  · cases same with
    | ok related => exact (List.forall₂_cons.mp related).1
  · cases inside with
    | ok related => exact (List.forall₂_cons.mp related).1

end PhpOutline
