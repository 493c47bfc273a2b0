import Mathlib.Data.List.Basic
import PhpOutline.Proofs.Declaration.Readable
import PhpOutline.Proofs.Syntax.Walk

namespace PhpOutline.Syntax

/-! Namespaces by one pass.

Every node looks for its namespace on its own: up to the nearest definition, and
from the top level backwards.  `namespacePass` hands the namespaces down instead,
once from left to right.  Both give every node the same namespace.
-/

open PhpOutline.Text (Bytes)

namespace Location

variable {content : Bytes}

/-- The namespace that is open at the top level before the child number `index`
of a program. -/
def namespaceBefore (content : Bytes) (program : Location) (index : Nat) :
    Except Failure (Option String) :=
  match ((program.children.take index).filter isNamed).reverse.find? opensNamespace with
  | some opening => opening.declaredName content
  | none => .ok none

end Location

open Location (givenName opensNamespace)

mutual

/-- A node and all that is reached from it, each with its namespace, where
`current` comes from outside.  A definition hands its own name down in place of
it. -/
def handDown (content : Bytes) (current : Option String) (above : List Step) :
    Tree → List (Location × Option String)
  | .node label children =>
      (⟨.node label children, above⟩, current) ::
        handDownBelow content
          (if label.type == "namespace_definition" then
            givenName content ⟨.node label children, above⟩
          else current)
          (.node label children) above 0 children

def handDownBelow (content : Bytes) (current : Option String) (parent : Tree)
    (above : List Step) (index : Nat) : List Tree → List (Location × Option String)
  | [] => []
  | child :: rest =>
      (if child.isNamed then handDown content current (⟨parent, index⟩ :: above) child
        else []) ++
        handDownBelow content current parent above (index + 1) rest

end

/-- The statements of a program in order.  A definition without a body changes
the current namespace for the statements after it. -/
def handAlong (content : Bytes) (root : Tree) (current : Option String) (index : Nat) :
    List Tree → List (Location × Option String)
  | [] => []
  | statement :: rest =>
      if statement.isNamed then
        handDown content current [⟨root, index⟩] statement ++
          handAlong content root
            (if opensNamespace ⟨statement, [⟨root, index⟩]⟩ then
              givenName content ⟨statement, [⟨root, index⟩]⟩
            else current)
            (index + 1) rest
      else handAlong content root current (index + 1) rest

/-- All nodes that are reached through named nodes, in document order, each with
its namespace. -/
def namespacePass (content : Bytes) (root : Tree) : List (Location × Option String) :=
  (Location.root root, none) :: handAlong content root none 0 root.children

namespace Location

variable {content : Bytes}

theorem declaredName_eq_givenName {definition : Location} {name : Option String}
    (decoded : definition.declaredName content = .ok name) :
    definition.declaredName content = .ok (definition.givenName content) := by
  unfold declaredName optionalText at decoded ⊢
  unfold givenName
  cases found : definition.childByField? "name" with
  | none => rfl
  | some child =>
      simp only [found, Option.bind_some] at decoded ⊢
      cases read : child.text content with
      | error failure => simp [read, Except.map] at decoded
      | ok text =>
          rw [text_eq_ok_iff.mp read]
          rfl

/-- Below the program, a node gets the name of a definition right above it, and
else the namespace of its parent. -/
theorem enclosingNamespace_child {parent child : Location} (member : child ∈ parent.children)
    (notProgram : parent.type ≠ "program") :
    child.enclosingNamespace content =
      if parent.type == "namespace_definition" then parent.declaredName content
      else parent.enclosingNamespace content := by
  obtain ⟨_, number, above⟩ := above_of_mem_children member
  have notProgram : (parent.here.type == "program") = false := beq_eq_false_iff_ne.mpr notProgram
  unfold enclosingNamespace scope
  rw [above, scopeFrom]
  simp only [notProgram, Bool.false_eq_true, ↓reduceIte]
  change _ = if parent.here.type == "namespace_definition" then _ else _
  by_cases definition : (parent.here.type == "namespace_definition") = true
  · rw [if_pos definition, if_pos definition]
  · rw [if_neg definition, if_neg definition]

theorem enclosingNamespace_statement {parent : Tree} {above : List Step} (statement : Tree)
    (index : Nat) (program : parent.type = "program") :
    enclosingNamespace content ⟨statement, ⟨parent, index⟩ :: above⟩ =
      namespaceBefore content ⟨parent, above⟩ index := by
  have program : (parent.type == "program") = true := beq_iff_eq.mpr program
  unfold enclosingNamespace scope
  rw [scopeFrom, if_pos program]
  rfl

theorem namespaceBefore_succ (content : Bytes) {program statement : Location} {index : Nat}
    (found : program.children[index]? = some statement) :
    namespaceBefore content program (index + 1) =
      if statement.isNamed && statement.opensNamespace then statement.declaredName content
      else namespaceBefore content program index := by
  unfold namespaceBefore
  rw [List.take_add_one, found, Option.toList_some, List.filter_append, List.reverse_append]
  cases named : statement.isNamed with
  | false => simp [named]
  | true =>
      cases opens : statement.opensNamespace with
      | false => simp [named, opens]
      | true => simp [named, opens]

/-- Statements that open no namespace leave the current one as it is. -/
theorem namespaceBefore_add (content : Bytes) {program : Location} {first : Nat} (count : Nat)
    (opensNone : ∀ index statement, first ≤ index →
      program.children[index]? = some statement → statement.opensNamespace = false) :
    namespaceBefore content program (first + count) = namespaceBefore content program first := by
  induction count with
  | zero => rfl
  | succ count inductionHypothesis =>
      rw [← inductionHypothesis, ← Nat.add_assoc]
      cases found : program.children[first + count]? with
      | some statement =>
          rw [namespaceBefore_succ content found,
            opensNone _ statement (Nat.le_add_right first count) found, Bool.and_false]
          rfl
      | none =>
          -- Beyond the last child there is nothing more to take.
          unfold namespaceBefore
          rw [List.take_add_one, found, Option.toList_none, List.append_nil]

/-- Where nothing below a node ends the climb, the node's namespace is that of all
that is reached from it. -/
theorem Reached.enclosingNamespace_eq {start node : Location} (reached : Reached start node)
    (plain : ∀ label ∈ start.here.labels,
      label.type ≠ "program" ∧ label.type ≠ "namespace_definition") :
    node.enclosingNamespace content = start.enclosingNamespace content := by
  induction reached with
  | here => rfl
  | child inner member inductionHypothesis =>
      obtain ⟨notProgram, notDefinition⟩ := plain _ inner.label_mem
      have notDefinition := beq_eq_false_iff_ne.mpr notDefinition
      rw [enclosingNamespace_child (mem_children_of_mem_namedChildren member) notProgram,
        ← inductionHypothesis]
      exact if_neg (Bool.not_eq_true _ ▸ notDefinition)

/-- The last statements of a program, if they open no namespace, stand in the one
that is open before them. -/
theorem enclosingNamespace_of_mem_childrenFrom {root : Tree} {statements : List Tree}
    {statement : Location} {first : Nat} (program : root.type = "program")
    (rest : root.children.drop first = statements)
    (plain : ∀ tree ∈ statements, tree.type ≠ "namespace_definition")
    (member : statement ∈ (Location.root root).childrenFrom first statements) :
    statement.enclosingNamespace content = namespaceBefore content (Location.root root) first := by
  obtain ⟨offset, found⟩ := List.mem_iff_getElem?.mp member
  rw [childrenFrom_getElem?, Option.map_eq_some_iff] at found
  obtain ⟨tree, _, rfl⟩ := found
  rw [← namespaceBefore_add content offset]
  · exact enclosingNamespace_statement tree (first + offset) program
  · intro index other later atIndex
    obtain ⟨number, rfl⟩ := Nat.exists_eq_add_of_le later
    rw [Location.children, childrenFrom_getElem?, Option.map_eq_some_iff] at atIndex
    obtain ⟨tree, atIndex, rfl⟩ := atIndex
    have isStatement : tree ∈ statements := by
      rw [← rest]
      exact List.mem_of_getElem? (List.getElem?_drop.trans atIndex)
    have notDefinition := beq_eq_false_iff_ne.mpr (plain tree isStatement)
    exact Bool.and_eq_false_iff.mpr (.inl notDefinition)

theorem declaredName_of_childByField? {definition name : Location} {text : String}
    (found : definition.childByField? "name" = some name)
    (read : name.text? content = some text) :
    definition.declaredName content = .ok (some text) := by
  simp only [declaredName, optionalText, found, text_eq_ok_iff.mpr read, Except.map]

end Location

open Location (Reached Within isNamed subtree childrenFrom namedChildren enclosingNamespace
  namespaceBefore declaredName)

variable {content : Bytes}

theorem handDownBelow_eq_flatMap (current : Option String) (parent : Tree) (above : List Step)
    (index : Nat) (trees : List Tree) :
    handDownBelow content current parent above index trees =
      ((childrenFrom ⟨parent, above⟩ index trees).filter isNamed).flatMap fun child =>
        handDown content current child.above child.here :=
  Location.eq_flatMap_named ⟨parent, above⟩ (fun _ => rfl) (fun _ _ _ => rfl) index trees

theorem handDown_eq (current : Option String) (node : Location) :
    handDown content current node.above node.here =
      (node, current) :: node.namedChildren.flatMap fun child =>
        handDown content
          (if node.type == "namespace_definition" then node.givenName content else current)
          child.above child.here := by
  cases node with
  | mk here above =>
      cases here with
      | node label children =>
          rw [handDown, handDownBelow_eq_flatMap]
          rfl

/-- Where the namespace from outside is right for a node, the pass is right for
all that is reached from it. -/
theorem handDown_enclosingNamespace {current : Option String} {node : Location}
    (notProgram : ∀ inner, Reached node inner → inner.type ≠ "program")
    (decodes : ∀ inner, Reached node inner → inner.type = "namespace_definition" →
      ∃ name, inner.declaredName content = .ok name)
    (outer : node.enclosingNamespace content = .ok current) :
    (handDown content current node.above node.here).map
        (fun entry => (entry.1, Except.ok entry.2)) =
      node.subtree.map fun inner => (inner, inner.enclosingNamespace content) := by
  induction node using Location.named_induction generalizing current with
  | step node inductionHypothesis =>
      rw [handDown_eq, Location.subtree_eq, List.map_cons, List.map_cons, outer, List.map_flatMap,
        List.map_flatMap]
      congr 1
      apply List.flatMap_congr
      intro child member
      have below : Reached node child := Reached.here.child member
      apply inductionHypothesis child member
      · exact fun inner reached => notProgram inner (below.trans reached)
      · exact fun inner reached => decodes inner (below.trans reached)
      · rw [Location.enclosingNamespace_child (Location.mem_children_of_mem_namedChildren member)
          (notProgram node .here)]
        by_cases definition : (node.type == "namespace_definition") = true
        · obtain ⟨name, decoded⟩ := decodes node .here (beq_iff_eq.mp definition)
          rw [if_pos definition, if_pos definition]
          exact Location.declaredName_eq_givenName decoded
        · rw [if_neg definition, if_neg definition]
          exact outer

/-- The pass along the statements, from a statement on whose current namespace is
right. -/
theorem handAlong_enclosingNamespace {root : Tree} {current : Option String} {index : Nat}
    {trees : List Tree} (program : root.type = "program")
    (notProgram : ∀ child ∈ (Location.root root).namedChildren, ∀ inner, Reached child inner →
      inner.type ≠ "program")
    (decodes : ∀ child ∈ (Location.root root).namedChildren, ∀ inner, Reached child inner →
      inner.type = "namespace_definition" → ∃ name, inner.declaredName content = .ok name)
    (rest : root.children.drop index = trees)
    (before : namespaceBefore content (Location.root root) index = .ok current) :
    (handAlong content root current index trees).map
        (fun entry => (entry.1, Except.ok entry.2)) =
      (((Location.root root).childrenFrom index trees).filter isNamed).flatMap fun child =>
        child.subtree.map fun inner => (inner, inner.enclosingNamespace content) := by
  induction trees generalizing index current with
  | nil => simp [handAlong, childrenFrom]
  | cons tree later inductionHypothesis =>
      let statement : Location := ⟨tree, [⟨root, index⟩]⟩
      have laterRest : root.children.drop (index + 1) = later := by
        rw [← List.drop_drop, rest]
        rfl
      have atIndex : root.children[index]? = some tree := by
        rw [← List.head?_drop, rest]
        rfl
      have found : (Location.root root).children[index]? = some statement := by
        change ((Location.root root).childrenFrom 0 root.children)[index]? = _
        rw [Location.childrenFrom_getElem?, atIndex, Nat.zero_add]
        rfl
      have next := Location.namespaceBefore_succ content found
      have sameName : statement.isNamed = tree.isNamed := rfl
      rw [handAlong, childrenFrom, List.filter_cons]
      change _ = (if statement.isNamed then statement :: _ else _ : List Location).flatMap _
      rw [sameName]
      cases named : tree.isNamed with
      | false =>
          rw [sameName, named] at next
          exact inductionHypothesis laterRest (next.trans before)
      | true =>
          have member : statement ∈ (Location.root root).namedChildren :=
            List.mem_filter.mpr ⟨List.mem_of_getElem? found, sameName.trans named⟩
          have outer : statement.enclosingNamespace content = .ok current :=
            (Location.enclosingNamespace_statement tree index program).trans before
          -- The invariant for the statements that are left.
          have after : namespaceBefore content (Location.root root) (index + 1) =
              .ok (if statement.opensNamespace then statement.givenName content else current) := by
            rw [next, sameName, named, Bool.true_and]
            cases opens : statement.opensNamespace with
            | false => exact before
            | true =>
                have definition : statement.type = "namespace_definition" :=
                  beq_iff_eq.mp (Bool.and_eq_true_iff.mp opens).1
                obtain ⟨name, decoded⟩ := decodes statement member statement .here definition
                exact Location.declaredName_eq_givenName decoded
          simp only [if_true, List.map_append, List.flatMap_cons]
          rw [inductionHypothesis laterRest after]
          congr 1
          exact handDown_enclosingNamespace (notProgram statement member)
            (decodes statement member) outer

theorem namespacePass_map {root : Tree} (program : root.type = "program")
    (notProgram : ∀ label ∈ Tree.labelsAll root.children, label.type ≠ "program")
    (decodes : ∀ node, Reached (Location.root root) node → node.type = "namespace_definition" →
      ∃ name, node.declaredName content = .ok name) :
    (namespacePass content root).map (fun entry => (entry.1, Except.ok entry.2)) =
      (Location.root root).subtree.map fun node => (node, node.enclosingNamespace content) := by
  have top : (Location.root root).enclosingNamespace content = .ok none := rfl
  rw [namespacePass, Location.subtree_eq, List.map_cons, List.map_cons, top, List.map_flatMap]
  congr 1
  apply handAlong_enclosingNamespace program
  · intro child member inner reached
    have isChild := Location.above_of_mem_children
      (Location.mem_children_of_mem_namedChildren member)
    exact notProgram _ (Tree.labels_subset_labelsAll isChild.1 reached.label_mem)
  · intro child member inner reached
    exact decodes inner ((Reached.here.child member).trans reached)
  · exact List.drop_zero
  · rfl

/-- One pass from the top down and from left to right, which visits every node
that is reached through named nodes once and in document order, gives each the
namespace that the node finds on its own. -/
theorem enclosingNamespace_eq_namespacePass {root : Tree} (program : root.type = "program")
    (notProgram : ∀ label ∈ Tree.labelsAll root.children, label.type ≠ "program")
    (decodes : ∀ node, Reached (Location.root root) node → node.type = "namespace_definition" →
      ∃ name, node.declaredName content = .ok name) :
    (namespacePass content root).map Prod.fst = preorder [] root ∧
      ∀ node, Reached (Location.root root) node →
        (∃ namespaceName, (node, namespaceName) ∈ namespacePass content root) ∧
        ∀ namespaceName, (node, namespaceName) ∈ namespacePass content root →
          node.enclosingNamespace content = .ok namespaceName := by
  have agree := namespacePass_map program notProgram decodes
  have nodes : (namespacePass content root).map Prod.fst = (Location.root root).subtree := by
    have firsts := congrArg (List.map Prod.fst) agree
    simpa only [List.map_map, Function.comp_def, List.map_id'] using firsts
  refine ⟨nodes, ?_⟩
  intro node reached
  constructor
  · have member := Location.mem_subtree_iff_reached.mpr reached
    rw [← nodes] at member
    obtain ⟨⟨_, namespaceName⟩, isEntry, rfl⟩ := List.mem_map.mp member
    exact ⟨namespaceName, isEntry⟩
  · intro namespaceName isEntry
    have member : (node, Except.ok namespaceName) ∈ (Location.root root).subtree.map fun node =>
        (node, node.enclosingNamespace content) := by
      rw [← agree]
      exact List.mem_map.mpr ⟨_, isEntry, rfl⟩
    obtain ⟨other, _, same⟩ := List.mem_map.mp member
    obtain ⟨rfl, answer⟩ := Prod.mk.inj same
    exact answer

/-- The text of two names. -/
def mixedContent : Bytes :=
  Text.encodeChars ['A', 'B']

/-- A program with namespaces of all sorts: the first holds up to the next, the
second has braces but no name and another one inside, and the last has neither. -/
def mixedProgram : Tree :=
  let name (start : Nat) : Tree :=
    .node ⟨"namespace_name", start, start + 1, some "name", true, false, false⟩ []
  let body (statements : List Tree) : Tree :=
    .node ⟨"compound_statement", 0, 2, some "body", true, false, false⟩ statements
  let definition (parts : List Tree) : Tree :=
    .node ⟨"namespace_definition", 0, 2, none, true, false, false⟩ parts
  let declaration : Tree := .node ⟨"class_declaration", 0, 2, none, true, false, false⟩ []
  let semicolon : Tree := .node ⟨";", 0, 2, none, false, false, false⟩ []
  .node ⟨"program", 0, 2, none, true, false, false⟩
    [definition [name 0], semicolon, declaration,
      definition [body [definition [name 1, body [declaration]], declaration]], declaration,
      definition [], declaration]

theorem enclosingNamespace_mixedProgram :
    mixedProgram.type = "program" ∧
      (∀ label ∈ Tree.labelsAll mixedProgram.children, label.type ≠ "program") ∧
      (∀ node, Reached (Location.root mixedProgram) node → node.type = "namespace_definition" →
        ∃ name, node.declaredName mixedContent = .ok name) ∧
      (namespacePass mixedContent mixedProgram).map Prod.fst = preorder [] mixedProgram ∧
      ∀ node, Reached (Location.root mixedProgram) node →
        (∃ namespaceName, (node, namespaceName) ∈ namespacePass mixedContent mixedProgram) ∧
        ∀ namespaceName, (node, namespaceName) ∈ namespacePass mixedContent mixedProgram →
          node.enclosingNamespace mixedContent = .ok namespaceName := by
  have program : mixedProgram.type = "program" := rfl
  have notProgram : ∀ label ∈ Tree.labelsAll mixedProgram.children, label.type ≠ "program" := by
    decide
  have readable : Readable mixedContent mixedProgram :=
    Aligned.readable ⟨['A', 'B'], rfl, by decide⟩
  have decodes : ∀ node, Reached (Location.root mixedProgram) node →
      node.type = "namespace_definition" →
      ∃ name, node.declaredName mixedContent = .ok name := by
    intro node reached _
    exact Location.declaredName_exists readable (reached.within .root)
  exact ⟨program, notProgram, decodes,
    enclosingNamespace_eq_namespacePass program notProgram decodes⟩

example : (namespacePass mixedContent mixedProgram).map Prod.snd =
    [none, none, some "A", some "A", some "A", none, none, some "B", some "B", some "B", none,
      some "A", some "A", none] := by
  decide +kernel

end PhpOutline.Syntax
