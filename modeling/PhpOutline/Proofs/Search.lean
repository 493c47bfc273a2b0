import PhpOutline.Outline
import PhpOutline.Proofs.Syntax.Order

namespace PhpOutline

/-! What a search goes through, calls, finds and logs.

From the statements of a document a search comes to every node that no token shuts off, to
each of them once, and in document order.  It calls the conversion on the declarations of the
category, one after the other, up to the first failure.  `Conversion.recorded` writes the
calls down, so that a search with it tells all that the search did.
-/

open PhpOutline.Syntax
open PhpOutline.Text (Bytes CodePoint)
open PhpOutline.Syntax.Location (Within)

/-- The stack read from its end is what the walk has still to visit. -/
theorem classifyFrom_eq_walk (content : Bytes) (stack : Array Location) :
    classifyFrom content stack =
      (Location.walk stack.toList.reverse).map fun location =>
        (location, location.kind content) := by
  induction stack using classifyFrom.induct with
  | case1 stack empty =>
      rw [classifyFrom]
      split
      · rw [Array.back?_eq_none_iff.mp empty]
        simp [Location.walk]
      · rename_i last
        rw [empty] at last
        cases last
  | case2 stack location last _ inductionHypothesis =>
      obtain ⟨before, split⟩ := List.getLast?_eq_some_iff.mp
        ((Array.getLast?_toList stack).trans last)
      rw [classifyFrom]
      split
      · rename_i empty
        rw [last] at empty
        cases empty
      · rename_i same
        rw [last] at same
        cases same
        rw [inductionHypothesis]
        simp [split, Location.walk]

theorem classified_eq_walk (content : Bytes) (statements : List Location) :
    classified content statements =
      (Location.walk statements).map fun location => (location, location.kind content) := by
  rw [classified, classifyFrom_eq_walk, List.reverse_reverse]

/-- The nodes are those of the tree below the root that neither are tokens nor
stand below one, each of them once and in document order. -/
structure CoversInOrder (root : Tree) (visited : List Location) : Prop where
  once : visited.Nodup
  member_iff : ∀ node, node ∈ visited ↔
    Within root node ∧ node ≠ Location.root root ∧
      ∀ other ∈ node :: node.ancestors, other.above ≠ [] → other.isNamed = true
  ancestorFirst : ∀ (place other : Nat) (first second : Location),
    visited[place]? = some first → visited[other]? = some second →
      first ∈ second.ancestors → place < other
  earlierChildFirst : ∀ (place other number later : Nat)
    (first second parent left right : Location),
    visited[place]? = some first → visited[other]? = some second →
      parent.children[number]? = some left → parent.children[later]? = some right →
        number < later → first.IsUnder left → second.IsUnder right → place < other

/-- The nodes that a search goes through, with their kinds, are the preorder of the
statements; below the root of a tree they are all nodes that no token shuts off, in
document order. -/
theorem classified_eq_preorder (content : Bytes) :
    (∀ statements : List Location,
      (classified content statements = statements.flatMap fun statement =>
        (preorder statement.above statement.here).map fun node => (node, node.kind content)) ∧
      (classified content statements).length ≤ Location.weight statements) ∧
    ∀ root : Tree,
      CoversInOrder root
        ((classified content (Reading.statements ⟨content, root⟩)).map Prod.fst) := by
  constructor
  · intro statements
    constructor
    · rw [classified_eq_walk, Location.walk_eq_flatMap, List.map_flatMap]
      rfl
    · rw [classified_eq_walk, List.length_map]
      exact Location.length_walk_le statements
  · intro root
    have visited : (classified content (Reading.statements ⟨content, root⟩)).map Prod.fst =
        Location.walk (Location.root root).namedChildren := by
      rw [classified_eq_walk, List.map_map]
      exact List.map_id _
    have ordered := (Location.root root).walk_namedChildren_ordered
    rw [visited]
    refine ⟨Location.nodup_of_ordered ordered, ?_, ?_, ?_⟩
    · intro node
      rw [Location.mem_walk_namedChildren_iff, Location.reached_root_iff, and_right_comm,
        and_assoc]
    · intro place other first second atPlace atOther above
      exact Location.lt_of_precedes ordered atPlace atOther
        (Location.precedes_of_mem_ancestors above)
    · intro place other number later first second parent left right atPlace atOther atNumber
        atLater earlier underLeft underRight
      exact Location.lt_of_precedes ordered atPlace atOther
        (Location.precedes_of_isUnder_children atNumber atLater earlier underLeft underRight)

/-- The declarations of a category below the statements, in document order. -/
def declarations (content : Bytes) (category : Category) (statements : List Location) :
    List Location :=
  (statements.flatMap Location.subtree).filter fun node => category.admits (node.kind content)

theorem declarations_append (content : Bytes) (category : Category)
    (left right : List Location) :
    declarations content category (left ++ right) =
      declarations content category left ++ declarations content category right := by
  unfold declarations
  rw [List.flatMap_append, List.filter_append]

/-- A node that is no declaration itself can make way for its children. -/
theorem declarations_of_refused {content : Bytes} {category : Category} {node : Location}
    (refused : category.admits (node.kind content) = false) :
    declarations content category [node] = declarations content category node.namedChildren := by
  unfold declarations
  rw [List.flatMap_singleton, Location.subtree_eq, List.filter_cons, refused]
  rfl

namespace Conversion

/-- A sequence of successful calls of the conversion. -/
inductive Succeeds (conversion : Conversion σ ε α) : List Location → σ → List α → σ → Prop
  | nil : Succeeds conversion [] state [] state
  | cons {node : Location} {nodes : List Location} {before middle after : σ} {result : α}
      {results : List α} (first : conversion node before = (.ok result, middle))
      (later : Succeeds conversion nodes middle results after) :
      Succeeds conversion (node :: nodes) before (result :: results) after

/-- The conversion with a record of the nodes that it was called with. -/
def recorded (conversion : Conversion σ ε α) : Conversion (σ × List Location) ε α :=
  fun node state =>
    match conversion node state.1 with
    | (outcome, next) => (outcome, next, state.2 ++ [node])

variable {conversion : Conversion σ ε α} {nodes : List Location} {state final : σ}
  {results : List α}

theorem Succeeds.length_eq (succeeds : Succeeds conversion nodes state results final) :
    results.length = nodes.length := by
  induction succeeds with
  | nil => rfl
  | cons _ _ inductionHypothesis =>
      rw [List.length_cons, List.length_cons, inductionHypothesis]

theorem Succeeds.recorded (succeeds : Succeeds conversion nodes state results final)
    (calls : List Location) :
    Succeeds conversion.recorded nodes (state, calls) results (final, calls ++ nodes) := by
  induction succeeds generalizing calls with
  | nil =>
      rw [List.append_nil]
      exact .nil
  | @cons node nodes before middle after result results first later inductionHypothesis =>
      have call : conversion.recorded node (before, calls) =
          (Except.ok result, middle, calls ++ [node]) := by
        simp only [Conversion.recorded, first]
      have rest := inductionHypothesis (calls ++ [node])
      rw [List.append_assoc, List.singleton_append] at rest
      exact .cons call rest

/-- Along any nodes either all calls succeed, or one is the first to fail. -/
theorem succeeds_or_fails (conversion : Conversion σ ε α) (nodes : List Location) (state : σ) :
    (∃ results final, Succeeds conversion nodes state results final) ∨
      ∃ before node rest results middle failure final,
        nodes = before ++ node :: rest ∧ Succeeds conversion before state results middle ∧
          conversion node middle = (.error failure, final) := by
  induction nodes generalizing state with
  | nil => exact .inl ⟨[], state, .nil⟩
  | cons node nodes inductionHypothesis =>
      cases call : conversion node state with
      | mk outcome next =>
          cases outcome with
          | error failure =>
              exact .inr ⟨[], node, nodes, [], state, failure, next, rfl, .nil, call⟩
          | ok result =>
              rcases inductionHypothesis next with
                ⟨results, final, succeeds⟩ |
                ⟨before, failing, rest, results, middle, failure, final, split, succeeds, failed⟩
              · exact .inl ⟨result :: results, final, .cons call succeeds⟩
              · subst nodes
                exact .inr ⟨node :: before, failing, rest, result :: results, middle, failure,
                  final, rfl, .cons call succeeds, failed⟩

end Conversion

variable [HasErrors ε] {conversion : Conversion σ ε α} {content : Bytes}
  {origin : Option (List CodePoint)} {category : Category} {nodes : List Location}
  {state final : σ} {results : List α}

/-- The loop from any point on, if no call fails any more. -/
theorem searchNodes_of_succeeds {visited : Nat} {found : List α}
    (succeeds : conversion.Succeeds
      (nodes.filter fun node => category.admits (node.kind content)) state results final) :
    searchNodes conversion content origin category visited found
        (nodes.map fun node => (node, node.kind content)) state =
      (⟨.ok (found.reverse ++ results), [.visited (visited + nodes.length)
        (found.length + results.length) category origin]⟩, final) := by
  induction nodes generalizing visited found state results with
  | nil =>
      cases succeeds with
      | nil =>
          simp only [List.map_nil, searchNodes, List.append_nil, List.length_nil, Nat.add_zero]
  | cons node nodes inductionHypothesis =>
      rw [List.filter_cons] at succeeds
      rw [List.map_cons, searchNodes]
      split at succeeds
      · rename_i admitted
        rw [if_pos admitted]
        cases succeeds with
        | cons first later =>
            rw [first]
            dsimp only
            rw [inductionHypothesis later]
            simp only [List.reverse_cons, List.append_assoc, List.singleton_append,
              List.length_cons, Nat.add_assoc, Nat.add_comm 1]
      · rename_i refused
        rw [if_neg refused, inductionHypothesis succeeds]
        simp only [List.length_cons, Nat.add_assoc, Nat.add_comm 1]

/-- The loop from any point on, up to the first call that fails. -/
theorem searchNodes_of_failure {visited : Nat} {found : List α} {before rest : List Location}
    {failing : Location} {middle : σ} {failure : ε}
    (split : (nodes.filter fun node => category.admits (node.kind content)) =
      before ++ failing :: rest)
    (succeeds : conversion.Succeeds before state results middle)
    (failed : conversion failing middle = (.error failure, final)) :
    searchNodes conversion content origin category visited found
        (nodes.map fun node => (node, node.kind content)) state =
      (⟨.error failure, failureLog content origin failing failure⟩, final) := by
  induction nodes generalizing visited found state before results with
  | nil => simp at split
  | cons node nodes inductionHypothesis =>
      rw [List.filter_cons] at split
      rw [List.map_cons, searchNodes]
      split at split
      · rename_i admitted
        rw [if_pos admitted]
        -- The node is the failing one exactly if no call before it is left.
        cases succeeds with
        | nil =>
            obtain ⟨rfl, _⟩ := List.cons.inj split
            rw [failed]
        | cons first later =>
            rw [List.cons_append] at split
            obtain ⟨rfl, laterSplit⟩ := List.cons.inj split
            rw [first]
            exact inductionHypothesis laterSplit later
      · rename_i refused
        rw [if_neg refused]
        exact inductionHypothesis split succeeds

theorem search_of_succeeds {statements : List Location}
    (succeeds : conversion.Succeeds (declarations content category statements) state results
      final) :
    search conversion content origin category statements state =
      (⟨.ok results, [.visited (statements.flatMap Location.subtree).length
        (declarations content category statements).length category origin]⟩, final) := by
  have count := succeeds.length_eq
  unfold declarations at succeeds
  unfold search
  rw [classified_eq_walk, Location.walk_eq_flatMap, searchNodes_of_succeeds succeeds, count,
    List.reverse_nil, List.nil_append, List.length_nil, Nat.zero_add, Nat.zero_add]

theorem search_of_failure {statements before rest : List Location} {failing : Location}
    {middle : σ} {failure : ε}
    (split : declarations content category statements = before ++ failing :: rest)
    (succeeds : conversion.Succeeds before state results middle)
    (failed : conversion failing middle = (.error failure, final)) :
    search conversion content origin category statements state =
      (⟨.error failure, failureLog content origin failing failure⟩, final) := by
  unfold declarations at split
  unfold search
  rw [classified_eq_walk, Location.walk_eq_flatMap]
  exact searchNodes_of_failure split succeeds failed

theorem originOrNone_eq (origin : Option (List CodePoint)) :
    originOrNone origin =
      if origin.getD [] = [] then CodePoint.ofString "<no file>" else origin.getD [] := by
  rcases origin with _ | (_ | ⟨point, rest⟩) <;> rfl

/-- A search in which every call succeeds has called the conversion on every
declaration once and in document order, has all results, and logs a single line.  A search
with a failing call ends at the first one with that failure and without any result; it logs
a single line on the node if the failure is an error, and nothing otherwise.  One of both is
the case, and the record of the calls changes nothing. -/
theorem search_recorded (conversion : Conversion σ ε α) (content : Bytes)
    (origin : Option (List CodePoint)) (category : Category) (statements : List Location)
    (state : σ) :
    (∀ results final,
      conversion.Succeeds (declarations content category statements) state results final →
        results.length = (declarations content category statements).length ∧
        search conversion.recorded content origin category statements (state, []) =
          (⟨.ok results, [.visited (statements.flatMap Location.subtree).length
            (declarations content category statements).length category origin]⟩,
            final, declarations content category statements)) ∧
    (∀ before failing rest results middle failure final,
      declarations content category statements = before ++ failing :: rest →
      conversion.Succeeds before state results middle →
      conversion failing middle = (.error failure, final) →
        search conversion.recorded content origin category statements (state, []) =
          (⟨.error failure,
            if HasErrors.isError failure then
              [.conversionFailed failing.type (failing.startLine content) origin]
            else []⟩, final, before ++ [failing])) ∧
    ((∃ results final,
      conversion.Succeeds (declarations content category statements) state results final) ∨
      ∃ before failing rest results middle failure final,
        declarations content category statements = before ++ failing :: rest ∧
        conversion.Succeeds before state results middle ∧
        conversion failing middle = (.error failure, final)) ∧
    search conversion content origin category statements state =
      ((search conversion.recorded content origin category statements (state, [])).1,
        (search conversion.recorded content origin category statements (state, [])).2.1) ∧
    ∀ nodeType line, (LogLine.conversionFailed nodeType line origin).message =
      CodePoint.ofString ("Conversion failed for " ++ nodeType ++ " at line " ++
        toString line ++ " in ") ++
          if origin.getD [] = [] then CodePoint.ofString "<no file>" else origin.getD [] := by
  have success : ∀ results final,
      conversion.Succeeds (declarations content category statements) state results final →
      search conversion.recorded content origin category statements (state, []) =
        (⟨.ok results, [.visited (statements.flatMap Location.subtree).length
          (declarations content category statements).length category origin]⟩,
          final, declarations content category statements) := by
    intro results final succeeds
    exact search_of_succeeds (succeeds.recorded [])
  have failure : ∀ before failing rest results middle failure final,
      declarations content category statements = before ++ failing :: rest →
      conversion.Succeeds before state results middle →
      conversion failing middle = (.error failure, final) →
      search conversion.recorded content origin category statements (state, []) =
        (⟨.error failure, failureLog content origin failing failure⟩,
          final, before ++ [failing]) := by
    intro before failing rest results middle failure final split succeeds failed
    have call : conversion.recorded failing (middle, [] ++ before) =
        (.error failure, final, before ++ [failing]) := by
      simp only [Conversion.recorded, failed, List.nil_append]
    exact search_of_failure split (succeeds.recorded []) call
  have either := conversion.succeeds_or_fails (declarations content category statements) state
  refine ⟨fun results final succeeds => ⟨succeeds.length_eq, success results final succeeds⟩,
    failure, either, ?_, ?_⟩
  · rcases either with ⟨results, final, succeeds⟩ |
      ⟨before, failing, rest, results, middle, fault, final, split, succeeds, failed⟩
    · rw [success results final succeeds, search_of_succeeds succeeds]
    · rw [failure before failing rest results middle fault final split succeeds failed,
        search_of_failure split succeeds failed]
  · intro nodeType line
    rw [LogLine.message, originOrNone_eq]

/-- An operation is called off from outside. -/
inductive CalledOff where
  | calledOff
deriving DecidableEq

instance : HasErrors CalledOff where
  isError _ := false

def callOff : Conversion Unit CalledOff Unit :=
  fun _ state => (.error .calledOff, state)

def refuseNameless : Conversion Unit Failure Unit :=
  fun node state => (.error (.conversion (.nameless .classLike) node.type 1), state)

def soleClass : Location :=
  Location.root (.node ⟨"class_declaration", 0, 1, none, true, false, false⟩ [])

/-- A search that is called off at its first class logs nothing.  One that an error ends
logs a line, which tells no empty origin. -/
theorem search_calledOff :
    declarations [65] .classLike [soleClass] = [soleClass] ∧
      (callOff soleClass ()).1 = .error .calledOff ∧
      (search callOff [65] none .classLike [soleClass] ()).1.log = [] ∧
      (refuseNameless soleClass ()).1 =
        .error (.conversion (.nameless .classLike) "class_declaration" 1) ∧
      (search refuseNameless [65] (some []) .classLike [soleClass] ()).1.log.map
          LogLine.message =
        [CodePoint.ofString "Conversion failed for class_declaration at line 1 in <no file>"] := by
  refine ⟨by decide +kernel, rfl, by decide +kernel, rfl, by decide +kernel⟩

end PhpOutline
