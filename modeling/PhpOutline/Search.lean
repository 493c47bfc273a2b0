import PhpOutline.Report

namespace PhpOutline

/-! The search for all declarations of a category.

The search visits every node below the given statements and converts those that
the category admits, in document order.  The conversion may fail, which ends the
search, and may remember what it was called with.  The log tells how the search
ended, in one line; of a failure that is no error it tells nothing.
-/

open PhpOutline.Syntax
open PhpOutline.Text (Bytes CodePoint)

/-- Tells the kinds of the nodes on a stack and of all below them, where the next node
is the last one on the stack. -/
def classifyFrom (content : Bytes) (stack : Array Location) : List (Location × Kind) :=
  match last : stack.back? with
  | none => []
  | some location =>
      have := Location.weight_dropLast_lt ((Array.getLast?_toList stack).trans last)
      (location, location.kind content) ::
        classifyFrom content (stack.pop ++ location.namedChildren.reverse.toArray)
termination_by Location.weight stack.toList

/-- The nodes that a search goes through, each with its kind. -/
def classified (content : Bytes) (statements : List Location) : List (Location × Kind) :=
  classifyFrom content statements.reverse.toArray

/-- What happened during an operation, for those who want to follow it. -/
inductive LogLine where
  | parsed (bytes statements : Nat)
  | visited (nodes found : Nat) (category : Category) (origin : Option (List CodePoint))
  | conversionFailed (nodeType : String) (line : Nat) (origin : Option (List CodePoint))
  | notFound (category : Category) (name : String)
deriving DecidableEq, Repr

def LogLine.message : LogLine → List CodePoint
  | .parsed bytes statements =>
      CodePoint.ofString ("Parsed " ++ toString bytes ++ " bytes into " ++
        toString statements ++ " top-level statements")
  | .visited nodes found category origin =>
      CodePoint.ofString ("Visited " ++ toString nodes ++ " nodes, found " ++
        toString found ++ " " ++ category.name ++ " declarations in ") ++ originOrNone origin
  | .conversionFailed nodeType line origin =>
      CodePoint.ofString ("Conversion failed for " ++ nodeType ++ " at line " ++
        toString line ++ " in ") ++ originOrNone origin
  | .notFound category name => CodePoint.ofString (category.name ++ " " ++ name ++ " not found")

/-- A result with the lines logged on the way to it. -/
structure Logged (α : Type) where
  result : α
  log : List LogLine

/-- Failures of which some are errors.  The others, such as an interruption by the
user, end an operation as well, and nothing is said of the node they came up at. -/
class HasErrors (ε : Type) where
  isError : ε → Bool

instance : HasErrors Failure where
  isError _ := true

/-- A conversion of nodes that may fail and has a state. -/
abbrev Conversion (σ ε α : Type) := Location → σ → Except ε α × σ

/-- What a search that ends with a failure at a node logs of it. -/
def failureLog [HasErrors ε] (content : Bytes) (origin : Option (List CodePoint))
    (location : Location) (failure : ε) : List LogLine :=
  if HasErrors.isError failure then
    [.conversionFailed location.type (location.startLine content) origin]
  else []

/-- Goes through nodes in order and converts those that the category admits by
their kinds.  `visited` counts the nodes so far, and `found` is what came of them, the
latest first.  The first failure ends the search, and nothing is left of what was
found. -/
def searchNodes [HasErrors ε] (conversion : Conversion σ ε α) (content : Bytes)
    (origin : Option (List CodePoint)) (category : Category) (visited : Nat) (found : List α) :
    List (Location × Kind) → σ → Logged (Except ε (List α)) × σ
  | [], state =>
      (⟨.ok found.reverse, [.visited visited found.length category origin]⟩, state)
  | (location, kind) :: rest, state =>
      if category.admits kind then
        match conversion location state with
        | (.error failure, state) =>
            (⟨.error failure, failureLog content origin location failure⟩, state)
        | (.ok converted, state) =>
            searchNodes conversion content origin category (visited + 1) (converted :: found)
              rest state
      else searchNodes conversion content origin category (visited + 1) found rest state

/-- Converts every declaration of the category below the statements. -/
def search [HasErrors ε] (conversion : Conversion σ ε α) (content : Bytes)
    (origin : Option (List CodePoint)) (category : Category) (statements : List Location)
    (state : σ) : Logged (Except ε (List α)) × σ :=
  searchNodes conversion content origin category 0 [] (classified content statements) state

end PhpOutline
