import PhpOutline.Syntax.Tree
import PhpOutline.Text.Utf8

namespace PhpOutline.Syntax

/-! Nodes in their place.

A location is a node together with the way up to the root, so that it knows its
parent, its ancestors and its earlier siblings.  Two equal subtrees at different
places are different locations.
-/

open PhpOutline.Text (Bytes)

/-- One step of the way up: the parent, and which of its children was left. -/
structure Step where
  parent : Tree
  index : Nat
deriving DecidableEq, Repr

/-- A node and the steps above it, the nearest first. -/
structure Location where
  here : Tree
  above : List Step
deriving DecidableEq, Repr

namespace Location

def root (tree : Tree) : Location :=
  ⟨tree, []⟩

def label (location : Location) : Label :=
  location.here.label

def type (location : Location) : String :=
  location.here.type

def isNamed (location : Location) : Bool :=
  location.here.isNamed

/-- The child numbers on the way from the root to the node. -/
def path (location : Location) : List Nat :=
  (location.above.map Step.index).reverse

def parent? (location : Location) : Option Location :=
  match location.above with
  | [] => none
  | step :: rest => some ⟨step.parent, rest⟩

/-- The places of some successive children of the node, from the number `index`
on. -/
def childrenFrom (location : Location) (index : Nat) : List Tree → List Location
  | [] => []
  | child :: rest =>
      ⟨child, ⟨location.here, index⟩ :: location.above⟩ ::
        location.childrenFrom (index + 1) rest

def children (location : Location) : List Location :=
  location.childrenFrom 0 location.here.children

def namedChildren (location : Location) : List Location :=
  location.children.filter isNamed

/-- The first child that fills a field. -/
def childByField? (location : Location) (field : String) : Option Location :=
  location.children.find? fun child => child.label.field == some field

/-- The named children of the same parent before the node, the nearest first. -/
def earlierNamedSiblings (location : Location) : List Location :=
  match location.above with
  | [] => []
  | step :: rest =>
      let parent : Location := ⟨step.parent, rest⟩
      ((parent.children.take step.index).filter isNamed).reverse

def previousNamedSibling? (location : Location) : Option Location :=
  location.earlierNamedSiblings.head?

/-- How many nodes the trees at some locations have together. -/
def weight : List Location → Nat
  | [] => 0
  | location :: rest => location.here.size + weight rest

theorem weight_append (left right : List Location) :
    weight (left ++ right) = weight left + weight right := by
  induction left with
  | nil => simp [weight]
  | cons location rest inductionHypothesis =>
      simp only [List.cons_append, weight, inductionHypothesis]
      omega

theorem weight_childrenFrom (location : Location) (index : Nat) (trees : List Tree) :
    weight (location.childrenFrom index trees) = Tree.sizeAll trees := by
  induction trees generalizing index with
  | nil => simp [childrenFrom, weight, Tree.sizeAll]
  | cons tree rest inductionHypothesis =>
      simp [childrenFrom, weight, Tree.sizeAll, inductionHypothesis]

theorem weight_filter_le (keeps : Location → Bool) (locations : List Location) :
    weight (locations.filter keeps) ≤ weight locations := by
  induction locations with
  | nil => simp [weight]
  | cons location rest inductionHypothesis =>
      simp only [List.filter_cons]
      split <;> simp only [weight] <;> omega

theorem weight_children_lt (location : Location) :
    weight location.children < location.here.size := by
  rw [children, weight_childrenFrom, Tree.size_eq]
  omega

theorem weight_namedChildren_lt (location : Location) :
    weight location.namedChildren < location.here.size :=
  Nat.lt_of_le_of_lt (weight_filter_le isNamed location.children)
    location.weight_children_lt

theorem weight_reverse (locations : List Location) :
    weight locations.reverse = weight locations := by
  induction locations with
  | nil => rfl
  | cons location rest inductionHypothesis =>
      rw [List.reverse_cons, weight_append, inductionHypothesis]
      simp only [weight]
      omega

/-- Taking the last node off a stack and putting its children there makes it lighter. -/
theorem weight_dropLast_lt {stack : List Location} {location : Location}
    (last : stack.getLast? = some location) :
    weight (stack.dropLast ++ location.namedChildren.reverse) < weight stack := by
  have lighter := location.weight_namedChildren_lt
  obtain ⟨before, rfl⟩ := List.getLast?_eq_some_iff.mp last
  rw [List.dropLast_concat, weight_append, weight_append, weight_reverse]
  simp only [weight]
  omega

end Location

/-- The bytes from the offset `start` up to the offset `stop`, as far as there
are any. -/
def slice (content : Bytes) (start stop : Nat) : Bytes :=
  (content.drop start).take (stop - start)

def newline : UInt8 := 10

/-- The line of an offset: one more than the newlines before it. -/
def lineAt (content : Bytes) (offset : Nat) : Nat :=
  (content.take offset).count newline + 1

/-- The column of an offset: one more than the bytes since the last newline
before it. -/
def columnAt (content : Bytes) (offset : Nat) : Nat :=
  ((content.take offset).reverse.takeWhile (· != newline)).length + 1

namespace Location

def bytes (content : Bytes) (location : Location) : Bytes :=
  slice content location.label.start location.label.stop

/-- The text of a node, unless its span cuts a character. -/
def text? (content : Bytes) (location : Location) : Option String :=
  (Text.decode? (location.bytes content)).map String.ofList

/-- The text of a node, with replacement characters for what is no text. -/
def lossyText (content : Bytes) (location : Location) : String :=
  String.ofList (Text.decodeLossy (location.bytes content))

def startLine (content : Bytes) (location : Location) : Nat :=
  lineAt content location.label.start

def endLine (content : Bytes) (location : Location) : Nat :=
  lineAt content location.label.stop

end Location

namespace Location

/-- All locations below and at the ones on the stack, reached through named
children, parents before children and earlier before later. -/
def walk : List Location → List Location
  | [] => []
  | location :: stack => location :: walk (location.namedChildren ++ stack)
termination_by stack => weight stack
decreasing_by
  have smaller := location.weight_namedChildren_lt
  rw [weight_append]
  simp only [weight]
  omega

/-- The first fault in document order, where subtrees without any fault are not
entered. -/
def firstFault? : List Location → Option Location
  | [] => none
  | location :: stack =>
      if location.here.isFault then some location
      else if location.here.hasFault then firstFault? (location.children ++ stack)
      else firstFault? stack
termination_by stack => weight stack
decreasing_by
  · have smaller := location.weight_children_lt
    rw [weight_append]
    simp only [weight]
    omega
  · have positive := location.here.size_eq
    simp only [weight]
    omega

end Location

mutual

/-- A tree at a place, and all that is reached through named children, parents
before children and earlier before later. -/
def preorder (above : List Step) : Tree → List Location
  | .node label children =>
      ⟨.node label children, above⟩ ::
        preorderBelow (.node label children) above 0 children

/-- The same for some successive children of `parent`, from the number `index`
on, where children that are not named are left out. -/
def preorderBelow (parent : Tree) (above : List Step) (index : Nat) :
    List Tree → List Location
  | [] => []
  | child :: rest =>
      (if child.isNamed then preorder (⟨parent, index⟩ :: above) child else []) ++
        preorderBelow parent above (index + 1) rest

end

end PhpOutline.Syntax
