namespace PhpOutline.Syntax

/-! Syntax trees over a byte sequence.

Every node carries its grammar type, the span of bytes it covers, the field it
fills in its parent, and whether it is a named node or a mere token.  Nothing
ties a span to those of the children: trees that a lenient reader recovered from
broken source are trees like any other.
-/

/-- What a node says of itself, without its children.  `flagged` marks a node
that the reader reports as faulty for a reason the tree does not show. -/
structure Label where
  type : String
  start : Nat
  stop : Nat
  field : Option String := none
  named : Bool := true
  missing : Bool := false
  flagged : Bool := false
deriving DecidableEq, Repr

inductive Tree where
  | node (label : Label) (children : List Tree)
deriving Repr

instance : Inhabited Tree := ⟨.node ⟨"", 0, 0, none, true, false, false⟩ []⟩

namespace Tree

def label : Tree → Label
  | .node label _ => label

def children : Tree → List Tree
  | .node _ children => children

mutual

def decideEq : (first second : Tree) → Decidable (first = second)
  | .node label children, .node other others =>
      match decEq label other, decideEqAll children others with
      | .isTrue sameLabel, .isTrue sameChildren =>
          .isTrue (congr (congrArg node sameLabel) sameChildren)
      | .isFalse differ, _ => .isFalse fun same => differ (congrArg Tree.label same)
      | _, .isFalse differ => .isFalse fun same => differ (congrArg Tree.children same)

def decideEqAll : (first second : List Tree) → Decidable (first = second)
  | [], [] => .isTrue rfl
  | [], _ :: _ => .isFalse nofun
  | _ :: _, [] => .isFalse nofun
  | tree :: trees, other :: others =>
      match decideEq tree other, decideEqAll trees others with
      | .isTrue sameTree, .isTrue sameTrees =>
          .isTrue (congr (congrArg List.cons sameTree) sameTrees)
      | .isFalse differ, _ => .isFalse fun same => differ (List.cons.inj same).1
      | _, .isFalse differ => .isFalse fun same => differ (List.cons.inj same).2

end

instance : DecidableEq Tree := decideEq

def type (tree : Tree) : String :=
  tree.label.type

def isNamed (tree : Tree) : Bool :=
  tree.label.named

/-- The node itself stands for an error: text that fits no rule, or a token that
the reader had to invent. -/
def isFault (tree : Tree) : Bool :=
  tree.type == "ERROR" || tree.label.missing

mutual

def size : Tree → Nat
  | .node _ children => 1 + sizeAll children

def sizeAll : List Tree → Nat
  | [] => 0
  | tree :: rest => tree.size + sizeAll rest

end

mutual

/-- The node or one of its descendants is a fault or flagged as faulty. -/
def hasFault : Tree → Bool
  | .node label children =>
      label.flagged || label.type == "ERROR" || label.missing || anyFault children

def anyFault : List Tree → Bool
  | [] => false
  | tree :: rest => tree.hasFault || anyFault rest

end

theorem size_eq (tree : Tree) : tree.size = 1 + sizeAll tree.children := by
  cases tree
  simp [size, children]

end Tree

end PhpOutline.Syntax
