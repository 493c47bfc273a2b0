import PhpOutline.Outline
import PhpOutline.Proofs.Related
import PhpOutline.Proofs.Syntax.Faults
import PhpOutline.Proofs.Text.Encoding

namespace PhpOutline

open PhpOutline.Syntax
open PhpOutline.Syntax.Location (Within root isFault Precedes)
open PhpOutline.Text (Bytes CodePoint)

variable {text : List CodePoint} {content : Bytes} {reader : Bytes → Tree} {tree : Tree}

/-- The line and the column of an offset count from one: the newlines before it, and the
bytes since the last of them. -/
structure IsPlaceOf (content : Bytes) (offset : Nat) (place : Nat × Nat) : Prop where
  line : place.1 = 1 + (content.take offset).count newline
  column : ∃ before since, SplitsAtLast newline (content.take offset) before since ∧
    place.2 = 1 + since.length

theorem columnAt_of_splitsAtLast {offset : Nat} {before since : Bytes}
    (splits : SplitsAtLast newline (content.take offset) before since) :
    columnAt content offset = 1 + since.length := by
  rw [columnAt, splits.reverse_eq.1, List.length_reverse, Nat.add_comm]

theorem isPlaceOf_iff {offset : Nat} {place : Nat × Nat} :
    IsPlaceOf content offset place ↔
      place = (lineAt content offset, columnAt content offset) := by
  obtain ⟨line, column⟩ := place
  constructor
  · rintro ⟨sameLine, _, _, splits, sameColumn⟩
    rw [columnAt_of_splitsAtLast splits, lineAt, Nat.add_comm]
    exact Prod.ext sameLine sameColumn
  · rintro ⟨⟩
    obtain ⟨before, since, splits⟩ := exists_splitsAtLast newline (content.take offset)
    exact ⟨Nat.add_comm _ _, before, since, splits, columnAt_of_splitsAtLast splits⟩

/-- Of all nodes of the tree, in document order, the node is the first one that is a
fault. -/
def IsFirstFault (tree : Tree) (node : Location) : Prop :=
  isFault node = true ∧ ∃ before after, (root tree).nodes = before ++ node :: after ∧
    ∀ earlier ∈ before, isFault earlier = false

theorem firstFault?_eq_some_iff {node : Location} :
    Location.firstFault? [root tree] = some node ↔ IsFirstFault tree node := by
  rw [Location.firstFault?_eq_find?, List.flatMap_singleton, List.find?_eq_some_iff_append]
  simp only [Bool.not_eq_true']
  exact Iff.rfl

theorem firstFault?_eq_none_iff :
    Location.firstFault? [root tree] = none ↔
      ∀ node, Within tree node → isFault node = false := by
  rw [Location.firstFault?_eq_find?, List.flatMap_singleton, List.find?_eq_none]
  simp only [Location.mem_nodes_root_iff, Bool.not_eq_true]

theorem hasFault_of_isFirstFault {node : Location} (first : IsFirstFault tree node) :
    tree.hasFault = true := by
  obtain ⟨fault, before, after, split, _⟩ := first
  have within : Within tree node := Location.mem_nodes_root_iff.mp (by simp [split])
  exact tree.hasFault_iff.mpr ⟨node.label, within.label_mem, .inl fault⟩

theorem isFault_of_faultless (faultless : tree.hasFault = false) {node : Location}
    (within : Within tree node) : isFault node = false :=
  tree.isFault_of_hasFault faultless node.label within.label_mem

namespace Reading

theorem faultPosition?_eq_some_iff {place : Nat × Nat} :
    faultPosition? ⟨content, tree⟩ = some place ↔
      ∃ node, IsFirstFault tree node ∧ IsPlaceOf content node.label.start place := by
  rw [faultPosition?, Option.map_eq_some_iff]
  simp only [firstFault?_eq_some_iff, isPlaceOf_iff, eq_comm (a := place)]

theorem faultPosition?_eq_none_iff :
    faultPosition? ⟨content, tree⟩ = none ↔ ∀ node, Within tree node → isFault node = false := by
  rw [faultPosition?, Option.map_eq_none_iff, firstFault?_eq_none_iff]

theorem ofText_surrogates {run : Text.SurrogateRun} (strict : Bool) (reader : Bytes → Tree)
    (unreadable : Text.encode text = .error run) :
    ofText strict reader text = .error (.surrogates run) := by
  simp only [ofText, unreadable]

theorem ofText_lenient (reader : Bytes → Tree) (encoded : Text.encode text = .ok content) :
    ofText false reader text = .ok ⟨content, reader content⟩ := by
  simp [ofText, encoded]

theorem ofText_strict (reader : Bytes → Tree) (encoded : Text.encode text = .ok content) :
    ofText true reader text =
      if (reader content).hasFault = true then
        .error (.faulty (faultPosition? ⟨content, reader content⟩))
      else .ok ⟨content, reader content⟩ := by
  simp [ofText, encoded]

theorem ofText_strict_eq_ok_iff (encoded : Text.encode text = .ok content) :
    ofText true reader text = .ok ⟨content, reader content⟩ ↔
      (reader content).hasFault = false := by
  rw [ofText_strict reader encoded]
  cases (reader content).hasFault <;> simp

theorem ofText_strict_eq_error_iff (encoded : Text.encode text = .ok content)
    {position : Option (Nat × Nat)} :
    ofText true reader text = .error (.faulty position) ↔
      (reader content).hasFault = true ∧
        faultPosition? ⟨content, reader content⟩ = position := by
  rw [ofText_strict reader encoded]
  cases (reader content).hasFault <;> simp

end Reading

/-- The search for a fault, which leaves out every subtree that tells of none, finds the
first fault among all nodes of a tree.  So a strict reading tells the place of that fault; it
tells no place exactly if the root tells of a fault and yet there is none. -/
theorem firstFault_reported :
    (∀ tree : Tree,
      (∀ node : Location, node.here.hasFault = true ↔
        ∃ other ∈ node.nodes, isFault other = true ∨ other.label.flagged = true) ∧
      (∀ node, node ∈ (root tree).nodes ↔ Within tree node) ∧
      (root tree).nodes.Pairwise Precedes ∧
      (∀ node, Location.firstFault? [root tree] = some node ↔ IsFirstFault tree node) ∧
      (Location.firstFault? [root tree] = none ↔
        ∀ node, Within tree node → isFault node = false)) ∧
    ∀ (reader : Bytes → Tree) (text : List CodePoint) (content : Bytes),
      Text.encode text = .ok content →
        (∀ line column,
          Reading.ofText true reader text = .error (.faulty (some (line, column))) ↔
            ∃ node, IsFirstFault (reader content) node ∧
              IsPlaceOf content node.label.start (line, column)) ∧
        (Reading.ofText true reader text = .error (.faulty none) ↔
          (reader content).hasFault = true ∧
            ∀ node, Within (reader content) node → isFault node = false) ∧
        ∀ fault, Reading.ofText true reader text = .error fault →
          ∃ position : Option (Nat × Nat), fault = .faulty position ∧
            fault.report = .unreadable
              (.ofStrings "Source contains syntax errors"
                (some (ReadingFault.positionDetails position)))
              (position.map fun place => (place.1 : Int))
              (position.map fun place => (place.2 : Int)) := by
  constructor
  · intro tree
    refine ⟨?_, fun _ => Location.mem_nodes_root_iff, (root tree).pairwise_nodes,
      fun _ => firstFault?_eq_some_iff, firstFault?_eq_none_iff⟩
    intro node
    rw [Tree.hasFault_iff, ← Location.map_label_nodes]
    simp only [List.mem_map, exists_exists_and_eq_and]
    exact Iff.rfl
  · intro reader text content encoded
    refine ⟨?_, ?_, ?_⟩
    · intro line column
      rw [Reading.ofText_strict_eq_error_iff encoded, Reading.faultPosition?_eq_some_iff]
      refine and_iff_right_of_imp ?_
      rintro ⟨node, first, _⟩
      exact hasFault_of_isFirstFault first
    · rw [Reading.ofText_strict_eq_error_iff encoded, Reading.faultPosition?_eq_none_iff]
    · intro fault refused
      rw [Reading.ofText_strict reader encoded] at refused
      split at refused
      · cases refused
        exact ⟨_, rfl, rfl⟩
      · cases refused

/-- A flagged class without any fault, and a statement whose last token is missing. -/
def unfinishedTree : Tree :=
  .node ⟨"program", 0, 6, none, true, false, false⟩
    [.node ⟨"class_declaration", 0, 1, none, true, false, true⟩
      [.node ⟨"name", 0, 1, some "name", true, false, false⟩ []],
    .node ⟨"expression_statement", 3, 6, none, true, false, false⟩
      [.node ⟨"name", 3, 5, none, true, false, false⟩ [],
      .node ⟨";", 5, 6, none, false, true, false⟩ []]]

/-- The missing token is on the third line, behind a letter of two bytes. -/
theorem unfinishedTree_refused :
    Text.encode (['A', '\n', '\n', 'é', 'B'].map .scalar) = .ok [65, 10, 10, 195, 169, 66] ∧
      Reading.ofText true (fun _ => unfinishedTree) (['A', '\n', '\n', 'é', 'B'].map .scalar) =
        .error (.faulty (some (3, 3))) := by
  have encoded : Text.encode (['A', '\n', '\n', 'é', 'B'].map .scalar) =
      .ok [65, 10, 10, 195, 169, 66] :=
    Text.encode_scalars _
  obtain ⟨placed, _⟩ := firstFault_reported.2 (fun _ => unfinishedTree) _ _ encoded
  refine ⟨encoded, (placed 3 3).mpr ?_⟩
  refine ⟨_, ⟨?_, (root unfinishedTree).nodes.take 5, [], (List.take_append_drop 5 _).symm, ?_⟩,
    ⟨?_, [65, 10], [195, 169], ⟨?_, .inr ?_⟩, ?_⟩⟩ <;> decide

end PhpOutline
