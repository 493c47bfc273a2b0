import PhpOutline.Proofs.Syntax.Within
import PhpOutline.Proofs.Text.Utf8

namespace PhpOutline

open PhpOutline.Syntax
open PhpOutline.Syntax.Location (Within)
open PhpOutline.Text (Bytes OnBoundary encodeChars)

/-- Every span of the tree starts and ends between two characters of the text. -/
def Aligned (content : Bytes) (tree : Tree) : Prop :=
  ∃ chars, content = encodeChars chars ∧
    ∀ label ∈ tree.labels, OnBoundary chars label.start ∧ OnBoundary chars label.stop

/-- Every node of the tree has text. -/
def Readable (content : Bytes) (tree : Tree) : Prop :=
  ∀ node, Within tree node → ∃ text, node.text content = .ok text

theorem Aligned.of_labels_subset {content : Bytes} {tree other : Tree}
    (aligned : Aligned content tree) (subset : other.labels ⊆ tree.labels) :
    Aligned content other := by
  obtain ⟨chars, same, boundaries⟩ := aligned
  exact ⟨chars, same, fun label member => boundaries label (subset member)⟩

theorem text_cases (content : Bytes) (node : Location) :
    (∃ text, node.text content = .ok text) ∨
      ∃ part, node.text content = .error (.undecodable (node.bytes content) part) := by
  unfold Location.text
  cases Text.decode (node.bytes content) with
  | ok chars => exact .inl ⟨_, rfl⟩
  | error part => exact .inr ⟨part, rfl⟩

theorem text_eq_ok_iff {content : Bytes} {node : Location} {text : String} :
    node.text content = .ok text ↔ node.text? content = some text := by
  unfold Location.text Location.text? Text.decode?
  cases Text.decode (node.bytes content) with
  | error part => exact iff_of_false nofun nofun
  | ok chars => simp only [Except.ok.injEq, Except.toOption, Option.map_some, Option.some.injEq]

/-- Between two character boundaries a node has the characters there as its text. -/
theorem text_of_offsets {chars : List Char} {node : Location} {first last : Nat}
    (start : node.label.start = (encodeChars (chars.take first)).length)
    (stop : node.label.stop = (encodeChars (chars.take last)).length) :
    node.text (encodeChars chars) =
      .ok (String.ofList ((chars.drop first).take (last - first))) := by
  have decoded : node.text? (encodeChars chars) =
      some (String.ofList ((chars.drop first).take (last - first))) := by
    unfold Location.text? Location.bytes slice
    rw [start, stop, Text.take_drop_encodeChars, Text.decode?_encodeChars]
    rfl
  exact text_eq_ok_iff.mpr decoded

theorem text_exists {chars : List Char} {node : Location}
    (start : OnBoundary chars node.label.start) (stop : OnBoundary chars node.label.stop) :
    ∃ text, node.text (encodeChars chars) = .ok text := by
  obtain ⟨first, start⟩ := start
  obtain ⟨last, stop⟩ := stop
  exact ⟨_, text_of_offsets start stop⟩

theorem Aligned.readable {content : Bytes} {tree : Tree} (aligned : Aligned content tree) :
    Readable content tree := by
  obtain ⟨chars, rfl, boundaries⟩ := aligned
  intro node within
  obtain ⟨start, stop⟩ := boundaries node.label within.label_mem
  exact text_exists start stop

theorem collect_exists {read : α → Except Failure (Option β)} {items : List α}
    (each : ∀ item ∈ items, ∃ found, read item = .ok found) :
    ∃ found, collect read items = .ok found := by
  induction items with
  | nil => exact ⟨[], rfl⟩
  | cons item rest inductionHypothesis =>
      obtain ⟨first, read⟩ := each item List.mem_cons_self
      obtain ⟨others, collected⟩ := inductionHypothesis fun later member =>
        each later (List.mem_cons_of_mem item member)
      exact ⟨first.toList ++ others, by simp only [collect, read, collected]⟩

namespace Syntax.Location

variable {content : Bytes} {tree : Tree} {node : Location}

/-- The text in the field `name`, as far as there is one. -/
def givenName (content : Bytes) (location : Location) : Option String :=
  (location.childByField? "name").bind (text? content)

/-- The text of the first named child that is a name, as far as there is one. -/
def givenElementName (content : Bytes) (element : Location) : Option String :=
  (element.namedChildren.find? (·.type == "name")).bind (text? content)

theorem optionalText_eq {location : Option Location}
    (each : ∀ node ∈ location, ∃ text, node.text content = .ok text) :
    optionalText content location = .ok (location.bind (text? content)) ∧
      (location.bind (text? content)).isSome = location.isSome := by
  cases location with
  | none => exact ⟨rfl, rfl⟩
  | some node =>
      obtain ⟨text, read⟩ := each node rfl
      have found := text_eq_ok_iff.mp read
      simp only [optionalText, read, Option.bind_some, found]
      exact ⟨rfl, rfl⟩

theorem declaredName_eq (readable : Readable content tree) (within : Within tree node) :
    node.declaredName content = .ok (node.givenName content) ∧
      (node.givenName content).isSome = (node.childByField? "name").isSome :=
  optionalText_eq fun child found => readable child (within.childByField? found)

theorem elementName_eq (readable : Readable content tree) (within : Within tree node) :
    node.elementName content = .ok (node.givenElementName content) ∧
      (node.givenElementName content).isSome =
        (node.namedChildren.find? (·.type == "name")).isSome :=
  optionalText_eq fun _ found =>
    readable _ (within.namedChild (List.mem_of_find?_eq_some found))

theorem declaredName_exists (readable : Readable content tree) (within : Within tree node) :
    ∃ name, node.declaredName content = .ok name :=
  ⟨_, (declaredName_eq readable within).1⟩

theorem elementName_exists (readable : Readable content tree) (within : Within tree node) :
    ∃ name, node.elementName content = .ok name :=
  ⟨_, (elementName_eq readable within).1⟩

theorem enclosingNamespace_exists (readable : Readable content tree)
    (within : Within tree node) : ∃ name, node.enclosingNamespace content = .ok name := by
  have inside := within.scope
  unfold enclosingNamespace
  cases outcome : node.scope with
  | inside owner =>
      rw [outcome] at inside
      exact declaredName_exists readable inside
  | topLevel statement =>
      rw [outcome] at inside
      dsimp only
      cases found : statement.earlierNamedSiblings.find? opensNamespace with
      | none => exact ⟨none, rfl⟩
      | some opening =>
          exact declaredName_exists readable
            (inside.earlierNamedSibling (List.mem_of_find?_eq_some found))

theorem docComment_exists (readable : Readable content tree) (within : Within tree node) :
    ∃ comment, node.docComment content = .ok comment := by
  unfold docComment
  cases found : node.previousNamedSibling? with
  | none => exact ⟨none, rfl⟩
  | some previous =>
      obtain ⟨text, read⟩ := readable previous (within.previousNamedSibling? found)
      dsimp only
      split
      · rw [read]
        exact ⟨_, rfl⟩
      · exact ⟨none, rfl⟩

theorem clauseNames_exists (readable : Readable content tree) (within : Within tree node)
    (clauseType : String) : ∃ names, node.clauseNames content clauseType = .ok names := by
  unfold clauseNames
  apply collect_exists
  intro name member
  obtain ⟨clause, isClause, isName⟩ := List.mem_flatMap.mp (List.mem_filter.mp member).1
  have clauseWithin := within.namedChild (List.mem_filter.mp isClause).1
  obtain ⟨text, read⟩ := readable name (clauseWithin.namedChild isName)
  exact ⟨_, by rw [read]; rfl⟩

theorem Within.body? {body : Location} (within : Within tree node)
    (found : node.body? = some body) : Within tree body := by
  unfold Location.body? at found
  split at found
  · rename_i inField
    cases found
    exact within.childByField? inField
  · exact within.namedChild (List.mem_of_find?_eq_some found)

theorem methodNames_exists (readable : Readable content tree) (within : Within tree node) :
    ∃ names, node.methodNames content = .ok names := by
  unfold methodNames
  apply collect_exists
  intro method member
  exact declaredName_exists readable (within.namedChild (List.mem_filter.mp member).1)

theorem constantNames_exists (readable : Readable content tree) (within : Within tree node) :
    ∃ names, node.constantNames content = .ok names := by
  unfold constantNames
  apply collect_exists
  intro element member
  obtain ⟨declaration, isDeclaration, isElement⟩ :=
    List.mem_flatMap.mp (List.mem_filter.mp member).1
  have declarationWithin := within.namedChild (List.mem_filter.mp isDeclaration).1
  exact elementName_exists readable (declarationWithin.namedChild isElement)

theorem elementValue_exists (readable : Readable content tree) (within : Within tree node) :
    ∃ value, node.elementValue content = .ok value := by
  unfold elementValue
  split
  · rename_i first second rest children
    apply readable
    apply within.namedChild
    rw [children]
    cases rest with
    | nil => exact List.mem_cons_of_mem _ List.mem_cons_self
    | cons third later =>
        rw [List.getLastD_cons]
        exact List.mem_cons_of_mem _ (List.mem_cons_of_mem _ List.getLastD_mem_cons)
  · exact ⟨"", rfl⟩

theorem parameterNames_exists (readable : Readable content tree) (within : Within tree node) :
    ∃ names, node.parameterNames content = .ok names := by
  unfold parameterNames
  split
  · exact ⟨[], rfl⟩
  · rename_i parameters found
    apply collect_exists
    intro parameter member
    obtain ⟨name, read⟩ := declaredName_exists readable
      ((within.childByField? found).namedChild member)
    exact ⟨_, by rw [read]; rfl⟩

theorem returnType_exists (readable : Readable content tree) (within : Within tree node) :
    ∃ type, node.returnType content = .ok type := by
  unfold returnType
  split
  · exact ⟨none, rfl⟩
  · rename_i type found
    obtain ⟨text, read⟩ := readable type (within.childByField? found)
    exact ⟨_, by rw [read]; rfl⟩

end Syntax.Location

end PhpOutline
