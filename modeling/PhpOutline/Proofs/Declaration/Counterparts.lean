import PhpOutline.Proofs.Declaration.Readable
import PhpOutline.Proofs.Related

namespace PhpOutline

/-! Nodes with a counterpart in another document.

The other document may have extra nodes: comments in between, or whole statements
that no declaration looks at.  What is read out of a node is what is read out of
its counterpart, whatever is extra around it, with the one exception of the doc
comment.
-/

open PhpOutline.Syntax
open PhpOutline.Syntax.Location (isNamed opensNamespace)
open PhpOutline.Text (Bytes)

theorem collect_eq {R : α → β → Prop} {left : List α} {right : List β}
    {f : α → Except Failure (Option γ)} {g : β → Except Failure (Option γ)}
    (related : List.Forall₂ R left right)
    (agree : ∀ first second, R first second → f first = g second) :
    collect f left = collect g right := by
  induction related with
  | nil => rfl
  | cons first _ inductionHypothesis =>
      simp only [collect, agree _ _ first, inductionHypothesis]

/-- Items that are read as nothing can be left out. -/
theorem collect_kept {items : List α} {extra : α → Bool} {f : α → Except Failure (Option β)}
    (dropped : ∀ item ∈ items, extra item = true → f item = .ok none) :
    collect f (items.filter fun item => !extra item) = collect f items := by
  induction items with
  | nil => rfl
  | cons item rest inductionHypothesis =>
      have later := inductionHypothesis fun other member =>
        dropped other (List.mem_cons_of_mem item member)
      cases isExtra : extra item with
      | true =>
          have nothing := dropped item List.mem_cons_self isExtra
          simp only [List.filter_cons, isExtra, Bool.not_true, Bool.false_eq_true, if_false, later]
          cases read : collect f rest <;> simp [collect, nothing, read]
      | false =>
          simp only [List.filter_cons, isExtra, Bool.not_false, if_true, collect, later]

namespace Syntax.Location

/-- A comment with nothing below that fills no field. -/
structure IsRemark (node : Location) : Prop where
  type : node.type = "comment"
  field : node.label.field = none
  leaf : node.here.children = []

/-- An anonymous class, a class or a function is described by the comment in front
of it, a constant by the one in front of what it stands in. -/
def docAnchor (content : Bytes) (node : Location) : Location :=
  if node.kind content == .constant || node.kind content == .define then
    node.parent?.getD node
  else node

theorem IsRemark.declaredName_eq {content : Bytes} {node : Location} (remark : node.IsRemark) :
    node.declaredName content = .ok none := by
  rw [declaredName, childByField?, children, remark.leaf]
  rfl

theorem elementValue_eq_getLast? (content : Bytes) (element : Location) :
    element.elementValue content =
      if 2 ≤ element.namedChildren.length then
        match element.namedChildren.getLast? with
        | some last => last.text content
        | none => .ok ""
      else .ok "" := by
  unfold elementValue
  split
  · rename_i first second rest found
    have last : (first :: second :: rest).getLast? = some (rest.getLastD second) := by
      rw [List.getLast?_cons_cons, List.getLast?_cons, List.getLastD_eq_getLast?]
    rw [found, if_pos (by simp), last]
  · rename_i few
    rw [if_neg]
    intro two
    match listed : element.namedChildren, two with
    | first :: second :: rest, _ => exact few first second rest listed

end Syntax.Location

open Syntax.Location (IsRemark)

/-- `Same` relates nodes of a document to nodes of another one that say the same:
labels, text and lines, and what is below, where the other document has some
remarks more.  A remark never takes the place of a value. -/
structure Counterparts (content other : Bytes) (extra : Location → Bool)
    (Same : Location → Location → Prop) : Prop where
  label_eq : ∀ {left right}, Same left right → left.label = right.label
  bytes_eq : ∀ {left right}, Same left right → left.bytes content = right.bytes other
  startLine_eq : ∀ {left right}, Same left right → left.startLine content = right.startLine other
  endLine_eq : ∀ {left right}, Same left right → left.endLine content = right.endLine other
  children : ∀ {left right}, Same left right →
    List.Forall₂ Same left.children (right.children.filter fun child => !extra child)
  remark : ∀ {left right}, Same left right →
    ∀ child ∈ right.children, extra child = true → child.IsRemark
  lastKept : ∀ {left right}, Same left right →
    right.type = "argument" ∨ right.type = "const_element" →
      ∀ last, right.namedChildren.getLast? = some last → extra last = false
  severalKept : ∀ {left right}, Same left right → right.type = "const_element" →
    2 ≤ right.namedChildren.length → 2 ≤ left.namedChildren.length

namespace Counterparts

variable {content other : Bytes} {extra : Location → Bool}
  {Same : Location → Location → Prop} {left right : Location}

theorem of_none (label_eq : ∀ {left right}, Same left right → left.label = right.label)
    (bytes_eq : ∀ {left right}, Same left right → left.bytes content = right.bytes other)
    (startLine_eq : ∀ {left right}, Same left right →
      left.startLine content = right.startLine other)
    (endLine_eq : ∀ {left right}, Same left right → left.endLine content = right.endLine other)
    (children : ∀ {left right}, Same left right → List.Forall₂ Same left.children right.children)
    (none : ∀ {left right}, Same left right → ∀ child ∈ right.children, extra child = false) :
    Counterparts content other extra Same where
  label_eq := label_eq
  bytes_eq := bytes_eq
  startLine_eq := startLine_eq
  endLine_eq := endLine_eq
  children := by
    intro left right same
    rw [List.filter_eq_self.mpr fun child member => by rw [none same child member]; rfl]
    exact children same
  remark same child member isExtra := by
    rw [none same child member] at isExtra
    cases isExtra
  lastKept same _ last isLast :=
    none same last (Location.mem_children_of_mem_namedChildren (List.mem_of_getLast? isLast))
  severalKept := by
    intro left right same _ several
    have named : List.Forall₂ Same left.namedChildren right.namedChildren :=
      forall₂_filter (children same) fun _ _ child => congrArg Label.named (label_eq child)
    rw [named.length_eq]
    exact several

theorem text?_eq (counterparts : Counterparts content other extra Same)
    (same : Same left right) : left.text? content = right.text? other := by
  rw [Location.text?, Location.text?, counterparts.bytes_eq same]

theorem text_eq (counterparts : Counterparts content other extra Same)
    (same : Same left right) : left.text content = right.text other := by
  rw [Location.text, Location.text, counterparts.bytes_eq same]

theorem optionalText_eq (counterparts : Counterparts content other extra Same)
    {first second : Option Location} (related : Option.Rel Same first second) :
    Location.optionalText content first = Location.optionalText other second := by
  cases related with
  | none => rfl
  | some child => rw [Location.optionalText, Location.optionalText, counterparts.text_eq child]

theorem bind_text?_eq (counterparts : Counterparts content other extra Same)
    {first second : Option Location} (related : Option.Rel Same first second) :
    first.bind (Location.text? content) = second.bind (Location.text? other) := by
  cases related with
  | none => rfl
  | some child => exact counterparts.text?_eq child

section Below

variable (counterparts : Counterparts content other extra Same) (same : Same left right)

include counterparts same

theorem type_eq : left.type = right.type :=
  congrArg Label.type (counterparts.label_eq same)

theorem isNamed_eq : left.isNamed = right.isNamed :=
  congrArg Label.named (counterparts.label_eq same)

theorem lossyText_eq : left.lossyText content = right.lossyText other := by
  rw [Location.lossyText, Location.lossyText, counterparts.bytes_eq same]

theorem namedChildren : List.Forall₂ Same left.namedChildren
    (right.namedChildren.filter fun child => !extra child) := by
  have swapped : (right.namedChildren.filter fun child => !extra child) =
      (right.children.filter fun child => !extra child).filter isNamed := by
    rw [Location.namedChildren, List.filter_comm]
  rw [swapped]
  exact forall₂_filter (counterparts.children same) fun _ _ => counterparts.isNamed_eq

/-- No remark passes a test that comments without a field fail. -/
theorem remark_fails {test : Location → Bool}
    (silent : ∀ child, IsRemark child → test child = false) :
    ∀ child ∈ right.children, extra child = true → test child = false :=
  fun child member isExtra => silent child (counterparts.remark same child member isExtra)

theorem childByField? (field : String) :
    Option.Rel Same (left.childByField? field) (right.childByField? field) := by
  apply forall₂_find?_kept (counterparts.children same)
  · intro first second related
    rw [counterparts.label_eq related]
  · apply counterparts.remark_fails same
    intro child remark
    rw [remark.field]
    rfl

theorem filter_namedChildren {test : Location → Bool}
    (agree : ∀ first second, Same first second → test first = test second)
    (silent : ∀ child, IsRemark child → test child = false) :
    List.Forall₂ Same (left.namedChildren.filter test) (right.namedChildren.filter test) := by
  apply forall₂_filter_kept (counterparts.namedChildren same) agree
  intro child member
  exact counterparts.remark_fails same silent child
    (Location.mem_children_of_mem_namedChildren member)

theorem namedChildren_of_type (type : String) (noComment : type ≠ "comment") :
    List.Forall₂ Same (left.namedChildren.filter (·.type == type))
      (right.namedChildren.filter (·.type == type)) := by
  apply counterparts.filter_namedChildren same
  · intro first second related
    rw [counterparts.type_eq related]
  · intro child remark
    rw [remark.type]
    exact beq_eq_false_iff_ne.mpr noComment.symm

theorem declaredName_eq : left.declaredName content = right.declaredName other :=
  counterparts.optionalText_eq (counterparts.childByField? same "name")

theorem givenName_eq : left.givenName content = right.givenName other :=
  counterparts.bind_text?_eq (counterparts.childByField? same "name")

theorem find?_namedChildren {type : String} (noComment : type ≠ "comment") :
    Option.Rel Same (left.namedChildren.find? (·.type == type))
      (right.namedChildren.find? (·.type == type)) := by
  rw [← List.head?_filter, ← List.head?_filter]
  exact forall₂_head? (counterparts.namedChildren_of_type same _ noComment)

theorem elementName_eq : left.elementName content = right.elementName other :=
  counterparts.optionalText_eq (counterparts.find?_namedChildren same (by decide))

theorem givenElementName_eq : left.givenElementName content = right.givenElementName other :=
  counterparts.bind_text?_eq (counterparts.find?_namedChildren same (by decide))

theorem getLast?_namedChildren (closes : right.type = "argument" ∨ right.type = "const_element") :
    Option.Rel Same left.namedChildren.getLast? right.namedChildren.getLast? :=
  forall₂_getLast?_kept (counterparts.namedChildren same)
    (counterparts.lastKept same closes)

theorem length_namedChildren_le : left.namedChildren.length ≤ right.namedChildren.length := by
  rw [(counterparts.namedChildren same).length_eq]
  exact List.length_filter_le _ _

theorem elementValue_eq (element : right.type = "const_element") :
    left.elementValue content = right.elementValue other := by
  have fewer := counterparts.length_namedChildren_le same
  have several := counterparts.severalKept same element
  have last := counterparts.getLast?_namedChildren same (.inr element)
  rw [Location.elementValue_eq_getLast?, Location.elementValue_eq_getLast?]
  by_cases two : 2 ≤ right.namedChildren.length
  · rw [if_pos two, if_pos (several two)]
    generalize left.namedChildren.getLast? = first at last ⊢
    generalize right.namedChildren.getLast? = second at last ⊢
    cases last with
    | none => rfl
    | some value => exact counterparts.text_eq value
  · rw [if_neg two, if_neg (by omega)]

theorem argumentValues : List.Forall₂ Same left.argumentValues right.argumentValues := by
  have field := counterparts.childByField? same "arguments"
  unfold Location.argumentValues
  generalize left.childByField? "arguments" = first at field ⊢
  generalize right.childByField? "arguments" = second at field ⊢
  cases field with
  | none => exact .nil
  | some arguments =>
      have listed := counterparts.namedChildren_of_type arguments "argument" (by decide)
      apply List.rel_filterMap
        (R := fun one another => Same one another ∧ another.type = "argument")
      · rintro one another ⟨related, isArgument⟩
        exact counterparts.getLast?_namedChildren related (.inl isArgument)
      · apply forall₂_of_mem listed
        intro one _ another member related
        exact ⟨related, beq_iff_eq.mp (List.mem_filter.mp member).2⟩

theorem callsDefine_eq : left.callsDefine content = right.callsDefine other := by
  have field := counterparts.childByField? same "function"
  unfold Location.callsDefine
  generalize left.childByField? "function" = first at field ⊢
  generalize right.childByField? "function" = second at field ⊢
  cases field with
  | none => rfl
  | some callee => simp only [counterparts.type_eq callee, counterparts.lossyText_eq callee]

theorem isDefineCall_eq : left.isDefineCall content = right.isDefineCall other := by
  have arguments := counterparts.argumentValues same
  unfold Location.isDefineCall
  rw [counterparts.callsDefine_eq same]
  generalize left.argumentValues = first at arguments ⊢
  generalize right.argumentValues = second at arguments ⊢
  cases arguments with
  | nil => rfl
  | cons name rest =>
      cases rest with
      | nil => rfl
      | cons _ _ => simp only [counterparts.type_eq name]

theorem hasDeclarationList_eq :
    left.namedChildren.any (·.type == "declaration_list") =
      right.namedChildren.any (·.type == "declaration_list") := by
  apply forall₂_any_kept (counterparts.namedChildren same)
  · intro first second related
    rw [counterparts.type_eq related]
  · intro child member isExtra
    have remark := counterparts.remark same child
      (Location.mem_children_of_mem_namedChildren member) isExtra
    rw [remark.type]
    rfl

theorem kind_eq (inClassBody : left.isInClassBody = right.isInClassBody) :
    left.kind content = right.kind other := by
  unfold Location.kind
  rw [counterparts.type_eq same, inClassBody, counterparts.isDefineCall_eq same,
    counterparts.hasDeclarationList_eq same]

theorem modifiers_eq : left.modifiers = right.modifiers := by
  have silent : ∀ child ∈ right.children, extra child = true →
      Location.modifierWord? child.type = none := by
    intro child member isExtra
    rw [(counterparts.remark same child member isExtra).type]
    rfl
  rw [Location.modifiers, Location.modifiers, ← filterMap_kept silent]
  apply forall₂_filterMap_eq (counterparts.children same)
  intro first second related
  rw [counterparts.type_eq related]

theorem returnsReference_eq : left.returnsReference = right.returnsReference := by
  apply forall₂_any_kept (counterparts.children same)
  · intro first second related
    rw [counterparts.type_eq related]
  · apply counterparts.remark_fails same
    intro child remark
    rw [remark.type]
    rfl

theorem clauseNames_eq {clauseType : String} (noComment : clauseType ≠ "comment") :
    left.clauseNames content clauseType = right.clauseNames other clauseType := by
  have clauses := counterparts.namedChildren_of_type same _ noComment
  unfold Location.clauseNames
  apply collect_eq (R := Same)
  · rw [List.filter_flatMap, List.filter_flatMap]
    apply List.rel_flatMap clauses
    intro first second clause
    apply counterparts.filter_namedChildren clause
    · intro one another name
      rw [counterparts.type_eq name]
    · intro child remark
      rw [remark.type]
      rfl
  · intro first second name
    rw [counterparts.text_eq name]

theorem body? : Option.Rel Same left.body? right.body? := by
  have field := counterparts.childByField? same "body"
  unfold Location.body?
  generalize left.childByField? "body" = first at field ⊢
  generalize right.childByField? "body" = second at field ⊢
  cases field with
  | some body => exact .some body
  | none =>
      have listed : List.Forall₂ Same
          (left.namedChildren.filter fun child => isClassBodyType child.type)
          (right.namedChildren.filter fun child => isClassBodyType child.type) := by
        apply counterparts.filter_namedChildren same
        · intro one another related
          rw [counterparts.type_eq related]
        · intro child remark
          rw [remark.type]
          rfl
      have found := forall₂_head? listed
      rw [List.head?_filter, List.head?_filter] at found
      exact found

theorem methodNames_eq : left.methodNames content = right.methodNames other :=
  collect_eq (counterparts.namedChildren_of_type same _ (by decide)) fun _ _ =>
    counterparts.declaredName_eq

theorem constantNames_eq : left.constantNames content = right.constantNames other := by
  unfold Location.constantNames
  apply collect_eq (R := Same)
  · rw [List.filter_flatMap, List.filter_flatMap]
    apply List.rel_flatMap (counterparts.namedChildren_of_type same _ (by decide))
    intro first second declaration
    exact counterparts.namedChildren_of_type declaration _ (by decide)
  · exact fun _ _ => counterparts.elementName_eq

/-- A remark among parameters has no name and counts for nothing. -/
theorem parameterNames_eq : left.parameterNames content = right.parameterNames other := by
  have field := counterparts.childByField? same "parameters"
  unfold Location.parameterNames
  generalize left.childByField? "parameters" = first at field ⊢
  generalize right.childByField? "parameters" = second at field ⊢
  cases field with
  | none => rfl
  | @some first second parameters =>
      have nameless : ∀ child ∈ second.namedChildren, extra child = true →
          (child.declaredName other).map (·.map (Text.dropLeading (· == '$'))) = .ok none := by
        intro child member isExtra
        have remark := counterparts.remark parameters child
          (Location.mem_children_of_mem_namedChildren member) isExtra
        rw [remark.declaredName_eq]
        rfl
      dsimp only
      rw [← collect_kept nameless]
      apply collect_eq (counterparts.namedChildren parameters)
      intro one another parameter
      rw [counterparts.declaredName_eq parameter]

theorem returnType_eq : left.returnType content = right.returnType other := by
  have field := counterparts.childByField? same "return_type"
  unfold Location.returnType
  generalize left.childByField? "return_type" = first at field ⊢
  generalize right.childByField? "return_type" = second at field ⊢
  cases field with
  | none => rfl
  | some type => simp only [counterparts.text_eq type]

end Below

end Counterparts

end PhpOutline
