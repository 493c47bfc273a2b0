import PhpOutline.Proofs.Declaration.Query
import PhpOutline.Proofs.Declaration.Sources
import PhpOutline.Proofs.Related

namespace PhpOutline

open PhpOutline.Syntax
open PhpOutline.Text (Bytes)

/-- The name is the namespace, one separator and the short name, or the short name alone
where the namespace is empty or there is none. -/
structure Heading.IsComposed (heading : Heading) : Prop where
  inside : ∀ outer, heading.namespaceName = some outer → outer ≠ "" →
    heading.name = outer ++ "\\" ++ heading.shortName
  outside : heading.namespaceName = none ∨ heading.namespaceName = some "" →
    heading.name = heading.shortName

/-- The name tells the namespace and the short name: they are what stands before and after
its last separator. -/
structure Heading.IsSplit (heading : Heading) : Prop where
  isBare : IsBare heading.name
  shortName : heading.shortName ≠ "" ∧ separator ∉ heading.shortName.toList
  namespaceName : ∀ outer, heading.namespaceName = some outer → outer ≠ "" ∧ IsBare outer
  split : ∀ before after, SplitsAtLast separator heading.name.toList before after ↔
    before = (heading.namespaceName.getD "").toList ∧ after = heading.shortName.toList

theorem Heading.isComposed_of_qualify {heading : Heading}
    (name : heading.name = qualify heading.namespaceName heading.shortName) :
    heading.IsComposed := by
  constructor
  · intro outer inside given
    have given : outer.isEmpty = false := String.isEmpty_eq_false_iff.mpr given
    rw [name, inside, qualify, given]
    rfl
  · intro outside
    rcases outside with none | empty
    · rw [name, none, qualify]
    · simp [name, empty, qualify]

section Names

variable {name : String}

theorem splitName_of_splitsAtLast {before after : List Char}
    (splits : SplitsAtLast separator name.toList before after) :
    splitName name = (String.ofList before, String.ofList after) := by
  obtain ⟨taken, dropped⟩ := splits.reverse_eq
  simp [splitName, taken, dropped]

theorem splitsAtLast_splitName (name : String) :
    SplitsAtLast separator name.toList (splitName name).1.toList (splitName name).2.toList := by
  obtain ⟨before, after, splits⟩ := exists_splitsAtLast separator name.toList
  rw [splitName_of_splitsAtLast splits]
  simpa using splits

theorem splitsAtLast_iff_splitName {before after : List Char} :
    SplitsAtLast separator name.toList before after ↔
      before = (splitName name).1.toList ∧ after = (splitName name).2.toList := by
  constructor
  · intro splits
    rw [splitName_of_splitsAtLast splits]
    simp
  · intro same
    rw [same.1, same.2]
    exact splitsAtLast_splitName name

theorem nonEmpty_getD (text : String) : (nonEmpty text).getD "" = text := by
  by_cases empty : text = "" <;> simp [nonEmpty, empty]

theorem eq_of_nonEmpty {text outer : String} (same : nonEmpty text = some outer) :
    outer ≠ "" ∧ text = outer := by
  by_cases empty : text = ""
  · simp [nonEmpty, empty] at same
  · have kept : nonEmpty text = some text := by simp [nonEmpty, empty]
    have same := Option.some.inj (kept.symm.trans same)
    exact ⟨same ▸ empty, same⟩

theorem qualify_nonEmpty (text shortName : String) :
    qualify (nonEmpty text) shortName = qualify (some text) shortName := by
  by_cases empty : text = "" <;> simp [nonEmpty, qualify, empty]

theorem qualify_splitName (bare : IsBare name) :
    name = qualify (some (splitName name).1) (splitName name).2 := by
  obtain ⟨_, whole | split⟩ := splitsAtLast_splitName name
  · have first : (splitName name).1 = "" := String.toList_eq_nil_iff.mp whole.1
    rw [first]
    exact String.toList_inj.mp whole.2
  · have outer : (splitName name).1 ≠ "" := by
      intro empty
      rw [empty] at split
      exact bare (by rw [split]; rfl)
    have given : (splitName name).1.isEmpty = false := String.isEmpty_eq_false_iff.mpr outer
    apply String.toList_inj.mp
    rw [split]
    simp [qualify, given]

theorem isBare_splitName (bare : IsBare name) : IsBare (splitName name).1 := by
  obtain ⟨_, whole | split⟩ := splitsAtLast_splitName name
  · rw [IsBare, whole.1]
    simp
  · intro marked
    apply bare
    rw [split, List.head?_append, marked]
    rfl

theorem isBare_dropSeparators (name : String) : IsBare (dropSeparators name) := by
  rw [IsBare, dropSeparators, Text.dropLeading, String.toList_ofList]
  have head := List.head?_dropWhile_not (· == separator) name.toList
  intro marked
  rw [marked] at head
  simp at head

end Names

section Entries

variable {content : Bytes} {origin : Option String} {anonymousPrefix : String} {kind : Kind}
  {node : Location}

namespace Syntax.Location

theorem ReadsClass.isComposed {entry : ClassEntry}
    (reads : ReadsClass content origin anonymousPrefix kind node entry) :
    entry.heading.IsComposed := by
  apply Heading.isComposed_of_qualify
  rcases classNames_reads reads.names with ⟨_, inside, name, _⟩ | ⟨_, _, _, name⟩
  · rw [name, inside, qualify]
  · exact name

theorem ReadsConstant.isComposed {entry : ConstantEntry}
    (reads : ReadsConstant content origin kind node entry) : entry.heading.IsComposed := by
  apply Heading.isComposed_of_qualify
  obtain ⟨outer, parts, inside⟩ := reads.parts
  rw [inside, qualify_nonEmpty]
  split at parts
  · obtain ⟨⟨literal, name⟩, before, after⟩ := defineParts_reads parts
    dsimp only at name before after
    have bare : IsBare entry.heading.name := name ▸ isBare_dropSeparators _
    rw [before, after]
    exact qualify_splitName bare
  · obtain ⟨_, _, _, _, _, _, _, name⟩ := elementParts_reads parts
    exact name

theorem ReadsConstant.isSplit {entry : ConstantEntry}
    (reads : ReadsConstant content origin .define node entry) : entry.heading.IsSplit := by
  obtain ⟨outer, parts, inside⟩ := reads.parts
  rw [if_pos rfl] at parts
  obtain ⟨⟨literal, name⟩, before, after⟩ := defineParts_reads parts
  dsimp only at name before after
  have bare : IsBare entry.heading.name := name ▸ isBare_dropSeparators _
  refine ⟨bare, ⟨String.isEmpty_eq_false_iff.mp reads.named, ?_⟩, ?_, ?_⟩
  · rw [after]
    exact (splitsAtLast_splitName _).1
  · intro other same
    obtain ⟨given, same⟩ := eq_of_nonEmpty (inside.symm.trans same)
    subst other
    exact ⟨given, before ▸ isBare_splitName bare⟩
  · intro _ _
    rw [inside, nonEmpty_getD, before, after]
    exact splitsAtLast_iff_splitName

end Syntax.Location

open Syntax.Location in
/-- Every entry is called by its namespace and its short name.  For a `define` call the name
alone tells both; a `const` element has no empty namespace. -/
theorem convert_named {converter : Converter} {entry : Entry}
    (done : converter.convert content origin node = .ok entry) :
    entry.heading.IsComposed ∧ ∀ constantEntry, entry = .constant constantEntry →
      (node.kind content = .define ∧ constantEntry.isDefine = true ∧
          constantEntry.heading.IsSplit) ∨
        (node.kind content = .constant ∧ constantEntry.isDefine = false ∧
          constantEntry.heading.namespaceName ≠ some "") := by
  cases converter.convert_reads done with
  | classLike _ reads => exact ⟨reads.isComposed, fun _ other => (nomatch other)⟩
  | function _ reads =>
      exact ⟨Heading.isComposed_of_qualify reads.name, fun _ other => (nomatch other)⟩
  | constant taken reads =>
      refine ⟨reads.isComposed, ?_⟩
      intro constantEntry same
      cases same
      rcases taken with element | define
      · right
        refine ⟨element, by rw [reads.isDefine, element]; rfl, ?_⟩
        obtain ⟨outer, _, inside⟩ := reads.parts
        intro empty
        exact (eq_of_nonEmpty (inside.symm.trans empty)).1 rfl
      · left
        rw [define] at reads
        exact ⟨define, reads.isDefine, reads.isSplit⟩

end Entries

/-- A call of `define` from `start` on, in a statement of its own.  Its arguments are a literal
and a number, which follows one place behind. -/
def defineCall (before : List Tree) (start literalStop valueStop : Nat) : Location :=
  let node (type : String) (start stop : Nat) (field : Option String) : List Tree → Tree :=
    .node ⟨type, start, stop, field, true, false, false⟩
  let call := node "function_call_expression" start (valueStop + 1) none
    [node "name" start (start + 6) (some "function") [],
    node "arguments" (start + 6) (valueStop + 1) (some "arguments")
      [node "argument" (start + 7) literalStop none
        [node "string" (start + 7) literalStop none []],
      node "argument" (literalStop + 1) valueStop none
        [node "integer" (literalStop + 1) valueStop none []]]]
  let statement := node "expression_statement" start (valueStop + 1) none [call]
  let program := node "program" 0 (valueStop + 1) none (before ++ [statement])
  ⟨call, [⟨statement, 0⟩, ⟨program, before.length⟩]⟩

def defineContent (before literal value : List Char) : Bytes :=
  Text.encodeChars <|
    before ++ ['d', 'e', 'f', 'i', 'n', 'e', '('] ++ literal ++ ',' :: value ++ [')']

/-- The separator in front is no part of the name, and the doubled one counts once. -/
theorem convert_named_define :
    Converter.constant.convert
        (defineContent [] ['\'', '\\', 'A', '\\', '\\', 'B', '\''] ['1']) none
        (defineCall [] 0 14 16) =
      .ok (.constant ⟨⟨"A\\B", "B", some "A", none, 1, 1, none⟩, "1", true⟩) ∧
    (Heading.mk "A\\B" "B" (some "A") none 1 1 none).IsComposed ∧
    (Heading.mk "A\\B" "B" (some "A") none 1 1 none).IsSplit := by
  have done : Converter.constant.convert
      (defineContent [] ['\'', '\\', 'A', '\\', '\\', 'B', '\''] ['1']) none
      (defineCall [] 0 14 16) =
      .ok (.constant ⟨⟨"A\\B", "B", some "A", none, 1, 1, none⟩, "1", true⟩) := by
    decide +kernel
  obtain ⟨composed, constants⟩ := convert_named done
  rcases constants _ rfl with ⟨_, _, split⟩ | ⟨_, other, _⟩
  · exact ⟨done, composed, split⟩
  · cases other

end PhpOutline
