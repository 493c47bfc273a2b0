import PhpOutline.Proofs.Declaration.NodeText
import PhpOutline.Proofs.Declaration.Sources
import PhpOutline.Proofs.Outline.Failure

namespace PhpOutline

open PhpOutline.Syntax
open PhpOutline.Text (Bytes CodePoint encodeChars)

namespace Syntax.Location

variable {content : Bytes} {origin : Option String} {anonymousPrefix : String} {kind : Kind}
  {node : Location}

/-- The declaration has its name in a field, and nothing is written there. -/
def HasBlankName (content : Bytes) (node : Location) : Prop :=
  (node.kind content).isNamedByField = true ∧
    ∃ name, node.childByField? "name" = some name ∧ name.bytes content = []

theorem text_eq_empty_iff : node.text content = .ok "" ↔ node.bytes content = [] := by
  rw [text_eq_ok_iff_decode?, ← bytes]
  constructor
  · intro read
    cases found : node.bytes content with
    | nil => rfl
    | cons byte rest =>
        rw [found, Text.decode?_cons] at read
        split at read
        · simp at read
        · cases read
  · intro nothing
    rw [nothing, Text.decode?_nil]
    rfl

theorem declaredName_eq_empty_iff :
    node.declaredName content = .ok (some "") ↔
      ∃ name, node.childByField? "name" = some name ∧ name.bytes content = [] := by
  unfold declaredName optionalText
  cases node.childByField? "name" with
  | none => simp
  | some name =>
      simp only [Option.some.injEq, exists_eq_left', ← text_eq_empty_iff, map_eq_ok_iff]
      constructor
      · rintro ⟨text, read, same⟩
        rw [read, ← same]
      · intro read
        exact ⟨"", read, rfl⟩

theorem anonymousName_ne_empty (anonymousPrefix : String) (origin : Option String) (line : Nat) :
    anonymousName anonymousPrefix origin line ≠ "" := by
  intro same
  have chars := congrArg String.toList same
  simp [anonymousName] at chars

theorem ReadsClass.shortName_eq_empty_iff {entry : ClassEntry}
    (taken : (node.kind content).isClassLike = true)
    (reads : ReadsClass content origin anonymousPrefix (node.kind content) node entry) :
    entry.heading.shortName = "" ↔ HasBlankName content node := by
  rcases classNames_reads reads.names with ⟨anonymous, _, _, short⟩ | ⟨named, declared, _⟩
  · have notByField : (node.kind content).isNamedByField = false := by rw [anonymous]; rfl
    simp [HasBlankName, notByField, short, anonymousName_ne_empty]
  · have byField := Kind.isNamedByField_of_classLike taken named
    rw [HasBlankName, and_iff_right byField, ← declaredName_eq_empty_iff, declared]
    simp

theorem ReadsFunction.shortName_eq_empty_iff {entry : FunctionEntry}
    (taken : node.kind content = .function) (reads : ReadsFunction content origin node entry) :
    entry.heading.shortName = "" ↔ HasBlankName content node := by
  have byField : (node.kind content).isNamedByField = true := by rw [taken]; rfl
  rw [HasBlankName, and_iff_right byField, ← declaredName_eq_empty_iff, reads.shortName]
  simp

theorem ReadsConstant.shortName_eq_empty_iff {entry : ConstantEntry}
    (taken : node.kind content = .constant ∨ node.kind content = .define)
    (reads : ReadsConstant content origin (node.kind content) node entry) :
    entry.heading.shortName = "" ↔ HasBlankName content node := by
  have named := String.isEmpty_eq_false_iff.mp reads.named
  have notByField : (node.kind content).isNamedByField = false := by
    rcases taken with same | same <;> rw [same] <;> rfl
  simp [HasBlankName, notByField, named]

theorem ReadFrom.shortName_eq_empty_iff {entry : Entry}
    (reads : ReadFrom content origin node entry) :
    entry.heading.shortName = "" ↔ HasBlankName content node := by
  cases reads with
  | classLike taken reads => exact reads.shortName_eq_empty_iff taken
  | function taken reads => exact reads.shortName_eq_empty_iff taken
  | constant taken reads => exact reads.shortName_eq_empty_iff taken

end Syntax.Location

open Syntax.Location (HasBlankName)

/-- An entry has an empty short name exactly if its declaration has its name in a field where
nothing is written.  Every other name that is missing or empty is reported. -/
theorem outline_shortNames {frontend : Frontend} {document : Document} {reading : Reading}
    {anonymousPrefix : String} (category : Category)
    (read : (frontend.read document).result = .ok reading) :
    (∀ entries, (outline frontend (.standard anonymousPrefix) document category).result =
        .ok entries →
      List.Forall₂
        (fun node entry => entry.heading.shortName = "" ↔ HasBlankName reading.content node)
        (declarations reading.content category reading.statements) entries) ∧
    (Aligned reading.content reading.root →
      (∃ fileName : Option String, document.origin = fileName.map CodePoint.ofString) →
      ∀ node ∈ declarations reading.content category reading.statements,
        node.isNameable reading.content = false →
      ∃ failing ∈ declarations reading.content category reading.statements,
        failing.isNameable reading.content = false ∧
        (outline frontend (.standard anonymousPrefix) document category).result =
          .error (failing.obstruct reading.content (.nameless category.subject))) := by
  rw [outline_result_eq_mapM category read]
  constructor
  · intro entries done
    apply (mapM_ok_iff.mp done).imp
    intro node entry recorded
    obtain ⟨_, _, converted⟩ := Converter.record_eq_ok_iff.mp recorded
    exact (Converter.convert_reads _ converted).shortName_eq_empty_iff
  · rintro aligned ⟨fileName, spelled⟩ node member nameless
    obtain ⟨_, fails⟩ := mapM_of_decided fun node member =>
      have inside := within_of_mem_declarations reading member
      record_standard_isNameable anonymousPrefix aligned.readable inside.1 inside.2 spelled
    -- The search for a name stops at the first declaration that has none.
    cases found : (declarations reading.content category reading.statements).find?
        fun node => !node.isNameable reading.content with
    | none =>
        have named := List.find?_eq_none.mp found node member
        simp [nameless] at named
    | some failing =>
        obtain ⟨refused, before, rest, split, earlier⟩ := List.find?_eq_some_iff_append.mp found
        simp only [Bool.not_eq_true', Bool.not_not] at refused earlier
        refine ⟨failing, List.mem_of_find?_eq_some found, refused, ?_⟩
        exact (fails _).mpr ⟨before, failing, rest, split, earlier, refused, rfl⟩

/-- A class before whose members the parser has put in the name that is missing. -/
def recoveredClass : Tree :=
  .node ⟨"program", 0, 8, none, true, false, false⟩
    [.node ⟨"class_declaration", 0, 8, none, true, false, false⟩
      [.node ⟨"class", 0, 5, none, false, false, false⟩ [],
      .node ⟨"name", 6, 6, some "name", true, true, false⟩ [],
      .node ⟨"declaration_list", 6, 8, some "body", true, false, false⟩ []]]

def recoveredDocument : Document :=
  .ofChars 'c' ['l', 'a', 's', 's', ' ', '\x7b', '\x7d']

theorem recoveredClass_read :
    ((Frontend.fixed false recoveredClass).read recoveredDocument).result =
      .ok ⟨encodeChars ['c', 'l', 'a', 's', 's', ' ', '\x7b', '\x7d'], recoveredClass⟩ :=
  Frontend.read_fixed rfl nofun

theorem recoveredClass_entry :
    ∃ entries, (outline (.fixed false recoveredClass) (.standard "class@anonymous")
        recoveredDocument .classLike).result = .ok entries ∧
      ∃ entry ∈ entries, entry.heading.shortName = "" := by
  have names : (outline (.fixed false recoveredClass) (.standard "class@anonymous")
      recoveredDocument .classLike).result.map (·.map (·.heading.shortName)) = .ok [""] := by
    decide +kernel
  obtain ⟨entries, done, same⟩ := map_eq_ok_iff.mp names
  have member : "" ∈ entries.map (·.heading.shortName) := same ▸ List.mem_singleton_self ""
  exact ⟨entries, done, List.mem_map.mp member⟩

/-- Not every entry of a lenient outline has a short name. -/
theorem outline_blankName :
    ¬ ∀ entries, (outline (.fixed false recoveredClass) (.standard "class@anonymous")
        recoveredDocument .classLike).result = .ok entries →
      ∀ entry ∈ entries, entry.heading.shortName ≠ "" := by
  intro named
  obtain ⟨entries, done, entry, isEntry, empty⟩ := recoveredClass_entry
  exact named entries done entry isEntry empty

/-- The class whose missing name was put in gets an entry, and one that has none is reported. -/
theorem outline_shortNames_recoveredClass :
    let content := encodeChars ['c', 'l', 'a', 's', 's', ' ', '\x7b', '\x7d']
    ((Frontend.fixed false recoveredClass).read recoveredDocument).result =
        .ok ⟨content, recoveredClass⟩ ∧
      (∃ node ∈ declarations content .classLike (Location.root recoveredClass).namedChildren,
        HasBlankName content node) ∧
      ((Frontend.fixed false partlyNamed).read shortDocument).result =
        .ok ⟨encodeChars ['A'], partlyNamed⟩ ∧
      Aligned (encodeChars ['A']) partlyNamed ∧
      ∃ failure, (outline (.fixed false partlyNamed) (.standard "class@anonymous") shortDocument
        .classLike).result = .error failure := by
  intro content
  have read : ((Frontend.fixed false partlyNamed).read shortDocument).result =
      .ok ⟨encodeChars ['A'], partlyNamed⟩ := Frontend.read_fixed rfl nofun
  have aligned : Aligned (encodeChars ['A']) partlyNamed := ⟨['A'], rfl, by decide⟩
  obtain ⟨entries, done, entry, isEntry, empty⟩ := recoveredClass_entry
  have related := (outline_shortNames .classLike recoveredClass_read).1 entries done
  refine ⟨recoveredClass_read, ?_, read, aligned, ?_⟩
  · obtain ⟨node, member, exactly⟩ := exists_of_mem_right related isEntry
    exact ⟨node, member, exactly.mp empty⟩
  · obtain ⟨failing, _, _, failed⟩ := (outline_shortNames .classLike read).2 aligned
      ⟨none, rfl⟩ _ (List.mem_of_getElem? (i := 1) rfl) rfl
    exact ⟨_, failed⟩

end PhpOutline
