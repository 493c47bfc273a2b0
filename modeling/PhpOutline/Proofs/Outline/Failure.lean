import PhpOutline.Proofs.Declaration.Fields
import PhpOutline.Proofs.Declaration.Nameable
import PhpOutline.Proofs.Outline.Entries

namespace PhpOutline

open PhpOutline.Syntax
open PhpOutline.Syntax.Location (Within)
open PhpOutline.Text (Bytes CodePoint)

variable {content : Bytes} {tree : Tree} {node : Location} {category : Category}

/-- A declaration with a name converts, and any other one is refused. -/
theorem convert_standard_isNameable (origin : Option String) (anonymousPrefix : String)
    (readable : Readable content tree) (within : Within tree node)
    (admitted : category.admits (node.kind content) = true) :
    if node.isNameable content then
      ∃ entry, (Converter.standard anonymousPrefix).convert content origin node = .ok entry
    else
      (Converter.standard anonymousPrefix).convert content origin node =
        .error (node.obstruct content (.nameless category.subject)) := by
  obtain ⟨outer, enclosing⟩ := Location.enclosingNamespace_exists readable within
  have converts := Location.convert_standard origin anonymousPrefix readable within admitted
    enclosing
  rw [← Location.naming?_isSome origin anonymousPrefix outer readable within admitted]
  cases found : node.naming? content origin anonymousPrefix outer with
  | none =>
      rw [found] at converts
      exact converts
  | some naming =>
      rw [found] at converts
      obtain ⟨entry, converted, _⟩ := converts
      exact ⟨entry, converted⟩

theorem record_standard_isNameable {origin : Option (List CodePoint)} {fileName : Option String}
    (anonymousPrefix : String) (readable : Readable content tree) (within : Within tree node)
    (admitted : category.admits (node.kind content) = true)
    (spelled : origin = fileName.map CodePoint.ofString) :
    if node.isNameable content then
      ∃ entry, (Converter.standard anonymousPrefix).record content origin node = .ok entry
    else
      (Converter.standard anonymousPrefix).record content origin node =
        .error (node.obstruct content (.nameless category.subject)) := by
  rw [Converter.record_of_fileName spelled]
  exact convert_standard_isNameable fileName anonymousPrefix readable within admitted

theorem convert_standard_valid {origin : Option String} {anonymousPrefix : String}
    {entry : Entry} (readable : Readable content tree) (within : Within tree node)
    (admitted : category.admits (node.kind content) = true)
    (converted : (Converter.standard anonymousPrefix).convert content origin node = .ok entry) :
    Entry.ofFields entry.shape entry.fields = .valid entry := by
  obtain ⟨outer, enclosing⟩ := Location.enclosingNamespace_exists readable within
  have converts := Location.convert_standard origin anonymousPrefix readable within admitted
    enclosing
  rw [converted] at converts
  cases found : node.naming? content origin anonymousPrefix outer with
  | none =>
      rw [found] at converts
      cases converts
  | some naming =>
      rw [found] at converts
      obtain ⟨_, same, records⟩ := converts
      cases same
      apply entry.ofFields_fields
      · rw [records.startLine]
        exact Nat.le_add_left 1 _
      · rw [records.endLine]
        exact Nat.le_add_left 1 _

/-- With an origin that makes a file name, an outline has all entries exactly if every
declaration of the category is nameable; else its failure tells the type and the line of
the first one that is not.  Nothing else goes wrong: the entries pass their own check, and calls of
`define` have the two arguments that are read. -/
theorem outline_ok_iff_isNameable {frontend : Frontend} {document : Document} {reading : Reading}
    {anonymousPrefix : String} (category : Category)
    (read : (frontend.read document).result = .ok reading)
    (aligned : Aligned reading.content reading.root)
    (origin : ∃ fileName : Option String, document.origin = fileName.map CodePoint.ofString) :
    ((∃ entries, (outline frontend (.standard anonymousPrefix) document category).result =
        .ok entries) ↔
      ∀ node ∈ declarations reading.content category reading.statements,
        node.isNameable reading.content = true) ∧
    (∀ failure, (outline frontend (.standard anonymousPrefix) document category).result =
        .error failure ↔
      ∃ before node rest,
        declarations reading.content category reading.statements = before ++ node :: rest ∧
        (∀ earlier ∈ before, earlier.isNameable reading.content = true) ∧
        node.isNameable reading.content = false ∧
        failure = .conversion (.nameless category.subject) node.type
          (node.startLine reading.content)) ∧
    (∀ entries, (outline frontend (.standard anonymousPrefix) document category).result =
        .ok entries →
      ∀ entry ∈ entries, Entry.ofFields entry.shape entry.fields = .valid entry) ∧
    (∀ node ∈ declarations reading.content category reading.statements,
      node.kind reading.content = .define → 2 ≤ node.argumentValues.length) := by
  obtain ⟨fileName, spelled⟩ := origin
  rw [outline_result_eq_mapM category read]
  have readable := aligned.readable
  obtain ⟨succeeds, fails⟩ := mapM_of_decided fun node member =>
    have inside := within_of_mem_declarations reading member
    record_standard_isNameable anonymousPrefix readable inside.1 inside.2 spelled
  refine ⟨succeeds, fails, ?_, ?_⟩
  · intro entries done entry member
    obtain ⟨node, isNode, recorded⟩ := (mapM_members done).2 entry member
    obtain ⟨_, _, converted⟩ := Converter.record_eq_ok_iff.mp recorded
    obtain ⟨within, admitted⟩ := within_of_mem_declarations reading isNode
    exact convert_standard_valid readable within admitted converted
  · intro node member define
    obtain ⟨name, value, rest, found⟩ := Location.argumentValues_of_define define
    simp [found]

/-- A document of one character. -/
def shortDocument : Document :=
  ⟨[.scalar 'A'], none, List.cons_ne_nil _ _⟩

/-- A class with a name, and one without. -/
def partlyNamed : Tree :=
  .node ⟨"program", 0, 1, none, true, false, false⟩
    [.node ⟨"class_declaration", 0, 1, none, true, false, false⟩
      [.node ⟨"name", 0, 1, some "name", true, false, false⟩ []],
    .node ⟨"class_declaration", 1, 1, none, true, false, false⟩ []]

theorem outline_partlyNamed :
    ((Frontend.fixed false partlyNamed).read shortDocument).result =
        .ok ⟨Text.encodeChars ['A'], partlyNamed⟩ ∧
      Aligned (Text.encodeChars ['A']) partlyNamed ∧
      (∃ fileName : Option String, shortDocument.origin = fileName.map CodePoint.ofString) ∧
      (outline (.fixed false partlyNamed) (.standard "class@anonymous") shortDocument
        .classLike).result =
        .error (.conversion (.nameless .classLike) "class_declaration" 1) := by
  have read : ((Frontend.fixed false partlyNamed).read shortDocument).result =
      .ok ⟨Text.encodeChars ['A'], partlyNamed⟩ := Frontend.read_fixed rfl nofun
  have aligned : Aligned (Text.encodeChars ['A']) partlyNamed := ⟨['A'], rfl, by decide⟩
  refine ⟨read, aligned, ⟨none, rfl⟩, ?_⟩
  apply ((outline_ok_iff_isNameable .classLike read aligned ⟨none, rfl⟩).2.1 _).mpr
  exact ⟨[_], _, [], rfl, by decide, rfl, rfl⟩

end PhpOutline
