import PhpOutline.Proofs.Outline.Members
import PhpOutline.Proofs.Syntax.Spans

namespace PhpOutline

open PhpOutline.Syntax
open PhpOutline.Text (Bytes CodePoint)
open PhpOutline.Syntax.Location (Describes NestsOrFollows visits)

namespace Kind

/-- The kinds that outlines have entries of. -/
def isDeclaration : Kind → Bool
  | .classDeclaration | .interfaceDeclaration | .traitDeclaration | .enumDeclaration
  | .anonymousClass | .function | .constant | .define => true
  | .namespaceDefinition | .method | .closure | .arrowFunction | .classConstant | .other => false

theorem isDeclaration_iff_admits {kind : Kind} :
    kind.isDeclaration = true ↔ ∃ category : Category, category.admits kind = true := by
  have isSome : kind.isDeclaration = kind.category?.isSome := by
    cases kind <;> rfl
  rw [isSome, Option.isSome_iff_exists]
  exact exists_congr fun _ => Category.admits_iff.symm

end Kind

/-- All declarations that are visited, of whatever category. -/
def declared (content : Bytes) (tree : Tree) : List Location :=
  (visits tree).filter fun node => (node.kind content).isDeclaration

theorem mem_declarations_iff {reading : Reading} {category : Category} {node : Location} :
    node ∈ declarations reading.content category reading.statements ↔
      node ∈ declared reading.content reading.root ∧
        category.admits (node.kind reading.content) = true := by
  rw [declarations_eq_visits, declared, List.mem_filter, List.mem_filter, and_assoc]
  refine and_congr_right fun _ => ⟨fun admitted => ⟨?_, admitted⟩, And.right⟩
  exact Kind.isDeclaration_iff_admits.mpr ⟨category, admitted⟩

theorem declared_filter_admits (reading : Reading) (category : Category) :
    ((declared reading.content reading.root).filter fun node =>
        category.admits (node.kind reading.content)) =
      declarations reading.content category reading.statements := by
  rw [declarations_eq_visits, declared, List.filter_filter]
  apply List.filter_congr
  intro node _
  cases admitted : category.admits (node.kind reading.content) with
  | false => rfl
  | true => rw [Kind.isDeclaration_iff_admits.mpr ⟨category, admitted⟩, Bool.and_self]

section Outlines

variable {frontend : Frontend} {document : Document} {reading : Reading}
  {anonymousPrefix : String} {category : Category} {entries : List Entry}

def IsEntryOf (anonymousPrefix : String) (origin : Option (List CodePoint)) (content : Bytes)
    (node : Location) (entry : Entry) : Prop :=
  (Converter.standard anonymousPrefix).record content origin node = .ok entry ∧
    Describes content node entry

theorem isEntryOf_of_record {origin : Option (List CodePoint)} {content : Bytes}
    {node : Location} {entry : Entry} (admitted : category.admits (node.kind content) = true)
    (recorded : (Converter.standard anonymousPrefix).record content origin node = .ok entry) :
    IsEntryOf anonymousPrefix origin content node entry := by
  obtain ⟨_, _, converted⟩ := Converter.record_eq_ok_iff.mp recorded
  exact ⟨recorded, convert_standard_describes admitted converted⟩

theorem isEntryOf_of_outline (read : (frontend.read document).result = .ok reading)
    (done : (outline frontend (.standard anonymousPrefix) document category).result =
      .ok entries) :
    List.Forall₂ (IsEntryOf anonymousPrefix document.origin reading.content)
      (declarations reading.content category reading.statements) entries := by
  rw [outline_result_eq_mapM category read, mapM_ok_iff] at done
  apply forall₂_of_mem done
  intro node member entry _ recorded
  exact isEntryOf_of_record (mem_declarations_iff.mp member).2 recorded

theorem IsEntryOf.category?_eq {origin : Option (List CodePoint)} {content : Bytes}
    {node : Location} {entry : Entry} (isEntry : IsEntryOf anonymousPrefix origin content node entry)
    (category : Category) :
    category.admits (node.kind content) = (entry.category? == some category) := by
  rw [Bool.eq_iff_iff, beq_iff_eq, isEntry.2.category category]

/-- Where all outlines have results, every declaration has its entry. -/
theorem exists_merged (read : (frontend.read document).result = .ok reading)
    (done : ∀ category, ∃ entries,
      (outline frontend (.standard anonymousPrefix) document category).result = .ok entries) :
    ∃ merged, List.Forall₂ (IsEntryOf anonymousPrefix document.origin reading.content)
      (declared reading.content reading.root) merged := by
  have records : ∀ node ∈ declared reading.content reading.root, ∃ entry,
      (Converter.standard anonymousPrefix).record reading.content document.origin node =
        .ok entry := by
    intro node member
    -- The outline of its category has an entry for it.
    obtain ⟨category, admitted⟩ := Kind.isDeclaration_iff_admits.mp (List.mem_filter.mp member).2
    obtain ⟨entries, found⟩ := done category
    rw [outline_result_eq_mapM category read] at found
    obtain ⟨entry, _, recorded⟩ :=
      (mapM_members found).1 node (mem_declarations_iff.mpr ⟨member, admitted⟩)
    exact ⟨entry, recorded⟩
  obtain ⟨merged, mergedDone⟩ := mapM_ok_of_forall records
  refine ⟨merged, forall₂_of_mem (mapM_ok_iff.mp mergedDone) ?_⟩
  intro node member entry _ recorded
  obtain ⟨category, admitted⟩ := Kind.isDeclaration_iff_admits.mp (List.mem_filter.mp member).2
  exact isEntryOf_of_record admitted recorded

theorem outline_of_merged {merged : List Entry} (category : Category)
    (read : (frontend.read document).result = .ok reading)
    (sources : List.Forall₂ (IsEntryOf anonymousPrefix document.origin reading.content)
      (declared reading.content reading.root) merged) :
    (outline frontend (.standard anonymousPrefix) document category).result =
      .ok (merged.filter fun entry => entry.category? == some category) := by
  have kept := forall₂_filter sources fun node entry isEntry => isEntry.category?_eq category
  rw [declared_filter_admits reading category] at kept
  rw [outline_result_eq_mapM category read]
  exact mapM_ok_iff.mpr (kept.imp fun _ _ isEntry => isEntry.1)

/-- Where all outlines have results, every visited declaration is of exactly one category,
and the entries of all outlines come from the declarations, one from each: there is a list
of entries, one for each declaration in document order, that makes up every outline by
leaving out the entries of the other categories. -/
theorem outlines_partition (read : (frontend.read document).result = .ok reading)
    (done : ∀ category, ∃ entries,
      (outline frontend (.standard anonymousPrefix) document category).result = .ok entries) :
    (declared reading.content reading.root).Nodup ∧
    (∀ node ∈ declared reading.content reading.root, ∃! category : Category,
      node ∈ declarations reading.content category reading.statements) ∧
    (∀ category, ∀ node ∈ declarations reading.content category reading.statements,
      node ∈ declared reading.content reading.root) ∧
    ∃ merged,
      List.Forall₂ (IsEntryOf anonymousPrefix document.origin reading.content)
        (declared reading.content reading.root) merged ∧
      ∀ category, (outline frontend (.standard anonymousPrefix) document category).result =
        .ok (merged.filter fun entry => entry.category? == some category) := by
  refine ⟨(Location.visits_nodup reading.root).filter _, ?_, ?_, ?_⟩
  · intro node member
    obtain ⟨category, admitted⟩ :=
      Kind.isDeclaration_iff_admits.mp (List.mem_filter.mp member).2
    refine ⟨category, mem_declarations_iff.mpr ⟨member, admitted⟩, ?_⟩
    intro other otherMember
    have otherAdmitted := Category.admits_iff.mp (mem_declarations_iff.mp otherMember).2
    exact Option.some.inj (otherAdmitted.symm.trans (Category.admits_iff.mp admitted))
  · intro category node member
    exact (mem_declarations_iff.mp member).1
  · obtain ⟨merged, sources⟩ := exists_merged read done
    exact ⟨merged, sources, fun category => outline_of_merged category read sources⟩

end Outlines

def nestedDocument : Document :=
  .ofChars 'A' ['\n', 'B', 'C', 'D', '\n', 'E', 'F', 'G']

/-- Two classes, the first with a method that has a class in its body and with a constant;
then a function and a constant. -/
def nestedTree : Tree :=
  let node (type : String) (start stop : Nat) : List Tree → Tree :=
    .node ⟨type, start, stop, none, true, false, false⟩
  let named (type : String) (start stop : Nat) (rest : List Tree) : Tree :=
    node type start stop
      (.node ⟨"name", start, start + 1, some "name", true, false, false⟩ [] :: rest)
  node "program" 0 9
    [named "class_declaration" 0 5
      [node "declaration_list" 1 5
        [named "method_declaration" 2 4 [named "class_declaration" 3 4 []],
        node "const_declaration" 4 5 [named "const_element" 4 5 []]]],
    named "class_declaration" 6 7 [],
    named "function_definition" 7 8 [],
    node "const_declaration" 8 9 [named "const_element" 8 9 []]]

def nestedHeading (letter : String) (startLine endLine : Nat) : Heading :=
  ⟨letter, letter, none, none, startLine, endLine, none⟩

/-- The entries of the outlines: neither the method nor its constant has one. -/
def nestedEntries : Category → List Entry
  | .classLike =>
      [.classLike ⟨nestedHeading "A" 1 2, .plain, false, [], none, [], ["B"], ["D"]⟩,
      .classLike ⟨nestedHeading "C" 2 2, .plain, false, [], none, [], [], []⟩,
      .classLike ⟨nestedHeading "E" 3 3, .plain, false, [], none, [], [], []⟩]
  | .function => [.function ⟨nestedHeading "F" 3 3, [], none, false⟩]
  | .constant => [.constant ⟨nestedHeading "G" 3 3, "", false⟩]

theorem read_nestedTree : ((Frontend.fixed true nestedTree).read nestedDocument).result =
    .ok ⟨[65, 10, 66, 67, 68, 10, 69, 70, 71], nestedTree⟩ :=
  Frontend.read_fixed rfl fun _ => by decide

theorem outline_nestedTree (category : Category) :
    (outline (.fixed true nestedTree) (.standard "class@anonymous") nestedDocument
      category).result = .ok (nestedEntries category) := by
  cases category <;> decide +kernel

/-- The merged entries of the five declarations. -/
theorem outlines_nestedTree :
    ((Frontend.fixed true nestedTree).read nestedDocument).result =
        .ok ⟨[65, 10, 66, 67, 68, 10, 69, 70, 71], nestedTree⟩ ∧
      (∀ category, ∃ entries, (outline (.fixed true nestedTree) (.standard "class@anonymous")
        nestedDocument category).result = .ok entries) ∧
      ∃ merged,
        List.Forall₂ (IsEntryOf "class@anonymous" none [65, 10, 66, 67, 68, 10, 69, 70, 71])
          (declared [65, 10, 66, 67, 68, 10, 69, 70, 71] nestedTree) merged ∧
        merged.length = 5 ∧
        ∀ category, nestedEntries category =
          merged.filter fun entry => entry.category? == some category := by
  have done : ∀ category, ∃ entries, (outline (.fixed true nestedTree)
      (.standard "class@anonymous") nestedDocument category).result = .ok entries :=
    fun category => ⟨nestedEntries category, outline_nestedTree category⟩
  obtain ⟨_, _, _, merged, sources, each⟩ := outlines_partition read_nestedTree done
  refine ⟨read_nestedTree, done, merged, sources, ?_, ?_⟩
  · rw [← sources.length_eq, declared, visits, Location.walk_eq_flatMap]
    decide +kernel
  · intro category
    have same := (outline_nestedTree category).symm.trans (each category)
    exact Except.ok.inj same

/-- The first and the last line of an entry. -/
def Entry.startLine (entry : Entry) : Nat :=
  entry.heading.startLine

def Entry.endLine (entry : Entry) : Nat :=
  entry.heading.endLine

/-- The later declaration is below the earlier and its lines are among those of the
earlier, or its lines start where those of the earlier end. -/
def LinesNestOrFollow (earlier later : Location × Entry) : Prop :=
  (earlier.1 ∈ later.1.ancestors ∧ earlier.2.startLine ≤ later.2.startLine ∧
      later.2.endLine ≤ earlier.2.endLine) ∨
    earlier.2.endLine ≤ later.2.startLine

theorem LinesNestOrFollow.startLine_le {earlier later : Location × Entry}
    (apart : LinesNestOrFollow earlier later) (proper : earlier.2.startLine ≤ earlier.2.endLine) :
    earlier.2.startLine ≤ later.2.startLine := by
  rcases apart with ⟨_, starts, _⟩ | follows
  · exact starts
  · exact Nat.le_trans proper follows

section Outlines

variable {frontend : Frontend} {document : Document} {reading : Reading}
  {anonymousPrefix : String} {category : Category} {entries : List Entry}

theorem declarations_nest (category : Category) (nest : reading.root.SpansNest) :
    (declarations reading.content category reading.statements).Pairwise NestsOrFollows := by
  rw [declarations_eq_visits]
  exact (Location.pairwise_walk_namedChildren (nest.pairwise_subtree .root)).filter _

/-- The entries of an outline start in document order.  Of two of them, the later is of a
declaration below that of the earlier, with its lines among those of the earlier, or it
starts on the last line of the earlier or after it. -/
theorem outline_ranges (read : (frontend.read document).result = .ok reading)
    (nest : reading.root.SpansNest)
    (done : (outline frontend (.standard anonymousPrefix) document category).result =
      .ok entries) :
    List.Forall₂ (IsEntryOf anonymousPrefix document.origin reading.content)
        (declarations reading.content category reading.statements) entries ∧
      (∀ entry ∈ entries, 1 ≤ entry.startLine ∧ entry.startLine ≤ entry.endLine) ∧
      (entries.Pairwise fun earlier later => earlier.startLine ≤ later.startLine) ∧
      ((declarations reading.content category reading.statements).zip entries).Pairwise
        LinesNestOrFollow := by
  have sources := isEntryOf_of_outline read done
  have proper : ∀ entry ∈ entries, 1 ≤ entry.startLine ∧ entry.startLine ≤ entry.endLine := by
    intro entry member
    obtain ⟨node, isNode, isEntry⟩ := exists_of_mem_right sources member
    have within := (within_of_mem_declarations reading isNode).1
    rw [Entry.startLine, Entry.endLine, isEntry.2.startLine, isEntry.2.endLine]
    exact ⟨one_le_lineAt _ _, lineAt_mono (nest.start_le_stop within)⟩
  have apart : ((declarations reading.content category reading.statements).zip entries).Pairwise
      LinesNestOrFollow := by
    apply pairwise_zip sources (declarations_nest category nest)
    intro first second image other follows isImage isOther
    have lines := follows.lines reading.content
    rw [← isImage.2.startLine, ← isImage.2.endLine, ← isOther.2.startLine,
      ← isOther.2.endLine] at lines
    exact lines
  refine ⟨sources, proper, ?_, apart⟩
  rw [← List.map_snd_zip (Nat.le_of_eq sources.length_eq.symm), List.pairwise_map]
  apply apart.imp_of_mem
  intro earlier later isEarlier _ follows
  exact follows.startLine_le (proper earlier.2 (List.of_mem_zip isEarlier).2).2

end Outlines

/-- The class in a method nests in the first class, and the last class follows both. -/
theorem outline_ranges_nestedTree :
    ((Frontend.fixed true nestedTree).read nestedDocument).result =
        .ok ⟨[65, 10, 66, 67, 68, 10, 69, 70, 71], nestedTree⟩ ∧
      nestedTree.SpansNest ∧
      (outline (.fixed true nestedTree) (.standard "class@anonymous") nestedDocument
        .classLike).result = .ok (nestedEntries .classLike) ∧
      ((nestedEntries .classLike).map fun entry => (entry.startLine, entry.endLine)) =
        [(1, 2), (2, 2), (3, 3)] ∧
      ((declarations [65, 10, 66, 67, 68, 10, 69, 70, 71] .classLike
        (Location.root nestedTree).namedChildren).zip (nestedEntries .classLike)).Pairwise
          LinesNestOrFollow := by
  have nest : nestedTree.SpansNest := by decide
  obtain ⟨_, _, _, apart⟩ := outline_ranges read_nestedTree nest (outline_nestedTree .classLike)
  exact ⟨read_nestedTree, nest, outline_nestedTree .classLike, rfl, apart⟩

end PhpOutline
