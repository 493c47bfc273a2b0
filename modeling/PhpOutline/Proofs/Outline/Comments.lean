import PhpOutline.Proofs.Declaration.Surroundings
import PhpOutline.Proofs.Outline.Entries
import PhpOutline.Proofs.Syntax.Inserted

namespace PhpOutline

/-! Outlines of documents with comments.

Readings of declarations pass over comments, wherever they stand.  Only the comment
right in front of what is documented counts, so a comment more is seen in the doc
comment of the declaration behind it and nowhere else.
-/

open PhpOutline.Syntax
open PhpOutline.Syntax.Location (Paired isInserted)
open PhpOutline.Syntax.Tree (Inserted IsComment)
open PhpOutline.Text (Bytes)

/-- The doc comments are the same, unless the node at the end of the path stands right
in front of what documents the declaration. -/
def DocMayDiffer (content : Bytes) (path : List Nat) (node : Location)
    (first second : Option String) : Prop :=
  first = second ∨ ∃ comment,
    (node.docAnchor content).previousNamedSibling? = some comment ∧ comment.path = path

section Inserted

variable {comment tree other : Tree} {path : List Nat} {left right : Location}
  (content : Bytes) (isComment : comment.IsComment) (inserted : Inserted comment path tree other)

include isComment inserted

theorem remark_of_isInserted (paired : Paired (isInserted path) tree other left right) :
    ∀ child ∈ right.children, isInserted path child = true → child.IsRemark := by
  intro child member found
  have twins := (Location.pairing_inserted inserted).twin paired
  have here := twins.here_of_isInserted member found
  obtain ⟨node, above⟩ := child
  dsimp only at here
  subst node
  exact ⟨isComment.type, isComment.field, isComment.leaf⟩

theorem counterparts_inserted :
    Counterparts content content (isInserted path) (Paired (isInserted path) tree other) := by
  have pairing := Location.pairing_inserted inserted
  have labels : ∀ {left right}, Paired (isInserted path) tree other left right →
      left.label = right.label := fun paired => (pairing.twin paired).label_eq
  exact {
    label_eq := labels
    bytes_eq := fun paired => by rw [Location.bytes, Location.bytes, labels paired]
    startLine_eq := fun paired => by rw [Location.startLine, Location.startLine, labels paired]
    endLine_eq := fun paired => by rw [Location.endLine, Location.endLine, labels paired]
    children := pairing.children_paired
    remark := remark_of_isInserted isComment inserted
    lastKept := fun paired => (pairing.twin paired).last_kept
    severalKept := fun paired => (pairing.twin paired).several_kept }

theorem surroundings_inserted :
    Surroundings content content (isInserted path) (Paired (isInserted path) tree other)
      (Paired (isInserted path) tree other) where
  counterparts := counterparts_inserted content isComment inserted
  around paired := paired
  type_eq := (counterparts_inserted content isComment inserted).type_eq
  parent := Paired.parent
  earlier := (Location.pairing_inserted inserted).earlierNamedSiblings_paired
  earlierRemark := by
    intro left right paired sibling member found
    obtain ⟨parent, isParent, isChild⟩ :=
      Location.mem_children_of_mem_earlierNamedSiblings member
    have parents := paired.parent
    rw [isParent] at parents
    generalize left.parent? = above at parents
    cases parents with
    | some pair => exact remark_of_isInserted isComment inserted pair sibling isChild found
  declaredName_eq paired _ :=
    (counterparts_inserted content isComment inserted).declaredName_eq paired

/-- Where the comment is not in front of the anchor, nothing new is read; where it
is, something is read at least. -/
theorem docComment_inserted (aligned : Aligned content other)
    (paired : Paired (isInserted path) tree other left right) :
    Agree (DocMayDiffer content path right) ((left.docAnchor content).docComment content)
      ((right.docAnchor content).docComment content) := by
  have surroundings := surroundings_inserted content isComment inserted
  have anchors := surroundings.docAnchor_around paired
  by_cases behind : ∃ previous,
      (right.docAnchor content).previousNamedSibling? = some previous ∧
        isInserted path previous = true
  · obtain ⟨previous, found, isExtra⟩ := behind
    have readable := (aligned.of_labels_subset inserted.labels_subset).readable
    obtain ⟨first, read⟩ := Location.docComment_exists readable anchors.within
    obtain ⟨second, readOther⟩ :=
      Location.docComment_exists aligned.readable anchors.within_other
    rw [read, readOther]
    exact .ok (.inr ⟨previous, found, beq_iff_eq.mp isExtra⟩)
  · rw [surroundings.docComment_eq anchors fun previous found =>
      (Bool.not_eq_true _).mp fun isExtra => behind ⟨previous, found, isExtra⟩]
    exact (Agree.refl _).imp fun _ _ => .inl

theorem reads_inserted (strict : Bool) (document : Document) :
    Agree (fun first second => ∃ content, Text.encode document.text = .ok content ∧
        first = Reading.mk content tree ∧ second = Reading.mk content other)
      ((Frontend.fixed strict tree).read document).result
      ((Frontend.fixed strict other).read document).result := by
  have faults := inserted.hasFault_eq isComment.sound
  have positions : ∀ content, Reading.faultPosition? ⟨content, tree⟩ =
      Reading.faultPosition? ⟨content, other⟩ := by
    intro content
    have places := congrArg
      (Option.map fun label : Label => (lineAt content label.start, columnAt content label.start))
      (Location.firstFault?_inserted inserted isComment.sound)
    rw [Option.map_map, Option.map_map] at places
    exact places
  cases encoded : Text.encode document.text with
  | error run =>
      rw [Frontend.read_surrogates encoded, Frontend.read_surrogates encoded]
      exact .error _
  | ok content =>
      by_cases refused : strict = true ∧ tree.hasFault = true
      · obtain ⟨rfl, faulty⟩ := refused
        rw [Frontend.read_faulty encoded faulty, Frontend.read_faulty encoded (faults ▸ faulty),
          positions]
        exact .error _
      · have faultless : strict = true → tree.hasFault = false := fun isStrict =>
          (Bool.not_eq_true _).mp fun faulty => refused ⟨isStrict, faulty⟩
        rw [Frontend.read_fixed encoded faultless, Frontend.read_fixed encoded (faults ▸ faultless)]
        exact .ok ⟨content, rfl, rfl, rfl⟩

theorem declarations_inserted (category : Category) :
    List.Forall₂ (Paired (isInserted path) tree other)
      (declarations content category (Reading.statements ⟨content, tree⟩))
      (declarations content category (Reading.statements ⟨content, other⟩)) := by
  have surroundings := surroundings_inserted content isComment inserted
  apply surroundings.declarations
  · exact surroundings.counterparts.namedChildren .root
  · intro node member
    exact surroundings.counterparts.remark .root node
      (Location.mem_children_of_mem_namedChildren member)

end Inserted

/-- A comment more in a document changes no outline but for doc comments: of those
declarations that it is put in front of.  Outlines fail as they did, and all else that
they say of declarations stays the same. -/
theorem outline_commented {comment tree commented : Tree} {path : List Nat} (strict : Bool)
    (anonymousPrefix : String) (document : Document) (category : Category)
    (isComment : comment.IsComment) (inserted : Inserted comment path tree commented)
    (aligned : ∀ content, Text.encode document.text = .ok content → Aligned content commented) :
    Agree
      (fun entries others => ∃ content, Text.encode document.text = .ok content ∧
        entries.length = others.length ∧
        others.length =
          (declarations content category (Reading.statements ⟨content, commented⟩)).length ∧
        ∀ (number : Nat) entry other node, entries[number]? = some entry →
          others[number]? = some other →
          (declarations content category (Reading.statements ⟨content, commented⟩))[number]? =
            some node →
          Entry.SameBut (DocMayDiffer content path node) entry other)
      (outline (.fixed strict tree) (.standard anonymousPrefix) document category).result
      (outline (.fixed strict commented) (.standard anonymousPrefix) document category).result := by
  rw [outline_result_eq_bind, outline_result_eq_bind]
  apply (reads_inserted isComment inserted strict document).bind
  rintro _ _ ⟨content, encoded, rfl, rfl⟩
  have surroundings := surroundings_inserted content isComment inserted
  have each := forall₂_of_mem (declarations_inserted content isComment inserted category)
    fun left _ right member paired =>
      Converter.record_agree document.origin (surroundings.kind_eq paired)
        fun fileName => surroundings.convert_standard_agree paired fileName anonymousPrefix
          (List.mem_filter.mp member).2
          (docComment_inserted content isComment inserted (aligned content encoded) paired)
  exact (mapM_agree_at each).imp fun _ _ places => ⟨content, encoded, places⟩

/-- A document of a doc comment and a class. -/
def documentedText : Document :=
  .ofChars '/' ['*', '*', '/', 'A']

def docLeaf : Tree :=
  .node ⟨"comment", 0, 4, none, true, false, false⟩ []

/-- The class, with or without the comment in front. -/
def documentedClass (front : List Tree) : Tree :=
  .node ⟨"program", 0, 5, none, true, false, false⟩
    (front ++ [.node ⟨"class_declaration", 4, 5, none, true, false, false⟩
      [.node ⟨"name", 4, 5, some "name", true, false, false⟩ []]])

theorem outline_documentedClass :
    docLeaf.IsComment ∧ Inserted docLeaf [0] (documentedClass []) (documentedClass [docLeaf]) ∧
      (∀ content, Text.encode documentedText.text = .ok content →
        Aligned content (documentedClass [docLeaf])) ∧
      ∃ entry other,
        (outline (.fixed true (documentedClass [])) (.standard "class@anonymous") documentedText
          .classLike).result = .ok [entry] ∧
        (outline (.fixed true (documentedClass [docLeaf])) (.standard "class@anonymous")
          documentedText .classLike).result = .ok [other] ∧
        entry.heading = ⟨"A", "A", none, none, 1, 1, none⟩ ∧
        other.heading.docComment = some "/**/" ∧ entry.withDocComment (some "/**/") = other := by
  have isComment : docLeaf.IsComment := ⟨rfl, rfl, rfl, rfl, rfl⟩
  have inserted : Inserted docLeaf [0] (documentedClass []) (documentedClass [docLeaf]) :=
    @Inserted.here docLeaf _ [] _ (by decide) (by decide)
  have aligned : ∀ content, Text.encode documentedText.text = .ok content →
      Aligned content (documentedClass [docLeaf]) := by
    intro content encoded
    cases encoded
    exact ⟨['/', '*', '*', '/', 'A'], rfl, by decide⟩
  have agree := outline_commented true "class@anonymous" documentedText .classLike isComment
    inserted aligned
  have plain : (outline (.fixed true (documentedClass [])) (.standard "class@anonymous")
      documentedText .classLike).result =
      .ok [.classLike ⟨⟨"A", "A", none, none, 1, 1, none⟩, .plain, false, [], none, [], [], []⟩] := by
    decide +kernel
  have documented : (outline (.fixed true (documentedClass [docLeaf])) (.standard "class@anonymous")
      documentedText .classLike).result =
      .ok [.classLike ⟨⟨"A", "A", none, none, 1, 1, some "/**/"⟩, .plain, false, [], none, [], [],
        []⟩] := by
    decide +kernel
  refine ⟨isComment, inserted, aligned, _, _, plain, documented, rfl, rfl, ?_⟩
  rw [plain, documented] at agree
  cases agree with
  | ok related =>
      obtain ⟨content, encoded, _, _, places⟩ := related
      cases encoded
      exact (places 0 _ _ _ rfl rfl rfl).others

end PhpOutline
