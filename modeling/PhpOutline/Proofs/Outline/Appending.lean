import PhpOutline.Proofs.Declaration.Surroundings
import PhpOutline.Proofs.Outline.Entries
import PhpOutline.Proofs.Syntax.Paired

namespace PhpOutline

open PhpOutline.Syntax
open PhpOutline.Syntax.Location (Paired Pairing Within)
open PhpOutline.Text (Bytes CodePoint)

/-- The longer document starts with the bytes of the shorter one, and its tree with
the statements of that one.  The root may cover more than before. -/
structure Extends (original extended : Reading) (appended : List Tree) : Prop where
  content : original.content <+: extended.content
  rootType : extended.root.type = original.root.type
  children : extended.root.children = original.root.children ++ appended
  spans : ∀ label ∈ Tree.labelsAll original.root.children,
    label.start ≤ original.content.length ∧ label.stop ≤ original.content.length

/-- A root that is a namespace definition itself does not get a name by what is
appended. -/
def KeepsRootName (original : Reading) (appended : List Tree) : Prop :=
  original.root.type = "namespace_definition" →
    (∃ child ∈ original.root.children, child.label.field = some "name") ∨
      ∀ child ∈ appended, child.label.field ≠ some "name"

/-- The statements among the children of the root from the number `count` on. -/
def Reading.statementsFrom (reading : Reading) (count : Nat) : List Location :=
  ((Location.root reading.root).children.drop count).filter Location.isNamed

namespace Syntax.Location

/-- The node is a child of the root with the number `count` or a later one. -/
def isAppended (count : Nat) (node : Location) : Bool :=
  match node.above with
  | [step] => decide (count ≤ step.index)
  | _ => false

variable {location node child : Location} {count : Nat}

theorem isAppended_deep (deep : location.above ≠ []) (member : child ∈ location.children) :
    child.isAppended count = false := by
  obtain ⟨_, number, above⟩ := above_of_mem_children member
  obtain ⟨step, rest, steps⟩ := List.exists_cons_of_ne_nil deep
  simp only [isAppended, above, steps]

theorem isAppended_childrenFrom {tree : Tree} {index : Nat} {trees : List Tree} (count : Nat)
    (member : node ∈ (root tree).childrenFrom index trees) :
    ∃ number, node.isAppended count = decide (count ≤ number) ∧
      index ≤ number ∧ number < index + trees.length := by
  obtain ⟨number, above, first, last, _⟩ := number_of_mem_childrenFrom member
  refine ⟨number, ?_, first, last⟩
  rw [root] at above
  simp only [isAppended, above]

theorem filter_isAppended (tree : Tree) (old appended : List Tree) :
    ((root tree).childrenFrom 0 (old ++ appended)).filter
      (fun node => !node.isAppended old.length) = (root tree).childrenFrom 0 old := by
  have kept : ∀ node ∈ (root tree).childrenFrom 0 old,
      (!node.isAppended old.length) = true := by
    intro node member
    obtain ⟨number, same, _, before⟩ := isAppended_childrenFrom old.length member
    simp only [same, Bool.not_eq_true', decide_eq_false_iff_not]
    omega
  have dropped : ∀ node ∈ (root tree).childrenFrom old.length appended,
      ¬ (!node.isAppended old.length) = true := by
    intro node member
    obtain ⟨number, same, late, _⟩ := isAppended_childrenFrom old.length member
    simp [same, late]
  rw [childrenFrom_append, Nat.zero_add, List.filter_append, List.filter_eq_self.mpr kept,
    List.filter_eq_nil_iff.mpr dropped, List.append_nil]

end Syntax.Location

open PhpOutline.Syntax.Location (SameBelow isAppended)

theorem slice_of_prefix {content longer : Bytes} {start stop : Nat} (starts : content <+: longer)
    (inside : stop ≤ content.length) : slice content start stop = slice longer start stop := by
  obtain ⟨more, rfl⟩ := starts
  by_cases empty : start ≤ content.length
  · rw [slice, slice, List.drop_append_of_le_length empty, List.take_append_of_le_length]
    rw [List.length_drop]
    omega
  · have none : stop - start = 0 := by omega
    rw [slice, slice, none, List.take_zero, List.take_zero]

theorem lineAt_of_prefix {content longer : Bytes} {offset : Nat} (starts : content <+: longer)
    (inside : offset ≤ content.length) : lineAt content offset = lineAt longer offset := by
  obtain ⟨more, rfl⟩ := starts
  rw [lineAt, lineAt, List.take_append_of_le_length inside]

namespace Extends

variable {original extended : Reading} {appended : List Tree} {left right : Location}

/-- Nodes to which the same steps lead in both documents. -/
abbrev Around (original extended : Reading) : Location → Location → Prop :=
  Paired (isAppended original.root.children.length) original.root extended.root

/-- The same, without the roots. -/
def Same (original extended : Reading) (left right : Location) : Prop :=
  Around original extended left right ∧ left.above ≠ []

section

variable (grows : Extends original extended appended)

include grows

theorem children_root : (Location.root extended.root).children =
    (Location.root extended.root).childrenFrom 0 (original.root.children ++ appended) :=
  congrArg _ grows.children

theorem pairing :
    Pairing (isAppended original.root.children.length) original.root extended.root
      (SameBelow original.root extended.root) where
  top := .inl ⟨rfl, rfl⟩
  isNamed_eq same below := congrArg Tree.isNamed (same.here_eq below).1
  children := by
    rintro left right (⟨rfl, rfl⟩ | ⟨here, _, deep⟩)
    · rw [grows.children_root, Location.filter_isAppended]
      apply Location.childrenFrom_forall₂
      exact fun _ _ _ => .inr ⟨rfl, List.cons_ne_nil _ _, List.cons_ne_nil _ _⟩
    · have kept : ∀ child ∈ right.children,
          (!child.isAppended original.root.children.length) = true := by
        intro child member
        rw [Location.isAppended_deep deep member]
        rfl
      rw [List.filter_eq_self.mpr kept, Location.children, Location.children, here]
      apply Location.childrenFrom_forall₂
      exact fun _ _ _ => .inr ⟨rfl, List.cons_ne_nil _ _, List.cons_ne_nil _ _⟩

theorem here_eq (same : Same original extended left right) :
    left.here = right.here ∧ right.above ≠ [] :=
  (grows.pairing.twin same.1).here_eq same.2

theorem child_kept (same : Same original extended left right) :
    ∀ child ∈ right.children, isAppended original.root.children.length child = false :=
  fun _ member => Location.isAppended_deep (grows.here_eq same).2 member

theorem spans_of_same (same : Same original extended left right) :
    left.label.start ≤ original.content.length ∧ left.label.stop ≤ original.content.length :=
  grows.spans _ (same.1.within.label_mem_labelsAll same.2)

theorem label_eq (same : Same original extended left right) : left.label = right.label :=
  congrArg Tree.label (grows.here_eq same).1

theorem children_paired (paired : Around original extended left right) :
    List.Forall₂ (Same original extended) left.children
      (right.children.filter fun child => !isAppended original.root.children.length child) :=
  forall₂_of_mem (grows.pairing.children_paired paired) fun _ isChild _ _ pair =>
    ⟨pair, Location.above_ne_nil_of_mem_children isChild⟩

theorem children_same (same : Same original extended left right) :
    List.Forall₂ (Same original extended) left.children right.children := by
  have listed := grows.children_paired same.1
  rwa [List.filter_eq_self.mpr fun child member => by
    rw [grows.child_kept same child member]; rfl] at listed

theorem counterparts :
    Counterparts original.content extended.content (isAppended original.root.children.length)
      (Same original extended) := by
  apply Counterparts.of_none grows.label_eq
  · intro left right same
    rw [Location.bytes, Location.bytes, ← grows.label_eq same]
    exact slice_of_prefix grows.content (grows.spans_of_same same).2
  · intro left right same
    rw [Location.startLine, Location.startLine, ← grows.label_eq same]
    exact lineAt_of_prefix grows.content (grows.spans_of_same same).1
  · intro left right same
    rw [Location.endLine, Location.endLine, ← grows.label_eq same]
    exact lineAt_of_prefix grows.content (grows.spans_of_same same).2
  · exact grows.children_same
  · exact grows.child_kept

theorem sibling_kept (paired : Around original extended left right) :
    ∀ sibling ∈ right.earlierNamedSiblings,
      isAppended original.root.children.length sibling = false := by
  intro sibling member
  obtain ⟨step, rest, number, above, siblingAbove, before⟩ :=
    Location.above_of_mem_earlierNamedSiblings member
  -- The root has no siblings, so the node is below it and has an old number itself.
  have below : left.above ≠ [] := by
    rcases grows.pairing.twin paired with ⟨_, rfl⟩ | ⟨_, deep, _⟩
    · cases above
    · exact deep
  have kept := paired.not_extra below
  cases rest with
  | cons _ _ => simp only [isAppended, siblingAbove]
  | nil =>
      simp only [isAppended, above, siblingAbove, decide_eq_false_iff_not] at kept ⊢
      omega

theorem children_extended :
    (Location.root extended.root).children =
      (Location.root extended.root).childrenFrom 0 original.root.children ++
        (Location.root extended.root).childrenFrom original.root.children.length appended := by
  rw [grows.children_root, Location.childrenFrom_append, Nat.zero_add]

theorem old_children :
    List.Forall₂ (Same original extended) (Location.root original.root).children
      ((Location.root extended.root).childrenFrom 0 original.root.children) := by
  have listed := grows.children_paired .root
  rwa [grows.children_root, Location.filter_isAppended] at listed

theorem rootName_eq (rootName : KeepsRootName original appended)
    (definition : original.root.type = "namespace_definition") :
    (Location.root original.root).declaredName original.content =
      (Location.root extended.root).declaredName extended.content := by
  have found : Option.Rel (Same original extended)
      ((Location.root original.root).childByField? "name")
      (((Location.root extended.root).childrenFrom 0 original.root.children).find? fun child =>
        child.label.field == some "name") := by
    apply forall₂_find? grows.old_children
    intro first second same
    rw [grows.label_eq same]
  have searched : (Location.root extended.root).childByField? "name" =
      (((Location.root extended.root).childrenFrom 0 original.root.children).find? fun child =>
        child.label.field == some "name").or
      (((Location.root extended.root).childrenFrom original.root.children.length appended).find?
        fun child => child.label.field == some "name") := by
    rw [Location.childByField?, grows.children_extended, List.find?_append]
  apply grows.counterparts.optionalText_eq
  rw [searched]
  generalize ((Location.root extended.root).childrenFrom 0 original.root.children).find?
    (fun child => child.label.field == some "name") = kept at found ⊢
  cases old : (Location.root original.root).childByField? "name" with
  | some name =>
      rw [old] at found
      cases found with
      | some same => exact .some same
  | none =>
      -- The old statements have no name for the root, so none of the new ones has.
      have nameless : ∀ child ∈ appended, child.label.field ≠ some "name" := by
        rcases rootName definition with ⟨child, isChild, named⟩ | nameless
        · obtain ⟨number, atNumber⟩ := List.mem_iff_getElem?.mp isChild
          have listed : (Location.root original.root).children[number]? =
              some ⟨child, [⟨original.root, number⟩]⟩ := by
            rw [Location.children, Location.childrenFrom_getElem?, Nat.zero_add]
            exact congrArg (Option.map _) atNumber
          have absent := List.find?_eq_none.mp old _ (List.mem_of_getElem? listed)
          exact absurd (beq_iff_eq.mpr named) absent
        · exact nameless
      have nothing : ((Location.root extended.root).childrenFrom original.root.children.length
          appended).find? (fun child => child.label.field == some "name") = none := by
        rw [List.find?_eq_none]
        intro child member named
        have isNew := (Location.above_of_mem_childrenFrom member).1
        exact nameless child.here isNew (beq_iff_eq.mp named)
      rw [old] at found
      rw [nothing, Option.or_none]
      exact found

theorem surroundings (rootName : KeepsRootName original appended) :
    Surroundings original.content extended.content (isAppended original.root.children.length)
      (Same original extended) (Around original extended) where
  counterparts := grows.counterparts
  around same := same.1
  type_eq paired := by
    rcases grows.pairing.twin paired with ⟨rfl, rfl⟩ | ⟨here, _, _⟩
    · exact grows.rootType.symm
    · exact congrArg Tree.type here
  parent := Paired.parent
  earlier paired := forall₂_of_mem (grows.pairing.earlierNamedSiblings_paired paired)
    fun sibling member _ _ pair => by
      obtain ⟨_, _, _, _, above, _⟩ := Location.above_of_mem_earlierNamedSiblings member
      exact ⟨pair, above ▸ List.cons_ne_nil _ _⟩
  earlierRemark paired sibling member isExtra := by
    rw [grows.sibling_kept paired sibling member] at isExtra
    cases isExtra
  declaredName_eq := by
    intro left right paired definition
    by_cases below : left.above = []
    · rcases grows.pairing.twin paired with ⟨rfl, rfl⟩ | ⟨_, deep, _⟩
      · exact grows.rootName_eq rootName (grows.rootType.symm.trans definition)
      · exact absurd below deep
    · exact grows.counterparts.declaredName_eq ⟨paired, below⟩

theorem statements_eq :
    extended.statements =
      ((Location.root extended.root).childrenFrom 0 original.root.children).filter
        Location.isNamed ++ extended.statementsFrom original.root.children.length := by
  have first := congrArg List.length
    ((Location.root extended.root).map_here_childrenFrom 0 original.root.children)
  rw [List.length_map] at first
  rw [Reading.statements, Location.namedChildren, Reading.statementsFrom, grows.children_extended,
    List.filter_append, ← first, List.drop_left]

variable (rootName : KeepsRootName original appended) (category : Category)

include rootName

theorem docComment_eq (same : Same original extended left right) :
    (left.docAnchor original.content).docComment original.content =
      (right.docAnchor extended.content).docComment extended.content := by
  have surroundings := grows.surroundings rootName
  have around := surroundings.docAnchor_around same
  apply surroundings.docComment_eq around
  intro previous found
  exact grows.sibling_kept around previous (List.mem_of_mem_head? found)

theorem old_declarations :
    List.Forall₂ (Same original extended)
      (declarations original.content category original.statements)
      (declarations extended.content category
        (((Location.root extended.root).childrenFrom 0 original.root.children).filter
          Location.isNamed)) := by
  have statements := forall₂_filter grows.old_children fun _ _ same =>
    congrArg Label.named (grows.label_eq same)
  rw [declarations_eq_flatMap original.statements, declarations_eq_flatMap (List.filter _ _)]
  exact List.rel_flatMap statements fun _ _ same =>
    (grows.surroundings rootName).declarations_node same

/-- The old declarations convert to what they did before. -/
theorem mapM_old (origin : Option (List CodePoint)) (anonymousPrefix : String) :
    (declarations original.content category original.statements).mapM
        ((Converter.standard anonymousPrefix).record original.content origin) =
      (declarations extended.content category
        (((Location.root extended.root).childrenFrom 0 original.root.children).filter
          Location.isNamed)).mapM
        ((Converter.standard anonymousPrefix).record extended.content origin) := by
  have each := forall₂_of_mem (grows.old_declarations rootName category)
    fun left _ right member same => by
      have admitted := (List.mem_filter.mp member).2
      have docs : Agree Eq ((left.docAnchor original.content).docComment original.content)
          ((right.docAnchor extended.content).docComment extended.content) := by
        rw [grows.docComment_eq rootName same]
        exact .refl _
      have surroundings := grows.surroundings rootName
      have recorded := Converter.record_agree origin (surroundings.kind_eq same)
        fun fileName =>
          surroundings.convert_standard_agree same fileName anonymousPrefix admitted docs
      exact recorded.imp fun _ _ => Entry.SameBut.eq
  have entries := mapM_agree each
  rw [List.forall₂_eq_eq_eq] at entries
  exact entries.eq

end

end Extends

/-- Code at the end of a document changes nothing of what was outlined before.  An
outline that fails fails in the same way; one that succeeds is continued by the entries
of the appended statements; and a lookup finds what it found. -/
theorem outline_appended {frontend wider : Frontend} {document longer : Document}
    {original extended : Reading} {appended : List Tree} (anonymousPrefix : String)
    (category : Category) (read : (frontend.read document).result = .ok original)
    (readLonger : (wider.read longer).result = .ok extended)
    (sameOrigin : longer.origin = document.origin)
    (grows : Extends original extended appended) (rootName : KeepsRootName original appended) :
    (∀ failure,
      (outline frontend (.standard anonymousPrefix) document category).result = .error failure →
        (outline wider (.standard anonymousPrefix) longer category).result = .error failure) ∧
    (∀ entries,
      (outline wider (.standard anonymousPrefix) longer category).result = .ok entries →
        ∃ first rest,
          (outline frontend (.standard anonymousPrefix) document category).result = .ok first ∧
          (declarations extended.content category
            (extended.statementsFrom original.root.children.length)).mapM
              ((Converter.standard anonymousPrefix).record extended.content longer.origin) =
            .ok rest ∧
          entries = first ++ rest) ∧
    (∀ name entry entries,
      (lookup frontend (.standard anonymousPrefix) document ⟨name, category⟩).result =
          .ok entry →
        (outline wider (.standard anonymousPrefix) longer category).result = .ok entries →
          (lookup wider (.standard anonymousPrefix) longer ⟨name, category⟩).result =
            .ok entry) := by
  have continued : (outline wider (.standard anonymousPrefix) longer category).result = do
      let first ← (outline frontend (.standard anonymousPrefix) document category).result
      let rest ← (declarations extended.content category
        (extended.statementsFrom original.root.children.length)).mapM
          ((Converter.standard anonymousPrefix).record extended.content longer.origin)
      return first ++ rest := by
    rw [outline_result_eq_mapM category read, outline_result_eq_mapM category readLonger,
      grows.statements_eq, declarations_append, List.mapM_append, sameOrigin,
      grows.mapM_old rootName]
  have split : ∀ entries,
      (outline wider (.standard anonymousPrefix) longer category).result = .ok entries →
        ∃ first rest,
          (outline frontend (.standard anonymousPrefix) document category).result = .ok first ∧
          (declarations extended.content category
            (extended.statementsFrom original.root.children.length)).mapM
              ((Converter.standard anonymousPrefix).record extended.content longer.origin) =
            .ok rest ∧
          entries = first ++ rest := by
    intro entries done
    rw [continued] at done
    obtain ⟨first, old, done⟩ := bind_eq_ok_iff.mp done
    obtain ⟨rest, new, done⟩ := bind_eq_ok_iff.mp done
    cases done
    exact ⟨first, rest, old, new, rfl⟩
  refine ⟨?_, split, ?_⟩
  · intro failure failed
    rw [continued, failed]
    rfl
  · intro name entry entries found done
    obtain ⟨first, rest, original, _, rfl⟩ := split entries done
    obtain ⟨others, same, among⟩ := lookup_ok_iff.mp found
    cases original.symm.trans same
    exact lookup_ok_iff.mpr ⟨_, done, by rw [List.find?_append, among, Option.some_or]⟩

def oneLetter : Document :=
  .ofChars 'A' []

def twoLetters : Document :=
  .ofChars 'A' ['B']

def classNamed (start : Nat) : Tree :=
  .node ⟨"class_declaration", start, start + 1, none, true, false, false⟩
    [.node ⟨"name", start, start + 1, some "name", true, false, false⟩ []]

def oneClass : Tree :=
  .node ⟨"program", 0, 1, none, true, false, false⟩ [classNamed 0]

def twoClasses : Tree :=
  .node ⟨"program", 0, 2, none, true, false, false⟩ [classNamed 0, classNamed 1]

/-- What is recorded of a class with a name and nothing else, on the first line. -/
def bareClass (name : String) (shortName : String) (namespaceName : Option String) : Entry :=
  .classLike
    { heading := ⟨name, shortName, namespaceName, none, 1, 1, none⟩
      form := .plain
      isAnonymous := false
      modifiers := []
      parentName := none
      interfaceNames := []
      methodNames := []
      constantNames := [] }

theorem lookup_twoClasses :
    ((Frontend.fixed true oneClass).read oneLetter).result = .ok ⟨[65], oneClass⟩ ∧
      ((Frontend.fixed true twoClasses).read twoLetters).result = .ok ⟨[65, 66], twoClasses⟩ ∧
      twoLetters.origin = oneLetter.origin ∧
      Extends ⟨[65], oneClass⟩ ⟨[65, 66], twoClasses⟩ [classNamed 1] ∧
      KeepsRootName ⟨[65], oneClass⟩ [classNamed 1] ∧
      (lookup (.fixed true twoClasses) (.standard "class@anonymous") twoLetters
        ⟨"a", .classLike⟩).result = .ok (bareClass "A" "A" none) := by
  have read : ((Frontend.fixed true oneClass).read oneLetter).result = .ok ⟨[65], oneClass⟩ :=
    Frontend.read_fixed rfl fun _ => by decide
  have readLonger : ((Frontend.fixed true twoClasses).read twoLetters).result =
      .ok ⟨[65, 66], twoClasses⟩ := Frontend.read_fixed rfl fun _ => by decide
  have grows : Extends ⟨[65], oneClass⟩ ⟨[65, 66], twoClasses⟩ [classNamed 1] :=
    ⟨⟨[66], rfl⟩, rfl, rfl, by decide⟩
  have rootName : KeepsRootName ⟨[65], oneClass⟩ [classNamed 1] := by
    intro definition
    exact absurd definition (by decide)
  have found : (lookup (.fixed true oneClass) (.standard "class@anonymous") oneLetter
      ⟨"a", .classLike⟩).result = .ok (bareClass "A" "A" none) := by decide +kernel
  have done : (outline (.fixed true twoClasses) (.standard "class@anonymous") twoLetters
      .classLike).result = .ok [bareClass "A" "A" none, bareClass "B" "B" none] := by decide +kernel
  exact ⟨read, readLonger, rfl, grows, rootName, (outline_appended "class@anonymous" .classLike
    read readLonger rfl grows rootName).2.2 _ _ _ found done⟩

/-- A tree that is a namespace definition itself. -/
def definitionRoot (stop : Nat) (statements : List Tree) : Tree :=
  .node ⟨"namespace_definition", 0, stop, none, true, false, false⟩ statements

/-- A name among the appended nodes puts what was there before into its namespace. -/
theorem outline_rootName_gained :
    let name : Tree := .node ⟨"name", 1, 2, some "name", true, false, false⟩ []
    ((Frontend.fixed true (definitionRoot 1 [classNamed 0])).read oneLetter).result =
        .ok ⟨[65], definitionRoot 1 [classNamed 0]⟩ ∧
      ((Frontend.fixed true (definitionRoot 1 [classNamed 0, name])).read twoLetters).result =
        .ok ⟨[65, 66], definitionRoot 1 [classNamed 0, name]⟩ ∧
      twoLetters.origin = oneLetter.origin ∧
      Extends ⟨[65], definitionRoot 1 [classNamed 0]⟩
        ⟨[65, 66], definitionRoot 1 [classNamed 0, name]⟩ [name] ∧
      (outline (.fixed true (definitionRoot 1 [classNamed 0])) (.standard "class@anonymous")
        oneLetter .classLike).result = .ok [bareClass "A" "A" none] ∧
      (outline (.fixed true (definitionRoot 1 [classNamed 0, name])) (.standard "class@anonymous")
        twoLetters .classLike).result = .ok [bareClass "B\\A" "A" (some "B")] ∧
      ¬ [bareClass "A" "A" none] <+: [bareClass "B\\A" "A" (some "B")] := by
  refine ⟨Frontend.read_fixed rfl fun _ => by decide, Frontend.read_fixed rfl fun _ => by decide,
    rfl, ⟨⟨[66], rfl⟩, rfl, rfl, by decide⟩, ?_, ?_, by decide⟩
  · decide +kernel
  · decide +kernel

end PhpOutline
