import PhpOutline.Proofs.Declaration.Sources

namespace PhpOutline

open PhpOutline.Syntax
open PhpOutline.Text (Bytes)

section Collect

variable {read : α → Except Failure (Option β)} {items others : List α} {found : List β}

theorem collect_ok_iff :
    collect read items = .ok found ↔
      (∀ item ∈ items, ∃ result, read item = .ok result) ∧
        items.flatMap (fun item => (read item).toOption.join.toList) = found := by
  induction items generalizing found with
  | nil => simp [collect]
  | cons item rest inductionHypothesis =>
      cases first : read item with
      | error failure => simp [collect, first]
      | ok result =>
          cases later : collect read rest with
          | error failure =>
              have unreadable : ¬ ∀ other ∈ rest, ∃ result, read other = .ok result := by
                intro each
                have done := inductionHypothesis.mpr ⟨each, rfl⟩
                rw [later] at done
                cases done
              simp [collect, first, later, unreadable]
          | ok others =>
              obtain ⟨each, same⟩ := inductionHypothesis.mp later
              have head : (read item).toOption.join.toList = result.toList := by rw [first]; rfl
              rw [List.flatMap_cons, head, same]
              simp only [collect, first, later, Except.ok.injEq]
              exact (and_iff_right (List.forall_mem_cons.mpr ⟨⟨result, first⟩, each⟩)).symm

theorem collect_perm (perm : items.Perm others) (done : collect read items = .ok found) :
    ∃ result, collect read others = .ok result ∧ found.Perm result := by
  obtain ⟨each, rfl⟩ := collect_ok_iff.mp done
  refine ⟨_, collect_ok_iff.mpr ⟨fun item member => each item (perm.mem_iff.mpr member), rfl⟩, ?_⟩
  exact perm.flatMap_right _

theorem collect_flatMap {owners : List γ} {entries : List δ} {items : γ → List α}
    {found : δ → List β}
    (each : List.Forall₂ (fun owner entry => collect read (items owner) = .ok (found entry))
      owners entries) :
    collect read (owners.flatMap items) = .ok (entries.flatMap found) := by
  induction each with
  | nil => rfl
  | cons first _ inductionHypothesis =>
      obtain ⟨eachFirst, sameFirst⟩ := collect_ok_iff.mp first
      obtain ⟨eachLater, sameLater⟩ := collect_ok_iff.mp inductionHypothesis
      rw [List.flatMap_cons, List.flatMap_cons]
      apply collect_ok_iff.mpr
      constructor
      · intro item member
        rcases List.mem_append.mp member with isFirst | isLater
        · exact eachFirst item isFirst
        · exact eachLater item isLater
      · rw [List.flatMap_append, sameFirst, sameLater]

end Collect

namespace Syntax.Location

variable {content : Bytes} {origin : Option String} {anonymousPrefix : String} {kind : Kind}
  {node : Location}

theorem kind_eq_method_iff : node.kind content = .method ↔ node.type = "method_declaration" := by
  constructor
  · intro method
    rcases kind_cases content node with found | ⟨_, found⟩ | found | found | found
    · exact (kindOfType?_some found).1 method
    · rw [method] at found
      split at found <;> cases found
    all_goals simp [method] at found
  · intro type
    unfold kind
    rw [type]
    rfl

theorem kind_of_element (element : node.type = "const_element") :
    node.kind content = if node.isInClassBody then .classConstant else .constant := by
  unfold kind
  rw [element]
  rfl

theorem isInClassBody_eq {declaration : Location} (isParent : node.parent? = some declaration) :
    node.isInClassBody = declaration.parent?.any fun owner => isClassBodyType owner.type := by
  unfold isInClassBody
  rw [isParent, Option.bind_some]
  cases declaration.parent? <;> rfl

theorem mem_children_of_body? {body : Location} (found : node.body? = some body) :
    body ∈ node.children := by
  unfold body? at found
  split at found
  · rename_i field
    cases found
    exact mem_children_of_childByField? field
  · exact mem_children_of_mem_namedChildren (List.mem_of_find?_eq_some found)

/-- The methods that a class lists. -/
def listedMethods (owner : Location) : List Location :=
  owner.body?.toList.flatMap fun body =>
    body.namedChildren.filter (·.type == "method_declaration")

/-- The const elements that a class lists. -/
def listedElements (owner : Location) : List Location :=
  owner.body?.toList.flatMap fun body =>
    (body.namedChildren.filter (·.type == "const_declaration")).flatMap fun declaration =>
      declaration.namedChildren.filter (·.type == "const_element")

theorem classEntry_members {entry : ClassEntry}
    (done : node.classEntry content origin anonymousPrefix kind = .ok entry) :
    collect (declaredName content) node.listedMethods = .ok entry.methodNames ∧
      collect (elementName content) node.listedElements = .ok entry.constantNames := by
  have members := (classEntry_reads done).members
  unfold listedMethods listedElements
  cases found : node.body? with
  | none =>
      rw [found] at members
      rw [members.1, members.2]
      exact ⟨rfl, rfl⟩
  | some body =>
      rw [found] at members
      obtain ⟨methodsRead, constantsRead⟩ := members
      rw [Location.constantNames, List.filter_flatMap] at constantsRead
      rw [Option.toList_some, List.flatMap_singleton, List.flatMap_singleton]
      exact ⟨methodsRead, constantsRead⟩

/-- The entry is that of a const element. -/
structure RecordsElement (content : Bytes) (node : Location) (entry : ConstantEntry) : Prop where
  name : node.elementName content = .ok (some entry.heading.shortName)
  value : node.elementValue content = .ok entry.valueSource
  place : ∃ outer, node.enclosingNamespace content = .ok outer ∧
    entry.heading.namespaceName = nonEmpty (outer.getD "")
  startLine : entry.heading.startLine = node.startLine content
  endLine : entry.heading.endLine = node.endLine content

theorem constantEntry_recordsElement {entry : ConstantEntry} (element : kind ≠ .define)
    (done : node.constantEntry content origin kind = .ok entry) :
    RecordsElement content node entry := by
  have reads := constantEntry_reads done
  obtain ⟨outer, partsRead, namespaceName⟩ := reads.parts
  rw [if_neg element] at partsRead
  obtain ⟨name, found, nameRead, enclosing, valueRead, shortName, sameOuter, _⟩ :=
    elementParts_reads partsRead
  dsimp only at shortName sameOuter
  rw [sameOuter] at namespaceName
  -- An element without a name has the empty one, and is refused.
  cases name with
  | none =>
      have named := reads.named
      rw [shortName] at named
      cases named
  | some written =>
      rw [Option.getD_some] at shortName
      rw [← shortName] at nameRead
      exact ⟨nameRead, valueRead, ⟨found, enclosing, namespaceName⟩, reads.startLine, reads.endLine⟩

end Syntax.Location

end PhpOutline
