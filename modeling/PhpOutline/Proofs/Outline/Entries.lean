import PhpOutline.Outline
import PhpOutline.Proofs.Declaration.Sources
import PhpOutline.Proofs.Reading
import PhpOutline.Proofs.Search

namespace PhpOutline

open PhpOutline.Syntax
open PhpOutline.Syntax.Location (Within)
open PhpOutline.Text (Bytes CodePoint)

section Lists

variable {f : α → Except ε β} {items : List α}

theorem mapM_cons_eq (f : α → Except ε β) (item : α) (rest : List α) :
    (item :: rest).mapM f =
      match f item with
      | .error failure => .error failure
      | .ok result =>
          match rest.mapM f with
          | .error failure => .error failure
          | .ok results => .ok (result :: results) := by
  rw [List.mapM_cons]
  cases f item with
  | error failure => rfl
  | ok result => cases rest.mapM f <;> rfl

theorem mapM_ok_iff {results : List β} :
    items.mapM f = .ok results ↔
      List.Forall₂ (fun item result => f item = .ok result) items results := by
  induction items generalizing results with
  | nil =>
      rw [List.mapM_nil, List.forall₂_nil_left_iff]
      exact ⟨fun done => (Except.ok.inj done).symm, fun same => same ▸ rfl⟩
  | cons item rest inductionHypothesis =>
      rw [mapM_cons_eq, List.forall₂_cons_left_iff]
      cases first : f item with
      | error failure => simp
      | ok result =>
          cases later : rest.mapM f with
          | error failure => simp [← inductionHypothesis, later]
          | ok others => simp [← inductionHypothesis, later, eq_comm]

theorem mapM_members {results : List β} (done : items.mapM f = .ok results) :
    (∀ item ∈ items, ∃ result ∈ results, f item = .ok result) ∧
      ∀ result ∈ results, ∃ item ∈ items, f item = .ok result := by
  have each := mapM_ok_iff.mp done
  exact ⟨fun _ => exists_of_mem_left each, fun _ => exists_of_mem_right each⟩

theorem mapM_ok_of_forall (each : ∀ item ∈ items, ∃ result, f item = .ok result) :
    ∃ results, items.mapM f = .ok results := by
  induction items with
  | nil => exact ⟨[], rfl⟩
  | cons item rest inductionHypothesis =>
      obtain ⟨result, first⟩ := each item List.mem_cons_self
      obtain ⟨results, later⟩ := inductionHypothesis fun other member =>
        each other (List.mem_cons_of_mem item member)
      exact ⟨result :: results, by simp only [mapM_cons_eq, first, later]⟩

theorem mapM_append_error {before rest : List α} {results : List β} {item : α} {failure : ε}
    (done : before.mapM f = .ok results) (failed : f item = .error failure) :
    (before ++ item :: rest).mapM f = .error failure := by
  rw [List.mapM_append, done]
  simp only [bind, Except.bind, mapM_cons_eq, failed]

/-- The first item without a result gives the failure, whatever comes after. -/
theorem mapM_error_iff {failure : ε} :
    items.mapM f = .error failure ↔
      ∃ before item rest, items = before ++ item :: rest ∧
        (∀ earlier ∈ before, ∃ result, f earlier = .ok result) ∧ f item = .error failure := by
  constructor
  · intro failed
    induction items with
    | nil => cases failed
    | cons item rest inductionHypothesis =>
        rw [mapM_cons_eq] at failed
        cases first : f item with
        | error other =>
            simp only [first, Except.error.injEq] at failed
            subst other
            exact ⟨[], item, rest, rfl, by simp, first⟩
        | ok result =>
            cases later : rest.mapM f with
            | ok others => simp [first, later] at failed
            | error other =>
                simp only [first, later, Except.error.injEq] at failed
                subst other
                obtain ⟨before, failing, after, split, earlier, fails⟩ :=
                  inductionHypothesis later
                subst rest
                refine ⟨item :: before, failing, after, rfl, ?_, fails⟩
                intro other member
                rcases List.mem_cons.mp member with same | inRest
                · subst other
                  exact ⟨result, first⟩
                · exact earlier other inRest
  · rintro ⟨before, item, rest, rfl, earlier, failed⟩
    obtain ⟨results, done⟩ := mapM_ok_of_forall earlier
    exact mapM_append_error done failed

/-- Where a test decides which items have results, the first item that fails it
gives its failure. -/
theorem mapM_of_decided {accepts : α → Bool} {refusal : α → ε}
    (decided : ∀ item ∈ items, if accepts item then ∃ result, f item = .ok result
      else f item = .error (refusal item)) :
    ((∃ results, items.mapM f = .ok results) ↔ ∀ item ∈ items, accepts item = true) ∧
      ∀ failure, items.mapM f = .error failure ↔
        ∃ before item rest, items = before ++ item :: rest ∧
          (∀ earlier ∈ before, accepts earlier = true) ∧ accepts item = false ∧
          failure = refusal item := by
  have accepted : ∀ item ∈ items, (∃ result, f item = .ok result) ↔ accepts item = true := by
    intro item member
    have outcome := decided item member
    split at outcome
    · rename_i accepting
      exact iff_of_true outcome accepting
    · rename_i refusing
      rw [outcome]
      exact iff_of_false nofun refusing
  have refused : ∀ item ∈ items, ∀ failure,
      f item = .error failure ↔ accepts item = false ∧ failure = refusal item := by
    intro item member failure
    have outcome := decided item member
    split at outcome
    · rename_i accepting
      obtain ⟨result, given⟩ := outcome
      rw [given, accepting]
      exact iff_of_false nofun nofun
    · rename_i refusing
      rw [outcome, Except.error.injEq, eq_comm]
      exact (and_iff_right (Bool.not_eq_true _ ▸ refusing)).symm
  constructor
  · constructor
    · rintro ⟨results, done⟩ item member
      obtain ⟨result, _, given⟩ := (mapM_members done).1 item member
      exact (accepted item member).mp ⟨result, given⟩
    · intro accepting
      exact mapM_ok_of_forall fun item member => (accepted item member).mpr (accepting item member)
  · intro failure
    rw [mapM_error_iff]
    constructor
    · rintro ⟨before, item, rest, rfl, earlier, failed⟩
      refine ⟨before, item, rest, rfl, ?_, (refused item (by simp) failure).mp failed⟩
      intro other member
      exact (accepted other (List.mem_append_left _ member)).mp (earlier other member)
    · rintro ⟨before, item, rest, rfl, earlier, refusing⟩
      refine ⟨before, item, rest, rfl, ?_, (refused item (by simp) failure).mpr refusing⟩
      intro other member
      exact (accepted other (List.mem_append_left _ member)).mpr (earlier other member)

/-- Traversals whose steps agree fail alike, or give results that are related place by
place; the relation may depend on the items.  What excuses a step excuses the traversal. -/
theorem mapM_agreeUnless_at {excuse : Prop} {g : γ → Except ε δ} {R : α → γ → β → δ → Prop}
    {others : List γ}
    (each : List.Forall₂ (fun item other => AgreeUnless excuse (R item other) (f item) (g other))
      items others) :
    AgreeUnless excuse (fun results found => results.length = items.length ∧
        found.length = others.length ∧ items.length = others.length ∧
        ∀ (number : Nat) item other result image, items[number]? = some item →
          others[number]? = some other → results[number]? = some result →
          found[number]? = some image → R item other result image)
      (items.mapM f) (others.mapM g) := by
  induction each with
  | nil => exact .agree (.ok ⟨rfl, rfl, rfl, by simp⟩)
  | cons first _ inductionHypothesis =>
      rw [List.mapM_cons, List.mapM_cons]
      apply first.bind
      intro result image related
      apply inductionHypothesis.bind
      rintro results found ⟨ofItems, ofOthers, sameLength, places⟩
      refine .agree (.ok ⟨by simp [ofItems], by simp [ofOthers], by simp [sameLength], ?_⟩)
      intro number one another result image atOne atAnother atResult atImage
      cases number with
      | zero =>
          cases atOne
          cases atAnother
          cases atResult
          cases atImage
          exact related
      | succ number => exact places number _ _ _ _ atOne atAnother atResult atImage

theorem mapM_agree_at {g : γ → Except ε δ} {R : γ → β → δ → Prop} {others : List γ}
    (each : List.Forall₂ (fun item other => Agree (R other) (f item) (g other)) items others) :
    Agree (fun results found => results.length = found.length ∧ found.length = others.length ∧
        ∀ (number : Nat) result other node, results[number]? = some result →
          found[number]? = some other → others[number]? = some node → R node result other)
      (items.mapM f) (others.mapM g) := by
  have unexcused : List.Forall₂ (fun item other => AgreeUnless False (R other) (f item) (g other))
      items others := each.imp fun _ _ => .agree
  have agree := mapM_agreeUnless_at (R := fun _ => R) unexcused
  apply agree.without_excuse.imp
  rintro results found ⟨ofItems, ofOthers, sameLength, places⟩
  refine ⟨by omega, ofOthers, ?_⟩
  intro number result image other atResult atImage atOther
  have inItems : number < items.length := by
    have inResults := (List.getElem?_eq_some_iff.mp atResult).1
    omega
  exact places number _ _ _ _ (List.getElem?_eq_getElem inItems) atOther atResult atImage

theorem mapM_agree {g : γ → Except ε δ} {R : β → δ → Prop} {others : List γ}
    (each : List.Forall₂ (fun item other => Agree R (f item) (g other)) items others) :
    Agree (List.Forall₂ R) (items.mapM f) (others.mapM g) := by
  apply (mapM_agree_at each).imp
  rintro results found ⟨sameLength, count, places⟩
  apply List.forall₂_iff_get.mpr
  refine ⟨sameLength, fun number inResults inFound => ?_⟩
  have inOthers : number < others.length := count ▸ inFound
  exact places number _ _ _ (List.getElem?_eq_getElem inResults)
    (List.getElem?_eq_getElem inFound) (List.getElem?_eq_getElem inOthers)

end Lists

variable {converter : Converter} {content : Bytes} {origin : Option (List CodePoint)}

theorem Conversion.Succeeds.mapM {nodes : List Location} {entries : List Entry}
    {before after : Unit}
    (succeeds : (converter.conversion origin content).Succeeds nodes before entries after) :
    nodes.mapM (converter.record content origin) = .ok entries := by
  induction succeeds with
  | nil => rfl
  | cons first _ inductionHypothesis =>
      have first := congrArg Prod.fst first
      dsimp only [Converter.conversion] at first
      rw [mapM_cons_eq, first, inductionHypothesis]

theorem search_result_eq_mapM (category : Category) (statements : List Location) :
    (search (converter.conversion origin content) content origin category statements ()).1.result =
      (declarations content category statements).mapM (converter.record content origin) := by
  rcases (converter.conversion origin content).succeeds_or_fails
      (declarations content category statements) () with
    ⟨entries, final, succeeds⟩ |
    ⟨before, node, rest, entries, middle, failure, final, split, succeeds, failed⟩
  · rw [search_of_succeeds succeeds, succeeds.mapM]
  · have refused := congrArg Prod.fst failed
    dsimp only [Converter.conversion] at refused
    rw [search_of_failure split succeeds failed, split, mapM_append_error succeeds.mapM refused]

theorem outline_result_eq_mapM {frontend : Frontend} {document : Document} {reading : Reading}
    (category : Category) (read : (frontend.read document).result = .ok reading) :
    (outline frontend converter document category).result =
      (declarations reading.content category reading.statements).mapM
        (converter.record reading.content document.origin) := by
  rw [← search_result_eq_mapM]
  unfold outline Frontend.searchWith
  cases outcome : frontend.read document with
  | mk result log =>
      rw [outcome] at read
      dsimp only at read
      subst result
      rfl

/-- A document that cannot be read has no outline, for the same reason. -/
theorem outline_result_eq_bind (frontend : Frontend) (document : Document) (category : Category) :
    (outline frontend converter document category).result =
      (frontend.read document).result >>= fun reading =>
        (declarations reading.content category reading.statements).mapM
          (converter.record reading.content document.origin) := by
  cases read : (frontend.read document).result with
  | ok reading => exact outline_result_eq_mapM category read
  | error failure =>
      unfold outline Frontend.searchWith
      cases outcome : frontend.read document with
      | mk result log =>
          rw [outcome] at read
          dsimp only at read
          subst result
          rfl

/-- A lookup picks from what the search with the same conversion finds. -/
theorem Frontend.lookupWith_result [HasErrors ε] {frontend : Frontend}
    {conversion : Bytes → Conversion σ ε Entry}
    {failed : Failure → ε} {document : Document} {query : Query} {state : σ} :
    (frontend.lookupWith conversion failed document query state).1.result =
      ((frontend.searchWith conversion failed document query.category state).1.result >>=
        fun entries =>
          match entries.find? fun entry => query.matchesName entry.name with
          | some entry => .ok entry
          | none => .error (failed (.notFound query.category query.name document.origin))) := by
  unfold lookupWith
  rcases frontend.searchWith conversion failed document query.category state with
    ⟨⟨failure | entries, log⟩, final⟩
  · rfl
  · dsimp only [bind, Except.bind]
    cases entries.find? fun entry => query.matchesName entry.name <;> rfl

theorem lookup_ok_iff {frontend : Frontend} {document : Document} {query : Query}
    {entry : Entry} :
    (lookup frontend converter document query).result = .ok entry ↔
      ∃ entries, (outline frontend converter document query.category).result = .ok entries ∧
        entries.find? (fun entry => query.matchesName entry.name) = some entry := by
  rw [lookup, Frontend.lookupWith_result, bind_eq_ok_iff]
  apply exists_congr
  intro entries
  apply and_congr Iff.rfl
  cases entries.find? fun entry => query.matchesName entry.name <;> simp

/-- A document of some characters that comes from nowhere. -/
def Document.ofChars (first : Char) (rest : List Char) : Document :=
  ⟨.scalar first :: rest.map .scalar, none, List.cons_ne_nil _ _⟩

/-- The frontend that reads every text as one tree. -/
def Frontend.fixed (strict : Bool) (tree : Tree) : Frontend :=
  ⟨strict, fun _ => tree⟩

theorem Frontend.read_fixed {strict : Bool} {tree : Tree} {document : Document}
    (encoded : Text.encode document.text = .ok content)
    (faultless : strict = true → tree.hasFault = false) :
    ((fixed strict tree).read document).result = .ok ⟨content, tree⟩ := by
  have passes : Reading.ofText strict (fun _ => tree) document.text = .ok ⟨content, tree⟩ := by
    cases strict with
    | false => exact Reading.ofText_lenient _ encoded
    | true => exact (Reading.ofText_strict_eq_ok_iff encoded).mpr (faultless rfl)
  simp only [read, fixed, passes]

theorem Frontend.read_surrogates {frontend : Frontend} {document : Document}
    {run : Text.SurrogateRun} (unreadable : Text.encode document.text = .error run) :
    (frontend.read document).result = .error (.reading (.surrogates run)) := by
  simp only [read, Reading.ofText_surrogates _ _ unreadable]

theorem Frontend.read_faulty {tree : Tree} {document : Document}
    (encoded : Text.encode document.text = .ok content) (faulty : tree.hasFault = true) :
    ((fixed true tree).read document).result =
      .error (.reading (.faulty (Reading.faultPosition? ⟨content, tree⟩))) := by
  have refused : Reading.ofText true (fun _ => tree) document.text =
      .error (.faulty (Reading.faultPosition? ⟨content, tree⟩)) :=
    (Reading.ofText_strict_eq_error_iff encoded).mpr ⟨faulty, rfl⟩
  simp only [read, fixed, refused]

theorem within_of_mem_declarations (reading : Reading) {category : Category} {node : Location}
    (member : node ∈ declarations reading.content category reading.statements) :
    Within reading.root node ∧ category.admits (node.kind reading.content) = true := by
  obtain ⟨below, admitted⟩ := List.mem_filter.mp member
  obtain ⟨statement, isStatement, inside⟩ := List.mem_flatMap.mp below
  have top : Within reading.root statement := Within.root.namedChild isStatement
  exact ⟨(Location.mem_subtree_iff_reached.mp inside).within top, admitted⟩

end PhpOutline
