import PhpOutline.Declaration.Dispatch

namespace PhpOutline

open PhpOutline.Syntax
open PhpOutline.Text (Bytes)

section First

variable {kindsOf : α → List Kind} {kind : Kind} {parts : List α} {part : α}

/-- The first of some parts that takes the kind. -/
def firstTaking (kindsOf : α → List Kind) (kind : Kind) (parts : List α) : Option α :=
  parts.find? fun part => (kindsOf part).contains kind

theorem firstTaking_cons :
    firstTaking kindsOf kind (part :: parts) =
      if kind ∈ kindsOf part then some part else firstTaking kindsOf kind parts := by
  rw [firstTaking, List.find?_cons]
  by_cases takes : kind ∈ kindsOf part
  · simp [takes]
  · simp [takes, firstTaking]

theorem firstTaking_append (left right : List α) :
    firstTaking kindsOf kind (left ++ right) =
      (firstTaking kindsOf kind left).or (firstTaking kindsOf kind right) :=
  List.find?_append

theorem takes_of_firstTaking (found : firstTaking kindsOf kind parts = some part) :
    part ∈ parts ∧ kind ∈ kindsOf part := by
  have takes := List.find?_some found
  exact ⟨List.mem_of_find?_eq_some found, List.contains_iff_mem.mp takes⟩

theorem firstTaking_eq_none_iff :
    firstTaking kindsOf kind parts = none ↔ ∀ part ∈ parts, kind ∉ kindsOf part := by
  simp [firstTaking]

end First

variable {σ ε α : Type} {content : Bytes}

namespace Handler

variable {convert : Conversion σ (Rejection ε) α} {table : DispatchTable σ ε α} {kind : Kind}

theorem lookup_noteKind (noted : Kind) :
    (noteKind convert table noted).lookup kind =
      (table.lookup kind).or (if kind = noted then some convert else none) := by
  unfold noteKind
  by_cases same : kind = noted
  · subst noted
    cases found : table.lookup kind with
    | none => simp [found, List.lookup_append]
    | some _ => simp [found]
  · have different : (kind == noted) = false := beq_false_of_ne same
    rw [if_neg same, Option.or_none]
    split
    · rfl
    · simp [List.lookup_append, List.lookup_cons, different]

theorem lookup_foldl_noteKind (kinds : List Kind) :
    (kinds.foldl (noteKind convert) table).lookup kind =
      (table.lookup kind).or (if kind ∈ kinds then some convert else none) := by
  induction kinds generalizing table with
  | nil => simp
  | cons first rest inductionHypothesis =>
      rw [List.foldl_cons, inductionHypothesis, lookup_noteKind, Option.or_assoc]
      by_cases same : kind = first
      · simp [same]
      · simp [same]

/-- The table leads to the first part that takes the kind. -/
theorem lookup_foldl_note (parts : List (Handler σ ε α)) :
    (parts.foldl note table).lookup kind =
      (table.lookup kind).or ((firstTaking Handler.kinds kind parts).map Handler.convert) := by
  induction parts generalizing table with
  | nil => simp [firstTaking]
  | cons part rest inductionHypothesis =>
      rw [List.foldl_cons, inductionHypothesis, note, lookup_foldl_noteKind, Option.or_assoc,
        firstTaking_cons]
      by_cases takes : kind ∈ part.kinds
      · simp [takes]
      · simp [takes]

theorem mem_keys_iff : kind ∈ table.map Prod.fst ↔ (table.lookup kind).isSome = true := by
  induction table with
  | nil => simp
  | cons row rest inductionHypothesis =>
      obtain ⟨noted, convert⟩ := row
      by_cases same : kind = noted
      · simp [same]
      · have different : (kind == noted) = false := beq_false_of_ne same
        simp only [List.map_cons, List.mem_cons, same, false_or, inductionHypothesis,
          List.lookup_cons, different]

theorem mem_kinds_ofParts {address : List Nat} {parts : List (Handler σ ε α)} :
    kind ∈ (ofParts content address parts).kinds ↔ ∃ part ∈ parts, kind ∈ part.kinds := by
  have keys : kind ∈ (ofParts content address parts).kinds ↔
      ((parts.foldl note []).lookup kind).isSome = true := mem_keys_iff
  rw [keys, lookup_foldl_note]
  simp [firstTaking, List.find?_isSome]

theorem convert_ofParts (address : List Nat) (parts : List (Handler σ ε α))
    (location : Location) (state : σ) :
    (ofParts content address parts).convert location state =
      match firstTaking Handler.kinds (location.kind content) parts with
      | some part => part.convert location state
      | none => (.error (.refused address (Handler.refusal content location)), state) := by
  unfold ofParts
  dsimp only
  rw [lookup_foldl_note, List.lookup_nil, Option.none_or]
  cases firstTaking Handler.kinds (location.kind content) parts <;> rfl

end Handler

namespace Dispatcher

/-- A leaf that takes the kind does not refuse the node, whether it checks it or not. -/
theorem convert_leafHandler {leaf : Leaf σ ε α} {address : List Nat} {location : Location}
    (takes : location.kind content ∈ leaf.kinds) :
    (leaf.handler content address).convert location = leaf.run location := by
  have contains : leaf.kinds.contains (location.kind content) = true :=
    List.contains_iff_mem.mpr takes
  funext state
  simp only [Leaf.handler, contains, Bool.not_true, Bool.and_false, Bool.false_eq_true, if_false]

theorem convert_leafHandler_refused {leaf : Leaf σ ε α} {address : List Nat} {location : Location}
    {state : σ} (checks : leaf.checks = true) (other : location.kind content ∉ leaf.kinds) :
    (leaf.handler content address).convert location state =
      (.error (.refused address
        (location.obstruct content (.unsupported leaf.title (location.kind content)))), state) := by
  have contains : leaf.kinds.contains (location.kind content) = false :=
    Bool.eq_false_iff.mpr fun contains => other (List.contains_iff_mem.mp contains)
  simp only [Leaf.handler, checks, contains, Bool.not_false, Bool.and_self, if_true]

mutual

theorem mem_kinds_handler (dispatcher : Dispatcher σ ε α) (address : List Nat) (kind : Kind) :
    kind ∈ (dispatcher.handler content address).kinds ↔
      ∃ leaf ∈ dispatcher.leaves, kind ∈ leaf.kinds := by
  cases dispatcher with
  | single leaf => simp [handler, leaves]
  | dispatch parts =>
      rw [handler, Handler.mem_kinds_ofParts, leaves]
      exact mem_kinds_handlers parts address 0 kind

theorem mem_kinds_handlers (parts : List (Dispatcher σ ε α)) (address : List Nat) (number : Nat)
    (kind : Kind) :
    (∃ part ∈ handlers content address number parts, kind ∈ part.kinds) ↔
      ∃ leaf ∈ leavesAll parts, kind ∈ leaf.kinds := by
  cases parts with
  | nil => simp [handlers, leavesAll]
  | cons part rest =>
      have first := mem_kinds_handler part (address ++ [number]) kind
      have later := mem_kinds_handlers rest address (number + 1) kind
      simp only [handlers, leavesAll, List.mem_cons, List.mem_append, or_and_right, exists_or,
        exists_eq_left, first, later]

end

theorem mem_kinds_iff_firstTaking {dispatcher : Dispatcher σ ε α} {address : List Nat}
    {kind : Kind} :
    kind ∈ (dispatcher.handler content address).kinds ↔
      firstTaking Leaf.kinds kind dispatcher.leaves ≠ none := by
  rw [mem_kinds_handler, Ne, firstTaking_eq_none_iff]
  simp

mutual

theorem convert_handler (dispatcher : Dispatcher σ ε α) (address : List Nat)
    (location : Location) {leaf : Leaf σ ε α}
    (found : firstTaking Leaf.kinds (location.kind content) dispatcher.leaves = some leaf) :
    (dispatcher.handler content address).convert location = leaf.run location := by
  cases dispatcher with
  | single only =>
      obtain ⟨isOnly, takes⟩ := takes_of_firstTaking found
      cases List.mem_singleton.mp isOnly
      exact convert_leafHandler takes
  | dispatch parts =>
      obtain ⟨part, isFirst, same⟩ := firstTaking_handlers parts address 0 location found
      funext state
      rw [handler, Handler.convert_ofParts, isFirst]
      dsimp only
      rw [same]

theorem firstTaking_handlers (parts : List (Dispatcher σ ε α)) (address : List Nat)
    (number : Nat) (location : Location) {leaf : Leaf σ ε α}
    (found : firstTaking Leaf.kinds (location.kind content) (leavesAll parts) = some leaf) :
    ∃ part, firstTaking Handler.kinds (location.kind content)
        (handlers content address number parts) = some part ∧
      part.convert location = leaf.run location := by
  cases parts with
  | nil => cases found
  | cons part rest =>
      rw [leavesAll, firstTaking_append] at found
      rw [handlers, firstTaking_cons]
      -- The part takes the kind exactly if one of its leaves does.
      cases first : firstTaking Leaf.kinds (location.kind content) part.leaves with
      | some inside =>
          rw [first, Option.some_or] at found
          cases found
          rw [if_pos (mem_kinds_iff_firstTaking.mpr (by simp [first]))]
          exact ⟨_, rfl, convert_handler part (address ++ [number]) location first⟩
      | none =>
          rw [first, Option.none_or] at found
          rw [if_neg fun takes => mem_kinds_iff_firstTaking.mp takes first]
          exact firstTaking_handlers rest address (number + 1) location found

end

/-- A dispatcher gives the result of the first of all leaves that takes the kind. -/
theorem convert_dispatch (content : Bytes) (parts : List (Dispatcher σ ε α))
    (address : List Nat) (location : Location) (state : σ) :
    ((dispatch parts).handler content address).convert location state =
      match firstTaking Leaf.kinds (location.kind content) (dispatch parts).leaves with
      | some leaf => leaf.run location state
      | none => (.error (.refused address (Handler.refusal content location)), state) := by
  cases found : firstTaking Leaf.kinds (location.kind content) (dispatch parts).leaves with
  | some leaf => rw [convert_handler (dispatch parts) address location found]
  | none =>
      have refused : firstTaking Handler.kinds (location.kind content)
          (handlers content address 0 parts) = none := by
        rw [firstTaking_eq_none_iff] at found ⊢
        intro part member takes
        obtain ⟨leaf, isLeaf, isKind⟩ :=
          (mem_kinds_handlers parts address 0 _).mp ⟨part, member, takes⟩
        exact found leaf isLeaf isKind
      rw [handler, Handler.convert_ofParts, refused]

theorem leaves_map_single (flat : List (Leaf σ ε α)) :
    (dispatch (flat.map single)).leaves = flat := by
  rw [leaves]
  induction flat with
  | nil => rfl
  | cons leaf rest inductionHypothesis =>
      rw [List.map_cons, leavesAll, inductionHypothesis, leaves, List.singleton_append]

theorem run_ne_refused {leaf : Leaf σ ε α} {location : Location} {state : σ}
    {address : List Nat} {failure : Failure} :
    (leaf.run location state).1 ≠ .error (.refused address failure) := by
  change (leaf.body location state).1.mapError Rejection.failed ≠ _
  cases (leaf.body location state).1 with
  | error fault =>
      intro refused
      cases refused
  | ok result =>
      intro refused
      cases refused

/-- Only the outermost dispatcher refuses a node, and only if no leaf takes its kind. -/
theorem refused_iff (parts : List (Dispatcher σ ε α)) (location : Location) (state : σ)
    {address : List Nat} {failure : Failure} :
    (((dispatch parts).handler content []).convert location state).1 =
        .error (.refused address failure) ↔
      (∀ leaf ∈ (dispatch parts).leaves, location.kind content ∉ leaf.kinds) ∧ address = [] ∧
        failure = Handler.refusal content location := by
  rw [convert_dispatch, ← firstTaking_eq_none_iff]
  cases firstTaking Leaf.kinds (location.kind content) (dispatch parts).leaves with
  | some leaf => simp [run_ne_refused]
  | none => simp [eq_comm]

end Dispatcher

namespace Converter

variable {origin : Option String}

theorem mem_all (kind : Kind) : kind ∈ Kind.all := by
  cases kind <;> decide

theorem mem_kinds_asLeaf {converter : Converter} {entry : Location → Except Failure Entry}
    {kind : Kind} : kind ∈ (converter.asLeaf entry).kinds ↔ converter.takes kind = true := by
  rw [asLeaf, List.mem_filter]
  exact and_iff_right (mem_all kind)

theorem run_asLeaf {converter : Converter} {entry : Location → Except Failure Entry}
    {location : Location} :
    ((converter.asLeaf entry).run location ()).1.mapError Rejection.cause = entry location := by
  change ((entry location).mapError Rejection.failed).mapError Rejection.cause = entry location
  cases entry location <;> rfl

theorem convert_asLeaf {converter : Converter} {entry : Location → Except Failure Entry}
    {address : List Nat} {location : Location} :
    ((((converter.asLeaf entry).handler content address).convert location ()).1.mapError
        Rejection.cause) =
      if converter.takes (location.kind content) then entry location
      else .error (converter.refuse content location) := by
  by_cases takes : converter.takes (location.kind content) = true
  · rw [if_pos takes, Dispatcher.convert_leafHandler (mem_kinds_asLeaf.mpr takes), run_asLeaf]
  · rw [if_neg takes, Dispatcher.convert_leafHandler_refused rfl fun member =>
      takes (mem_kinds_asLeaf.mp member)]
    rfl

mutual

theorem mem_kinds_asDispatcher (converter : Converter) (address : List Nat) (kind : Kind) :
    kind ∈ ((converter.asDispatcher content origin).handler content address).kinds ↔
      converter.takes kind = true := by
  cases converter with
  | classLike _ | function | constant =>
      rw [asDispatcher, Dispatcher.handler, Leaf.kinds_handler, mem_kinds_asLeaf]
  | dispatch parts =>
      rw [asDispatcher, Dispatcher.handler, Handler.mem_kinds_ofParts, takes]
      exact mem_kinds_asDispatchers parts address 0 kind

theorem mem_kinds_asDispatchers (parts : List Converter) (address : List Nat) (number : Nat)
    (kind : Kind) :
    (∃ part ∈ Dispatcher.handlers content address number (asDispatchers content origin parts),
        kind ∈ part.kinds) ↔ anyTakes kind parts = true := by
  cases parts with
  | nil => simp [asDispatchers, Dispatcher.handlers, anyTakes]
  | cons part rest =>
      have first := mem_kinds_asDispatcher part (address ++ [number]) kind
      have later := mem_kinds_asDispatchers rest address (number + 1) kind
      simp only [asDispatchers, Dispatcher.handlers, anyTakes, List.mem_cons, or_and_right,
        exists_or, exists_eq_left, first, later, Bool.or_eq_true]

end

mutual

theorem convert_asDispatcher (converter : Converter) (address : List Nat)
    (location : Location) :
    ((((converter.asDispatcher content origin).handler content address).convert
        location ()).1.mapError Rejection.cause) = converter.convert content origin location := by
  cases converter with
  | classLike _ | function | constant =>
      rw [asDispatcher, Dispatcher.handler, convert_asLeaf, convert]
  | dispatch parts =>
      rw [asDispatcher, Dispatcher.handler, Handler.convert_ofParts, convert,
        ← firstTaking_asDispatchers parts address 0 location]
      cases firstTaking Handler.kinds (location.kind content)
        (Dispatcher.handlers content address 0 (asDispatchers content origin parts)) <;> rfl

theorem firstTaking_asDispatchers (parts : List Converter) (address : List Nat) (number : Nat)
    (location : Location) :
    ((firstTaking Handler.kinds (location.kind content)
        (Dispatcher.handlers content address number (asDispatchers content origin parts))).map
        fun part => (part.convert location ()).1.mapError Rejection.cause) =
      convertFirst content origin location parts := by
  cases parts with
  | nil => rfl
  | cons part rest =>
      have takes : location.kind content ∈
          ((part.asDispatcher content origin).handler content (address ++ [number])).kinds ↔
            part.takes (location.kind content) = true := mem_kinds_asDispatcher part _ _
      rw [asDispatchers, Dispatcher.handlers, firstTaking_cons, convertFirst]
      by_cases first : part.takes (location.kind content) = true
      · rw [if_pos (takes.mpr first), if_pos first, Option.map_some, convert_asDispatcher]
      · rw [if_neg fun member => first (takes.mp member), if_neg first,
          firstTaking_asDispatchers]

end

end Converter

/-- However dispatchers are nested, the outermost one takes the kinds of all leaves, and
does what a single dispatcher among the leaves does: it gives the result of the first leaf
that takes the kind, and refuses the node, itself and no part of it, exactly if no leaf
takes the kind.  The converters of entries are among these dispatchers. -/
theorem dispatch_flattens (content : Bytes) :
    (∀ parts : List (Dispatcher σ ε α),
      (∀ kind, kind ∈ ((Dispatcher.dispatch parts).handler content []).kinds ↔
        ∃ leaf ∈ (Dispatcher.dispatch parts).leaves, kind ∈ leaf.kinds) ∧
      ∀ location state,
        ((Dispatcher.dispatch parts).handler content []).convert location state =
          ((Dispatcher.dispatch ((Dispatcher.dispatch parts).leaves.map .single)).handler
            content []).convert location state ∧
        ((Dispatcher.dispatch parts).handler content []).convert location state =
          (match firstTaking Leaf.kinds (location.kind content)
              (Dispatcher.dispatch parts).leaves with
          | some leaf => leaf.run location state
          | none => (.error (.refused [] (Handler.refusal content location)), state)) ∧
        ∀ address failure,
          (((Dispatcher.dispatch parts).handler content []).convert location state).1 =
              .error (.refused address failure) ↔
            (∀ leaf ∈ (Dispatcher.dispatch parts).leaves,
              location.kind content ∉ leaf.kinds) ∧
            address = [] ∧ failure = Handler.refusal content location) ∧
    (∀ location, (Handler.refusal content location).report? =
      some (.unconvertible
        (.ofStrings
          ("DefaultNodeToReflection cannot convert " ++ (location.kind content).name ++ " nodes")
          (some ("node type " ++ Text.quoted location.type ++ " at line " ++
            toString (location.startLine content))))
        (some location.type) (some (location.startLine content)))) ∧
    ∀ (converter : Converter) (origin : Option String) (location : Location),
      (∀ kind, kind ∈ ((converter.asDispatcher content origin).handler content []).kinds ↔
        converter.takes kind = true) ∧
      (((converter.asDispatcher content origin).handler content []).convert
        location ()).1.mapError Rejection.cause = converter.convert content origin location := by
  refine ⟨?_, fun _ => rfl, ?_⟩
  · intro parts
    refine ⟨Dispatcher.mem_kinds_handler (.dispatch parts) [], ?_⟩
    intro location state
    have nested := Dispatcher.convert_dispatch content parts [] location state
    have flat := Dispatcher.convert_dispatch content
      ((Dispatcher.dispatch parts).leaves.map .single) [] location state
    rw [Dispatcher.leaves_map_single] at flat
    exact ⟨nested.trans flat.symm, nested,
      fun address failure => Dispatcher.refused_iff parts location state⟩
  · intro converter origin location
    exact ⟨converter.mem_kinds_asDispatcher [], converter.convert_asDispatcher [] location⟩

end PhpOutline
