import PhpOutline.Declaration.Conversion
import PhpOutline.Search

namespace PhpOutline

open PhpOutline.Syntax
open PhpOutline.Text (Bytes)

/-- Why a node is not converted: the converter at an address among nested parts does not
take its kind, or the conversion itself fails. -/
inductive Rejection (ε : Type) where
  | refused (address : List Nat) (failure : Failure)
  | failed (failure : ε)
deriving DecidableEq, Repr

def Rejection.cause : Rejection Failure → Failure
  | .refused _ failure => failure
  | .failed failure => failure

/-- What a dispatcher sees of a part. -/
structure Handler (σ ε α : Type) where
  kinds : List Kind
  convert : Conversion σ (Rejection ε) α

/-- A converter that is no dispatcher.  It may check the kind of a node before it converts
it. -/
structure Leaf (σ ε α : Type) where
  title : String
  kinds : List Kind
  checks : Bool
  body : Conversion σ ε α

namespace Leaf

variable {σ ε α : Type}

def run (leaf : Leaf σ ε α) : Conversion σ (Rejection ε) α :=
  fun location state =>
    let (outcome, next) := leaf.body location state
    (outcome.mapError .failed, next)

def handler (content : Bytes) (address : List Nat) (leaf : Leaf σ ε α) : Handler σ ε α where
  kinds := leaf.kinds
  convert := fun location state =>
    let kind := location.kind content
    if leaf.checks && !leaf.kinds.contains kind then
      (.error (.refused address (location.obstruct content (.unsupported leaf.title kind))), state)
    else leaf.run location state

@[simp] theorem kinds_handler (content : Bytes) (address : List Nat) (leaf : Leaf σ ε α) :
    (leaf.handler content address).kinds = leaf.kinds := rfl

end Leaf

/-- Conversions by the kinds that they are for. -/
abbrev DispatchTable (σ ε α : Type) := List (Kind × Conversion σ (Rejection ε) α)

namespace Handler

variable {σ ε α : Type}

/-- Notes the conversion for a kind that has none yet. -/
def noteKind (convert : Conversion σ (Rejection ε) α) (table : DispatchTable σ ε α)
    (kind : Kind) : DispatchTable σ ε α :=
  if (table.lookup kind).isSome then table else table ++ [(kind, convert)]

def note (table : DispatchTable σ ε α) (handler : Handler σ ε α) : DispatchTable σ ε α :=
  handler.kinds.foldl (noteKind handler.convert) table

/-- The failure of a dispatcher none of whose parts takes the kind. -/
def refusal (content : Bytes) (location : Location) : Failure :=
  (Converter.dispatch []).refuse content location

/-- A dispatcher among parts that are made already. -/
def ofParts (content : Bytes) (address : List Nat) (parts : List (Handler σ ε α)) :
    Handler σ ε α :=
  let table := parts.foldl note []
  { kinds := table.map Prod.fst
    convert := fun location state =>
      let kind := location.kind content
      match table.lookup kind with
      | some convert => convert location state
      | none => (.error (.refused address (refusal content location)), state) }

end Handler

/-- Leaves, and dispatchers among dispatchers and leaves. -/
inductive Dispatcher (σ ε α : Type) where
  | single (leaf : Leaf σ ε α)
  | dispatch (parts : List (Dispatcher σ ε α))

namespace Dispatcher

variable {σ ε α : Type}

mutual

def leaves : Dispatcher σ ε α → List (Leaf σ ε α)
  | .single leaf => [leaf]
  | .dispatch parts => leavesAll parts

def leavesAll : List (Dispatcher σ ε α) → List (Leaf σ ε α)
  | [] => []
  | part :: rest => part.leaves ++ leavesAll rest

end

mutual

/-- Makes a converter and all of its parts; the address tells which part of which part it
is. -/
def handler (content : Bytes) (address : List Nat) : Dispatcher σ ε α → Handler σ ε α
  | .single leaf => leaf.handler content address
  | .dispatch parts => .ofParts content address (handlers content address 0 parts)

def handlers (content : Bytes) (address : List Nat) (number : Nat) :
    List (Dispatcher σ ε α) → List (Handler σ ε α)
  | [] => []
  | part :: rest =>
      part.handler content (address ++ [number]) :: handlers content address (number + 1) rest

end

end Dispatcher

namespace Converter

/-- A basic converter checks the kind of a node, and remembers nothing. -/
def asLeaf (converter : Converter) (entry : Location → Except Failure Entry) :
    Leaf Unit Failure Entry where
  title := converter.title
  kinds := Kind.all.filter fun kind => converter.takes kind
  checks := true
  body := fun location state => (entry location, state)

variable (content : Bytes) (origin : Option String)

mutual

/-- The converters of entries among all dispatchers. -/
def asDispatcher : Converter → Dispatcher Unit Failure Entry
  | .classLike anonymousPrefix =>
      .single <| (classLike anonymousPrefix).asLeaf fun location =>
        (location.classEntry content origin anonymousPrefix (location.kind content)).map .classLike
  | .function =>
      .single <| function.asLeaf fun location =>
        (location.functionEntry content origin).map .function
  | .constant =>
      .single <| constant.asLeaf fun location =>
        (location.constantEntry content origin (location.kind content)).map .constant
  | .dispatch parts => .dispatch (asDispatchers parts)

def asDispatchers : List Converter → List (Dispatcher Unit Failure Entry)
  | [] => []
  | part :: rest => part.asDispatcher :: asDispatchers rest

end

end Converter

end PhpOutline
