import PhpOutline.Declaration.Kind
import PhpOutline.Validation

namespace PhpOutline

open PhpOutline.Text (Bytes CodePoint MalformedPart SurrogateRun)

structure Notice where
  short : List CodePoint
  details : Option (List CodePoint)
deriving DecidableEq, Repr

def Notice.ofStrings (short : String) (details : Option String) : Notice :=
  ⟨CodePoint.ofString short, details.map CodePoint.ofString⟩

/-- The short sentence, followed by the details if there are any. -/
def Notice.message (notice : Notice) : List CodePoint :=
  match notice.details with
  | none => notice.short
  | some details =>
      if details.isEmpty then notice.short
      else notice.short ++ CodePoint.ofString ": " ++ details

/-- A report with the facts that its sort of failure has besides the words. -/
inductive Report where
  | general (notice : Notice)
  | invalidDocument (notice : Notice)
  | unreadable (notice : Notice) (line column : Option Int)
  | unconvertible (notice : Notice) (nodeType : Option String) (line : Option Int)
  | notFound (notice : Notice) (name : String)
deriving DecidableEq, Repr

namespace Report

def notice : Report → Notice
  | .general notice => notice
  | .invalidDocument notice => notice
  | .unreadable notice _ _ => notice
  | .unconvertible notice _ _ => notice
  | .notFound notice _ => notice

def message (report : Report) : List CodePoint :=
  report.notice.message

/-- A bad document is also a bad value in general. -/
def isValueFault : Report → Bool
  | .invalidDocument _ => true
  | _ => false

end Report

/-- The sorts of reports, for callers that make one of their own. -/
inductive ReportSort where
  | general
  | invalidDocument
  | unreadable
  | unconvertible
  | notFound
deriving DecidableEq, Repr

namespace ReportSort

/-- The arguments that a report of the sort takes; those in the first list have
to be given. -/
def parameters : ReportSort → List String × List String
  | .general => (["message"], ["details"])
  | .invalidDocument => (["message"], ["details"])
  | .unreadable => (["message"], ["details", "line", "column"])
  | .unconvertible => (["message"], ["details", "node_type", "line"])
  | .notFound => (["message", "identifier_name"], ["details"])

/-- All that has to be given is given, and nothing else than the parameters. -/
def accepts (sort : ReportSort) (arguments : List (String × Value)) : Bool :=
  sort.parameters.1.all (fun name => arguments.any (·.1 == name)) &&
    arguments.all fun argument =>
      sort.parameters.1.contains argument.1 || sort.parameters.2.contains argument.1

end ReportSort

namespace Report

def argumentText? (arguments : List (String × Value)) (name : String) :
    Option (List CodePoint) :=
  match arguments.lookup name with
  | some (.text codePoints) => some codePoints
  | _ => none

def argumentString? (arguments : List (String × Value)) (name : String) : Option String :=
  (arguments.lookup name).bind Value.string?

def argumentInt? (arguments : List (String × Value)) (name : String) : Option Int :=
  match arguments.lookup name with
  | some (.int value) => some value
  | _ => none

/-- A report with a caller's own words, unless the arguments are not those that
a report of the sort takes. -/
def ofArguments? (sort : ReportSort) (arguments : List (String × Value)) : Option Report :=
  if sort.accepts arguments then
    let notice : Notice :=
      ⟨(argumentText? arguments "message").getD [], argumentText? arguments "details"⟩
    some <|
      match sort with
      | .general => .general notice
      | .invalidDocument => .invalidDocument notice
      | .unreadable =>
          .unreadable notice (argumentInt? arguments "line") (argumentInt? arguments "column")
      | .unconvertible =>
          .unconvertible notice (argumentString? arguments "node_type")
            (argumentInt? arguments "line")
      | .notFound =>
          .notFound notice ((argumentString? arguments "identifier_name").getD "")
  else none

end Report

/-- Why a text and an origin make no document. -/
inductive DocumentFault where
  | noText
  | badOrigin (typeName : String)
deriving DecidableEq, Repr

def DocumentFault.report : DocumentFault → Report
  | .noText => .invalidDocument (.ofStrings "Source code must be a non-empty string" none)
  | .badOrigin typeName =>
      .invalidDocument (.ofStrings "Origin must be a string or None" ("got " ++ typeName))

/-- Why a document gives no tree: surrogates, which have no bytes, or an error
in the tree, with its line and column where it shows. -/
inductive ReadingFault where
  | surrogates (run : SurrogateRun)
  | faulty (position : Option (Nat × Nat))
deriving DecidableEq, Repr

/-- The subjects of declarations that need a name. -/
inductive Subject where
  | classLike
  | function
  | constant
deriving DecidableEq, Repr

def Subject.title : Subject → String
  | .classLike => "Class-like"
  | .function => "Function"
  | .constant => "Constant"

/-- Why a node gives no entry, besides text that is none. -/
inductive Obstacle where
  | unsupported (converter : String) (kind : Kind)
  | nameless (subject : Subject)
deriving DecidableEq, Repr

/-- Why an operation on a document gives no result.  Bytes of a node that are no text come
with their first malformed part, a call with too few arguments with their number, and an
entry that cannot hold what it is given with the complaints about its fields. -/
inductive Failure where
  | document (fault : DocumentFault)
  | reading (fault : ReadingFault)
  | undecodable (bytes : Bytes) (part : MalformedPart)
  | missingArgument (given : Nat)
  | invalidEntry (complaints : List Complaint)
  | conversion (obstacle : Obstacle) (nodeType : String) (line : Nat)
  | notFound (category : Category) (name : String) (origin : Option (List CodePoint))
deriving DecidableEq, Repr

/-- An origin as messages show it; an empty one counts as none. -/
def originOrNone (origin : Option (List CodePoint)) : List CodePoint :=
  match origin with
  | none => CodePoint.ofString "<no file>"
  | some origin => if origin.isEmpty then CodePoint.ofString "<no file>" else origin

namespace ReadingFault

def surrogateDetails (run : SurrogateRun) : String :=
  if run.first = run.last then
    "'utf-8' codec can't encode character '" ++
      String.ofList (Text.numericEscape run.value) ++
      "' in position " ++ toString run.first ++ ": surrogates not allowed"
  else
    "'utf-8' codec can't encode characters in position " ++ toString run.first ++ "-" ++
      toString run.last ++ ": surrogates not allowed"

def positionDetails (position : Option (Nat × Nat)) : String :=
  let line := (position.map fun place => toString place.1).getD "None"
  let column := (position.map fun place => toString place.2).getD "None"
  "first error at line " ++ line ++ ", column " ++ column

def report : ReadingFault → Report
  | .surrogates run =>
      .unreadable (.ofStrings "Failed to encode source text" (surrogateDetails run)) none none
  | .faulty position =>
      .unreadable (.ofStrings "Source contains syntax errors" (positionDetails position))
        (position.map fun place => Int.ofNat place.1)
        (position.map fun place => Int.ofNat place.2)

end ReadingFault

namespace Obstacle

/-- Type and line of a node, for the details of a report. -/
def nodeDetails (nodeType : String) (line : Nat) : String :=
  "node type " ++ Text.quoted nodeType ++ " at line " ++ toString line

def notice (obstacle : Obstacle) (nodeType : String) (line : Nat) : Notice :=
  match obstacle with
  | .unsupported converter kind =>
      .ofStrings (converter ++ " cannot convert " ++ kind.name ++ " nodes")
        (nodeDetails nodeType line)
  | .nameless subject =>
      .ofStrings (subject.title ++ " declaration has no name") <|
        match subject with
        | .classLike => nodeDetails nodeType line
        | _ => "line " ++ toString line

end Obstacle

namespace Failure

/-- The report of a failure, as far as it is one that documents or lookups give rise to. -/
def report? : Failure → Option Report
  | .document fault => some fault.report
  | .reading fault => some fault.report
  | .undecodable _ _ => none
  | .missingArgument _ => none
  | .invalidEntry _ => none
  | .conversion obstacle nodeType line =>
      some (.unconvertible (obstacle.notice nodeType line) (some nodeType)
        (some (Int.ofNat line)))
  | .notFound category name origin =>
      some (.notFound
        ⟨CodePoint.ofString (category.title ++ " " ++ Text.quoted name ++ " could not be found"),
          some (CodePoint.ofString "searched " ++ originOrNone origin)⟩
        name)

end Failure

end PhpOutline
