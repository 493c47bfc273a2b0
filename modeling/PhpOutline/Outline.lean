import PhpOutline.Declaration.Conversion
import PhpOutline.Search

namespace PhpOutline

open PhpOutline.Syntax
open PhpOutline.Text (Bytes CodePoint)

/-- A document has some text; it has no origin if the text comes from nowhere in
particular. -/
structure Document where
  text : List CodePoint
  origin : Option (List CodePoint)
  nonempty : text ≠ []

namespace Document

def originOf : Value → Except DocumentFault (Option (List CodePoint))
  | .null => .ok none
  | .text origin => .ok (some origin)
  | value => .error (.badOrigin value.typeName)

def make (text origin : Value) : Except DocumentFault Document :=
  match text with
  | .text (first :: rest) =>
      (originOf origin).map fun origin => ⟨first :: rest, origin, List.cons_ne_nil first rest⟩
  | _ => .error .noText

end Document

/-- A tree together with the bytes that it was read from. -/
structure Reading where
  content : Bytes
  root : Tree

namespace Reading

/-- The top-level statements: the named children of the root. -/
def statements (reading : Reading) : List Location :=
  (Location.root reading.root).namedChildren

/-- Line and column of the first fault in the tree. -/
def faultPosition? (reading : Reading) : Option (Nat × Nat) :=
  (Location.firstFault? [Location.root reading.root]).map fun fault =>
    (lineAt reading.content fault.label.start, columnAt reading.content fault.label.start)

/-- Reads a text by a reader of bytes.  Text with surrogates has no bytes to
read; a tree with faults is refused where reading is strict. -/
def ofText (strict : Bool) (reader : Bytes → Tree) (text : List CodePoint) :
    Except ReadingFault Reading :=
  match Text.encode text with
  | .error run => .error (.surrogates run)
  | .ok content =>
      let reading : Reading := ⟨content, reader content⟩
      if strict && reading.root.hasFault then .error (.faulty reading.faultPosition?)
      else .ok reading

end Reading

structure Query where
  name : String
  category : Category
deriving DecidableEq, Repr

namespace Query

/-- A name has at least one character that is no separator at its start. -/
def readName (value : Value) : Except Issue String :=
  match value.readString with
  | .error issue => .error issue
  | .ok name =>
      if name.isEmpty then .error .tooShort
      else if (dropSeparators name).isEmpty then .error .onlySeparators
      else .ok (dropSeparators name)

def readCategory (value : Value) : Except Issue Category :=
  match value.string?.bind Category.ofName? with
  | some category => .ok category
  | none => .error .notCategory

def ofFields (fields : Fields) : Checked Query :=
  Query.mk <$> fields.required "name" readName <*> fields.required "type" readCategory

/-- The name is that of the query; case counts for constants only. -/
def matchesName (query : Query) (name : String) : Bool :=
  if query.category.isCaseSensitive then query.name == name
  else Text.lowercase query.name == Text.lowercase name

end Query

/-- A reader of source text, and whether it has to be free of syntax errors. -/
structure Frontend where
  strict : Bool
  reader : Bytes → Tree

namespace Frontend

/-- Reads a document, and logs what came out of it. -/
def read (frontend : Frontend) (document : Document) : Logged (Except Failure Reading) :=
  match Reading.ofText frontend.strict frontend.reader document.text with
  | .error fault => ⟨.error (.reading fault), []⟩
  | .ok reading =>
      ⟨.ok reading, [.parsed reading.content.length reading.statements.length]⟩

/-- Searches a document with any conversion; a failed reading counts as a
failure of the conversion. -/
def searchWith [HasErrors ε] (frontend : Frontend) (conversion : Bytes → Conversion σ ε α)
    (readingFailed : Failure → ε) (document : Document) (category : Category) (state : σ) :
    Logged (Except ε (List α)) × σ :=
  match frontend.read document with
  | ⟨.error failure, log⟩ => (⟨.error (readingFailed failure), log⟩, state)
  | ⟨.ok reading, log⟩ =>
      let (found, state) :=
        search (conversion reading.content) reading.content document.origin category
          reading.statements state
      (⟨found.result, log ++ found.log⟩, state)

/-- The first result that a query names, with any conversion to entries.  All
declarations of the category have to convert for that, also those after the one that
is looked for. -/
def lookupWith [HasErrors ε] (frontend : Frontend) (conversion : Bytes → Conversion σ ε Entry)
    (failed : Failure → ε) (document : Document) (query : Query) (state : σ) :
    Logged (Except ε Entry) × σ :=
  match frontend.searchWith conversion failed document query.category state with
  | (⟨.error failure, log⟩, state) => (⟨.error failure, log⟩, state)
  | (⟨.ok entries, log⟩, state) =>
      match entries.find? fun entry => query.matchesName entry.name with
      | some entry => (⟨.ok entry, log⟩, state)
      | none =>
          (⟨.error (failed (.notFound query.category query.name document.origin)),
            log ++ [.notFound query.category query.name]⟩, state)

end Frontend

/-- A converter as a conversion without a state. -/
def Converter.conversion (converter : Converter) (origin : Option (List CodePoint))
    (content : Bytes) : Conversion Unit Failure Entry :=
  fun location state => (converter.record content origin location, state)

/-- The entries of all declarations of a category in a document. -/
def outline (frontend : Frontend) (converter : Converter) (document : Document)
    (category : Category) : Logged (Except Failure (List Entry)) :=
  (frontend.searchWith (converter.conversion document.origin) id document category ()).1

/-- The first entry that a query names. -/
def lookup (frontend : Frontend) (converter : Converter) (document : Document)
    (query : Query) : Logged (Except Failure Entry) :=
  (frontend.lookupWith (converter.conversion document.origin) id document query ()).1

end PhpOutline
