import PhpOutline.Text.Characters
import PhpOutline.Text.Utf8

namespace PhpOutline

/-! Validation that reports every problem at once.

A check yields a value or a list of complaints.  Checks combine without stopping at the
first complaint, so the complaints of a record come in the order of its fields.  Strings are
never made out of other values.  Whole numbers may also be given as truth values, as decimals
without a fraction, and as digits in a text; truth values also as zero and one and as the
usual words in any case.
-/

open PhpOutline.Text (CodePoint)

/-- What can be wrong with a value. -/
inductive Issue where
  | missing
  | notString
  | notUnicode
  | tooShort
  | onlySeparators
  | notCategory
  | notClassForm
  | belowOne
  | unparsableInt
  | fractionalInt
  | notInt
  | unparsableBool
  | notBool
  | notList
  | frozen
deriving DecidableEq, Repr

namespace Issue

/-- The short name of an issue. -/
def code : Issue → String
  | .missing => "missing"
  | .notString => "string_type"
  | .notUnicode => "string_unicode"
  | .tooShort => "string_too_short"
  | .onlySeparators => "value_error"
  | .notCategory => "enum"
  | .notClassForm => "enum"
  | .belowOne => "greater_than_equal"
  | .unparsableInt => "int_parsing"
  | .fractionalInt => "int_from_float"
  | .notInt => "int_type"
  | .unparsableBool => "bool_parsing"
  | .notBool => "bool_type"
  | .notList => "list_type"
  | .frozen => "frozen_instance"

def message : Issue → String
  | .missing => "Field required"
  | .notString => "Input should be a valid string"
  | .notUnicode =>
      "Input should be a valid string, unable to parse raw data as a unicode string"
  | .tooShort => "String should have at least 1 character"
  | .onlySeparators => "Value error, Identifier name must not be empty"
  | .notCategory => "Input should be 'class', 'function' or 'constant'"
  | .notClassForm => "Input should be 'CLASS', 'INTERFACE', 'TRAIT' or 'ENUM'"
  | .belowOne => "Input should be greater than or equal to 1"
  | .unparsableInt =>
      "Input should be a valid integer, unable to parse string as an integer"
  | .fractionalInt =>
      "Input should be a valid integer, got a number with a fractional part"
  | .notInt => "Input should be a valid integer"
  | .unparsableBool => "Input should be a valid boolean, unable to interpret input"
  | .notBool => "Input should be a valid boolean"
  | .notList => "Input should be a valid list"
  | .frozen => "Instance is frozen"

end Issue

/-- Where a complaint points: a field, and within a list an item. -/
structure Place where
  field : String
  item : Option Nat := none
deriving DecidableEq, Repr

structure Complaint where
  place : Place
  issue : Issue
deriving DecidableEq, Repr

inductive Checked (α : Type) where
  | valid (value : α)
  | invalid (complaints : List Complaint)
deriving Repr

namespace Checked

def complaints : Checked α → List Complaint
  | .valid _ => []
  | .invalid complaints => complaints

def map (f : α → β) : Checked α → Checked β
  | .valid value => .valid (f value)
  | .invalid complaints => .invalid complaints

/-- Applies a checked function, keeping the complaints of both sides. -/
def apply : Checked (α → β) → Checked α → Checked β
  | .valid f, .valid value => .valid (f value)
  | .valid _, .invalid complaints => .invalid complaints
  | .invalid complaints, .valid _ => .invalid complaints
  | .invalid left, .invalid right => .invalid (left ++ right)

instance : Functor Checked where
  map := map

instance : Seq Checked where
  seq f value := apply f (value ())

def fail (field : String) (issue : Issue) : Checked α :=
  .invalid [⟨⟨field, none⟩, issue⟩]

end Checked

/-- A number written with a fraction or an exponent is the decimal `mantissa`
divided by ten to the power `places`. -/
inductive Value where
  | null
  | bool (value : Bool)
  | int (value : Int)
  | decimal (mantissa : Int) (places : Nat)
  | text (codePoints : List CodePoint)
  | list (items : List Value)
  | object (fields : List (String × Value))

namespace Value

def ofString (text : String) : Value :=
  .text (CodePoint.ofString text)

/-- The name of a value's type in messages. -/
def typeName : Value → String
  | .null => "NoneType"
  | .bool _ => "bool"
  | .int _ => "int"
  | .decimal _ _ => "float"
  | .text _ => "str"
  | .list _ => "list"
  | .object _ => "dict"

/-- A text without surrogates. -/
def string? : Value → Option String
  | .text codePoints => Text.string? codePoints
  | _ => none

/-- The whole number a decimal stands for, if it is one. -/
def wholeDecimal? (mantissa : Int) (places : Nat) : Option Int :=
  let scale := Int.ofNat (Nat.pow 10 places)
  if mantissa % scale = 0 then some (mantissa / scale) else none

/-- The digits of a decimal, with at least one on both sides of the point. -/
def decimalText (mantissa : Int) (places : Nat) : String :=
  let digits := (toString mantissa.natAbs).toList
  let padded := List.replicate (places + 1 - digits.length) '0' ++ digits
  let whole := padded.take (padded.length - places)
  let fraction := ((padded.drop (padded.length - places)).reverse.dropWhile (· == '0')).reverse
  let sign := if mantissa < 0 then ['-'] else []
  String.ofList (sign ++ whole ++ '.' :: (if fraction.isEmpty then ['0'] else fraction))

mutual

/-- A value as messages show it. -/
def display : Value → String
  | .null => "None"
  | .bool true => "True"
  | .bool false => "False"
  | .int value => toString value
  | .decimal mantissa places => decimalText mantissa places
  | .text codePoints =>
      Text.quoted (String.ofList ((Text.scalars? codePoints).getD []))
  | .list items => "[" ++ displayItems items ++ "]"
  | .object fields => "\x7b" ++ displayFields fields ++ "\x7d"

def displayItems : List Value → String
  | [] => ""
  | [item] => item.display
  | item :: rest => item.display ++ ", " ++ displayItems rest

def displayFields : List (String × Value) → String
  | [] => ""
  | [(key, value)] => Text.quoted key ++ ": " ++ value.display
  | (key, value) :: rest =>
      Text.quoted key ++ ": " ++ value.display ++ ", " ++ displayFields rest

end

end Value

abbrev Fields := List (String × Value)

/-- A field's value; of a field given twice, the later one. -/
def Fields.find? (fields : Fields) (name : String) : Option Value :=
  (fields.reverse.lookup name)

namespace Value

def readString : Value → Except Issue String
  | .text codePoints =>
      match Text.scalars? codePoints with
      | some chars => .ok (String.ofList chars)
      | none => .error .notUnicode
  | _ => .error .notString

/-- White space around the digits of a number. -/
def isPadding (char : Char) : Bool :=
  Text.isBlank char && !(28 ≤ char.toNat && char.toNat ≤ 31)

/-- Digits with single underscores between them. -/
def groupedDigits? (chars : List Char) : Option Nat :=
  let groups := chars.splitOn '_'
  if groups.all fun group => !group.isEmpty && group.all Char.isDigit then
    some (groups.flatten.foldl (fun total digit => total * 10 + (digit.toNat - 48)) 0)
  else none

/-- Grouped digits, with nothing but zeros after a point. -/
def wholeNumber? (chars : List Char) : Option Nat :=
  match chars.span (· != '.') with
  | (digits, []) => groupedDigits? digits
  | (digits, _ :: zeros) =>
      if zeros.all (· == '0') then groupedDigits? digits else none

/-- The whole number that a text stands for, with an optional sign. -/
def parseInt? (text : String) : Option Int :=
  match (Text.dropTrailing isPadding (Text.dropLeading isPadding text)).toList with
  | '+' :: digits => (wholeNumber? digits).map Int.ofNat
  | '-' :: digits => (wholeNumber? digits).map fun value => -Int.ofNat value
  | digits => (wholeNumber? digits).map Int.ofNat

def readInt : Value → Except Issue Int
  | .int value => .ok value
  | .bool value => .ok (if value then 1 else 0)
  | .decimal mantissa places =>
      match wholeDecimal? mantissa places with
      | some value => .ok value
      | none => .error .fractionalInt
  | .text codePoints =>
      match (Text.scalars? codePoints).bind fun chars => parseInt? (String.ofList chars) with
      | some value => .ok value
      | none => .error .unparsableInt
  | _ => .error .notInt

/-- Line numbers count from one. -/
def readLine (value : Value) : Except Issue Nat :=
  match value.readInt with
  | .error issue => .error issue
  | .ok line => if 1 ≤ line then .ok line.toNat else .error .belowOne

def truthOfInt (value : Int) : Except Issue Bool :=
  if value = 0 then .ok false
  else if value = 1 then .ok true
  else .error .unparsableBool

def falseWords : List String :=
  ["0", "off", "f", "false", "n", "no"]

def trueWords : List String :=
  ["1", "on", "t", "true", "y", "yes"]

def truthOfWord (word : String) : Except Issue Bool :=
  let lower := String.ofList (word.toList.map Char.toLower)
  if falseWords.contains lower then .ok false
  else if trueWords.contains lower then .ok true
  else .error .unparsableBool

/-- Whole numbers of more than 64 bits are no candidates for a truth value. -/
def readBool : Value → Except Issue Bool
  | .bool value => .ok value
  | .int value =>
      if Int64.minValue.toInt ≤ value ∧ value ≤ Int64.maxValue.toInt then truthOfInt value
      else .error .notBool
  | .decimal mantissa places =>
      match wholeDecimal? mantissa places with
      | some value => truthOfInt value
      | none => .error .notBool
  | .text codePoints =>
      match Text.scalars? codePoints with
      | some chars => truthOfWord (String.ofList chars)
      | none => .error .unparsableBool
  | _ => .error .notBool

/-- Null stands for the absent value. -/
def readOptional (read : Value → Except Issue α) : Value → Except Issue (Option α)
  | .null => .ok none
  | value => (read value).map some

end Value

namespace Fields

/-- A field that has to be given. -/
def required (fields : Fields) (name : String) (read : Value → Except Issue α) : Checked α :=
  match fields.find? name with
  | none => .fail name .missing
  | some value =>
      match read value with
      | .ok value => .valid value
      | .error issue => .fail name issue

/-- A field with a default. -/
def optional (fields : Fields) (name : String) (read : Value → Except Issue α)
    (default : α) : Checked α :=
  match fields.find? name with
  | none => .valid default
  | some value =>
      match read value with
      | .ok value => .valid value
      | .error issue => .fail name issue

/-- The strings of a list, with a complaint for every item that is none. -/
def readStrings (field : String) (index : Nat) : List Value → Checked (List String)
  | [] => .valid []
  | item :: rest =>
      let head : Checked String :=
        match item.readString with
        | .ok value => .valid value
        | .error issue => .invalid [⟨⟨field, some index⟩, issue⟩]
      (List.cons <$> head) <*> readStrings field (index + 1) rest

/-- A list of strings, empty where the field is not given. -/
def strings (fields : Fields) (name : String) : Checked (List String) :=
  match fields.find? name with
  | none => .valid []
  | some (.list items) => readStrings name 0 items
  | some _ => .fail name .notList

end Fields

end PhpOutline
