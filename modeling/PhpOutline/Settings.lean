import PhpOutline.Text.Lowercase
import PhpOutline.Validation

namespace PhpOutline

/-! Settings, and the sources they come from.

A setting is looked up among the explicit arguments, then the environment, then
the settings file; only the value found first is checked.  Names of variables
are compared without regard to case.
-/

structure Settings where
  /-- Source with syntax errors is refused. -/
  strict : Bool := true
  /-- The source is code from its first character on, without an opening tag. -/
  bare : Bool := false
  /-- What the names of anonymous classes start with. -/
  anonymousPrefix : String := "class@anonymous"
deriving DecidableEq, Repr

/-- Variables in the order in which they were first set. -/
abbrev Variables := List (String × String)

namespace Variables

/-- Setting a variable again keeps its place. -/
def set (name value : String) : Variables → Variables
  | [] => [(name, value)]
  | (other, old) :: rest =>
      if other == name then (name, value) :: rest else (other, old) :: set name value rest

def unset (name : String) (given : Variables) : Variables :=
  given.filter fun entry => entry.1 != name

/-- The value of a variable without regard to case; of several spellings the one
set last wins. -/
def find? (given : Variables) (name : String) : Option String :=
  (given.reverse.find? fun entry =>
    Text.lowercase entry.1 == Text.lowercase name).map Prod.snd

end Variables

namespace SettingsFile

/-- The lines of a file; a return also ends a line. -/
def lines (content : String) : List (List Char) :=
  content.toList.splitOnP fun char => char == '\n' || char == '\r'

/-- A value starts at the first character that is no blank, and ends before the
blanks in front of a number sign, or of the line's end. -/
def valueOf (chars : List Char) : String :=
  Text.dropTrailing Text.isBlank
    (String.ofList (uncommented false (chars.dropWhile Text.isBlank)))
where
  uncommented (afterBlank : Bool) : List Char → List Char
    | [] => []
    | char :: rest =>
        if char == '#' && afterBlank then []
        else char :: uncommented (Text.isBlank char) rest

/-- The variable that a line sets, if it is neither blank nor a comment. -/
def assignment? (line : List Char) : Option (String × String) :=
  match line.span (· != '=') with
  | (_, []) => none
  | (name, _ :: value) =>
      let name := Text.trim (String.ofList name)
      if name.isEmpty || name.startsWith "#" then none else some (name, valueOf value)

def assigned (content : String) : Variables :=
  ((lines content).filterMap assignment?).foldl
    (fun given entry => Variables.set entry.1 entry.2 given) []

end SettingsFile

/-- Where settings come from.  The names of the variables are those of the
settings after `variablePrefix`. -/
structure SettingsSources where
  variablePrefix : String
  arguments : Fields := []
  environment : Variables := []
  file : Option String := none

namespace SettingsSources

def find? (sources : SettingsSources) (name : String) : Option Value :=
  let key := sources.variablePrefix ++ name
  match sources.arguments.find? name with
  | some value => some value
  | none =>
      match sources.environment.find? key with
      | some text => some (.ofString text)
      | none =>
          (sources.file.bind fun content =>
            (SettingsFile.assigned content).find? key).map .ofString

/-- The fields that are given at all, each with the value that wins. -/
def fields (sources : SettingsSources) : Fields :=
  ["strict_parsing", "php_only", "anonymous_class_prefix"].filterMap fun name =>
    (sources.find? name).map fun value => (name, value)

end SettingsSources

namespace Settings

/-- A prefix has at least one character. -/
def readPrefix (value : Value) : Except Issue String :=
  match value.readString with
  | .error issue => .error issue
  | .ok text => if text.isEmpty then .error .tooShort else .ok text

def ofFields (fields : Fields) : Checked Settings :=
  Settings.mk <$> fields.optional "strict_parsing" Value.readBool true
    <*> fields.optional "php_only" Value.readBool false
    <*> fields.optional "anonymous_class_prefix" readPrefix "class@anonymous"

def load (sources : SettingsSources) : Checked Settings :=
  ofFields sources.fields

end Settings

/-- Settings that are loaded once and then kept.  `loaded` counts the loads that
succeeded, so that two answers tell whether they are the same settings. -/
structure SettingsCache where
  sources : SettingsSources
  current : Option (Settings × Nat) := none
  loaded : Nat := 0

namespace SettingsCache

/-- The kept settings with their number, or else newly loaded ones.  A load that
fails keeps nothing. -/
def get (cache : SettingsCache) : Checked (Settings × Nat) × SettingsCache :=
  match cache.current with
  | some current => (.valid current, cache)
  | none =>
      match Settings.load cache.sources with
      | .invalid complaints => (.invalid complaints, cache)
      | .valid settings =>
          let current := (settings, cache.loaded)
          (.valid current, { cache with current := some current, loaded := cache.loaded + 1 })

/-- Drops the kept settings, even if loading fails then. -/
def reload (cache : SettingsCache) : Checked (Settings × Nat) × SettingsCache :=
  get { cache with current := none }

end SettingsCache

end PhpOutline
