import AddonAtlas.Number.Real
import AddonAtlas.Scan.Basic
import AddonAtlas.Settings.File
import AddonAtlas.Text.Character

/-!
# Configuration

Each setting is taken from the first source that has it: an override, the environment, the settings
file, a default. Then it is checked. The settings are read in a fixed order, and the first fault is
the one reported.

The directories to scan are given as one text with commas, or as a list. White space around an entry
does not count, blank entries are dropped, and a `~` in front of an entry is a home directory.
-/

namespace AddonAtlas

open AddonAtlas.Number AddonAtlas.Text

/-! ## Roots -/

/-- The entries between the commas of a text. -/
def commaEntries (s : String) : List String :=
  (s.toList.splitOn ',').map String.ofList

/-- The roots of entries, in their order. -/
def rootsOfEntries (homes : Homes) (entries : List String) : Except Failure (List String) :=
  ((entries.map strip).filter (· ≠ "")).mapM homes.expand

/-- The roots of a text with commas. -/
def rootsOfText (homes : Homes) (s : String) : Except Failure (List String) :=
  rootsOfEntries homes (commaEntries s)

/-- The roots of a value of any type. What is empty, or nothing, gives no roots; what is neither text
nor has members is refused. -/
def rootsOfValue (homes : Homes) (v : Value) (within : Collections := #[]) :
    Except Failure (List String) :=
  if !v.isGiven within then .ok []
  else
    match v with
    | .text s => rootsOfText homes s
    | _ =>
      match v.members? within with
      | some members => (members.mapM fun (m : Value) => m.asText within).bind (rootsOfEntries homes)
      | none => .error ⟨.type, "'" ++ v.typeName within ++ "' object is not iterable"⟩

/-! ## Settings -/

/-- A time limit, written as a whole number or as a real one. -/
inductive Seconds
  | whole (n : Int)
  | real (x : Binary64)
deriving DecidableEq, Repr

namespace Seconds

def text : Seconds → String
  | whole n => toString n
  | real x => x.text

end Seconds

structure Config where
  roots : List String
  grep : String
  scanTimeout : Option Seconds
  maxOutput : Int
  port : Int
deriving DecidableEq, Repr

namespace Config

/-- The program that scans if no other is named. -/
def defaultGrep : String := "grep"

def defaultPort : String := "8080"

/-- The failure of a setting whose text is refused. -/
def invalid (name text reason : String) : Failure :=
  ⟨.value, "Invalid " ++ name ++ " value '" ++ text ++ "': " ++ reason⟩

/-- The roots: the override's if there is one, then those of the environment, then the file's. -/
def loadRoots (e : Environment) (override : Option String) (s : Settings) :
    Except Failure (List String) :=
  match override with
  | some paths => rootsOfText e paths
  | none =>
    match e.given? "ODOO_ADDONS_PATH" with
    | some paths => rootsOfText e paths
    | none => rootsOfValue e ((s.get? "addons_path").getD .null) s.collections

/-- The program that scans. An empty name is as good as none. -/
def loadGrep (e : Environment) (s : Settings) : Except Failure String :=
  match e.given? "ODOO_GREP" with
  | some name => .ok name
  | none =>
    match s.get? "grep" with
    | some v => if v.isGiven s.collections then v.asText s.collections else .ok defaultGrep
    | none => .ok defaultGrep

/-- The text of a setting that the environment may hold, even if it is empty. The file's setting has to
have a text all the same. -/
def settingText (e : Environment) (key : String) (s : Settings) (name usual : String) :
    Except Failure String :=
  let text : Except Failure String :=
    match s.get? name with
    | some v => v.asText s.collections
    | none => .ok usual
  text.map (e.get? key).getD

/-- A time limit of a number of seconds; zero is no limit. -/
def readTimeout (text : String) : Except Failure (Option Seconds) :=
  match readReal? text with
  | none => .error (invalid "ODOO_SCAN_TIMEOUT" text
      ("could not convert string to float: " ++ quoted text))
  | some x =>
    if x.isNegative then
      .error (invalid "ODOO_SCAN_TIMEOUT" text ("Scan timeout must be >= 0, got " ++ x.text))
    else .ok (if x.isZero then none else some (.real x))

/-- The bytes accepted of one scan, at least the default. -/
def readMaxOutput (text : String) : Except Failure Int :=
  match readInteger text with
  | .error f => .error (invalid "ODOO_MAX_OUTPUT" text f.message)
  | .ok n =>
    if n < defaultBudget then
      .error (invalid "ODOO_MAX_OUTPUT" text
        ("must be >= " ++ toString defaultBudget ++ ", got " ++ toString n))
    else .ok n

def readPort (text : String) : Except Failure Int :=
  match readInteger text with
  | .error f => .error (invalid "ODOO_MCP_PORT" text f.message)
  | .ok n =>
    if n < 1 ∨ 65535 < n then
      .error (invalid "ODOO_MCP_PORT" text
        ("Port must be between 1 and 65535, got " ++ toString n))
    else .ok n

/-- The configuration of an environment, an override, and the settings of a file. -/
def ofSettings (e : Environment) (override : Option String) (s : Settings) :
    Except Failure Config := do
  let roots ← loadRoots e override s
  let grep ← loadGrep e s
  let scanTimeout ← readTimeout (← settingText e "ODOO_SCAN_TIMEOUT" s "scan_timeout" "0")
  let maxOutput ←
    readMaxOutput (← settingText e "ODOO_MAX_OUTPUT" s "max_output" (toString defaultBudget))
  let port ← readPort ((e.get? "ODOO_MCP_PORT").getD defaultPort)
  return ⟨roots, grep, scanTimeout, maxOutput, port⟩

/-- The settings of the file that the environment names; none if it names none. -/
def loadSettings (t : FileTree) (e : Environment) : Except Failure Settings × Log :=
  match e.given? "ODOO_MCP_CONFIG" with
  | none => (.ok .empty, [])
  | some path =>
    match settingsPath e path with
    | .error failure => (.error failure, [])
    | .ok path => Settings.read t path

/-- Loads the configuration. -/
def load (t : FileTree) (e : Environment) (override : Option String) :
    Except Failure Config × Log :=
  let (settings, log) := loadSettings t e
  (settings.bind (ofSettings e override), log)

/-- The scan of a pattern with this configuration. -/
def request (c : Config) (p : DeclarationPattern) : ScanRequest :=
  ⟨c.roots, p, c.grep, c.maxOutput⟩

end Config

end AddonAtlas
