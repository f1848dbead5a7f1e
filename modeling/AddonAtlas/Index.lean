import AddonAtlas.Scan.Outcome

/-!
# The model index

The index holds every declaration of the last refresh, grouped by identity. Groups are in the order
in which their identities were found first, and the declarations of a group in the order of the scan.
A refresh has two halves: it begins by asking for a scan, and it finishes with the scan's outcome.

The index is shown as texts: a listing of all models, and a listing of the declarations of one.
-/

namespace AddonAtlas

/-- Declarations grouped by identity. -/
structure ModelIndex where
  groups : List (String × List Declaration)
deriving DecidableEq, Repr

namespace ModelIndex

def empty : ModelIndex := ⟨[]⟩

instance : Inhabited ModelIndex := ⟨empty⟩

/-- Adds a declaration to its group, or makes a group of it at the end. -/
def addTo (d : Declaration) : List (String × List Declaration) → List (String × List Declaration)
  | [] => [(d.identity, [d])]
  | (identity, ds) :: rest =>
    if identity = d.identity then (identity, ds ++ [d]) :: rest
    else (identity, ds) :: addTo d rest

def insert (x : ModelIndex) (d : Declaration) : ModelIndex :=
  ⟨addTo d x.groups⟩

/-- The declarations of a list in their groups. -/
def ofList (ds : List Declaration) : ModelIndex :=
  ds.foldl insert empty

/-- Every identity, in the order of first appearance. -/
def identities (x : ModelIndex) : List String :=
  x.groups.map (·.1)

/-- The declarations of an identity, in the order of the scan. -/
def declarations (x : ModelIndex) (identity : String) : List Declaration :=
  ((x.groups.find? fun g => g.1 = identity).map (·.2)).getD []

/-- The number of declarations. -/
def size (x : ModelIndex) : Nat :=
  (x.groups.map fun g => g.2.length).sum

end ModelIndex

/-- What a refresh comes to, with a notice for the user if something is amiss. -/
structure IndexSummary where
  models : Nat
  declarations : Nat
  notice : Option String
deriving DecidableEq, Repr

/-- The notice when nothing was found. -/
def nothingFound : String := "No Odoo models found!"

/-- The notice when there are no roots. -/
def noRoots : String := "No addons path configured!"

namespace ModelIndex

/-! ## Refreshing -/

/-- How a refresh begins: it is over at once without roots, and asks for a scan otherwise. -/
inductive RefreshStart
  | ended (index : ModelIndex) (summary : IndexSummary)
  | scanning (request : ScanRequest) (timeout : Option Seconds)

/-- Begins a refresh with the configuration of the moment. -/
def beginRefresh (c : Config) : RefreshStart × Log :=
  match c.roots with
  | [] =>
    (.ended empty ⟨0, 0, some noRoots⟩,
      [.warning "Cannot index models: no addons path configured"])
  | roots =>
    (.scanning (c.request .identity) c.scanTimeout,
      [.info ("Indexing models in " ++ toString roots.length ++ " addons roots")])

/-- The text of a time limit in messages. -/
def limitText (timeout : Option Seconds) : String :=
  (timeout.map Seconds.text).getD "None" ++ "s"

/-- The index of declarations, with its summary. -/
def installed (ds : List Declaration) : ModelIndex × IndexSummary × Log :=
  let x := ofList ds
  if ds.isEmpty then
    (x, ⟨0, 0, some nothingFound⟩, [.warning "No model declarations found"])
  else
    (x, ⟨x.groups.length, ds.length, none⟩,
      [.info ("Index complete: " ++ toString x.groups.length ++ " models, " ++
        toString ds.length ++ " declarations")])

/-- Finishes a refresh. A scan that failed or took too long leaves an empty index; any other failure
leaves the index as it was. -/
def finishRefresh (timeout : Option Seconds) (o : ScanOutcome) :
    Except Failure (ModelIndex × IndexSummary) × Log :=
  match o with
  | .raised f => (.error f, [])
  | .hits hs =>
    let (x, summary, log) := installed (hs.map (Declaration.ofHit .identity))
    (.ok (x, summary), log)
  | .failed reason =>
    let (x, summary, log) := installed []
    (.ok (x, summary), .warning ("Model scan failed: " ++ reason) :: log)
  | .timedOut =>
    let (x, summary, log) := installed []
    (.ok (x, summary), .warning ("Model scan timed out after " ++ limitText timeout) :: log)

end ModelIndex

end AddonAtlas

/-! ## Listings -/

namespace AddonAtlas.Resource

/-- The sign around names in listings. -/
def tick : String :=
  String.singleton (Char.ofNat 96)

def declarationWord (count : Nat) : String :=
  if count = 1 then "declaration" else "declarations"

/-- The line of a model. -/
def modelLine (identity : String) (count : Nat) : String :=
  "- " ++ tick ++ identity ++ tick ++ " (" ++ toString count ++ " " ++ declarationWord count ++ ")\n"

/-- The listing of all models with the numbers of their declarations. -/
def models (x : ModelIndex) : String :=
  "# Odoo Models\n" ++ "Total models: " ++ toString x.identities.length ++ "\n" ++ "\n" ++
    String.join (x.identities.map fun i => modelLine i (x.declarations i).length)

/-- The line of a declaration. -/
def declarationLine (d : Declaration) : String :=
  "- " ++ browseLabel d.path ++ ":" ++ toString d.line ++ " (" ++ tick ++ d.path ++ tick ++ ")\n"

/-- The listing of a model's declarations. There is none for an unknown model. -/
def model (x : ModelIndex) (identity : String) : Except Failure String :=
  match x.declarations identity with
  | [] => .error ⟨.value, "Model '" ++ identity ++ "' not found"⟩
  | ds => .ok ("# Model: " ++ identity ++ "\n\n" ++ String.join (ds.map declarationLine))

/-- The addresses of the resources that a server offers. -/
def addresses : List String :=
  ["odoo://models", "odoo://models/\x7bmodel\x7d"]

end AddonAtlas.Resource
