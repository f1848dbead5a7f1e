import AddonAtlas.Session

/-!
# Requests and replies

What can be asked of a server, and the shapes of its replies. The tools are the requests that a
server offers to its clients; the others belong to whoever hosts the index and the session.
-/

namespace AddonAtlas

/-- A tool with its arguments. -/
inductive Tool
  | refreshModels
  | listModels
  | listDeclarations (model : String)
  | searchModels (text : String) (mode : Option Value)
  | openResult (index : Int)
  | openDeclaration (path : String) (line : Int)
  /-- The listing of all models. -/
  | modelsListing
  /-- The listing of one model's declarations. -/
  | modelListing (model : String)

/-- The names of the tools a server offers, in the order of their registration. -/
def Tool.names : List String :=
  ["refresh_models", "list_models", "list_declarations", "search_models", "open_result",
    "open_declaration"]

inductive Request
  | refresh
  | identities
  | declarations (model : String)
  | mapping
  | modelsListing
  | modelListing (model : String)
  /-- A search of which only the items are wanted. -/
  | query (text : String) (mode : Option Value)
  | search (text : String) (mode : Option Value)
  | openResult (index : Int)
  /-- A command that the session does not know. -/
  | unknown (command : Value)
  | tool (t : Tool)

/-- A declaration as the browser shows it. -/
structure Place where
  label : String
  path : String
  line : Int
deriving DecidableEq, Repr

def Place.of (d : Declaration) : Place :=
  ⟨browseLabel d.path, d.path, d.line⟩

/-- The answer of the search tool. Items that can be opened have an index. -/
structure SearchReport where
  query : String
  mode : SearchMode
  status : SessionStatus
  error : Option String
  notice : Option String
  superseded : Bool
  results : List (Option Nat × SearchItem)
deriving DecidableEq, Repr

/-- A file to show, with an excerpt, or the reason why there is none. -/
structure View where
  target : Option NavigationTarget
  excerpt : List String
  error : Option String
deriving DecidableEq, Repr

inductive Reply
  | summary (s : IndexSummary)
  | names (l : List String)
  | declarations (l : List Declaration)
  | groups (l : List (String × List Declaration))
  | text (s : String)
  | items (l : List SearchItem)
  | search (r : SearchReply)
  | target (t : NavigationTarget)
  | places (l : List Place)
  | report (r : SearchReport)
  | view (v : View)

namespace SearchReport

/-- The notice on a search that a newer one has replaced. -/
def supersededNotice : String :=
  "A newer search replaced this one; its results cannot be opened."

/-- The report of a search that the session does not show. -/
def replaced (query : String) (mode : SearchMode) (items : List SearchItem) : SearchReport :=
  ⟨query, mode, .idle, none, some supersededNotice, true, items.map fun i => (none, i)⟩

/-- The report of what the session shows. -/
def current (query : String) (mode : SearchMode) (s : SessionState) : SearchReport :=
  ⟨query, mode, s.status, s.error, s.notice, false,
    s.results.zipIdx.map fun (i, n) => (some n, i)⟩

/-- The report of a search that has ended, with the session as it is then. -/
def of (query : String) (mode : SearchMode) (r : SearchReply) (s : Session) : SearchReport :=
  if r.published then current query mode s.state else replaced query mode r.items

end SearchReport

namespace View

/-- The view of a target. -/
def of (t : FileTree) (target : NavigationTarget) : Except Failure View :=
  (viewport t target).map fun excerpt => ⟨some target, excerpt, none⟩

/-- The view when there is nothing to show. -/
def nothing (error : String) : View :=
  ⟨none, [], some error⟩

end View

end AddonAtlas
