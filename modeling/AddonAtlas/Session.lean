import AddonAtlas.Index
import AddonAtlas.Navigation

/-!
# Search sessions

A session shows one search at a time. Every search takes a number when it begins, and only the search
with the newest number may change what the session shows: a search that ends after a newer one has
begun gives its results to its caller and leaves the session alone. A search begins and finishes in two
steps, with its scan between them, so any number of searches may overlap.
-/

namespace AddonAtlas

open AddonAtlas.Text

/-- Where a session is with its search. -/
inductive SessionStatus
  | idle
  | searching
  | error
deriving DecidableEq, Repr

def SessionStatus.name : SessionStatus → String
  | idle => "idle"
  | searching => "searching"
  | error => "error"

/-- A hit of a search, with its path as shown. -/
structure SearchItem where
  label : String
  path : String
  line : Int
deriving DecidableEq, Repr

/-- The item of a hit below one of the roots. -/
def SearchItem.ofHit (roots : List String) (h : Hit) : SearchItem :=
  ⟨displayLabel h.path roots, h.path, h.line⟩

/-- What a session shows. -/
structure SessionState where
  query : String
  mode : SearchMode
  results : List SearchItem
  status : SessionStatus
  error : Option String
  notice : Option String
deriving DecidableEq, Repr

namespace SessionState

/-- No search, in the given mode. -/
def cleared (mode : SearchMode) : SessionState :=
  ⟨"", mode, [], .idle, none, none⟩

/-- The error shown when there are no roots. -/
def noRootsError : String := "Invalid addons path!"

def withoutRoots (query : String) (mode : SearchMode) : SessionState :=
  ⟨query, mode, [], .error, some noRootsError, none⟩

def searching (query : String) (mode : SearchMode) : SessionState :=
  ⟨query, mode, [], .searching, none, none⟩

/-- A search that is over; without results there is a notice. -/
def finished (query : String) (mode : SearchMode) (results : List SearchItem) : SessionState :=
  ⟨query, mode, results, .idle, none, if results.isEmpty then some nothingFound else none⟩

end SessionState

structure Session where
  state : SessionState
  /-- The number of the newest search. -/
  issued : Nat
deriving DecidableEq, Repr

/-- The answer to a search: its items, and whether the session shows them. -/
structure SearchReply where
  items : List SearchItem
  published : Bool
deriving DecidableEq, Repr

/-- A search whose scan runs. -/
structure Ticket where
  number : Nat
  query : String
  mode : SearchMode
  /-- The roots from which the items' labels are derived. -/
  roots : List String
  timeout : Option Seconds
deriving DecidableEq, Repr

/-- How a search begins: it is over at once, or it asks for a scan. -/
inductive SearchStart
  | ended (reply : Except Failure SearchReply)
  | scanning (ticket : Ticket) (request : ScanRequest)

namespace Session

/-- A session before any search. -/
def new : Session :=
  ⟨.cleared .substring, 0⟩

/-- Shows a state if it belongs to the newest search, and says whether it does. -/
def publish (s : Session) (number : Nat) (state : SessionState) : Session × Bool :=
  if number = s.issued then ({ s with state := state }, true) else (s, false)

/-- The session after a search has taken its number. -/
def issue (s : Session) : Session :=
  { s with issued := s.issued + 1 }

/-- Begins a search. The configuration of the moment is asked for only if there is a text to search
for. -/
def begin (s : Session) (query : String) (mode : SearchMode)
    (config : Except Failure Config × Log) : Session × SearchStart × Log :=
  let s := s.issue
  let number := s.issued
  if query = "" then
    let (s, published) := s.publish number (.cleared mode)
    (s, .ended (.ok ⟨[], published⟩), [])
  else
    match config with
    | (.error f, log) => (s, .ended (.error f), log)
    | (.ok c, log) =>
      match c.roots with
      | [] =>
        let (s, published) := s.publish number (.withoutRoots query mode)
        (s, .ended (.ok ⟨[], published⟩),
          log ++ [.warning "Search rejected: no addons path configured"])
      | roots =>
        let (s, _) := s.publish number (.searching query mode)
        (s, .scanning ⟨number, query, mode, roots, c.scanTimeout⟩
          (c.request (.of (some mode) (some query))), log)

/-- The items that a scan's outcome comes to; nothing if it is a failure of another kind. -/
def itemsOf (t : Ticket) : ScanOutcome → Except Failure (List SearchItem)
  | .hits hs => .ok (hs.map (SearchItem.ofHit t.roots))
  | .failed _ => .ok []
  | .timedOut => .ok []
  | .raised f => .error f

/-- What is logged of a scan's outcome. -/
def logOf (t : Ticket) : ScanOutcome → Log
  | .hits _ => []
  | .failed reason =>
    [.warning ("Search scan failed for " ++ quoted t.query ++ ": " ++ reason)]
  | .timedOut =>
    [.warning ("Search for " ++ quoted t.query ++ " timed out after " ++
      ModelIndex.limitText t.timeout)]
  | .raised _ => []

/-- Finishes a search with the outcome of its scan. -/
def finish (s : Session) (t : Ticket) (o : ScanOutcome) :
    Session × Except Failure SearchReply × Log :=
  match itemsOf t o with
  | .error f => (s, .error f, logOf t o)
  | .ok items =>
    let (s, published) := s.publish t.number (.finished t.query t.mode items)
    (s, .ok ⟨items, published⟩, logOf t o)

/-- The target of the result at a position. -/
def target (s : Session) (index : Int) : Except Failure NavigationTarget :=
  match (if index < 0 then none else s.state.results[index.toNat]?) with
  | some item => .ok (.of item.path item.line)
  | none => .error ⟨.index, "No search result at index " ++ toString index⟩

end Session

/-! ## Modes -/

/-- The mode a value names. Without a value it is the search inside of names. -/
def SearchMode.ofValue : Option Value → Except Failure SearchMode
  | none => .ok .substring
  | some v =>
    match v with
    | .text s =>
      match SearchMode.ofName? s with
      | some mode => .ok mode
      | none => .error ⟨.value, v.shown ++ " is not a valid SearchMode"⟩
    | _ => .error ⟨.value, v.shown ++ " is not a valid SearchMode"⟩

end AddonAtlas
