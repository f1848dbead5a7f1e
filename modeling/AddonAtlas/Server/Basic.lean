import AddonAtlas.Server.Request

/-!
# The server

A server holds an index and a session, and what they work with: a file tree, a source of
configurations, and what answers scans. A request is answered at once, or it waits for a scan. Then it
is begun and finished in two steps, between which other requests may be served.
-/

namespace AddonAtlas

/-- Where the configuration of the moment comes from. -/
inductive ConfigSource
  | fixed (c : Config)
  /-- It is loaded from the environment, with paths that may be put in the place of the configured ones. -/
  | loaded (override : Option String)
  | failing (f : Failure)

namespace ConfigSource

/-- The configuration of the moment, with what is logged on the way. -/
def config (t : FileTree) (e : Environment) : ConfigSource → Except Failure Config × Log
  | fixed c => (.ok c, [])
  | loaded override => Config.load t e override
  | failing f => (.error f, [])

end ConfigSource

structure Server where
  tree : FileTree
  environment : Environment
  source : ConfigSource
  scanner : Scanner
  index : ModelIndex
  session : Session

/-- How the items of a search are handed over. -/
inductive SearchShape
  | items
  | reply
  | report

/-- What a scan is for. -/
inductive Purpose
  | refresh (timeout : Option Seconds)
  | search (ticket : Ticket) (shape : SearchShape)

/-- A request that waits for a scan. -/
structure Waiting where
  job : ScanJob
  purpose : Purpose

/-- How far a request has come. -/
inductive Progress
  | ended (answer : Except Failure Reply)
  | waiting (w : Waiting)

namespace Server

def new (t : FileTree) (e : Environment) (source : ConfigSource) (scanner : Scanner) : Server :=
  ⟨t, e, source, scanner, .empty, .new⟩

/-- The configuration of the moment, with what is logged on the way. -/
def config (s : Server) : Except Failure Config × Log :=
  s.source.config s.tree s.environment

/-- The job of a scan that is asked for now. -/
def job (s : Server) (request : ScanRequest) (timeout : Option Seconds) : ScanJob :=
  ⟨s.scanner, s.environment, request, timeout⟩

/-! ## Beginning -/

def beginRefresh (s : Server) : Server × Progress × Log :=
  match s.config with
  | (.error f, log) => (s, .ended (.error f), log)
  | (.ok c, log) =>
    match ModelIndex.beginRefresh c with
    | (.ended index summary, more) =>
      ({ s with index := index }, .ended (.ok (.summary summary)), log ++ more)
    | (.scanning request timeout, more) =>
      (s, .waiting ⟨s.job request timeout, .refresh timeout⟩, log ++ more)

/-- The reply to a search that has ended. -/
def searchReply (s : Server) (query : String) (mode : SearchMode) (shape : SearchShape)
    (r : SearchReply) : Reply :=
  match shape with
  | .items => .items r.items
  | .reply => .search r
  | .report => .report (.of query mode r s.session)

def beginSearch (s : Server) (query : String) (mode : Option Value) (shape : SearchShape) :
    Server × Progress × Log :=
  match SearchMode.ofValue mode with
  | .error f => (s, .ended (.error f), [])
  | .ok mode =>
    let (session, start, log) := s.session.begin query mode s.config
    let s := { s with session := session }
    match start with
    | .ended answer => (s, .ended (answer.map (s.searchReply query mode shape)), log)
    | .scanning ticket request =>
      (s, .waiting ⟨s.job request ticket.timeout, .search ticket shape⟩, log)

/-- An answer that is given at once and changes nothing. -/
def atOnce (s : Server) (answer : Except Failure Reply) : Server × Progress × Log :=
  (s, .ended answer, [])

def listing (s : Server) (model : String) : Except Failure Reply :=
  (Resource.model s.index model).map .text

/-- The view of a search result. A position without a result is told in the view itself. -/
def openResult (s : Server) (index : Int) : Except Failure View :=
  match s.session.target index with
  | .ok target => View.of s.tree target
  | .error f => .ok (.nothing f.message)

def beginTool (s : Server) : Tool → Server × Progress × Log
  | .refreshModels => s.beginRefresh
  | .listModels => s.atOnce (.ok (.names s.index.identities))
  | .listDeclarations model =>
    s.atOnce (.ok (.places ((s.index.declarations model).map Place.of)))
  | .searchModels text mode => s.beginSearch text mode .report
  | .openResult index => s.atOnce ((s.openResult index).map .view)
  | .openDeclaration path line => s.atOnce ((View.of s.tree (.of path line)).map .view)
  | .modelsListing => s.atOnce (.ok (.text (Resource.models s.index)))
  | .modelListing model => s.atOnce (s.listing model)

/-- Begins a request, up to the start of its scan if it has one. -/
def begin (s : Server) : Request → Server × Progress × Log
  | .refresh => s.beginRefresh
  | .identities => s.atOnce (.ok (.names s.index.identities))
  | .declarations model => s.atOnce (.ok (.declarations (s.index.declarations model)))
  | .mapping => s.atOnce (.ok (.groups s.index.groups))
  | .modelsListing => s.atOnce (.ok (.text (Resource.models s.index)))
  | .modelListing model => s.atOnce (s.listing model)
  | .query text mode => s.beginSearch text mode .items
  | .search text mode => s.beginSearch text mode .reply
  | .openResult index => s.atOnce ((s.session.target index).map .target)
  | .unknown command => s.atOnce (.error ⟨.type, "Unknown command: " ++ command.shown⟩)
  | .tool t => s.beginTool t

/-! ## Finishing -/

/-- Finishes a request with the outcome of its scan. -/
def finish (s : Server) (p : Purpose) (o : ScanOutcome) : Server × Except Failure Reply × Log :=
  match p with
  | .refresh timeout =>
    match ModelIndex.finishRefresh timeout o with
    | (.ok (index, summary), log) => ({ s with index := index }, .ok (.summary summary), log)
    | (.error f, log) => (s, .error f, log)
  | .search ticket shape =>
    let (session, answer, log) := s.session.finish ticket o
    let s := { s with session := session }
    (s, answer.map (s.searchReply ticket.query ticket.mode shape), log)

/-- The server with the files as a scan leaves them. -/
def withTree (s : Server) (tree : Option FileTree) : Server :=
  { s with tree := tree.getD s.tree }

/-- Answers a request from its beginning to its end; no answer if its scan never ends. -/
def answer (s : Server) (r : Request) : Server × Option (Except Failure Reply) × Log :=
  match s.begin r with
  | (s, .ended answer, log) => (s, some answer, log)
  | (s, .waiting w, log) =>
    let c := w.job.run s.tree w.job.limit?
    match c.outcome with
    | none => (s, none, log ++ c.log)
    | some o =>
      let (s, answer, last) := (s.withTree c.tree).finish w.purpose o
      (s, some answer, log ++ c.log ++ last)

end Server

end AddonAtlas
