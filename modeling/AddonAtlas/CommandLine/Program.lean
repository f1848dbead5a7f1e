import AddonAtlas.CommandLine.Help
import AddonAtlas.Server.Basic

/-!
# The program

A run of the program: the command line and the configuration are read and checked, then either the
index is built once for its summary, or a server is built and serves calls. A run shows in its log, its
outputs, and how it ends.
-/

namespace AddonAtlas.CommandLine

/-- How serving ends. -/
inductive ServingEnd
  | returns
  | interrupted
  | fails (failure : Failure)
deriving DecidableEq, Repr

/-- What a server was asked while it served. -/
structure Served where
  transport : Transport
  /-- The port, for the transport that has one. -/
  port : Option Int
  answers : List (Except Failure Reply)

/-- How a run ends. -/
inductive Exit
  | returned
  | status (code : Nat)
  | escaped (failure : Failure)
deriving DecidableEq, Repr

structure Run where
  log : Log
  output : String
  errors : String
  served : List Served
  exit : Exit

namespace Run

def ended (log : Log) (exit : Exit) : Run :=
  ⟨log, "", "", [], exit⟩

/-- The run with what came before in its log. -/
def after (r : Run) (log : Log) : Run :=
  { r with log := log ++ r.log }

end Run

/-- The name under which the server presents itself. -/
def serverName : String := "odooMCP"

/-- The address on which a port is served. -/
def serverHost : String := "0.0.0.0"

def ruler : LogRecord :=
  .info (String.ofList (List.replicate 50 '='))

/-- What is logged of the configuration at the start. -/
def banner (c : Config) (a : Arguments) : Log :=
  let roots := ",".intercalate c.roots
  [ruler, .info "odooMCP starting...",
    .info ("  ADDONS_PATH: " ++ (if roots = "" then "(not set)" else roots)),
    .info ("  GREP:        " ++ c.grep),
    .info ("  TIMEOUT:     " ++ (c.scanTimeout.map Seconds.text).getD "none"),
    .info ("  TRANSPORT:   " ++ (a.transport.map Transport.name).getD "[]"), ruler]

/-- The summary of an index that was built only for it. -/
def indexRecord (s : IndexSummary) : LogRecord :=
  .info ("Index: " ++ toString s.models ++ " models, " ++ toString s.declarations ++
    " declarations" ++ (s.notice.map fun n => " (" ++ n ++ ")").getD "")

/-- What is logged of the index that a server starts with. -/
def initialRecord (s : IndexSummary) : LogRecord :=
  match s.notice with
  | some notice => .warning ("Initial index: " ++ notice)
  | none =>
    .info ("Initial index complete: " ++ toString s.models ++ " models, " ++
      toString s.declarations ++ " declarations")

/-- Refreshes the index of a server. -/
def refresh (s : Server) : Server × Except Failure IndexSummary × Log :=
  match s.answer .refresh with
  | (s, some (.ok (.summary summary)), log) => (s, .ok summary, log)
  | (s, some (.error f), log) => (s, .error f, log)
  | (s, _, log) => (s, .error ⟨.timeout, ""⟩, log)

/-- Builds the index for its summary. The exit status says whether there is anything in it. -/
def indexOnly (s : Server) : Run :=
  match refresh s with
  | (_, .error f, log) => .ended log (.escaped f)
  | (_, .ok summary, log) =>
    .ended (log ++ [indexRecord summary]) (.status (if summary.notice.isNone then 0 else 1))

/-- Serves calls of tools one after the other. -/
def serve (s : Server) : List Tool → List (Except Failure Reply) × Log
  | [] => ([], [])
  | t :: rest =>
    let (s, answer, log) := s.answer (.tool t)
    let (answers, more) := serve s rest
    (answer.toList ++ answers, log ++ more)

def serverError : LogRecord :=
  .error "Server error"

/-- Builds a server and serves. -/
def runServer (s : Server) (c : Config) (a : Arguments) (calls : List Tool) (ending : ServingEnd) :
    Run :=
  let opening : LogRecord := .info "Building initial model index..."
  match refresh s with
  | (_, .error _, log) => .ended (opening :: log ++ [serverError]) (.status 1)
  | (s, .ok summary, log) =>
    let built := opening :: log ++
      [initialRecord summary, .info "Registering resources...", .info "Registering tools...",
        .info "Server configured successfully"]
    let (announced, port) :=
      match a.transport with
      | some .sse =>
        ([LogRecord.info ("Starting MCP server on port " ++ toString c.port ++ "...")], some c.port)
      | _ => ([], none)
    let (answers, served) := serve s calls
    let (last, exit) :=
      match ending with
      | .returns => ([], Exit.returned)
      | .interrupted => ([LogRecord.info "Server stopped by user"], .status 0)
      | .fails _ => ([serverError], .status 1)
    { log := built ++ announced ++ served ++ last
      output := ""
      errors := ""
      served := [⟨a.transport.getD .stdio, port, answers⟩]
      exit := exit }

/-- Runs the program with arguments that were understood. -/
def runWith (t : FileTree) (e : Environment) (a : Arguments) (calls : List Tool)
    (ending : ServingEnd) : Run :=
  match Config.load t e a.addonsPath with
  | (.error f, log) =>
    if f.kind.isValue then
      .ended (log ++ [.error ("Invalid configuration: " ++ f.message)]) (.status 2)
    else .ended log (.escaped f)
  | (.ok c, log) =>
    let s := Server.new t e (.loaded a.addonsPath) (.program false)
    let run := if a.indexOnly then indexOnly s else runServer s c a calls ending
    run.after (log ++ banner c a)

/-- Runs the program. -/
def run (t : FileTree) (e : Environment) (arguments : List String) (calls : List Tool)
    (ending : ServingEnd) : Run :=
  let columns := columnsOf (e.get? "COLUMNS")
  match parse arguments with
  | .arguments a => runWith t e a calls ending
  | .help => ⟨[], helpText columns, "", [], .status 0⟩
  | .refused message => ⟨[], "", refusalText columns message, [], .status 2⟩

end AddonAtlas.CommandLine
