import AddonAtlas.CommandLine.Program

/-!
# Running the program

The outer layer: it takes a snapshot of the environment and of the files that the program will look at,
runs the program on them, and writes out what the run shows.
-/

open AddonAtlas

/-- The variables that the program looks at. -/
def variableNames : List String :=
  ["COLUMNS", "HOME", "ODOO_MCP_CONFIG", "ODOO_ADDONS_PATH", "ODOO_GREP", "ODOO_SCAN_TIMEOUT",
    "ODOO_MAX_OUTPUT", "ODOO_MCP_PORT"]

def readEnvironment : IO Environment := do
  let values ← variableNames.filterMapM fun name => do
    return (← IO.getEnv name).map fun value => (name, value)
  return ⟨values⟩

/-- Whether a file's bytes begin like those of a script. -/
def looksLikeScript (content : ByteArray) : Bool :=
  content.toList.take 2 == "#!".toUTF8.toList

/-- Takes what is at a path, and below it, into the snapshot. A directory that is reached through itself
is not entered again, and what cannot be read is left out. -/
partial def takeIn (above : List String) (t : FileTree) (path : String) : IO FileTree := do
  try
    let place ← IO.FS.realPath path
    if ← place.isDir then
      if above.contains place.toString then return t
      let mut t := (t.makeDirectory path).toOption.getD t
      for entry in ← place.readDir do
        t ← takeIn (place.toString :: above) t (path ++ "/" ++ entry.fileName)
      return t
    else
      let content ← IO.FS.readBinFile path
      return (t.writeFile path (.ofByteArray content) (looksLikeScript content)).toOption.getD t
  catch _ => return t

/-- The snapshot of the settings file, and of the program that scans and the roots it is to scan. -/
def takeSnapshot (e : Environment) (override : Option String) : IO FileTree := do
  let t ←
    match (e.given? "ODOO_MCP_CONFIG").map (settingsPath e) with
    | some (.ok path) => takeIn [] .empty path
    | _ => pure .empty
  match Config.load t e override with
  | (.ok c, _) => (c.grep :: c.roots).foldlM (takeIn []) t
  | _ => return t

def main (arguments : List String) : IO UInt32 := do
  let e ← readEnvironment
  let t ←
    match CommandLine.parse arguments with
    | .arguments a => takeSnapshot e a.addonsPath
    | _ => pure .empty
  let run := CommandLine.run t e arguments [] .returns
  for r in run.log do
    IO.eprintln r.render
  IO.print run.output
  IO.eprint run.errors
  match run.exit with
  | .returned => return 0
  | .status code => return code.toUInt32
  | .escaped f =>
    IO.eprintln f.message
    return 1
