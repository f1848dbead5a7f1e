import AddonAtlas.Failure

/-!
# The environment

The variables a program is started with, and the home directories they and the system know. A path
that begins with `~` begins with a home directory.
-/

namespace AddonAtlas

/-! ## Home directories -/

/-- The home directories of users by their names. Who runs the program goes without a name. -/
structure Homes where
  home? : String → Option String

/-- A path with the home directory in place of a `~` or a `~user` in front. An unknown user's is left
as it is, but no user's name has a NUL. -/
def Homes.expand (homes : Homes) (path : String) : Except Failure String :=
  match path.toList with
  | '~' :: rest =>
    let user := rest.takeWhile (· != '/')
    if user.contains '\x00' then .error ⟨.value, "embedded null byte"⟩
    else
      match homes.home? (String.ofList user) with
      | none => .ok path
      | some home =>
        let bare := (home.toList.reverse.dropWhile (· == '/')).reverse
        let expanded := bare ++ rest.dropWhile (· != '/')
        .ok (if expanded.isEmpty then "/" else String.ofList expanded)
  | _ => .ok path

/-! ## Variables -/

/-- Variables with their values. -/
structure Environment where
  bindings : List (String × String)

namespace Environment

def get? (e : Environment) (name : String) : Option String :=
  (e.bindings.find? fun v => v.1 = name).map (·.2)

/-- The value of a variable that is set and not empty. -/
def given? (e : Environment) (name : String) : Option String :=
  match e.get? name with
  | some "" => none
  | v => v

/-- What the names of all settings begin with. -/
def settingMark : String := "ODOO_"

/-- The environment with a variable set. -/
def set (e : Environment) (name value : String) : Environment :=
  if (e.get? name).isSome then ⟨e.bindings.map fun v => if v.1 = name then (name, value) else v⟩
  else ⟨e.bindings ++ [(name, value)]⟩

/-- The environment with other settings, and with the other variables that are given. -/
def renewed (e : Environment) (given : List (String × String)) : Environment :=
  let others := e.bindings.filter fun v => !v.1.startsWith settingMark
  given.foldl (fun e (name, value) => e.set name value) ⟨others⟩

/-- The home directories of the users that every system has. -/
def systemHomes : List (String × String) :=
  [("root", "/root"), ("daemon", "/usr/sbin"), ("bin", "/bin"), ("sys", "/dev"), ("sync", "/bin"),
    ("games", "/usr/games"), ("man", "/var/cache/man"), ("lp", "/var/spool/lpd"),
    ("mail", "/var/mail"), ("news", "/var/spool/news"), ("uucp", "/var/spool/uucp"),
    ("proxy", "/bin"), ("www-data", "/var/www"), ("backup", "/var/backups"), ("list", "/var/list"),
    ("irc", "/run/ircd"), ("_apt", "/nonexistent"), ("nobody", "/nonexistent")]

/-- The home directory of a user, by name; without a name, of the user who runs the program. -/
def home? (e : Environment) (user : String) : Option String :=
  if user = "" then some ((e.get? "HOME").getD "/root")
  else (systemHomes.find? fun h => h.1 = user).map (·.2)

/-- The home directories that are known in an environment. -/
def homes (e : Environment) : Homes :=
  ⟨e.home?⟩

instance : Coe Environment Homes := ⟨homes⟩

/-- A path with the home directory in place of a `~` or a `~user` in front. -/
def expandHome (e : Environment) (path : String) : Except Failure String :=
  e.homes.expand path

end Environment

end AddonAtlas
