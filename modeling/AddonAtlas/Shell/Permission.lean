import AddonAtlas.Shell.Arithmetic

/-!
# Permissions

Permissions are nine bits with three more in front, and are written in octal digits or as clauses such as
`go-w`. A mask has the bits that new files do not get.
-/

namespace AddonAtlas.Shell

/-! ## Clauses -/

/-- What a clause such as `g+w` makes of permissions. -/
structure ModeClause where
  /-- The bits of those concerned; with none named, all that new files may have. -/
  who : List Char
  operator : Char
  rights : List Char

/-- The clauses of a list such as `u+x,go-w`; nothing if it is none. -/
def modeClauses? (s : String) : Option (List ModeClause) := do
  let lists ← (s.toList.splitOn ',').mapM fun cs => do
    let who := cs.takeWhile fun c => "ugoa".toList.contains c
    let parts ← clauses who (cs.length + 1) (cs.drop who.length)
    if parts.isEmpty then none else some parts
  return lists.flatten
where
  /-- Reads operators with the rights behind them. -/
  clauses (who : List Char) : (fuel : Nat) → List Char → Option (List ModeClause)
    | 0, _ => none
    | _ + 1, [] => some []
    | fuel + 1, c :: rest =>
      if "+-=".toList.contains c then
        let rights := rest.takeWhile fun c => "rwxXstugo".toList.contains c
        (clauses who fuel (rest.drop rights.length)).map (⟨who, c, rights⟩ :: ·)
      else none

/-- The permissions that a clause makes of others. -/
def ModeClause.apply (k : ModeClause) (isDirectory : Bool) (mask mode : Nat) : Nat :=
  let bits (c : Char) : Nat :=
    match c with
    | 'r' => 0o444
    | 'w' => 0o222
    | 'x' => 0o111
    | 'X' => if isDirectory || mode &&& 0o111 ≠ 0 then 0o111 else 0
    | 's' => 0o6000
    | 't' => 0o1000
    | 'u' => (mode / 64 % 8) * 0o111
    | 'g' => (mode / 8 % 8) * 0o111
    | _ => (mode % 8) * 0o111
  let concerned (c : Char) : Nat :=
    match c with
    | 'u' => 0o4700
    | 'g' => 0o2070
    | 'o' => 0o1007
    | _ => 0o7777
  let reach := if k.who.isEmpty then 0o7777 - (0o7777 &&& mask) else (k.who.map concerned).foldl (· ||| ·) 0
  let rights := ((k.rights.map bits).foldl (· ||| ·) 0) &&& reach
  match k.operator with
  | '+' => mode ||| rights
  | '-' => mode - (mode &&& rights)
  | _ =>
    let replaced := if k.who.isEmpty then 0o777 else reach &&& 0o777
    (mode - (mode &&& replaced)) ||| rights

/-- How permissions change by what a text says. -/
def modeChange? (s : String) : Option (Bool → Nat → Nat → Nat) :=
  let cs := s.toList
  if !cs.isEmpty && cs.all fun c => '0' ≤ c && c ≤ '7' then
    let n := (Arithmetic.digitsOf 8 cs).1
    if n ≤ 0o7777 then some fun _ _ _ => n else none
  else
    (modeClauses? s).map fun ks isDirectory mask mode =>
      ks.foldl (fun mode k => k.apply isDirectory mask mode) mode

/-- Permissions in octal digits. -/
def octalMode (mode width : Nat) : String :=
  let ds := Nat.toDigits 8 mode
  String.ofList (List.replicate (width - ds.length) '0' ++ ds)

/-! ## Masks -/

namespace PermissionMask

/-- A mask as the permissions that it leaves. -/
def letters (mask : Nat) : String :=
  let right (bits step : Nat) (c : Char) : List Char := if bits / step % 2 = 0 then [c] else []
  let three (who : String) (bits : Nat) : String :=
    who ++ "=" ++ String.ofList (right bits 4 'r' ++ right bits 2 'w' ++ right bits 1 'x')
  ",".intercalate [three "u" (mask / 64), three "g" (mask / 8), three "o" mask]

/-- The permissions that clauses make of others. Clauses end with a comma, and an operator behind rights is for
the same ones; nothing if the text cannot be read to its end. -/
def afterClauses? (old : Nat) : (fuel : Nat) → (who new : Nat) → List Char → Option Nat
  | 0, _, _, _ => none
  | _ + 1, _, new, [] => some new
  | fuel + 1, who, new, cs =>
    let named := cs.takeWhile fun c => "augo".toList.contains c
    let bit (c : Char) : Nat :=
      match c with
      | 'a' => 0o111
      | 'u' => 0o100
      | 'g' => 0o010
      | _ => 0o001
    let who := (named.map bit).foldl (· ||| ·) who
    let who := if who = 0 then 0o111 else who
    match cs.drop named.length with
    | [] => none
    | operator :: rest =>
      if !"=+-".toList.contains operator then none
      else
        let rights := rest.takeWhile fun c => "rwxugoXs".toList.contains c
        let right (c : Char) : Nat :=
          match c with
          | 'r' => 4
          | 'w' => 2
          | 'x' => 1
          | 'u' => old / 64 % 8
          | 'g' => old / 8 % 8
          | 'o' => old % 8
          | 'X' => if old &&& 0o111 ≠ 0 then 1 else 0
          | _ => 0
        let value := (rights.map right).foldl (· ||| ·) 0 * who
        let new :=
          match operator with
          | '-' => new - (new &&& value)
          | '+' => new ||| value
          | _ => value ||| (new - (new &&& (who * 7)))
        match rest.drop rights.length with
        | ',' :: rest => afterClauses? old fuel 0 new rest
        | [] => some new
        | c :: rest => if "=+-".toList.contains c then afterClauses? old fuel who new (c :: rest) else none

/-- The mask that clauses make of another one. -/
def change? (mask : Nat) (clauses : String) : Option Nat :=
  (afterClauses? (0o777 - mask) (clauses.length + 1) 0 (0o777 - mask) clauses.toList).map (0o777 - ·)

end PermissionMask

end AddonAtlas.Shell
