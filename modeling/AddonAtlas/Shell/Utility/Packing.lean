import AddonAtlas.Checksum
import AddonAtlas.Shell.Utility.Files

/-!
# Packing files

A packed file begins with a mark, and ends with a checksum of its content and the content's size. The content
stands between them as it is, in blocks of a limited length.
-/

namespace AddonAtlas.Shell

namespace Packing

/-- The checksum of the content of packed files. -/
def check (content : List UInt8) : UInt32 :=
  let shift (r : UInt32) : UInt32 := if r &&& 1 ≠ 0 then (r >>> 1) ^^^ 0xedb88320 else r >>> 1
  content.foldl (fun r b => (List.range 8).foldl (fun r _ => shift r) (r ^^^ b.toUInt32)) 0xffffffff ^^^ 0xffffffff

/-- The most that a block holds. -/
def blockSize : Nat := 65535

/-- Content in blocks, of which the last one is marked. -/
def inBlocks : (fuel : Nat) → List UInt8 → List UInt8
  | 0, _ => []
  | fuel + 1, content =>
    let block := content.take blockSize
    let rest := content.drop blockSize
    let size := block.length
    (if rest.isEmpty then 1 else 0) :: Checksum.littleEndian 2 size ++ Checksum.littleEndian 2 (65535 - size) ++ block ++
      if rest.isEmpty then [] else inBlocks fuel rest

/-- The packed form of content. -/
def pack (content : List UInt8) : List UInt8 :=
  [0x1f, 0x8b, 8, 0, 0, 0, 0, 0, 0, 3] ++ inBlocks (content.length / blockSize + 1) content ++
    Checksum.littleEndian 4 (check content).toNat ++ Checksum.littleEndian 4 (content.length % 2 ^ 32)

/-- The content of blocks, and what stands behind them. -/
def fromBlocks : (fuel : Nat) → List UInt8 → Option (List UInt8 × List UInt8)
  | 0, _ => none
  | fuel + 1, mark :: a :: b :: _ :: _ :: rest =>
    let size := a.toNat + 256 * b.toNat
    if rest.length < size then none
    else if mark = 1 then some (rest.take size, rest.drop size)
    else (fromBlocks fuel (rest.drop size)).map fun (content, behind) => (rest.take size ++ content, behind)
  | _ + 1, _ => none

/-- Why something cannot be unpacked. -/
inductive Fault
  | unmarked
  | ends
  /-- What was unpacked is followed by something else. -/
  | goesOn (content : List UInt8)

/-- The content of packed files that follow each other. -/
def unpack : (fuel : Nat) → (isFirst : Bool) → List UInt8 → Except Fault (List UInt8)
  | 0, _, _ => .error .ends
  | fuel + 1, isFirst, bytes =>
    match bytes with
    | 0x1f :: 0x8b :: 8 :: _ :: _ :: _ :: _ :: _ :: _ :: _ :: rest =>
      match fromBlocks (rest.length + 1) rest with
      | none => .error .ends
      | some (content, behind) =>
        if behind.length < 8 then .error .ends
        else
          match unpack fuel false (behind.drop 8) with
          | .ok more => .ok (content ++ more)
          | .error (.goesOn more) => .error (.goesOn (content ++ more))
          | .error fault => .error fault
    | [] => if isFirst then .error .ends else .ok []
    | _ => if isFirst then .error .unmarked else .error (.goesOn [])

/-- The content of bytes, packed or not. -/
def content (bytes : List UInt8) : List UInt8 :=
  match unpack (bytes.length + 1) true bytes with
  | .ok found | .error (.goesOn found) => found
  | .error _ => bytes

/-- The endings of names of packed files. -/
def suffixes : List String := [".gz", ".z", "-gz", "-z", "_z", ".Z", ".tgz", ".taz"]

end Packing

namespace Utility

open Shell.Action

/-- What packs and unpacks calls itself. -/
def packerName : String := "gzip"

/-- Packs files, or unpacks them. -/
def packFiles (front : List String) (arguments : List String) : Action Nat := do
  let name := packerName
  let t := Options.Table.of "123456789acdfhklLnNqrS:tvVZ" [("ascii", "a"), ("to-stdout", "c"), ("stdout", "c"),
    ("decompress", "d"), ("uncompress", "d"), ("force", "f"), ("help", "h"), ("keep", "k"), ("list", "l"),
    ("license", "L"), ("no-name", "n"), ("name", "N"), ("quiet", "q"), ("silent", "q"), ("recursive", "r"),
    ("suffix=", "S"), ("test", "t"), ("verbose", "v"), ("version", "V"), ("fast", "1"), ("best", "9"),
    ("rsyncable", "rsyncable"), ("synchronous", "synchronous")]
  let r := Options.read t true (front ++ arguments)
  match r.fault? with
  | some fault =>
    complain name fault
    say ("Try " ++ String.singleton (Char.ofNat 96) ++ name ++ " --help' for more information.\n")
    return 1
  | none =>
    let given := r.options
    let isUnpacking := has given "d" || has given "t" || has given "l"
    let isTest := has given "t" || has given "l"
    let isForced := has given "f"
    let suffix := (value? given "S").getD ".gz"
    let files := if r.operands.isEmpty then ["-"] else r.operands
    let mut status := 0
    let worse (old new : Nat) : Nat := if old = 1 ∨ new = 1 then 1 else max old new
    for file in files do
      let writesOut := has given "c" || file = "-"
      let known := (suffix :: Packing.suffixes).filter fun s => file.endsWith s && s.length < file.length
      let m ← get
      let isMissing := file ≠ "-" && (m.find? file).isNone
      let source := if isMissing && isUnpacking && known.isEmpty then file ++ ".gz" else file
      let title := if file = "-" then "stdin" else source
      let known := (suffix :: Packing.suffixes).filter fun s => source.endsWith s && s.length < source.length
      match ← Utility.read source with
      | .error (.reading .isDirectory) =>
        if !has given "q" then complain name (source ++ " is a directory -- ignored")
        status := worse status 2
      | .error u =>
        complain name (source ++ ": " ++ u.description)
        status := 1
      | .ok b =>
        let result : Except String (List UInt8 × Option String) :=
          if isUnpacking then
            match Packing.unpack (b.size + 1) true b.toList with
            | .ok content => .ok (content, none)
            | .error (.goesOn content) => .ok (content, some "decompression OK, trailing garbage ignored")
            | .error .unmarked => if isForced && writesOut then .ok (b.toList, none) else .error "not in gzip format"
            | .error .ends => if isForced && writesOut && b.isEmpty then .ok ([], none) else .error "unexpected end of file"
          else .ok (Packing.pack b.toList, none)
        let target? : Option String :=
          if writesOut || isTest then none
          else if isUnpacking then
            known.head?.map fun s =>
              let front := (source.dropEnd s.length).toString
              if s = ".tgz" ∨ s = ".taz" then front ++ ".tar" else front
          else some (source ++ suffix)
        if isUnpacking && !writesOut && !isTest && known.isEmpty then
          if !has given "q" then complain name (source ++ ": unknown suffix -- ignored")
          status := worse status 2
        else if !isUnpacking && !writesOut && !known.isEmpty && !isForced then
          if !has given "q" then
            complain name (source ++ " already has " ++ known.headD "" ++ " suffix -- unchanged")
          status := worse status 2
        else
          match result with
          | .error message =>
            say ("\n" ++ name ++ ": " ++ title ++ ": " ++ message ++ "\n")
            status := 1
          | .ok (content, warning?) =>
            let bytes := Bytes.ofList content
            match target? with
            | none =>
              if !isTest then
                if let some e := ← put? bytes then
                  complain name ("stdout: " ++ e.description)
                  return 1
            | some target =>
              if ((← get).find? target).isSome && !isForced then
                complain name (target ++ " already exists;\tnot overwritten")
                status := worse status 2
              else
                match ← writeFile target false bytes with
                | some e =>
                  complain name (target ++ ": " ++ e.description)
                  status := 1
                | none =>
                  if !has given "k" then
                    let m ← get
                    if let .ok (place, _) := resolve m source then set { m with tree := m.tree.remove place }
            if let some w := warning? then
              if !has given "q" then say ("\n" ++ name ++ ": " ++ title ++ ": " ++ w ++ "\n")
              status := worse status 2
    return status

end Utility

end AddonAtlas.Shell
