import AddonAtlas.Shell.Utility.Files

/-!
# Programs that order what is known only in part

A list of pairs is put in an order in which the first of each pair comes before the second; where pairs go
round in a circle, it is told and broken. A list can also be put in any order, which is that in which it is given.
-/

namespace AddonAtlas.Shell

namespace Utility

open Shell.Action

namespace Sequence

/-- A name with how many others come before it, and those that come behind it, the last that was told first. -/
structure Node where
  name : String
  count : Nat
  followers : List Nat
  isDone : Bool
  /-- The node that was met before it on the way round a circle. -/
  link : Option Nat

/-- All names in their order. -/
def nodes (tokens : List String) : Array Node :=
  let sorted := (tokens.mergeSort fun a b => a ≤ b).foldr (fun s (found : List String) =>
    if found.head? = some s then found else s :: found) []
  (sorted.map fun s => ⟨s, 0, [], false, none⟩).toArray

def change (nodes : Array Node) (i : Nat) (f : Node → Node) : Array Node :=
  match nodes[i]? with
  | some n => nodes.setIfInBounds i (f n)
  | none => nodes

/-- The nodes with what pairs tell of them. -/
def withPairs (nodes : Array Node) : List String → Array Node
  | a :: b :: rest =>
    let place (s : String) : Nat := (nodes.findIdx? fun n => n.name = s).getD 0
    let next :=
      if a = b then nodes
      else
        change (change nodes (place b) fun n => { n with count := n.count + 1 }) (place a) fun n =>
          { n with followers := place b :: n.followers }
    withPairs next rest
  | _ => nodes

/-- Writes the names in a queue, and those that come next. -/
def drain : (fuel : Nat) → Array Node → List Nat → List String → Array Node × List String
  | 0, nodes, _, out => (nodes, out)
  | _ + 1, nodes, [], out => (nodes, out)
  | fuel + 1, nodes, i :: queue, out =>
    let n := nodes[i]?
    let followers := (n.map (·.followers)).getD []
    let nodes := change nodes i fun n => { n with isDone := true }
    let (nodes, queue) := followers.foldl (fun (s : Array Node × List Nat) j =>
      let nodes := change s.1 j fun n => { n with count := n.count - 1 }
      if (nodes[j]?.map (·.count)) = some 0 then (nodes, s.2 ++ [j]) else (nodes, s.2)) (nodes, queue)
    drain fuel nodes queue (out ++ (n.map (·.name)).toList)

/-- The names on the way round a circle from one node, up to another one. -/
def circle (nodes : Array Node) (last : Nat) : (fuel : Nat) → (i : Nat) → List String
  | 0, _ => []
  | fuel + 1, i =>
    match nodes[i]? with
    | some n =>
      n.name :: if i = last then [] else
        match n.link with
        | some j => circle nodes last fuel j
        | none => []
    | none => []

/-- Looks for a circle among the nodes from one on, the last one that was met in hand; what was found of one
that is broken thereby. -/
def meet : (fuel : Nat) → Array Node → (i : Nat) → (current : Option Nat) →
    Array Node × Option Nat × Option (List String)
  | 0, nodes, _, current => (nodes, current, none)
  | fuel + 1, nodes, i, current =>
    match nodes[i]? with
    | none => (nodes, current, none)
    | some n =>
      if n.count = 0 then meet fuel nodes (i + 1) current
      else
        match current with
        | none => meet fuel nodes (i + 1) (some i)
        | some j =>
          if n.followers.contains j then
            if n.link.isSome then
              let found := circle nodes i (nodes.size + 1) j
              let nodes := change nodes i fun n => { n with followers := n.followers.erase j }
              let nodes := change nodes j fun n => { n with count := n.count - 1 }
              (nodes.map fun n => { n with link := none }, none, some found)
            else
              let nodes := change nodes i fun n => { n with link := some j }
              meet fuel nodes (i + 1) (some i)
          else meet fuel nodes (i + 1) current

/-- Looks for a circle over and over. -/
def findCircle : (fuel : Nat) → Array Node → Option Nat → Array Node × List String
  | 0, nodes, _ => (nodes, [])
  | fuel + 1, nodes, current =>
    match meet (nodes.size + 1) nodes 0 current with
    | (nodes, _, some found) => (nodes, found)
    | (nodes, none, none) => (nodes, [])
    | (nodes, some j, none) => findCircle fuel nodes (some j)

end Sequence

open Sequence in
/-- Puts what pairs tell of in an order. -/
def orderPairs (name : String) (arguments : List String) : Action Nat :=
  withOptions name (.of "" [("help", "help"), ("version", "version")]) true 1 arguments fun _ files => do
    match files with
    | _ :: extra :: _ => misuse name ("extra operand " ++ Quotation.quoted extra) 1
    | _ =>
      let file := files.headD "-"
      let title := Quotation.forShell file
      match ← Utility.read file with
      | .error (.opening e) => giveUp name (title ++ ": " ++ e.description) 1
      | .error (.reading e) => giveUp name (title ++ ": read error: " ++ e.description) 1
      | .ok b =>
        let isBlank (c : Char) : Bool := c == ' ' || c == '\t' || c == '\n'
        let tokens := ((charactersOf b).splitOnP isBlank).filter (!·.isEmpty) |>.map String.ofList
        if tokens.length % 2 = 1 then giveUp name (title ++ ": input contains an odd number of tokens") 1
        else
          let mut all := withPairs (nodes tokens) tokens
          let mut status := 0
          for _ in List.range (tokens.length + 1) do
            let ready := (List.range all.size).filter fun i => all[i]?.any fun n => n.count = 0 && !n.isDone
            let (next, out) := drain (all.size + 1) all ready []
            all := next
            let r ← finish name 1 (String.join (out.map (· ++ "\n"))).toList status
            status := max status r
            if all.any fun n => !n.isDone then
              complain name (title ++ ": input contains a loop:")
              status := 1
              let (next, found) := findCircle (all.size * all.size + 2) all none
              all := next
              for s in found do complain name s
            else return status
          return status

/-- The numbers of a range of whole numbers. -/
def rangeOf? (s : String) : Option (Nat × Nat) :=
  match s.toList.splitOn '-' with
  | [a, b] =>
    match natural? a, natural? b with
    | some a, some b => if a ≤ b + 1 then some (a, b) else none
    | _, _ => none
  | _ => none

/-- Writes lines in any order. -/
def shuffle (name : String) (arguments : List String) : Action Nat :=
  withOptions name (.of "ei:n:o:rz" [("echo", "e"), ("input-range=", "i"), ("head-count=", "n"), ("output=", "o"),
    ("random-source=", "random-source"), ("repeat", "r"), ("zero-terminated", "z"), ("help", "help"),
    ("version", "version")]) true 1 arguments fun given operands => do
      let range := value? given "i"
      let counts := (given.filter fun g => g.option = "n").map fun g => g.value.getD ""
      match range.filter (fun s => (rangeOf? s).isNone), counts.find? fun s => (natural? s.toList).isNone with
      | some s, _ => giveUp name ("invalid input range: " ++ Quotation.quoted s) 1
      | none, some s => giveUp name ("invalid line count: " ++ Quotation.quoted s) 1
      | none, none =>
        if has given "e" && range.isSome then misuse name "cannot combine -e and -i options" 1
        else
          let extra := if range.isSome then operands.head? else if has given "e" then none else (operands.drop 1).head?
          match extra with
          | some s => misuse name ("extra operand " ++ Quotation.quoted s) 1
          | none =>
            let ending := lineEnd given
            let lines : Except Unreadable (List Line) ←
              if has given "e" then pure (.ok (operands.map String.toList))
              else
                match range.bind rangeOf? with
                | some (a, b) => pure (.ok ((List.range (b + 1 - a)).map fun i => (toString (a + i)).toList))
                | none => do
                  match ← Utility.read (operands.headD "-") with
                  | .ok b => pure (.ok (bareLines ending (charactersOf b)))
                  | .error u => pure (.error u)
            match lines with
            | .error (.opening e) => giveUp name (Quotation.forShell (operands.headD "-") ++ ": " ++ e.description) 1
            | .error (.reading e) => giveUp name ("read error: " ++ e.description) 1
            | .ok lines =>
              let count := ((counts.filterMap fun s => natural? s.toList).min?).getD (if has given "r" then 100000 else lines.length)
              if has given "r" && lines.isEmpty && 0 < count then giveUp name "no lines to repeat" 1
              else
                let shown :=
                  if has given "r" then (List.range count).map fun i => lines.getD (i % lines.length) []
                  else lines.take count
                let cs := joined ending shown
                match value? given "o" with
                | some file =>
                  match ← writeText file cs with
                  | none => return 0
                  | some e => giveUp name (Quotation.forShell file ++ ": " ++ e.description) 1
                | none => finish name 1 cs 0

end Utility

end AddonAtlas.Shell
