import AddonAtlas.CommandLine.Arguments
import Mathlib.Logic.Basic

/-!
# The option for the summary

Arguments that are understood are options with their arguments, and nothing else (`Taken`) : whatever
is left over in the end makes them be refused. So an argument that spells out `--index-only` is taken
as this option, wherever it stands (`indexOnly_of_mem`). The two dashes, behind which it would be an
argument like any other, are left over themselves, since no option takes them for its own argument.
-/

namespace AddonAtlas.CommandLine

/-- The option for the summary, spelled out. -/
def indexOnlyUse : Use := ⟨.indexOnly, "--index-only", none⟩

theorem classify_indexOnly : classify "--index-only" = .ok (.option indexOnlyUse) := by rfl

theorem mem_classifyAll {arguments : List String} {classes : List (String × Class)}
    (h : classifyAll arguments = .ok classes) (hmem : "--index-only" ∈ arguments) :
    .option indexOnlyUse ∈ classes.map Prod.snd ∨ .dashes ∈ classes.map Prod.snd := by
  induction arguments generalizing classes with
  | nil => cases hmem
  | cons s rest ih =>
    rw [classifyAll] at h
    split at h
    · cases h
      exact .inr List.mem_cons_self
    · cases hs : classify s with
      | error message =>
        rw [hs] at h
        cases h
      | ok c =>
        cases hrest : classifyAll rest with
        | error message =>
          rw [hs, hrest] at h
          cases h
        | ok cs =>
          rw [hs, hrest] at h
          cases h
          rcases List.mem_cons.1 hmem with rfl | hmem
          · cases classify_indexOnly.symm.trans hs
            exact .inl List.mem_cons_self
          · exact (ih hrest hmem).imp (List.mem_cons_of_mem _) (List.mem_cons_of_mem _)

/-! ## What comes of one option -/

/-- What may come of an option : a refusal or the help, or arguments that ask for the summary only
if they did before or the option does. -/
def Sets (a : Arguments) (f : Flag) : Except Parsed Arguments → Prop
  | .ok a₁ => a₁.indexOnly = (a.indexOnly || f = .indexOnly)
  | .error p => ∀ a', p ≠ .arguments a'

theorem Sets.ne_arguments {a a' : Arguments} {f : Flag} {x : Except Parsed Arguments} {p : Parsed}
    (h : Sets a f x) (hx : x = .error p) : p ≠ .arguments a' := by
  subst hx
  exact h a'

theorem sets_take (a : Arguments) (f : Flag) : Sets a f (take a f) := by
  cases f <;> simp [Sets, take]

theorem sets_takeAttached (a : Arguments) (u : Use) (argument : String) :
    Sets a u.flag (takeAttached a u argument) := by
  simp only [takeAttached]
  split
  · exact sets_take a u.flag
  · simp [Sets, refusal]

theorem sets_set (a : Arguments) {f : Flag} (hf : f.takesArgument = true) (argument : String) :
    Sets a f (set a f argument) := by
  cases f with
  | help => cases hf
  | indexOnly => cases hf
  | addonsPath => simp [Sets, set]
  | transport =>
    simp only [set]
    split
    · simp [Sets]
    · split <;> simp [Sets, refusal]

/-! ## What comes of all arguments -/

/-- How arguments that are understood are taken, option by option. -/
inductive Taken : Arguments → List (String × Class) → Arguments → Prop
  | done {a : Arguments} : Taken a [] a
  | option {a a₁ a' : Arguments} {s : String} {u : Use} {rest : List (String × Class)}
      (sets : Sets a u.flag (.ok a₁)) (after : Taken a₁ rest a') :
      Taken a ((s, .option u) :: rest) a'
  | withArgument {a a₁ a' : Arguments} {s argument : String} {u : Use}
      {rest : List (String × Class)} (sets : Sets a u.flag (.ok a₁)) (after : Taken a₁ rest a') :
      Taken a ((s, .option u) :: (argument, .plain) :: rest) a'

theorem taken_of_takeAll {a a' : Arguments} {left : List String} {classes : List (String × Class)}
    (h : takeAll a left classes = .arguments a') : left = [] ∧ Taken a classes a' := by
  fun_induction takeAll a left classes with
  | case1 a left hleft =>
    cases h
    exact ⟨List.isEmpty_iff.1 hleft, .done⟩
  | case2 => cases h
  -- What is no option is left over, and stays so.
  | case3 a left s rest ih | case4 a left s rest ih | case5 a left s rest ih => cases (ih h).1
  | case6 a left s u rest argument _ htakes a₁ hset ih =>
    exact ⟨(ih h).1, .option (hset ▸ sets_set a htakes argument) (ih h).2⟩
  | case7 a left s u rest argument _ htakes p hset =>
    exact absurd h ((sets_set a htakes argument).ne_arguments hset)
  | case8 a left s u _ htakes argument rest a₁ hset ih =>
    exact ⟨(ih h).1, .withArgument (hset ▸ sets_set a htakes argument) (ih h).2⟩
  | case9 a left s u _ htakes argument rest p hset =>
    exact absurd h ((sets_set a htakes argument).ne_arguments hset)
  | case10 => cases h
  | case11 a left s u rest argument _ _ a₁ htake ih =>
    exact ⟨(ih h).1, .option (htake ▸ sets_takeAttached a u argument) (ih h).2⟩
  | case12 a left s u rest argument _ _ p htake =>
    exact absurd h ((sets_takeAttached a u argument).ne_arguments htake)
  | case13 a left s u rest _ _ a₁ htake ih =>
    exact ⟨(ih h).1, .option (htake ▸ sets_take a u.flag) (ih h).2⟩
  | case14 a left s u rest _ _ p htake =>
    exact absurd h ((sets_take a u.flag).ne_arguments htake)

namespace Taken

variable {a a' : Arguments} {classes : List (String × Class)}

theorem notMem_dashes (h : Taken a classes a') : .dashes ∉ classes.map Prod.snd := by
  induction h with
  | done => exact List.not_mem_nil
  | option _ _ ih => simpa using ih
  | withArgument _ _ ih => simpa using ih

theorem indexOnly_iff (h : Taken a classes a') : a'.indexOnly = true ↔
    a.indexOnly = true ∨ ∃ u, .option u ∈ classes.map Prod.snd ∧ u.flag = .indexOnly := by
  induction h with
  | done => simp
  | option sets _ ih | withArgument sets _ ih =>
    rw [ih, show _ = _ from sets]
    simp [or_assoc, or_and_right, exists_or]

end Taken

/-- Arguments that are understood ask for the summary if the option is among them. -/
theorem indexOnly_of_mem {arguments : List String} {a : Arguments}
    (h : parse arguments = .arguments a) (hmem : "--index-only" ∈ arguments) :
    a.indexOnly = true := by
  cases hclasses : classifyAll arguments with
  | error message => simp [parse, hclasses] at h
  | ok classes =>
    simp only [parse, hclasses] at h
    obtain ⟨-, htaken⟩ := taken_of_takeAll h
    have hgiven := (mem_classifyAll hclasses hmem).resolve_right htaken.notMem_dashes
    exact htaken.indexOnly_iff.2 (.inr ⟨indexOnlyUse, hgiven, rfl⟩)

end AddonAtlas.CommandLine
