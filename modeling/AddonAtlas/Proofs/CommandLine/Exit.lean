import AddonAtlas.CommandLine.Program
import AddonAtlas.Proofs.FileTree
import AddonAtlas.Proofs.Scan.Raising
import AddonAtlas.Proofs.Server.Refreshing
import AddonAtlas.Proofs.Settings.Escaping

/-!
# How a run of the program ends

A run returns or ends with a status of at most two. Arguments that are not understood, and settings
that are refused, are told and end it with two ; whatever happens to a server ends it with one. Only
two parts of a run have failures that nothing catches : the loading of the configuration, which
catches those about values and no others, and the index that is built only for its summary, when its
scan raises. These are the failures that leave a run (`Escape`, `exit_run`).
-/

namespace AddonAtlas

/-! ## A refresh of a server that is new -/

namespace Config

/-- A time limit that was loaded leaves some time. -/
theorem isPositive_of_readTimeout {text : String} {limit : Option Seconds}
    (h : readTimeout text = .ok limit) : (limit.any fun x => !x.isPositive) = false := by
  unfold readTimeout at h
  split at h
  · cases h
  · next x hx =>
    split at h
    · cases h
    · next hnegative =>
      cases h
      cases hzero : x.isZero with
      | true => rfl
      | false => simp [Seconds.isPositive, hzero, hnegative]

theorem isPositive_of_load {t : FileTree} {e : Environment} {override : Option String} {c : Config}
    (h : (load t e override).1 = .ok c) : (c.scanTimeout.any fun x => !x.isPositive) = false := by
  obtain ⟨s, -, hs⟩ := load_eq_ok.1 h
  obtain ⟨-, -, ⟨text, -, htimeout⟩, -⟩ := ofSettings_eq_ok.1 hs
  exact isPositive_of_readTimeout htimeout

end Config

namespace Server

variable {s : Server} {c : Config} {sorted : Bool}

/-- A refresh with the search program is answered by a summary, unless its scan raises. -/
theorem answer_refresh_cases (hconfig : s.config.1 = .ok c) (hscanner : s.scanner = .program sorted)
    (htime : (c.scanTimeout.any fun x => !x.isPositive) = false) :
    (∃ summary, (s.answer .refresh).2.1 = some (.ok (.summary summary)) ∧
        (c.roots = [] ∨ (c.request .identity).failure? = none)) ∨
      ∃ f, (s.answer .refresh).2.1 = some (.error f) ∧
        c.roots ≠ [] ∧ (c.request .identity).failure? = some f := by
  have hbegin := s.begin_of_isRefresh (r := .refresh) rfl
  obtain ⟨failure, log, hc, hb⟩ | ⟨c', log, hc, hroots, hb⟩ | ⟨c', log, hc, hroots, hb⟩ :=
    s.beginRefresh_cases
  · rw [hconfig] at hc
    cases hc
  · rw [hconfig] at hc
    cases hc
    exact .inl ⟨_, by simp [answer, hbegin, hb]; rfl, .inl hroots⟩
  · rw [hconfig] at hc
    cases hc
    let j := s.job (c.request .identity) c.scanTimeout
    obtain ⟨o, ho, hraised⟩ := ScanJob.outcome_run (j := j) hscanner hroots s.tree j.limit?
    have hanswer : (s.answer .refresh).2.1 =
        some ((s.withTree (j.run s.tree j.limit?).tree).finish (.refresh c.scanTimeout) o).2.1 := by
      simp only [answer, hbegin, hb, ho, j]
    rw [hanswer]
    cases hend : o.refreshed with
    | error f =>
      obtain ⟨-, hfailure⟩ := (hraised f).1 (ScanOutcome.refreshed_eq_error.1 hend)
      exact .inr ⟨f, congrArg some (finish_refresh_error _ hend _).1, hroots, hfailure⟩
    | ok hs =>
      obtain ⟨summary, hsummary, -⟩ := finish_refresh_ok (s.withTree _) hend c.scanTimeout
      refine .inl ⟨summary, congrArg some hsummary, .inr ?_⟩
      rw [Option.eq_none_iff_forall_ne_some]
      intro f hf
      rw [ScanOutcome.refreshed_eq_error.2 ((hraised f).2 ⟨htime, hf⟩)] at hend
      cases hend

end Server

namespace CommandLine

/-- The failures that leave a run. -/
inductive Escape (t : FileTree) (e : Environment) (a : Arguments) : Failure → Prop
  | file {f : Failure} (unread : Config.FileEscape t e f) : Escape t e a f
  | setting {s : Settings} {f : Failure} (read : (Config.loadSettings t e).1 = .ok s)
      (unset : Config.SettingEscape e a.addonsPath s f) : Escape t e a f
  | scan {c : Config} {f : Failure} (loaded : (Config.load t e a.addonsPath).1 = .ok c)
      (indexed : a.indexOnly = true) (roots : c.roots ≠ [])
      (raised : (c.request .identity).failure? = some f) : Escape t e a f

/-- An exit that nothing escapes by. -/
def Exit.IsOrderly : Exit → Prop
  | .returned => True
  | .status code => code = 0 ∨ code = 1 ∨ code = 2
  | .escaped _ => False

theorem isOrderly_runServer (s : Server) (c : Config) (a : Arguments) (calls : List Tool)
    (ending : ServingEnd) : (runServer s c a calls ending).exit.IsOrderly := by
  unfold runServer
  split
  · exact .inr (.inl rfl)
  · cases ending with
    | returns => trivial
    | interrupted => exact .inl rfl
    | fails failure => exact .inr (.inl rfl)

section IndexOnly

variable {s : Server}

theorem refresh_of_answer {x : Except Failure IndexSummary}
    (h : (s.answer .refresh).2.1 = some (x.map .summary)) : (refresh s).2.1 = x := by
  unfold refresh
  cases ha : s.answer .refresh with
  | mk s' rest =>
    obtain ⟨answer, log⟩ := rest
    obtain rfl : answer = _ := (congrArg (·.2.1) ha).symm.trans h
    cases x <;> rfl

/-- An index that is built only for its summary raises if the refresh does, and its status says
whether there is anything in it. -/
theorem exit_indexOnly (s : Server) :
    (indexOnly s).exit = match (refresh s).2.1 with
      | .error f => .escaped f
      | .ok summary => .status (if summary.notice.isNone then 0 else 1) := by
  unfold indexOnly
  cases refresh s with
  | mk s' rest =>
    obtain ⟨result, log⟩ := rest
    cases result <;> rfl

theorem isOrderly_indexOnly {summary : IndexSummary}
    (h : (s.answer .refresh).2.1 = some (.ok (.summary summary))) :
    (indexOnly s).exit.IsOrderly := by
  rw [exit_indexOnly, refresh_of_answer (x := .ok summary) h]
  cases hnotice : summary.notice with
  | none => exact .inl (by simp [hnotice])
  | some notice => exact .inr (.inl (by simp [hnotice]))

theorem exit_indexOnly_of_error {f : Failure}
    (h : (s.answer .refresh).2.1 = some (.error f)) : (indexOnly s).exit = .escaped f := by
  rw [exit_indexOnly, refresh_of_answer (x := .error f) h]

end IndexOnly

section Loaded

variable {t : FileTree} {e : Environment} {a : Arguments}

theorem escape_iff_of_error {f : Failure} (h : (Config.load t e a.addonsPath).1 = .error f)
    (f' : Failure) : Escape t e a f' ↔ f' = f ∧ f.kind.isValue = false := by
  constructor
  · intro hescape
    have hload : (Config.load t e a.addonsPath).1 = .error f' ∧ f'.kind.isValue = false := by
      cases hescape with
      | file unread => exact Config.load_eq_error.2 (.inl unread)
      | setting read unset => exact Config.load_eq_error.2 (.inr ⟨_, read, unset⟩)
      | scan loaded indexed roots raised =>
        rw [h] at loaded
        cases loaded
    obtain rfl : f = f' := Except.error.inj (h.symm.trans hload.1)
    exact ⟨rfl, hload.2⟩
  · rintro ⟨rfl, hkind⟩
    rcases Config.load_eq_error.1 ⟨h, hkind⟩ with unread | ⟨s, read, unset⟩
    · exact .file unread
    · exact .setting read unset

theorem escape_iff_of_ok {c : Config} (h : (Config.load t e a.addonsPath).1 = .ok c)
    (f : Failure) : Escape t e a f ↔
      a.indexOnly = true ∧ c.roots ≠ [] ∧ (c.request .identity).failure? = some f := by
  have hload : ¬ ((Config.load t e a.addonsPath).1 = .error f ∧ f.kind.isValue = false) := by
    simp [h]
  rw [Config.load_eq_error] at hload
  constructor
  · intro hescape
    cases hescape with
    | file unread => exact absurd (.inl unread) hload
    | setting read unset => exact absurd (.inr ⟨_, read, unset⟩) hload
    | scan loaded indexed roots raised =>
      obtain rfl : c = _ := Except.ok.inj (h.symm.trans loaded)
      exact ⟨indexed, roots, raised⟩
  · exact fun ⟨indexed, roots, raised⟩ => .scan h indexed roots raised

theorem Escape.unique {f f' : Failure} (h : Escape t e a f) (h' : Escape t e a f') : f = f' := by
  cases hload : (Config.load t e a.addonsPath).1 with
  | error failure =>
    exact ((escape_iff_of_error hload f).1 h).1.trans ((escape_iff_of_error hload f').1 h').1.symm
  | ok c =>
    obtain ⟨-, -, hf⟩ := (escape_iff_of_ok hload f).1 h
    obtain ⟨-, -, hf'⟩ := (escape_iff_of_ok hload f').1 h'
    exact Option.some.inj (hf.symm.trans hf')

end Loaded

/-- A run that understands its arguments ends orderly, unless a failure leaves it. -/
theorem exit_runWith (t : FileTree) (e : Environment) (a : Arguments) (calls : List Tool)
    (ending : ServingEnd) :
    (runWith t e a calls ending).exit.IsOrderly ∧ (∀ f, ¬ Escape t e a f) ∨
      ∃ f, (runWith t e a calls ending).exit = .escaped f ∧ Escape t e a f := by
  cases hload : Config.load t e a.addonsPath with
  | mk result log =>
    cases result with
    | error f =>
      have hescape := escape_iff_of_error (congrArg Prod.fst hload)
      cases hkind : f.kind.isValue with
      | true =>
        refine .inl ⟨?_, fun f' h => by simpa [hkind] using (hescape f').1 h⟩
        simp only [runWith, hload, hkind, if_true]
        exact .inr (.inr rfl)
      | false =>
        exact .inr ⟨f, by simp [runWith, hload, hkind, Run.ended], (hescape f).2 ⟨rfl, hkind⟩⟩
    | ok c =>
      have hescape := escape_iff_of_ok (congrArg Prod.fst hload)
      cases hindex : a.indexOnly with
      | false =>
        refine .inl ⟨?_, fun f h => by simpa [hindex] using (hescape f).1 h⟩
        simp only [runWith, hload, hindex]
        exact isOrderly_runServer _ c a calls ending
      | true =>
        have hrun : (runWith t e a calls ending).exit =
            (indexOnly (.new t e (.loaded a.addonsPath) (.program false))).exit := by
          simp only [runWith, hload, hindex, if_true]
          rfl
        rw [hrun]
        rcases Server.answer_refresh_cases
          (s := .new t e (.loaded a.addonsPath) (.program false)) (congrArg Prod.fst hload) rfl
          (Config.isPositive_of_load (congrArg Prod.fst hload)) with
          ⟨summary, hanswer, hcause⟩ | ⟨f, hanswer, hroots, hfailure⟩
        · refine .inl ⟨isOrderly_indexOnly hanswer, fun f h => ?_⟩
          obtain ⟨-, hroots, hfailure⟩ := (hescape f).1 h
          rcases hcause with hcause | hcause
          · exact hroots hcause
          · simp [hcause] at hfailure
        · exact .inr ⟨f, exit_indexOnly_of_error hanswer,
            (hescape f).2 ⟨hindex, hroots, hfailure⟩⟩

theorem Exit.IsOrderly.code {exit : Exit} (h : exit.IsOrderly) {code : Nat}
    (hcode : exit = .status code) : code = 0 ∨ code = 1 ∨ code = 2 := by
  rw [hcode] at h
  exact h

/-- How a run ends. It returns, it ends with a status of 0, 1 or 2, or a failure leaves it ; and
this happens exactly if the arguments are understood and the failure is one of those listed
(`Escape`). -/
theorem exit_run (t : FileTree) (e : Environment) (arguments : List String) (calls : List Tool)
    (ending : ServingEnd) :
    let exit := (run t e arguments calls ending).exit
    (∀ code, exit = .status code → code = 0 ∨ code = 1 ∨ code = 2) ∧
      ∀ f, exit = .escaped f ↔ ∃ a, parse arguments = .arguments a ∧ Escape t e a f := by
  cases hparse : parse arguments with
  | help =>
    have hexit : (run t e arguments calls ending).exit = .status 0 := by simp [run, hparse]
    simp [hexit]
  | refused message =>
    have hexit : (run t e arguments calls ending).exit = .status 2 := by simp [run, hparse]
    simp [hexit]
  | arguments a =>
    have hexit : (run t e arguments calls ending).exit = (runWith t e a calls ending).exit := by
      simp [run, hparse]
    simp only [hexit, Parsed.arguments.injEq, exists_eq_left']
    rcases exit_runWith t e a calls ending with ⟨horderly, hnone⟩ | ⟨f, hf, hescape⟩
    · refine ⟨fun code hcode => horderly.code hcode, fun f => iff_of_false (fun hf => ?_) (hnone f)⟩
      rw [hf] at horderly
      exact horderly
    · refine ⟨fun code hcode => ?_, fun f' => ⟨fun hf' => ?_, fun h => ?_⟩⟩
      · rw [hf] at hcode
        cases hcode
      · rw [hf] at hf'
        cases hf'
        exact hescape
      · rw [hf, h.unique hescape]

/-- A working directory that holds nothing but a directory. -/
def directoryOnly : FileTree := ⟨[(["d"], .directory)], []⟩

/-- The failure of a settings path that is a directory's leaves the run. -/
theorem exit_of_directory :
    (run directoryOnly ⟨[("ODOO_MCP_CONFIG", "d")]⟩ ["--index-only"] [] .returns).exit =
      .escaped ⟨.directory, "[Errno 21] Is a directory: 'd'"⟩ := by
  have hparse : parse ["--index-only"] = .arguments ⟨none, some .stdio, true⟩ := by decide
  have hpath : settingsPath ⟨[("ODOO_MCP_CONFIG", "d")]⟩ "d" = .ok "d" := by rfl
  have hentry : directoryOnly.find? ["d"] = some .directory := by
    simp [FileTree.find?, directoryOnly, System.root]
  have hfound : directoryOnly.resolve "d" = .ok (["d"], .directory) :=
    FileTree.resolve_name (by decide) hentry fun target h => by cases h
  have hgiven :
      (⟨[("ODOO_MCP_CONFIG", "d")]⟩ : Environment).given? "ODOO_MCP_CONFIG" = some "d" := by decide
  have hload : Config.load directoryOnly ⟨[("ODOO_MCP_CONFIG", "d")]⟩ none =
      (.error (pathFailure .isDirectory "d"), []) := by
    simp [Config.load, Config.loadSettings, hgiven, hpath, Settings.read, hfound, Except.bind]
  have hmessage : pathFailure .isDirectory "d" =
      ⟨.directory, "[Errno 21] Is a directory: 'd'"⟩ := by decide
  simp [run, hparse, runWith, hload, hmessage, Failure.Kind.isValue, Run.ended]

end CommandLine

end AddonAtlas
