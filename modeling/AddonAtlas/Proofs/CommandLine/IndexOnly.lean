import AddonAtlas.Proofs.CommandLine.Exit
import AddonAtlas.Proofs.CommandLine.Options
import AddonAtlas.Proofs.Server.Site

/-!
# Runs for the summary of an index

With `--index-only` a run builds the index once and ends, and its status says what became of the
index (`status_tells_index`). The option counts wherever it stands among arguments that are
understood (`indexOnly_of_mem`). Settings that are refused end the run with two, before any scan.
Otherwise it ends with zero exactly if its scan ended normally with a hit (`ScanOutcome.HasHit`), and
with one if there are no roots, or the scan found nothing, failed or took too long. Only a scan that
raises leaves the run without a status.

What status the search program has, and whether its output was cut off, does not matter : once the
program is started and keeps to its time, one line within the budget that is a record will do
(`ScanRun.exists_hasHit_iff`).

That a server is created or a scan is started can be seen in the log, where both are announced. A run
for a summary starts a scan if its configuration has roots (`startsScan_iff`), and it never creates a
server (`createsServer_iff`).
-/

namespace AddonAtlas

/-! ## Announcements in a log -/

/-- A record of what happens, with a text that begins so. -/
def LogRecord.Begins (front : String) (r : LogRecord) : Prop :=
  r.level = .info ∧ front.toList <+: r.text.toList

/-- A log has a record of what happens that begins so. -/
def Log.Announces (front : String) (log : Log) : Prop :=
  ∃ r ∈ log, r.Begins front

namespace Log

/-- Two texts of which neither begins the other. -/
def Apart (front label : String) : Prop :=
  ¬ front.toList <+: label.toList ∧ ¬ label.toList <+: front.toList

instance (front label : String) : Decidable (Apart front label) :=
  inferInstanceAs (Decidable (_ ∧ _))

variable {front : String} {log log' : Log}

@[simp]
theorem not_announces_nil : ¬ Announces front [] := by
  simp [Announces]

@[simp]
theorem announces_cons {r : LogRecord} :
    Announces front (r :: log) ↔ r.Begins front ∨ log.Announces front := by
  simp [Announces]

@[simp]
theorem announces_append :
    (log ++ log').Announces front ↔ log.Announces front ∨ log'.Announces front := by
  simp [Announces, or_and_right, exists_or]

theorem not_announces_of_warnings (h : ∀ r ∈ log, r.level = .warning) : ¬ log.Announces front := by
  rintro ⟨r, hr, hlevel, -⟩
  rw [h r hr] at hlevel
  cases hlevel

end Log

namespace LogRecord

variable {front : String}

@[simp]
theorem not_begins_warning (text : String) : ¬ (warning text).Begins front :=
  fun h => by cases h.1

@[simp]
theorem not_begins_error (text : String) : ¬ (error text).Begins front :=
  fun h => by cases h.1

theorem begins_info {rest : String} : (info (front ++ rest)).Begins front :=
  ⟨rfl, by simp [info]⟩

theorem not_begins_info {label : String} (h : Log.Apart front label) (rest : String) :
    ¬ (info (label ++ rest)).Begins front := by
  rintro ⟨-, hfront⟩
  rw [info, String.toList_append] at hfront
  exact (List.prefix_or_prefix_of_prefix hfront (List.prefix_append _ _)).elim h.1 h.2

end LogRecord

/-! ## What is logged of settings and scans -/

theorem Settings.level_of_mem_read {t : FileTree} {path : String} {r : LogRecord}
    (h : r ∈ (Settings.read t path).2) : r.level = .warning := by
  unfold Settings.read at h
  split at h
  · cases h
  · cases List.mem_singleton.1 h
    rfl
  · cases h
  · cases h

theorem Config.level_of_load {t : FileTree} {e : Environment} {override : Option String}
    {result : Except Failure Config} {log : Log} (hload : load t e override = (result, log)) :
    ∀ r ∈ log, r.level = .warning := by
  intro r hr
  obtain rfl : (load t e override).2 = log := congrArg Prod.snd hload
  simp only [load, loadSettings] at hr
  split at hr
  · cases hr
  · split at hr
    · cases hr
    · exact Settings.level_of_mem_read hr

theorem ScanRun.level_of_mem_run {t : FileTree} {environment : List (String × String)} {limit : Nat}
    {request : ScanRequest} {r : LogRecord} (h : r ∈ (run t environment limit request).log) :
    r.level = .warning := by
  unfold run at h
  split at h
  · cases h
  · split at h
    · next refusal _ => cases refusal <;> cases h
    · simp only [ofExecution] at h
      split at h
      · cases List.mem_singleton.1 h
        rfl
      · cases h

theorem ScanJob.level_of_mem_run {j : ScanJob} {t : FileTree} {left : Option Nat} {r : LogRecord}
    (h : r ∈ (j.run t left).log) : r.level = .warning := by
  unfold run at h
  split at h
  · cases h
  · split at h
    · simp only [runProgram] at h
      split at h <;> exact ScanRun.level_of_mem_run h
    · split at h <;> cases h

theorem ModelIndex.not_announces_finishRefresh {front : String}
    (h : Log.Apart front "Index complete: ") (timeout : Option Seconds) (o : ScanOutcome) :
    ¬ (finishRefresh timeout o).2.Announces front := by
  have hinstalled : ∀ ds, ¬ (installed ds).2.2.Announces front := fun ds => by
    unfold installed
    split
    · simp
    · simp [String.append_assoc, LogRecord.not_begins_info h]
  cases o with
  | hits hs => exact hinstalled _
  | failed reason => simp [finishRefresh, hinstalled]
  | timedOut => simp [finishRefresh, hinstalled]
  | raised f => simp [finishRefresh]

/-! ## Scans with a hit -/

/-- A scan that ended normally, with hits. -/
def ScanOutcome.HasHit (o : ScanOutcome) : Prop :=
  ∃ hs, o = .hits hs ∧ hs ≠ []

namespace ModelIndex

theorem notice_installed {ds : List Declaration} :
    (installed ds).2.1.notice = none ↔ ds ≠ [] := by
  unfold installed
  split
  · next h => simp [List.isEmpty_iff.1 h]
  · next h => simpa using h

/-- A refresh whose scan does not raise returns, and has nothing to note exactly if there is a hit. -/
theorem exists_finishRefresh {o : ScanOutcome} (h : ∀ f, o ≠ .raised f)
    (timeout : Option Seconds) :
    ∃ x summary, (finishRefresh timeout o).1 = .ok (x, summary) ∧
      (summary.notice = none ↔ o.HasHit) := by
  cases o with
  | raised f => exact absurd rfl (h f)
  | failed reason => exact ⟨_, _, rfl, by simp [ScanOutcome.HasHit]⟩
  | timedOut => exact ⟨_, _, rfl, by simp [ScanOutcome.HasHit]⟩
  | hits hs =>
    refine ⟨_, (installed _).2.1, rfl, notice_installed.trans ?_⟩
    simp [ScanOutcome.HasHit]

end ModelIndex

namespace ScanRun

variable (limit : Nat) (budget : Int) (x : Execution)

/-- What a program's scan comes to has a hit if the scan does : the program's status counts only if it
has written nothing. -/
theorem hasHit_ofExecution :
    (ofExecution limit budget x).outcome.HasHit ↔ (ofExecution limit budget x).hits ≠ [] := by
  cases hf : (ofExecution limit budget x).failure with
  | none => simp [outcome, hf, ScanOutcome.HasHit]
  | some f =>
    have hfailure := hf
    rw [failure_ofExecution] at hfailure
    split at hfailure
    · next hwritten =>
      have hkind := kind_of_exitFailure? hfailure
      have hhits : (ofExecution limit budget x).hits = [] := by
        rw [hits_ofExecution, hwritten]
        rfl
      simp [outcome, hf, ScanOutcome.ofFailure, hkind, ScanOutcome.HasHit, hhits]
    · cases hfailure

/-- Whatever the status of the program, and whether or not its output is cut off, its scan has a hit
exactly if one of the lines within the budget is a record. -/
theorem exists_hasHit_iff :
    ∃ kept, LongestWithin budget (linesOf x.written) kept ∧
      ((ofExecution limit budget x).outcome.HasHit ↔
        ∃ line ∈ kept, (Hit.onLine? limit line).isSome = true) := by
  refine ⟨_, longestWithin_within budget _, ?_⟩
  rw [hasHit_ofExecution, hits_ofExecution, ne_eq, List.filterMap_eq_nil_iff]
  simp [Option.isSome_iff_ne_none]

end ScanRun

/-- What a scan comes to whose program is started and keeps to its time. -/
theorem ScanJob.outcome_of_start {t : FileTree} {j : ScanJob} {left : Option Nat} {x : Execution}
    (hj : j.scanner = .program false) (hroots : j.request.roots ≠ [])
    (hstart : Launch.start t j.environment.bindings j.request.grep j.request.command.tail = .ok x)
    (htime : (j.run t left).outcome ≠ some .timedOut) :
    (j.run t left).outcome = some (ScanRun.ofExecution lineLimit j.request.budget x).outcome := by
  rw [(run_program hj htime).1, ScanRun.run_of_start lineLimit hroots hstart]

namespace CommandLine

/-! ## What a run announces -/

namespace Run

/-- A run creates a server, whose first step is announced. -/
def CreatesServer (r : Run) : Prop :=
  r.log.Announces "Building initial model index..."

/-- A run starts a scan for the index, which is announced with the number of its roots. -/
def StartsScan (r : Run) : Prop :=
  r.log.Announces "Indexing models in "

end Run

/-- How the records of what happens begin that announce neither a server nor a scan. -/
def labels : List String :=
  ["=", "odooMCP", "  ", "Index: ", "Index complete: "]

theorem not_announces_banner {front : String} (h : ∀ label ∈ labels, Log.Apart front label)
    (c : Config) (a : Arguments) : ¬ (banner c a).Announces front := by
  have hruler : ¬ ruler.Begins front :=
    LogRecord.not_begins_info (h "=" (by decide)) (String.ofList (List.replicate 49 '='))
  have htitle := LogRecord.not_begins_info (h "odooMCP" (by decide))
  have hline : ∀ label rest, ¬ (LogRecord.info ("  " ++ label ++ rest)).Begins front :=
    fun label rest => by
      rw [String.append_assoc]
      exact LogRecord.not_begins_info (h "  " (by decide)) _
  simp only [banner, Log.announces_cons, Log.not_announces_nil, hruler, or_false, false_or, not_or]
  exact ⟨htitle " starting...", hline "ADDONS_PATH: " _, hline "GREP:        " _,
    hline "TIMEOUT:     " _, hline "TRANSPORT:   " _⟩

theorem not_begins_indexRecord {front : String} (h : ∀ label ∈ labels, Log.Apart front label)
    (s : IndexSummary) : ¬ (indexRecord s).Begins front := by
  simp only [indexRecord, String.append_assoc]
  exact LogRecord.not_begins_info (h "Index: " (by decide)) _

/-- What is logged of a scan for the index before it is started. -/
def scanRecord (roots : List String) : LogRecord :=
  .info ("Indexing models in " ++ toString roots.length ++ " addons roots")

theorem begins_scanRecord (roots : List String) :
    (scanRecord roots).Begins "Indexing models in " := by
  rw [scanRecord, String.append_assoc]
  exact LogRecord.begins_info

theorem not_begins_scanRecord {front : String} (h : Log.Apart front "Indexing models in ")
    (roots : List String) : ¬ (scanRecord roots).Begins front := by
  rw [scanRecord, String.append_assoc]
  exact LogRecord.not_begins_info h _

/-! ## Indexes that are built for their summaries -/

section IndexOnly

variable {s : Server} {c : Config} {log : Log}

/-- A refresh without roots is over at once. -/
theorem refresh_of_nil (hconfig : s.config = (.ok c, log)) (hroots : c.roots = []) :
    (refresh s).2 = (.ok ⟨0, 0, some noRoots⟩,
      log ++ [.warning "Cannot index models: no addons path configured"]) := by
  simp [refresh, Server.answer, Server.begin, Server.beginRefresh, hconfig,
    ModelIndex.beginRefresh, hroots]

/-- A refresh with roots ends by the outcome of its scan. -/
theorem refresh_of_outcome (hconfig : s.config = (.ok c, log)) (hroots : c.roots ≠ [])
    {o : ScanOutcome}
    (ho : let j := s.job (c.request .identity) c.scanTimeout
      (j.run s.tree j.limit?).outcome = some o) :
    let j := s.job (c.request .identity) c.scanTimeout
    let finished := ModelIndex.finishRefresh c.scanTimeout o
    (refresh s).2 = (finished.1.map (·.2),
      log ++ [scanRecord c.roots] ++ (j.run s.tree j.limit?).log ++ finished.2) := by
  intro j finished
  have hbegin : s.begin .refresh =
      (s, .waiting ⟨j, .refresh c.scanTimeout⟩, log ++ [scanRecord c.roots]) := by
    show s.beginRefresh = _
    obtain ⟨root, others, hcons⟩ := List.exists_cons_of_ne_nil hroots
    simp [Server.beginRefresh, hconfig, ModelIndex.beginRefresh, hcons, scanRecord, j]
  have hfinished : ModelIndex.finishRefresh c.scanTimeout o = finished := rfl
  obtain ⟨result, last⟩ := finished
  cases result <;> simp [refresh, Server.answer, hbegin, ho, j, Server.finish, hfinished] <;> rfl

theorem log_indexOnly (s : Server) : (indexOnly s).log =
    (refresh s).2.2 ++ ((refresh s).2.1.toOption.map indexRecord).toList := by
  unfold indexOnly
  cases refresh s with
  | mk s' rest =>
    obtain ⟨result, log⟩ := rest
    cases result <;> simp [Run.ended, Except.toOption]

theorem served_indexOnly (s : Server) : (indexOnly s).served = [] := by
  unfold indexOnly
  split <;> rfl

/-- Besides its scan nothing is announced of an index that is built for its summary. -/
theorem not_announces_indexOnly (hconfig : s.config = (.ok c, log))
    (hscanner : s.scanner = .program false) (hlog : ∀ r ∈ log, r.level = .warning) {front : String}
    (hlabels : ∀ label ∈ labels, Log.Apart front label)
    (hscan : c.roots = [] ∨ Log.Apart front "Indexing models in ") :
    ¬ (indexOnly s).log.Announces front := by
  have hnone : ¬ log.Announces front := Log.not_announces_of_warnings hlog
  have hrecord := not_begins_indexRecord hlabels
  by_cases hroots : c.roots = []
  · simp [log_indexOnly, refresh_of_nil hconfig hroots, hnone, hrecord, Except.toOption]
  · let j := s.job (c.request .identity) c.scanTimeout
    obtain ⟨o, ho, -⟩ := ScanJob.outcome_run (j := j) hscanner hroots s.tree j.limit?
    have hbegun := not_begins_scanRecord (hscan.resolve_left hroots) c.roots
    have hcourse : ¬ (j.run s.tree j.limit?).log.Announces front :=
      Log.not_announces_of_warnings fun r hr => ScanJob.level_of_mem_run hr
    have hfinish := ModelIndex.not_announces_finishRefresh
      (hlabels "Index complete: " (by decide)) c.scanTimeout o
    have hsummary : ∀ x : Option IndexSummary,
        ¬ Log.Announces front (x.map indexRecord).toList := fun x => by
      cases x <;> simp [hrecord]
    rw [log_indexOnly, refresh_of_outcome hconfig hroots ho]
    simp only [Log.announces_append, Log.announces_cons, Log.not_announces_nil, hnone, hbegun,
      hcourse, hfinish, hsummary, or_self, not_false_eq_true, j]

theorem startsScan_indexOnly (hconfig : s.config = (.ok c, log))
    (hscanner : s.scanner = .program false) (hroots : c.roots ≠ []) :
    (indexOnly s).StartsScan := by
  let j := s.job (c.request .identity) c.scanTimeout
  obtain ⟨o, ho, -⟩ := ScanJob.outcome_run (j := j) hscanner hroots s.tree j.limit?
  rw [Run.StartsScan, log_indexOnly, refresh_of_outcome hconfig hroots ho]
  simp [begins_scanRecord]

theorem exit_indexOnly_of_nil (hconfig : s.config = (.ok c, log)) (hroots : c.roots = []) :
    (indexOnly s).exit = .status 1 := by
  simp [exit_indexOnly, refresh_of_nil hconfig hroots]

theorem exit_indexOnly_of_outcome (hconfig : s.config = (.ok c, log)) (hroots : c.roots ≠ [])
    {o : ScanOutcome}
    (ho : let j := s.job (c.request .identity) c.scanTimeout
      (j.run s.tree j.limit?).outcome = some o)
    (hraised : ∀ f, o ≠ .raised f) :
    (indexOnly s).exit = .status 0 ∧ o.HasHit ∨ (indexOnly s).exit = .status 1 ∧ ¬ o.HasHit := by
  obtain ⟨x, summary, hfinish, hnotice⟩ := ModelIndex.exists_finishRefresh hraised c.scanTimeout
  rw [exit_indexOnly, refresh_of_outcome hconfig hroots ho, hfinish, ← hnotice]
  cases hs : summary.notice with
  | none => exact .inl ⟨by simp [Except.map, hs], rfl⟩
  | some notice => exact .inr ⟨by simp [Except.map, hs], by simp⟩

end IndexOnly

/-! ## Runs -/

section Loaded

variable {t : FileTree} {e : Environment} {a : Arguments}

/-- What a run builds its first index with. -/
def initialServer (t : FileTree) (e : Environment) (a : Arguments) : Server :=
  .new t e (.loaded a.addonsPath) (.program false)

/-- The scan for the first index of a run. -/
def indexJob (e : Environment) (c : Config) : ScanJob :=
  ⟨.program false, e, c.request .identity, c.scanTimeout⟩

theorem createsServer_runServer (s : Server) (c : Config) (a : Arguments) (calls : List Tool)
    (ending : ServingEnd) : (runServer s c a calls ending).CreatesServer := by
  have hopening : (LogRecord.info "Building initial model index...").Begins
      "Building initial model index..." := ⟨rfl, List.prefix_rfl⟩
  unfold runServer
  split <;> simp [Run.CreatesServer, Run.ended, hopening]

/-- A run without a configuration announces nothing. -/
theorem not_announces_of_error {f : Failure} {log : Log}
    (hload : Config.load t e a.addonsPath = (.error f, log)) (calls : List Tool)
    (ending : ServingEnd) (front : String) :
    ¬ (runWith t e a calls ending).log.Announces front := by
  have hnone : ¬ log.Announces front := Log.not_announces_of_warnings (Config.level_of_load hload)
  simp only [runWith, hload]
  split <;> simp [Run.ended, hnone]

section Configured

variable {c : Config} {log : Log} (hload : Config.load t e a.addonsPath = (.ok c, log))
  (calls : List Tool) (ending : ServingEnd)

include hload

theorem runWith_of_ok : runWith t e a calls ending =
    (if a.indexOnly then indexOnly (initialServer t e a)
      else runServer (initialServer t e a) c a calls ending).after (log ++ banner c a) := by
  simp [runWith, hload, initialServer]

/-- Besides what is announced of its index, a run for a summary announces its configuration. -/
theorem announces_runWith (hindex : a.indexOnly = true) {front : String}
    (hlabels : ∀ label ∈ labels, Log.Apart front label) :
    (runWith t e a calls ending).log.Announces front ↔
      (indexOnly (initialServer t e a)).log.Announces front := by
  have hnone : ¬ log.Announces front := Log.not_announces_of_warnings (Config.level_of_load hload)
  rw [runWith_of_ok hload, if_pos hindex]
  simp only [Run.after, Log.announces_append, hnone, not_announces_banner hlabels, false_or]

end Configured

/-- A run creates a server exactly if it has a configuration and is not for a summary. -/
theorem createsServer_iff (t : FileTree) (e : Environment) (a : Arguments) (calls : List Tool)
    (ending : ServingEnd) : (runWith t e a calls ending).CreatesServer ↔
      a.indexOnly = false ∧ ∃ c, (Config.load t e a.addonsPath).1 = .ok c := by
  cases hload : Config.load t e a.addonsPath with
  | mk result log =>
    cases result with
    | error f => simp [Run.CreatesServer, not_announces_of_error hload]
    | ok c =>
      cases hindex : a.indexOnly with
      | false =>
        have hserver := createsServer_runServer (initialServer t e a) c a calls ending
        rw [Run.CreatesServer] at hserver
        simp [runWith_of_ok hload, hindex, Run.CreatesServer, Run.after, hserver]
      | true =>
        have hnone : ¬ (indexOnly (initialServer t e a)).CreatesServer :=
          not_announces_indexOnly (s := initialServer t e a) hload rfl (Config.level_of_load hload)
            (by decide) (.inr (by decide))
        rw [Run.CreatesServer, announces_runWith hload calls ending hindex (by decide)]
        simpa [Run.CreatesServer] using hnone

/-- A run for a summary starts a scan exactly if it has a configuration with roots. -/
theorem startsScan_iff (hindex : a.indexOnly = true) (calls : List Tool) (ending : ServingEnd) :
    (runWith t e a calls ending).StartsScan ↔
      ∃ c, (Config.load t e a.addonsPath).1 = .ok c ∧ c.roots ≠ [] := by
  cases hload : Config.load t e a.addonsPath with
  | mk result log =>
    cases result with
    | error f => simp [Run.StartsScan, not_announces_of_error hload]
    | ok c =>
      rw [Run.StartsScan, announces_runWith hload calls ending hindex (by decide)]
      by_cases hroots : c.roots = []
      · have hnone : ¬ (indexOnly (initialServer t e a)).StartsScan :=
          not_announces_indexOnly (s := initialServer t e a) hload rfl (Config.level_of_load hload)
            (by decide) (.inl hroots)
        simpa [hroots, Run.StartsScan] using hnone
      · have hscan : (indexOnly (initialServer t e a)).StartsScan :=
          startsScan_indexOnly (s := initialServer t e a) hload rfl hroots
        simpa [hroots, Run.StartsScan] using hscan

/-- A run whose settings are refused says so, and does nothing else. -/
theorem runWith_of_error {f : Failure} (hload : (Config.load t e a.addonsPath).1 = .error f)
    (hvalue : f.kind.isValue = true) (calls : List Tool) (ending : ServingEnd) :
    runWith t e a calls ending = .ended ((Config.load t e a.addonsPath).2 ++
      [.error ("Invalid configuration: " ++ f.message)]) (.status 2) := by
  have hx : Config.load t e a.addonsPath = (.error f, (Config.load t e a.addonsPath).2) :=
    Prod.ext hload rfl
  rw [runWith, hx]
  simp only [hvalue, if_true]

theorem served_runWith (hindex : a.indexOnly = true) (calls : List Tool) (ending : ServingEnd) :
    (runWith t e a calls ending).served = [] := by
  cases hload : Config.load t e a.addonsPath with
  | mk result log =>
    cases result with
    | error f =>
      simp only [runWith, hload]
      split <;> rfl
    | ok c =>
      rw [runWith_of_ok hload, if_pos hindex]
      exact served_indexOnly _

theorem exit_runWith_of_ok {c : Config} (hload : (Config.load t e a.addonsPath).1 = .ok c)
    (hindex : a.indexOnly = true) (calls : List Tool) (ending : ServingEnd) :
    (c.roots = [] → (runWith t e a calls ending).exit = .status 1) ∧
    (c.roots ≠ [] → ∀ o, ((indexJob e c).run t (indexJob e c).limit?).outcome = some o →
      (∀ f, o ≠ .raised f) →
        (runWith t e a calls ending).exit = .status 0 ∧ o.HasHit ∨
          (runWith t e a calls ending).exit = .status 1 ∧ ¬ o.HasHit) := by
  have hx : Config.load t e a.addonsPath = (.ok c, (Config.load t e a.addonsPath).2) :=
    Prod.ext hload rfl
  have hexit : (runWith t e a calls ending).exit = (indexOnly (initialServer t e a)).exit := by
    rw [runWith_of_ok hx, if_pos hindex]
    rfl
  rw [hexit]
  exact ⟨exit_indexOnly_of_nil (s := initialServer t e a) hx,
    fun hroots o ho => exit_indexOnly_of_outcome (s := initialServer t e a) hx hroots ho⟩

end Loaded

/-- What a run with `--index-only` tells by its status. The option counts wherever it stands among
arguments that are understood, and then no server is created, and a scan is started exactly if a
configuration is loaded that has roots. Settings that are refused are told, and end the run with two.
Without roots it ends with one. With roots the scan comes to an outcome, and unless it raises the run
ends with zero if the scan ended normally with a hit, and with one if it did not. If the program is
started and keeps to its time, the scan does not raise, and it has a hit exactly if one of the lines
within the budget is a record, whatever status the program has and however much it writes. -/
theorem status_tells_index (t : FileTree) (e : Environment) {arguments : List String}
    {a : Arguments} (hparse : parse arguments = .arguments a) (calls : List Tool)
    (ending : ServingEnd) :
    let r := run t e arguments calls ending
    let loaded := (Config.load t e a.addonsPath).1
    ("--index-only" ∈ arguments → a.indexOnly = true) ∧
    (a.indexOnly = true →
      ¬ r.CreatesServer ∧ r.served = [] ∧
      (r.StartsScan ↔ ∃ c, loaded = .ok c ∧ c.roots ≠ []) ∧
      (∀ f, loaded = .error f → f.kind.isValue = true →
        ¬ r.StartsScan ∧ r = .ended ((Config.load t e a.addonsPath).2 ++
          [.error ("Invalid configuration: " ++ f.message)]) (.status 2)) ∧
      ∀ c, loaded = .ok c →
        (c.roots = [] → r.exit = .status 1) ∧
        (c.roots ≠ [] →
          let j := indexJob e c
          ∃ o, (j.run t j.limit?).outcome = some o ∧
            ((∀ f, o ≠ .raised f) →
              r.exit = .status 0 ∧ o.HasHit ∨ r.exit = .status 1 ∧ ¬ o.HasHit) ∧
            ∀ x, Launch.start t e.bindings c.grep j.request.command.tail = .ok x →
              o ≠ .timedOut →
                (∀ f, o ≠ .raised f) ∧
                  ∃ kept, LongestWithin c.maxOutput (linesOf x.written) kept ∧
                    (o.HasHit ↔ ∃ line ∈ kept, (Hit.onLine? lineLimit line).isSome = true))) := by
  intro r loaded
  have hrun : r = runWith t e a calls ending := by simp [r, run, hparse]
  rw [hrun]
  refine ⟨indexOnly_of_mem hparse, fun hindex => ?_⟩
  have hscans := startsScan_iff (t := t) (e := e) hindex calls ending
  refine ⟨by simp [createsServer_iff, hindex], served_runWith hindex calls ending, hscans,
    fun f hload hvalue => ⟨?_, runWith_of_error hload hvalue calls ending⟩, fun c hload => ?_⟩
  · rw [hscans]
    rintro ⟨c, hc, -⟩
    cases hload.symm.trans hc
  · obtain ⟨hnil, hstatus⟩ := exit_runWith_of_ok hload hindex calls ending
    refine ⟨hnil, fun hroots => ?_⟩
    obtain ⟨o, ho, -⟩ := ScanJob.outcome_run (j := indexJob e c) rfl hroots t (indexJob e c).limit?
    refine ⟨o, ho, hstatus hroots o ho, fun x hstart htime => ?_⟩
    have hscan : ((indexJob e c).run t (indexJob e c).limit?).outcome =
        some (ScanRun.ofExecution lineLimit c.maxOutput x).outcome :=
      ScanJob.outcome_of_start rfl hroots hstart (by simpa [ho] using htime)
    obtain rfl : o = _ := Option.some.inj (ho.symm.trans hscan)
    refine ⟨fun f => ?_, ScanRun.exists_hasHit_iff lineLimit c.maxOutput x⟩
    rcases ScanRun.outcome_ofExecution lineLimit c.maxOutput x with hits | ⟨-, reason, hfailed⟩
    · simp [hits]
    · simp [hfailed]

/-- Settings by which the directory with one declaration is scanned. -/
def siteEnvironment : Environment :=
  ⟨[("ODOO_ADDONS_PATH", "r"), ("ODOO_GREP", "/usr/bin/grep")]⟩

/-- A declaration is found, there are no roots to find one, and the port is refused. -/
theorem status_tells_index_site :
    let found := run (Site.tree "a") siteEnvironment ["--transport", "sse", "--index-only"] []
      .returns
    let empty := run ⟨[], []⟩ ⟨[]⟩ ["--index-only"] [] .returns
    let refused := run ⟨[], []⟩ ⟨[("ODOO_MCP_PORT", "0")]⟩ ["--index-only"] [] .returns
    found.exit = .status 0 ∧ found.StartsScan ∧ ¬ found.CreatesServer ∧
      empty.exit = .status 1 ∧ ¬ empty.StartsScan ∧
      refused.exit = .status 2 ∧ ¬ refused.StartsScan := by
  intro found empty refused
  have hfound : (Config.load (Site.tree "a") siteEnvironment none).1 = .ok Site.config := by
    decide +kernel
  have hempty : (Config.load ⟨[], []⟩ ⟨[]⟩ none).1 =
      .ok ⟨[], "grep", none, defaultBudget, 8080⟩ := by
    decide +kernel
  have hrefused : (Config.load ⟨[], []⟩ ⟨[("ODOO_MCP_PORT", "0")]⟩ none).1 =
      .error ⟨.value, "Invalid ODOO_MCP_PORT value '0': Port must be between 1 and 65535, got 0"⟩ := by
    decide +kernel
  have hfits : Site.Fits "a" := ⟨by decide, by decide, by decide, by decide, by decide⟩
  have hscan : ((indexJob siteEnvironment Site.config).run (Site.tree "a") none).outcome =
      some (.hits [Site.hit "a"]) :=
    congrArg some (Site.outcome_free hfits siteEnvironment.bindings)
  have hdefault : parse ["--index-only"] = .arguments ⟨none, some .stdio, true⟩ := by rfl
  have hsse : parse ["--transport", "sse", "--index-only"] = .arguments ⟨none, some .sse, true⟩ := by
    rfl
  obtain ⟨hgiven, htold⟩ := status_tells_index (Site.tree "a") siteEnvironment hsse [] .returns
  obtain ⟨hserver, -, hstarts, -, hloaded⟩ := htold (hgiven (by decide))
  obtain ⟨o, ho, hstatus, -⟩ := (hloaded _ hfound).2 (by decide)
  obtain rfl : o = _ := Option.some.inj (ho.symm.trans hscan)
  obtain ⟨-, htoldEmpty⟩ := status_tells_index ⟨[], []⟩ ⟨[]⟩ hdefault [] .returns
  obtain ⟨-, -, hstartsEmpty, -, hloadedEmpty⟩ := htoldEmpty rfl
  obtain ⟨-, htoldRefused⟩ :=
    status_tells_index ⟨[], []⟩ ⟨[("ODOO_MCP_PORT", "0")]⟩ hdefault [] .returns
  obtain ⟨-, -, -, hvalue, -⟩ := htoldRefused rfl
  obtain ⟨hstartsRefused, hended⟩ := hvalue _ hrefused rfl
  obtain ⟨hexit, -⟩ | ⟨-, hnohit⟩ := hstatus (by simp)
  · exact ⟨hexit, hstarts.2 ⟨_, hfound, by decide⟩, hserver, (hloadedEmpty _ hempty).1 rfl,
      fun h => by simpa [hempty] using hstartsEmpty.1 h, congrArg Run.exit hended, hstartsRefused⟩
  · exact absurd ⟨_, rfl, by simp⟩ hnohit

end CommandLine

end AddonAtlas
