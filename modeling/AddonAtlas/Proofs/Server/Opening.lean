import AddonAtlas.Proofs.Navigation.Windows
import AddonAtlas.Proofs.Server.Run

/-!
# What the indices of a report open

A report of the newest search counts its results from zero, and as long as no other search
begins, a result is opened by its index. The report is made of the session and not of the
search's reply, and the results are opened later, from the session as it is then ; it is right
because nothing comes between the publication of a search and its report, and because a
settled session stays as it is whatever else ends (`Searches.Settled.run`).

A result is not always shown : a path that holds a NUL and a line whose excerpt ends beyond
the greatest bound make the request fail, instead of being told in the view
(`openResult_of_report`, `openResult_fails`).
-/

namespace AddonAtlas

/-! ## Views -/

/-- Whether the view of a target can be made : its path can be given to the system, and if the
file can be read, the excerpt ends at a line that can be counted to. -/
def FileTree.Shows (t : FileTree) (target : NavigationTarget) : Prop :=
  '\x00' ∉ target.path.toList ∧
    ∀ content, t.read target.path = .ok content → target.line - 1 + excerptLines ≤ maxBound

/-- A view is made exactly of the targets that can be shown. -/
theorem View.exists_of_eq_ok {t : FileTree} {target : NavigationTarget} (h : 1 ≤ target.line) :
    (∃ excerpt, View.of t target = .ok ⟨some target, excerpt, none⟩) ↔ t.Shows target := by
  have hstart : 0 ≤ target.line - 1 := by omega
  have hwindow : windowFailure? (target.line - 1) (target.line - 1 + excerptLines) = none ↔
      target.line - 1 + excerptLines ≤ maxBound := windowFailure?_eq_none hstart (by decide)
  by_cases hnul : '\x00' ∈ target.path.toList
  · simp [View.of, viewport, hnul, FileTree.Shows, Except.map]
  cases hr : t.read target.path with
  | error e => simp [View.of, viewport, hnul, FileTree.Shows, hr, Except.map]
  | ok content =>
    cases hw : windowFailure? (target.line - 1) (target.line - 1 + excerptLines) with
    | none =>
      have hle := hwindow.1 hw
      simp [View.of, viewport, hnul, FileTree.Shows, hr, hw, Except.map, hle]
    | some f =>
      have hle : ¬ target.line - 1 + excerptLines ≤ maxBound := fun hle => by
        simp [hwindow.2 hle] at hw
      simp [View.of, viewport, hnul, FileTree.Shows, hr, hw, Except.map, hle]

theorem View.of_eq_ok {t : FileTree} {target : NavigationTarget} {v : View}
    (h : View.of t target = .ok v) : v = ⟨some target, v.excerpt, none⟩ := by
  cases hv : viewport t target with
  | error f => simp [View.of, hv, Except.map] at h
  | ok excerpt =>
    simp only [View.of, hv, Except.map, Except.ok.injEq] at h
    subst h
    rfl

/-! ## Positions -/

namespace Session

variable {s : Session}

theorem target_of_get? {n : Nat} {item : SearchItem} (h : s.state.results[n]? = some item) :
    s.target n = .ok (.of item.path item.line) := by
  have hn : ¬ (n : Int) < 0 := by omega
  simp [target, hn, h]

/-- A position before the first result or behind the last one has no target. -/
theorem target_of_outside {i : Int} (h : i < 0 ∨ s.state.results.length ≤ i) :
    s.target i = .error ⟨.index, "No search result at index " ++ toString i⟩ := by
  have hnone : (if i < 0 then none else s.state.results[i.toNat]?) = none := by
    rcases h with h | h
    · simp [h]
    · by_cases hi : i < 0
      · simp [hi]
      · simp only [hi, if_false, List.getElem?_eq_none_iff]
        omega
  rw [target, hnone]

end Session

/-! ## Reports -/

namespace SearchReport

theorem results_current (query : String) (mode : SearchMode) (s : SessionState) :
    (current query mode s).results.map Prod.fst = (List.range s.results.length).map some ∧
      (current query mode s).results.map Prod.snd = s.results := by
  have hfst : ∀ (l : List SearchItem) (k : Nat),
      (l.zipIdx k).map (fun x => some x.2) = (List.range' k l.length).map some := by
    intro l k
    rw [← List.zipIdx_map_snd, List.map_map]
    rfl
  constructor
  · rw [current, List.map_map, List.range_eq_range', ← hfst]
    rfl
  · rw [current, List.map_map]
    exact List.zipIdx_map_fst 0 s.results

theorem superseded_of (query : String) (mode : SearchMode) (r : SearchReply) (s : Session) :
    (SearchReport.of query mode r s).superseded = !r.published := by
  unfold SearchReport.of
  cases r.published <;> rfl

end SearchReport

/-! ## Runs -/

namespace Floor

variable {f : Floor}

/-- The answer to a request that opens a result. -/
def opened (f : Floor) (i : Int) : Option (Except Failure Reply) :=
  f.answer? (.begin (.tool (.openResult i)))

theorem opened_eq (i : Int) : f.opened i = some ((f.server.openResult i).map .view) := rfl

/-- What opening a result comes to that has a target : the view of the target if it can be
shown, else a failure of the request. -/
structure Opens (f : Floor) (i : Int) (target : NavigationTarget) : Prop where
  view : f.server.tree.Shows target →
    ∃ excerpt, f.opened i = some (.ok (.view ⟨some target, excerpt, none⟩))
  fails : ¬ f.server.tree.Shows target → ∃ failure, f.opened i = some (.error failure)

theorem opens_of_get? {n : Nat} {item : SearchItem}
    (h : f.server.session.state.results[n]? = some item) :
    f.Opens n (.of item.path item.line) := by
  have hline : 1 ≤ (NavigationTarget.of item.path item.line).line := by
    simp only [NavigationTarget.of]
    omega
  have hopened : f.opened n =
      some ((View.of f.server.tree (.of item.path item.line)).map .view) := by
    rw [opened_eq, Server.openResult, Session.target_of_get? h]
  refine ⟨fun hshows => ?_, fun hshows => ?_⟩
  · obtain ⟨excerpt, hv⟩ := (View.exists_of_eq_ok hline).2 hshows
    exact ⟨excerpt, by rw [hopened, hv]; rfl⟩
  · cases hv : View.of f.server.tree (.of item.path item.line) with
    | error failure => exact ⟨failure, by rw [hopened, hv]; rfl⟩
    | ok v =>
      rw [View.of_eq_ok hv] at hv
      exact absurd ((View.exists_of_eq_ok hline).1 ⟨_, hv⟩) hshows

theorem opened_of_outside {i : Int}
    (h : i < 0 ∨ f.server.session.state.results.length ≤ i) :
    f.opened i =
      some (.ok (.view (.nothing ("No search result at index " ++ toString i)))) := by
  rw [opened_eq, Server.openResult, Session.target_of_outside h]
  rfl

/-- Whether the results of a report are opened by their indices, and by nothing else. -/
structure OpensReport (f : Floor) (report : SearchReport) : Prop where
  listed : ∀ n item, (some n, item) ∈ report.results →
    f.Opens n ⟨item.path, max 1 (item.line - 3)⟩
  others : ∀ i : Int, i < 0 ∨ report.results.length ≤ i →
    ∃ error, f.opened i = some (.ok (.view (.nothing error)))

theorem opensReport_current (query : String) (mode : SearchMode) {s : SessionState}
    (h : f.server.session.state = s) : f.OpensReport (.current query mode s) := by
  subst h
  refine ⟨fun n item hmem => ?_, fun i hi => ⟨_, opened_of_outside ?_⟩⟩
  · obtain ⟨⟨item', n'⟩, hitem, he⟩ := List.mem_map.1 hmem
    cases he
    exact opens_of_get? (List.mem_zipIdx_iff_getElem?.1 hitem)
  · simpa [SearchReport.current] using hi

/-- Indices open what they label. In every run of a server, a report that is not superseded
counts its results from zero ; they are the hits of the search's own scan in order, and what
else it says is what the session shows then. Until another search begins, each index opens the
place of its result, three lines above it, or fails if that place cannot be shown
(`FileTree.Shows`), and no other index opens anything. A report that is superseded has no index,
and the session stays as it was. -/
theorem openResult_of_report {tree : FileTree} {environment : Environment}
    {source : ConfigSource} {scanner : Scanner} {es : List ServerEvent} {e : ServerEvent}
    {report : SearchReport}
    (h : ((new tree environment source scanner).run es).answer? e = some (.ok (.report report))) :
    let before := (new tree environment source scanner).run es
    let state := (before.step e).server.session.state
    (report.superseded = false →
      report.results.map Prod.fst = (List.range report.results.length).map some ∧
      report.results.map (fun r => (r.2.path, r.2.line)) =
        e.found.map (fun h => (h.path, h.line)) ∧
      report.status = state.status ∧ report.error = state.error ∧ report.notice = state.notice ∧
      ∀ later, (∀ e' ∈ later, e'.beginsSearch = false) →
        ((before.step e).run later).OpensReport report) ∧
    (report.superseded = true →
      (∀ r ∈ report.results, r.1 = none) ∧
        (before.step e).server.session = before.server.session) := by
  intro before state
  obtain ⟨hnum, hsearches⟩ : before.Numbered ∧ before.searches = Searches.new.run _ :=
    searches_run (numbered_new ..) (show _ = Searches.new.run [] from rfl) es
  have hnodup : (before.searches.running.map Ticket.number).Nodup :=
    hsearches ▸ Searches.nodup_running _
  obtain ⟨e', query, mode, r, htold, hanswer, hitems, rfl⟩ := exists_reply_of_report hnum hnodup h
  have hstep : (before.step e).searches = before.searches.step e' := by
    rw [searches_step hnum hnodup, htold]
    rfl
  rw [hsearches] at hanswer hstep
  rw [SearchReport.superseded_of]
  rcases Searches.settled_or_unchanged hanswer with ⟨hpub, hsettled, hresults⟩ | ⟨hpub, hsame⟩
  · rw [← hstep] at hsettled hresults
    rw [← Searches.run_concat] at hstep
    have hreport : SearchReport.of query mode r (before.step e).server.session =
        .current query mode state := by
      rw [SearchReport.of, hpub]
      rfl
    obtain ⟨hindices, hshown⟩ := SearchReport.results_current query mode state
    refine ⟨fun _ => ?_, fun hs => by simp [hpub] at hs⟩
    rw [hreport]
    refine ⟨by rw [hindices]; simp [SearchReport.current], ?_, rfl, rfl, rfl, fun later hl => ?_⟩
    · rw [← hitems, ← hresults]
      exact List.map_map.symm.trans (congrArg (List.map fun i => (i.path, i.line)) hshown)
    · obtain ⟨-, hrun⟩ := searches_run (hnum.step e) hstep later
      have hquiet : ∀ e₁ ∈ (before.step e).told later, e₁.begins = true → e₁.isRefused = true :=
        fun e₁ he₁ hb => absurd hb (by simp [not_begins_of_mem_told hl e₁ he₁])
      obtain ⟨-, hstate⟩ := hsettled.run hquiet
      rw [← hrun] at hstate
      exact opensReport_current query mode hstate
  · refine ⟨fun hs => by simp [hpub] at hs, fun _ => ⟨?_, ?_⟩⟩
    · rw [SearchReport.of, hpub]
      simp [SearchReport.replaced]
    · have := congrArg Searches.session hstep
      rw [hsame, ← hsearches] at this
      exact this

/-- A server with a search that runs, while a file with a NUL in its path is about to be hit. -/
def scanningNul : Floor :=
  (new .empty ⟨[]⟩ (.fixed ⟨["/a"], "grep", none, defaultBudget, 8080⟩)
    (.scripted (fun _ => []) .ends)).run [.begin (.tool (.searchModels "x" none))]

def hitNul : ServerEvent :=
  .finish 1 (.hits [⟨"a\x00b", 1, "_name = \"x\""⟩])

def reportNul : SearchReport :=
  ⟨"x", .substring, .idle, none, none, false, [(some 0, ⟨"a\x00b", "a\x00b", 1⟩)]⟩

theorem openResult_of_report_nul :
    scanningNul.answer? hitNul = some (.ok (.report reportNul)) ∧
      ((scanningNul.step hitNul).run []).OpensReport reportNul :=
  ⟨rfl, ((openResult_of_report (by rfl)).1 rfl).2.2.2.2.2 [] (by simp)⟩

/-- The only result of a report cannot be opened by its index. -/
theorem openResult_fails :
    scanningNul.answer? hitNul = some (.ok (.report reportNul)) ∧
      (scanningNul.step hitNul).opened 0 = some (.error ⟨.value, "embedded null byte"⟩) :=
  ⟨rfl, rfl⟩

end Floor

end AddonAtlas
