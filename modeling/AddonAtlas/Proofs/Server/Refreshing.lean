import AddonAtlas.Proofs.Index
import AddonAtlas.Proofs.Server.Run

/-!
# What the index holds

Refreshes overlap like all other calls, and each of them replaces the index as a whole or leaves it
alone. How a refresh ends is said by the event that ends it (`Floor.refreshEnd?`) : without roots,
or by its scan, it returns with the hits of this scan, none if the scan failed or took too long, and
without a configuration, or by any other failure of the scan, it raises. A refresh that returns
installs the grouping of its hits, and nothing else that happens changes the index
(`refreshes_step`). So the index of a run is the grouping of the hits of the refresh that was the
last one to return (`index_of_last_refresh`).
-/

namespace AddonAtlas

/-- The time limit of a refresh that waits for its scan. -/
def Waiting.refresh? (w : Waiting) : Option (Option Seconds) :=
  match w.purpose with
  | .refresh timeout => some timeout
  | .search _ _ => none

/-- How a refresh ends by its scan : with hits, or by raising. -/
def ScanOutcome.refreshed : ScanOutcome → Except Failure (List Hit)
  | .hits hs => .ok hs
  | .failed _ | .timedOut => .ok []
  | .raised failure => .error failure

theorem ScanOutcome.refreshed_eq_error {o : ScanOutcome} {failure : Failure} :
    o.refreshed = .error failure ↔ o = .raised failure := by
  cases o <;> simp [refreshed]

/-- The numbers of a summary are those of an index. -/
def IndexSummary.Counts (summary : IndexSummary) (x : ModelIndex) : Prop :=
  summary.models = x.identities.length ∧ summary.declarations = x.size

/-- The declarations that a refresh makes of hits. -/
def Hit.declared (hs : List Hit) : List Declaration :=
  hs.map (Declaration.ofHit .identity)

namespace ModelIndex

theorem installed_eq (ds : List Declaration) :
    ∃ summary, ((installed ds).1, (installed ds).2.1) = (ofList ds, summary) ∧
      summary.Counts (ofList ds) := by
  unfold installed
  split
  · next h =>
    obtain rfl := List.isEmpty_iff.1 h
    exact ⟨_, rfl, rfl, rfl⟩
  · exact ⟨_, rfl, (List.length_map _).symm, (size_ofList ds).symm⟩

/-- A refresh whose scan has come to hits installs their grouping. -/
theorem finishRefresh_eq_ok {o : ScanOutcome} {hs : List Hit} (h : o.refreshed = .ok hs)
    (timeout : Option Seconds) :
    ∃ summary, (finishRefresh timeout o).1 = .ok (ofList (Hit.declared hs), summary) ∧
      summary.Counts (ofList (Hit.declared hs)) := by
  obtain ⟨summary, hinstalled, hcounts⟩ := installed_eq (Hit.declared hs)
  refine ⟨summary, ?_, hcounts⟩
  cases o with
  | raised f => cases h
  | _ =>
    cases h
    exact congrArg Except.ok hinstalled

end ModelIndex

namespace Server

variable (s : Server)

/-- A refresh whose scan has come to hits returns, and its summary counts the new index. -/
theorem finish_refresh_ok {o : ScanOutcome} {hs : List Hit} (h : o.refreshed = .ok hs)
    (timeout : Option Seconds) :
    ∃ summary, (s.finish (.refresh timeout) o).2.1 = .ok (.summary summary) ∧
      (s.finish (.refresh timeout) o).1.index = .ofList (Hit.declared hs) ∧
      summary.Counts (.ofList (Hit.declared hs)) := by
  obtain ⟨summary, hfinish, hcounts⟩ := ModelIndex.finishRefresh_eq_ok h timeout
  cases hx : ModelIndex.finishRefresh timeout o with
  | mk result log =>
    obtain rfl : result = _ := (congrArg Prod.fst hx).symm.trans hfinish
    exact ⟨summary, by simp [finish, hx], by simp [finish, hx], hcounts⟩

theorem finish_refresh_error {o : ScanOutcome} {failure : Failure}
    (h : o.refreshed = .error failure) (timeout : Option Seconds) :
    (s.finish (.refresh timeout) o).2.1 = .error failure ∧
      (s.finish (.refresh timeout) o).1 = s := by
  rw [ScanOutcome.refreshed_eq_error.1 h]
  exact ⟨rfl, rfl⟩

/-- A request that is no refresh leaves the index alone, and is not answered by a summary. -/
theorem begin_of_not_refresh {r : Request} (h : r.isRefresh = false) :
    (s.begin r).1.index = s.index ∧
      ∀ summary, (s.begin r).2.1 ≠ .ended (.ok (.summary summary)) := by
  cases hsearch : r.search? with
  | none =>
    obtain ⟨answer, hb, hplain⟩ := s.begin_atOnce hsearch h
    rw [hb]
    exact ⟨rfl, fun summary hw => hplain (.summary summary) (by cases hw; rfl) trivial⟩
  | some x =>
    obtain ⟨text, value, shape⟩ := x
    rw [s.begin_of_search? hsearch]
    obtain ⟨failure, -, hb⟩ | ⟨mode, session, reply, log, -, -, hb⟩ |
      ⟨mode, session, ticket, request, log, -, -, hb⟩ := s.beginSearch_cases text value shape
    · simp [hb]
    · rw [hb]
      refine ⟨rfl, fun summary hw => ?_⟩
      injection hw with hw
      exact map_searchReply_ne _ text mode shape reply summary hw
    · simp [hb]

end Server

namespace Floor

/-- How a refresh ends by an event, if one does. A refresh that begins with roots waits for its
scan. -/
def refreshEnd? (f : Floor) : ServerEvent → Option (Except Failure (List Hit))
  | .begin r =>
    if r.isRefresh then
      match f.server.config.1 with
      | .error failure => some (.error failure)
      | .ok c => if c.roots = [] then some (.ok []) else none
    else none
  | .finish call o => ((f.find? call).bind (·.refresh?)).map fun _ => o.refreshed
  | _ => none

/-- The hits of the refreshes that return in a run, in the order of their ends. -/
def returned (f : Floor) : List ServerEvent → List (List Hit)
  | [] => []
  | e :: es => ((f.refreshEnd? e).bind Except.toOption).toList ++ (f.step e).returned es

/-- What becomes of the index by an event, and how the event is answered, given how a refresh ends
by it. -/
def Refreshes (f : Floor) (e : ServerEvent) : Option (Except Failure (List Hit)) → Prop
  | some (.ok hs) =>
    (f.step e).server.index.Groups (Hit.declared hs) ∧
      (hs = [] → (f.step e).server.index = .empty) ∧
      ∃ summary, f.answer? e = some (.ok (.summary summary)) ∧
        summary.Counts (f.step e).server.index
  | some (.error failure) =>
    (f.step e).server.index = f.server.index ∧ f.answer? e = some (.error failure)
  | none =>
    (f.step e).server.index = f.server.index ∧
      ∀ summary, f.answer? e ≠ some (.ok (.summary summary))

variable {f : Floor}

theorem refreshes_ok {e : ServerEvent} {hs : List Hit} {summary : IndexSummary}
    (hindex : (f.step e).server.index = .ofList (Hit.declared hs))
    (hanswer : f.answer? e = some (.ok (.summary summary)))
    (hcounts : summary.Counts (.ofList (Hit.declared hs))) : f.Refreshes e (some (.ok hs)) := by
  refine ⟨hindex ▸ ModelIndex.groups_ofList _, fun hnone => ?_, summary, hanswer, hindex ▸ hcounts⟩
  rw [hindex, hnone]
  rfl

theorem refreshes_begin (r : Request) :
    f.Refreshes (.begin r) (f.refreshEnd? (.begin r)) := by
  cases hr : r.isRefresh with
  | true =>
    have hbegin := f.server.begin_of_isRefresh hr
    obtain ⟨failure, log, hc, hb⟩ | ⟨c, log, hc, hroots, hb⟩ | ⟨c, log, hc, hroots, hb⟩ :=
      f.server.beginRefresh_cases
    · rw [refreshEnd?, if_pos hr, hc]
      simp [Refreshes, step, answer?, hbegin, hb]
    · simp only [refreshEnd?, if_pos hr, hc, if_pos hroots]
      have hindex : (f.step (.begin r)).server.index = .ofList (Hit.declared []) := by
        simp only [step, hbegin, hb]
        rfl
      have hanswer : f.answer? (.begin r) = some (.ok (.summary ⟨0, 0, some noRoots⟩)) := by
        simp only [answer?, hbegin, hb]
      exact refreshes_ok hindex hanswer ⟨rfl, rfl⟩
    · simp only [refreshEnd?, if_pos hr, hc, if_neg hroots]
      simp [Refreshes, step, answer?, hbegin, hb]
  | false =>
    rw [refreshEnd?, hr, if_neg Bool.false_ne_true]
    obtain ⟨hindex, hsummary⟩ := f.server.begin_of_not_refresh hr
    refine ⟨?_, fun summary ha => ?_⟩
    · simp only [step]
      split
      · next s answer log hb => simpa [hb] using hindex
      · next s w log hb => simpa [hb] using hindex
    · simp only [answer?] at ha
      split at ha
      · next answer hb => exact hsummary summary (by rw [hb]; cases ha; rfl)
      · cases ha

theorem refreshes_finish (call : Nat) (o : ScanOutcome) :
    f.Refreshes (.finish call o) (f.refreshEnd? (.finish call o)) := by
  cases hw : f.find? call with
  | none => simp [refreshEnd?, hw, Refreshes, step, answer?]
  | some w =>
    cases hp : w.purpose with
    | refresh timeout =>
      have hend : f.refreshEnd? (.finish call o) = some o.refreshed := by
        simp [refreshEnd?, hw, Waiting.refresh?, hp]
      rw [hend]
      cases ho : o.refreshed with
      | error failure =>
        obtain ⟨hanswer, hserver⟩ := f.server.finish_refresh_error ho timeout
        exact ⟨by simp [step, hw, hp, hserver], by simp [answer?, hw, hp, hanswer]⟩
      | ok hs =>
        obtain ⟨summary, hanswer, hindex, hcounts⟩ := f.server.finish_refresh_ok ho timeout
        exact refreshes_ok (by simp [step, hw, hp, hindex]) (by simp [answer?, hw, hp, hanswer])
          hcounts
    | search ticket shape =>
      have hend : f.refreshEnd? (.finish call o) = none := by
        simp [refreshEnd?, hw, Waiting.refresh?, hp]
      rw [hend]
      refine ⟨by simp [step, hw, hp, Server.finish], fun summary ha => ?_⟩
      simp only [answer?, hw, hp, Option.map_some, Server.finish, Option.some.injEq] at ha
      exact Server.map_searchReply_ne _ _ _ _ _ summary ha

/-- A refresh that returns installs the grouping of its hits, and nothing else changes the index. -/
theorem refreshes_step (f : Floor) (e : ServerEvent) : f.Refreshes e (f.refreshEnd? e) := by
  cases e with
  | begin r => exact refreshes_begin r
  | finish call o => exact refreshes_finish call o
  | cancel call => exact ⟨rfl, by simp [answer?]⟩
  | change tree environment source scanner => exact ⟨rfl, by simp [answer?]⟩

/-- The index of a run is the grouping of the hits of the last refresh that returns. -/
theorem groups_run {hs : List Hit} (h : f.server.index.Groups (Hit.declared hs))
    (es : List ServerEvent) :
    (f.run es).server.index.Groups (Hit.declared ((f.returned es).getLast?.getD hs)) := by
  induction es generalizing f hs with
  | nil => exact h
  | cons e es ih =>
    have hstep := f.refreshes_step e
    rw [run_cons, returned, List.getLast?_append, Option.getD_or]
    cases hend : f.refreshEnd? e with
    | none =>
      rw [hend] at hstep
      exact ih (hstep.1 ▸ h)
    | some x =>
      rw [hend] at hstep
      cases x with
      | error failure => exact ih (hstep.1 ▸ h)
      | ok hs' => exact ih hstep.1

/-- In every run of a new server the index is the grouping of the hits of the refresh that was the
last one to return, and of none before the first one. Whatever happens next either ends a refresh
that returns, which replaces the index and has counted the new one, or leaves the index as it is. -/
theorem index_of_last_refresh (t : FileTree) (e : Environment) (source : ConfigSource)
    (scanner : Scanner) (es : List ServerEvent) :
    let start := new t e source scanner
    let f := start.run es
    f.server.index.Groups (Hit.declared ((start.returned es).getLast?.getD [])) ∧
      ∀ event, f.Refreshes event (f.refreshEnd? event) :=
  ⟨groups_run (ModelIndex.groups_ofList []) es, refreshes_step _⟩

end Floor

end AddonAtlas
