import AddonAtlas.Proofs.Scan.Place
import AddonAtlas.Proofs.Server.OwnItems
import AddonAtlas.Proofs.Server.Refreshing
import AddonAtlas.Proofs.Server.Site

/-!
# Where hits come from

The record `path:number:text` of a line is cut at its first two colons, so a path with a colon is
never read back. Such a record is skipped, unless a line number follows the first colon of the path :
then it is read as the record of a line in another file (`Hit.parse?_record_iff`). Among files
whose names do not mislead in this way, a scan by the search program finds matches only, at
their places and with their texts (`ScanRun.matches_of_mem_hits`).

Whatever a server shows, tells and holds is made of the hits of scans that have come to hits
(`Floor.drawsOn_run`), so it names matches only as well (`Floor.results_are_matches`).
-/

namespace AddonAtlas

open Bytes (LineAt)
open TreeSearch (record visitRoot hitsIn)
open Utf8 (decode)

/-! ## Records -/

namespace Hit

/-- Whether the records of lines in a file are read as those of another file : what stands between the
first colon of its path and the next one, or the end, is a line number. -/
def misleads (path : String) : Bool :=
  (splitColon path.toList).any fun (_, rest) => (number? (rest.takeWhile (· != ':'))).isSome

theorem takeWhile_append_colon (rest more : List Char) :
    (rest ++ ':' :: more).takeWhile (· != ':') = rest.takeWhile (· != ':') := by
  induction rest with
  | nil => rfl
  | cons c rest ih => simp [List.takeWhile_cons, ih]

/-- The number of a record is what stands between its first two colons. -/
theorem exists_parse?_append {path : List Char} (hpath : ':' ∉ path) (rest more : List Char) :
    ∃ text, parse? (String.ofList (path ++ ':' :: (rest ++ ':' :: more))) =
      (number? (rest.takeWhile (· != ':'))).map fun n => ⟨String.ofList path, n, text⟩ := by
  have hmem : ':' ∈ rest ++ ':' :: more := List.mem_append_cons_self
  obtain ⟨field, text, hsplit, hfield⟩ := List.eq_append_cons_of_mem hmem
  have hwhole : field.takeWhile (· != ':') = field :=
    List.takeWhile_eq_self_iff.2 fun c hc => bne_iff_ne.2 fun he => hfield (he ▸ hc)
  have htake : rest.takeWhile (· != ':') = field := by
    rw [← takeWhile_append_colon rest more, hsplit, takeWhile_append_colon, hwhole]
  exact ⟨String.ofList text, by rw [hsplit, htake, parse?_append hpath hfield]⟩

/-- The record of a line is skipped or read as it is, unless the path misleads. -/
theorem parse?_record_iff (path : String) (n : Nat) (cs : List Char) :
    (parse? (String.ofList (record true path n cs)) = none ∨
        parse? (String.ofList (record true path n cs)) = some ⟨path, n, String.ofList cs⟩) ↔
      misleads path = false := by
  by_cases hcolon : ':' ∈ path.toList
  · obtain ⟨first, rest, hpath, hfirst⟩ := List.eq_append_cons_of_mem hcolon
    have hrecord : record true path n cs =
        first ++ ':' :: (rest ++ ':' :: ((toString n).toList ++ ':' :: cs)) := by
      simp [record, hpath]
    obtain ⟨text, hparse⟩ := exists_parse?_append hfirst rest ((toString n).toList ++ ':' :: cs)
    rw [hrecord, hparse, misleads, hpath, splitColon_append hfirst]
    -- the path that is read is a proper part
    have hne : String.ofList first ≠ path := by
      rintro rfl
      simp at hpath
    cases hk : number? (rest.takeWhile (· != ':')) <;> simp [hk, hne]
  · have hnone : misleads path = false := by simp [misleads, splitColon_eq_none hcolon]
    rw [TreeSearch.parse?_record hcolon, iff_true_right hnone]
    cases hk : number? (toString n).toList with
    | none => exact .inl rfl
    | some k => exact .inr (by rw [eq_of_number?_toString hk]; rfl)

/-- The record of a line in a file whose name misleads. -/
theorem misread_record :
    let read := parse? ("a:1:b.py" ++ ":" ++ toString 5 ++ ":" ++ "_name = \"x\"")
    read = some ⟨"a", 1, "b.py:5:_name = \"x\""⟩ ∧
      ¬ (read = none ∨ read = some ⟨"a:1:b.py", 5, "_name = \"x\""⟩) := by
  decide

theorem ofList_record (path : String) (n : Nat) (text : String) :
    String.ofList (record true path n text.toList) =
      path ++ ":" ++ toString n ++ ":" ++ text := by
  rw [← String.toList_inj]
  simp [record]

end Hit

/-! ## Files -/

/-- A file whose records are not read as those of another one. -/
def TreeSearch.Visit.IsTelling : TreeSearch.Visit → Prop
  | .unreadable => True
  | .file path _ => '\n' ∉ path.toList ∧ Hit.misleads path = false

/-- A hit is a match of a request in a file tree : there is a file at its path below the roots, and the
line of its number in this file is selected by the pattern, and has its text. -/
def ScanRequest.Matches (r : ScanRequest) (t : FileTree) (h : Hit) : Prop :=
  ∃ content i before line after,
    TreeSearch.Visit.file h.path content ∈ r.roots.flatMap (visitRoot t) ∧
      LineAt content.toList i before line after ∧
      r.pattern.byteRegex.selects (.ofList line) = true ∧
      h.line = i + 1 ∧ h.text = String.ofList (decode line)

/-- All files below the roots of a request have telling names. -/
def ScanRequest.IsTelling (r : ScanRequest) (t : FileTree) : Prop :=
  ∀ v ∈ r.roots.flatMap (visitRoot t), v.IsTelling

theorem TreeSearch.matches_of_mem_hitsIn {t : FileTree} {r : ScanRequest} {limit : Nat}
    {named : Bool} {v : Visit} (hv : v ∈ r.roots.flatMap (visitRoot t)) (htelling : v.IsTelling)
    {h : Hit} (hh : h ∈ hitsIn limit r.pattern named v) : r.Matches t h := by
  cases v with
  | unreadable => exact absurd hh List.not_mem_nil
  | file path content =>
    obtain ⟨hpath, hname⟩ := htelling
    obtain ⟨i, line, hline, hselects, hparse⟩ := exists_record_of_mem_hitsIn hpath hh
    cases named with
    | false =>
      rw [parse?_record_of_selects hselects] at hparse
      cases hparse
    | true =>
      have hread := (Hit.parse?_record_iff path (i + 1) (decode line.toList)).2 hname
      rw [hparse] at hread
      obtain rfl := Option.some.inj (hread.resolve_left (by simp))
      obtain ⟨v, hdeclares, -⟩ :=
        (DeclarationPattern.selects_byteRegex r.pattern line.toList).1 hselects
      obtain ⟨before, after, hat⟩ := Bytes.exists_lineAt_of_beforeNul hline hdeclares.ne_nil
      exact ⟨content, i, before, line.toList, after, hv, hat, hselects, Int.natCast_succ i, rfl⟩

/-! ## Scans -/

/-- Among files with telling names a scan by the search program finds matches only. -/
theorem ScanRun.matches_of_mem_hits {t : FileTree} {environment : List (String × String)}
    {r : ScanRequest} (hgrep : Launch.FindsGrep t environment r.grep) (htelling : r.IsTelling t)
    {limit : Nat} {h : Hit} (hh : h ∈ (run t environment limit r).hits) : r.Matches t h := by
  obtain ⟨v, hv, hmem⟩ := exists_visit_of_mem_hits hgrep hh
  exact TreeSearch.matches_of_mem_hitsIn hv (htelling v hv) hmem

theorem ScanRun.hits_of_outcome {r : ScanRun} {hs : List Hit} (h : r.outcome = .hits hs) :
    r.hits = hs := by
  unfold outcome at h
  split at h
  · unfold ScanOutcome.ofFailure at h
    split at h <;> cases h
  · exact ScanOutcome.hits.inj h

/-- A scan of the search program on a file tree comes to these hits, in the order of the program or
in that of the paths. -/
structure ScanJob.Finds (j : ScanJob) (t : FileTree) (hs : List Hit) : Prop where
  scanner : ∃ sorted, j.scanner = .program sorted
  grep : Launch.FindsGrep t j.environment.bindings j.request.grep
  outcome : ∃ left, (j.run t left).outcome = some (.hits hs)

namespace ScanJob.Finds

variable {j : ScanJob} {t : FileTree} {hs : List Hit}

theorem mem_hits (hj : j.Finds t hs) {h : Hit} (hh : h ∈ hs) :
    h ∈ (ScanRun.run t j.environment.bindings lineLimit j.request).hits := by
  obtain ⟨sorted, hscanner⟩ := hj.scanner
  obtain ⟨left, houtcome⟩ := hj.outcome
  have htime : (j.run t left).outcome ≠ some .timedOut := by simp [houtcome]
  obtain ⟨hrun, -⟩ := run_program_sorted hscanner htime
  rw [← ScanRun.hits_of_outcome (Option.some.inj (hrun.symm.trans houtcome))] at hh
  cases sorted with
  | false => exact hh
  | true => exact List.mem_mergeSort.1 hh

theorem isMatch (hj : j.Finds t hs) (htelling : j.request.IsTelling t) :
    ∀ h ∈ hs, j.request.Matches t h :=
  fun _ hh => ScanRun.matches_of_mem_hits hj.grep htelling (hj.mem_hits hh)

end ScanJob.Finds

/-! ## Servers -/

/-- An item is made of a hit of a kind. -/
def SearchItem.IsOf (P : Hit → Prop) (i : SearchItem) : Prop :=
  ∃ roots h, P h ∧ i = ofHit roots h

/-- What a server shows and holds is made of hits of a kind. -/
structure Server.DrawsOn (P : Hit → Prop) (s : Server) : Prop where
  shown : ∀ i ∈ s.session.state.results, i.IsOf P
  indexed : ∃ hs, s.index = .ofList (Hit.declared hs) ∧ ∀ h ∈ hs, P h

theorem SearchItem.isOf_of_mem_map {P : Hit → Prop} {hs : List Hit} (h : ∀ x ∈ hs, P x)
    (roots : List String) : ∀ i ∈ hs.map (ofHit roots), i.IsOf P := by
  intro i hi
  obtain ⟨x, hx, rfl⟩ := List.mem_map.1 hi
  exact ⟨roots, x, h x hx, rfl⟩

namespace Session

variable (s : Session)

/-- A search that begins empties the results or leaves them. -/
theorem results_begin (query : String) (mode : SearchMode)
    (config : Except Failure Config × Log) :
    (s.begin query mode config).1.state.results = [] ∨
      (s.begin query mode config).1.state = s.state := by
  cases beginning query config with
  | empty =>
    rw [begin_empty]
    exact .inl rfl
  | refused hq f log =>
    rw [begin_error s hq]
    exact .inr rfl
  | withoutRoots hq hc log =>
    rw [begin_withoutRoots s hq mode hc]
    exact .inl rfl
  | scanning hq hc log =>
    rw [begin_scanning s hq mode hc]
    exact .inl rfl

/-- A search that finishes leaves the results, or puts the items of its hits in their place. -/
theorem results_finish (t : Ticket) (o : ScanOutcome) :
    (s.finish t o).1.state = s.state ∨
      (s.finish t o).1.state.results = o.found.map (SearchItem.ofHit t.roots) := by
  by_cases hn : t.number = s.issued
  · cases ho : itemsOf t o with
    | error f =>
      refine .inl ?_
      simp [finish, ho]
    | ok items =>
      rw [finish_issued s hn ho]
      exact .inr (itemsOf_eq_ok ho)
  · rw [finish_of_ne_issued s hn]
    exact .inl rfl

end Session

namespace Server

variable (s : Server)

theorem results_begin (r : Request) :
    (s.begin r).1.session.state.results = [] ∨ (s.begin r).1.session.state = s.session.state := by
  cases hr : r.search? with
  | none => exact .inr (congrArg Session.state (s.begin_of_not_search hr).1)
  | some x =>
    obtain ⟨text, value, shape⟩ := x
    rw [s.begin_of_search? hr]
    obtain ⟨failure, -, hb⟩ | ⟨mode, session, reply, log, -, hc, hb⟩ |
      ⟨mode, session, ticket, request, log, -, hc, hb⟩ := s.beginSearch_cases text value shape
    · rw [hb]
      exact .inr rfl
    · have hresults := s.session.results_begin text mode s.config
      rw [hc] at hresults
      rwa [hb]
    · have hresults := s.session.results_begin text mode s.config
      rw [hc] at hresults
      rwa [hb]

/-- An answer has no items if only a scan tells them. -/
theorem items?_eq_none {answer : Except Failure Reply}
    (h : ∀ reply, answer = .ok reply → ¬reply.IsOfScan) :
    answer.toOption.bind Reply.items? = none := by
  cases answer with
  | error f => rfl
  | ok reply =>
    have hplain := h reply rfl
    cases reply with
    | items l => exact absurd trivial hplain
    | search r => exact absurd trivial hplain
    | report r => exact absurd trivial hplain
    | _ => rfl

/-- A request that ends when it begins hands over no items. -/
theorem items?_begin {r : Request} {answer : Except Failure Reply}
    (h : (s.begin r).2.1 = .ended answer) {items : List SearchItem}
    (hitems : answer.toOption.bind Reply.items? = some items) : items = [] := by
  cases hsearch : r.search? with
  | none =>
    cases hrefresh : r.isRefresh with
    | true =>
      rw [s.begin_of_isRefresh hrefresh] at h
      obtain ⟨failure, log, -, hb⟩ | ⟨c, log, -, -, hb⟩ | ⟨c, log, -, -, hb⟩ := s.beginRefresh_cases
      · rw [hb] at h
        cases h
        cases hitems
      · rw [hb] at h
        cases h
        cases hitems
      · rw [hb] at h
        cases h
    | false =>
      obtain ⟨answer', hb, hplain⟩ := s.begin_atOnce hsearch hrefresh
      rw [hb] at h
      cases h
      cases (items?_eq_none hplain).symm.trans hitems
  | some x =>
    obtain ⟨text, value, shape⟩ := x
    cases hv : SearchMode.ofValue value with
    | error f =>
      rw [s.begin_of_search? hsearch, beginSearch_error s hv] at h
      cases h
      cases hitems
    | ok mode =>
      generalize hload : s.config = config
      cases Session.beginning text config with
      | empty =>
        obtain ⟨reply, hreply, hb⟩ := begin_search_empty (s := s) hsearch hv
        rw [show s.begin r = _ from hb s.source] at h
        cases h
        exact Option.some.inj (hitems.symm.trans hreply)
      | refused htext f log =>
        have hrefused := hload ▸ s.session.begin_error htext mode f log
        rw [s.begin_of_search? hsearch, beginSearch_ended s hv hrefused] at h
        cases h
        cases hitems
      | withoutRoots htext hroots log =>
        have hc := congrArg Prod.fst hload
        obtain ⟨reply, log, hreply, hb⟩ := begin_search_withoutRoots hsearch hv htext hc hroots
        rw [hb] at h
        cases h
        exact Option.some.inj (hitems.symm.trans hreply)
      | scanning htext hroots log =>
        have hc := congrArg Prod.fst hload
        obtain ⟨log, hb⟩ := begin_search_scanning hsearch hv htext hc hroots
        rw [hb] at h
        cases h

end Server

/-! ## Runs -/

namespace Floor

/-- The scan that comes to hits by an event, with the hits. -/
def scanned? (f : Floor) : ServerEvent → Option (ScanJob × List Hit)
  | .finish call (.hits hs) => (f.find? call).map fun w => (w.job, hs)
  | _ => none

/-- The scans that come to hits in a run, with their hits. -/
def scans (f : Floor) : List ServerEvent → List (ScanJob × List Hit)
  | [] => []
  | e :: es => (f.scanned? e).toList ++ (f.step e).scans es

variable {f : Floor} {P : Hit → Prop}

theorem scanned?_of_mem_found {call : Nat} {w : Waiting} (hw : f.find? call = some w)
    {o : ScanOutcome} {h : Hit} (hh : h ∈ o.found) :
    f.scanned? (.finish call o) = some (w.job, o.found) := by
  cases o with
  | hits hs => simp [scanned?, hw, ScanOutcome.found]
  | _ => cases hh

theorem server_step_begin (r : Request) : (f.step (.begin r)).server = (f.server.begin r).1 := by
  simp only [step]
  split <;> simp [*]

/-- The hits that a refresh ends with are those of its scan. -/
theorem exists_scanned?_of_refreshEnd? {e : ServerEvent} {hs : List Hit}
    (h : f.refreshEnd? e = some (.ok hs)) {x : Hit} (hx : x ∈ hs) :
    ∃ j, f.scanned? e = some (j, hs) := by
  cases e with
  | begin r =>
    -- a refresh that ends at once has no hits
    simp only [refreshEnd?] at h
    split at h
    · split at h
      · cases h
      · split at h <;> cases h
        cases hx
    · cases h
  | finish call o =>
    obtain ⟨timeout, hbind, ho⟩ := Option.map_eq_some_iff.1 h
    obtain ⟨w, hw, -⟩ := Option.bind_eq_some_iff.1 hbind
    cases o with
    | hits hs' =>
      cases ho
      exact ⟨w.job, by simp [scanned?, hw]⟩
    | raised failure => cases ho
    | _ =>
      cases ho
      cases hx
  | cancel call => cases h
  | change tree environment source scanner => cases h

/-- An event keeps a server to hits of a kind, if the hits are of this kind that it brings. -/
theorem drawsOn_step (h : f.server.DrawsOn P) {e : ServerEvent}
    (he : ∀ x, f.scanned? e = some x → ∀ y ∈ x.2, P y) : (f.step e).server.DrawsOn P := by
  constructor
  case shown =>
    cases e with
    | begin r =>
      rw [server_step_begin]
      rcases f.server.results_begin r with hnil | hsame
      · simp [hnil]
      · rw [hsame]
        exact h.shown
    | finish call o =>
      cases hw : f.find? call with
      | none => simpa [step, hw] using h.shown
      | some w =>
        have hfound : ∀ y ∈ o.found, P y := fun y hy => he _ (scanned?_of_mem_found hw hy) y hy
        simp only [step, hw]
        cases hp : w.purpose with
        | refresh timeout =>
          rw [Server.session_finish_refresh]
          exact h.shown
        | search t shape =>
          rw [Server.session_finish_search]
          rcases f.server.session.results_finish t o with hsame | hitems
          · rw [hsame]
            exact h.shown
          · rw [hitems]
            exact SearchItem.isOf_of_mem_map hfound t.roots
    | cancel call => exact h.shown
    | change tree environment source scanner => exact h.shown
  case indexed =>
    have hstep := f.refreshes_step e
    cases hend : f.refreshEnd? e with
    | none =>
      rw [hend] at hstep
      exact hstep.1 ▸ h.indexed
    | some result =>
      rw [hend] at hstep
      cases result with
      | error failure => exact hstep.1 ▸ h.indexed
      | ok hs =>
        refine ⟨hs, hstep.1.eq_ofList, fun y hy => ?_⟩
        obtain ⟨j, hj⟩ := exists_scanned?_of_refreshEnd? hend hy
        exact he _ hj y hy

/-- A server shows and holds what its scans have come to, and nothing else. -/
theorem drawsOn_run (h : f.server.DrawsOn P) {es : List ServerEvent}
    (hes : ∀ x ∈ f.scans es, ∀ y ∈ x.2, P y) : (f.run es).server.DrawsOn P := by
  induction es generalizing f with
  | nil => exact h
  | cons e es ih =>
    obtain ⟨he, hrest⟩ := List.forall_mem_append.1 hes
    exact ih (drawsOn_step h fun x hx => he x (Option.mem_toList.2 hx)) hrest

/-- A caller is told the items of the hits that the event brings. -/
theorem isOf_of_itemsTold? {e : ServerEvent} (he : ∀ x, f.scanned? e = some x → ∀ y ∈ x.2, P y)
    {items : List SearchItem} (h : f.itemsTold? e = some items) : ∀ i ∈ items, i.IsOf P := by
  obtain ⟨answer, hanswer, hitems⟩ := Option.bind_eq_some_iff.1 h
  cases e with
  | begin r =>
    simp only [answer?] at hanswer
    split at hanswer
    · next answer' hb =>
      cases hanswer
      rw [f.server.items?_begin hb hitems]
      exact fun i hi => absurd hi List.not_mem_nil
    · cases hanswer
  | finish call o =>
    obtain ⟨w, hw, hfinish⟩ := Option.map_eq_some_iff.1 hanswer
    have hfound : ∀ y ∈ o.found, P y := fun y hy => he _ (scanned?_of_mem_found hw hy) y hy
    cases hp : w.purpose with
    | refresh timeout =>
      rw [hp] at hfinish
      simp only [Server.finish] at hfinish
      split at hfinish <;> (cases hfinish; cases hitems)
    | search t shape =>
      rw [← hfinish, hp, Server.items?_finish] at hitems
      cases o with
      | raised failure => cases hitems
      | _ =>
        cases hitems
        exact SearchItem.isOf_of_mem_map hfound t.roots
  | cancel call => cases hanswer
  | change tree environment source scanner => cases hanswer

theorem scans_append (f : Floor) (es es' : List ServerEvent) :
    f.scans (es ++ es') = f.scans es ++ (f.run es).scans es' := by
  induction es generalizing f with
  | nil => rfl
  | cons e es ih => rw [List.cons_append, scans, ih, scans, run_cons, List.append_assoc]

/-- A hit of one of the scans, and a match in the file tree of this scan. -/
def IsMatchOf (scans : List (ScanJob × List Hit)) (on : ScanJob × List Hit → FileTree) (h : Hit) :
    Prop :=
  ∃ x ∈ scans, h ∈ x.2 ∧ x.1.request.Matches (on x) h

/-- Hits are attributed to their places. The record of a line is skipped or read as it is, if
its path does not mislead, and read as another one if it does. In a run of a new server let the scans
that come to hits be made by the search program, each in a file tree whose names below the roots of the scan
are telling. Then every item that is shown at the end or told on the way is made of a hit of one
of these scans, and so is every declaration in the index ; and each of these hits has the path
of a file in the tree of its scan, the number of a line in this file that the pattern of the scan selects,
and the text of this line. -/
theorem results_are_matches (t : FileTree) (environment : Environment) (source : ConfigSource)
    (scanner : Scanner) (es : List ServerEvent) (on : ScanJob × List Hit → FileTree)
    (hscans : ∀ x ∈ (new t environment source scanner).scans es,
      x.1.Finds (on x) x.2 ∧ x.1.request.IsTelling (on x)) :
    (∀ (path text : String) (n : Nat),
      (Hit.parse? (path ++ ":" ++ toString n ++ ":" ++ text) = none ∨
          Hit.parse? (path ++ ":" ++ toString n ++ ":" ++ text) = some ⟨path, n, text⟩) ↔
        Hit.misleads path = false) ∧
    let f := new t environment source scanner
    (∀ i ∈ (f.run es).server.session.state.results, i.IsOf (IsMatchOf (f.scans es) on)) ∧
      (∀ identity, ∀ d ∈ (f.run es).server.index.declarations identity,
        ∃ h, IsMatchOf (f.scans es) on h ∧ d = .ofHit .identity h) ∧
      ∀ before e after, es = before ++ e :: after →
        ∀ items, (f.run before).itemsTold? e = some items →
          ∀ i ∈ items, i.IsOf (IsMatchOf (f.scans es) on) := by
  refine ⟨fun path text n => ?_, ?_⟩
  · rw [← Hit.ofList_record]
    simpa using Hit.parse?_record_iff path n text.toList
  · intro f
    have hmatch : ∀ x ∈ f.scans es, ∀ h ∈ x.2, IsMatchOf (f.scans es) on h := fun x hx h hh =>
      ⟨x, hx, hh, (hscans x hx).1.isMatch (hscans x hx).2 h hh⟩
    have hnew : f.server.DrawsOn (IsMatchOf (f.scans es) on) :=
      ⟨fun i hi => absurd hi List.not_mem_nil, [], rfl, fun h hh => absurd hh List.not_mem_nil⟩
    obtain ⟨hshown, hs, hindex, hdeclared⟩ := drawsOn_run hnew hmatch
    refine ⟨hshown, fun identity d hd => ?_, ?_⟩
    · rw [hindex, ModelIndex.declarations_ofList] at hd
      obtain ⟨h, hh, rfl⟩ := List.mem_map.1 (List.mem_of_mem_filter hd)
      exact ⟨h, hdeclared h hh, rfl⟩
    · rintro before e after rfl items hitems
      refine isOf_of_itemsTold? (fun x hx => hmatch x ?_) hitems
      rw [scans_append, scans]
      exact List.mem_append_right _ (List.mem_append_left _ (Option.mem_toList.2 hx))

/-- A refresh of a directory with one declaration. -/
theorem results_are_matches_site :
    let f := new (Site.tree "x") ⟨[]⟩ (.fixed Site.config) (.program false)
    let es := [.begin .refresh, .finish 1 (.hits [Site.hit "x"])]
    (∀ x ∈ f.scans es, x.1.Finds (Site.tree "x") x.2 ∧ x.1.request.IsTelling (Site.tree "x")) ∧
      (f.run es).server.index.declarations "x" = [⟨"x", "r/m.py", 1⟩] ∧
      ∃ h, IsMatchOf (f.scans es) (fun _ => Site.tree "x") h ∧
        (⟨"x", "r/m.py", 1⟩ : Declaration) = .ofHit .identity h := by
  intro f es
  have hfits : Site.Fits "x" := ⟨by decide, by decide, by decide, by decide, by decide⟩
  have hserver := Site.scans_server hfits
  obtain ⟨log, hbegin⟩ := Server.begin_refresh hserver
  have hstep : f.step (.begin .refresh) = ⟨Site.server "x",
      [(1, ⟨(Site.server "x").job (Site.config.request .free) none, .refresh none⟩)], 1⟩ := by
    rw [step]
    simp only [show f.server = Site.server "x" from rfl, hbegin]
    rfl
  have hscans : f.scans es =
      [((Site.server "x").job (Site.config.request .free) none, [Site.hit "x"])] := by
    rw [scans, scans, hstep]
    rfl
  have hall : ∀ x ∈ f.scans es,
      x.1.Finds (Site.tree "x") x.2 ∧ x.1.request.IsTelling (Site.tree "x") := by
    rw [hscans]
    intro x hx
    obtain rfl := List.mem_singleton.1 hx
    have htime := Server.outcome?_ne_timedOut hserver rfl .free
    obtain ⟨houtcome, -⟩ := ScanJob.run_program hserver.scanner htime
    refine ⟨⟨⟨false, rfl⟩, hserver.grep, _, houtcome.trans ?_⟩, ?_⟩
    · exact congrArg some (Site.scanned_free hfits)
    · have hvisits : ["r"].flatMap (visitRoot (Site.tree "x")) =
          [.file "r/m.py" (Site.content "x")] := by simp [Site.visitRoot_r]
      intro v hv
      obtain rfl := List.mem_singleton.1 (hvisits ▸ hv)
      exact ⟨by decide, by decide⟩
  have hindex : (f.run es).server.index.declarations "x" = [⟨"x", "r/m.py", 1⟩] := by
    rw [run_cons, run_cons, run_nil, hstep]
    show (((Site.server "x").finish (.refresh none) (.hits [Site.hit "x"])).1).index.declarations
      "x" = _
    obtain ⟨-, -, hinstalled, -⟩ :=
      (Site.server "x").finish_refresh_ok (o := .hits [Site.hit "x"]) rfl none
    rw [hinstalled, Hit.declared, List.map_singleton, Site.ofHit_hit hfits]
    rfl
  obtain ⟨-, -, hindexed, -⟩ := results_are_matches _ _ _ _ es (fun _ => Site.tree "x") hall
  exact ⟨hall, hindex, hindexed "x" _ (hindex ▸ List.mem_singleton_self _)⟩

end Floor

end AddonAtlas
