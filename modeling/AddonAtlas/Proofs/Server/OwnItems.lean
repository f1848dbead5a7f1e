import AddonAtlas.Proofs.Server.Waiting

/-!
# What the caller of a search is told

A search that comes to its scan is told the items of this scan, below the roots of the
configuration that it began with, whatever else happens to the server before and in the meantime
(`itemsTold?_finish`). All that a search takes along is in its ticket, and the ticket waits with the
call. A report is made of the session and not of the search's reply, but if the search has published,
the session shows just the items of this reply (`Session.results_of_published`). A search without a
text, and one without roots, is over at once and has no items.
-/

namespace AddonAtlas

/-- The items that a reply to a search hands over. -/
def Reply.items? : Reply → Option (List SearchItem)
  | .items l => some l
  | .search r => some r.items
  | .report r => some (r.results.map (·.2))
  | _ => none

/-- The items that the caller of a search is due, whose scan below these roots has come to an
outcome ; none if the search raises. -/
def ScanOutcome.items? (roots : List String) : ScanOutcome → Option (List SearchItem)
  | .hits hs => some (hs.map (SearchItem.ofHit roots))
  | .failed _ | .timedOut => some []
  | .raised _ => none

/-! ## Replies -/

theorem Session.toOption_itemsOf (t : Ticket) (o : ScanOutcome) :
    (itemsOf t o).toOption = o.items? t.roots := by
  cases o <;> rfl

/-- A session shows the items of a search that has published. -/
theorem Session.results_of_published {s : Session} {t : Ticket} {o : ScanOutcome} {r : SearchReply}
    (h : (s.finish t o).2.1 = .ok r) (hpublished : r.published = true) :
    (s.finish t o).1.state.results = r.items := by
  rw [published_of_finish s h, decide_eq_true_iff] at hpublished
  rw [finish_issued s hpublished (items_of_finish h)]
  rfl

namespace Server

variable (s : Server)

/-- A reply to a search hands over its items, if the session shows them or the search has not
published. -/
theorem items?_searchReply {r : SearchReply}
    (h : r.published = true → s.session.state.results = r.items) (query : String)
    (mode : SearchMode) (shape : SearchShape) :
    (s.searchReply query mode shape r).items? = some r.items := by
  cases shape with
  | report =>
    cases hpublished : r.published with
    | true =>
      have hresults := h hpublished
      simp [searchReply, Reply.items?, SearchReport.of, SearchReport.current, hpublished,
        List.map_map, Function.comp_def, List.zipIdx_map_fst, hresults]
    | false =>
      simp [searchReply, Reply.items?, SearchReport.of, SearchReport.replaced, hpublished,
        Function.comp_def]
  | _ => rfl

/-- A search is told the items of its own scan. -/
theorem items?_finish (t : Ticket) (shape : SearchShape) (o : ScanOutcome) :
    (s.finish (.search t shape) o).2.1.toOption.bind Reply.items? = o.items? t.roots := by
  simp only [finish]
  rw [← Session.toOption_itemsOf]
  cases hr : (s.session.finish t o).2.1 with
  | error failure =>
    cases ho : Session.itemsOf t o with
    | error f => rfl
    | ok items => simp [Session.finish, ho] at hr
  | ok r =>
    rw [Session.items_of_finish hr]
    exact items?_searchReply _ (Session.results_of_published hr) _ _ _

variable {s} {r : Request} {text : String} {value : Option Value} {shape : SearchShape}
  {mode : SearchMode}

/-- A search without a text is over at once. What there would be for a configuration has no bearing
on it, not even by what is logged. -/
theorem begin_search_empty (hr : r.search? = some ("", value, shape))
    (hmode : SearchMode.ofValue value = .ok mode) :
    ∃ reply, reply.items? = some [] ∧ ∀ source,
      { s with source := source }.begin r =
        ({ s with source := source, session := ⟨.cleared mode, s.session.issued + 1⟩ },
          .ended (.ok reply), []) := by
  refine ⟨{ s with session := ⟨.cleared mode, s.session.issued + 1⟩ }.searchReply "" mode shape
    ⟨[], true⟩, items?_searchReply _ (fun _ => rfl) _ _ _, fun source => ?_⟩
  rw [begin_of_search? _ hr, beginSearch_ended _ hmode (Session.begin_empty _ mode _)]
  cases shape <;> rfl

theorem begin_search_withoutRoots (hr : r.search? = some (text, value, shape))
    (hmode : SearchMode.ofValue value = .ok mode) (htext : text ≠ "") {c : Config}
    (hc : s.config.1 = .ok c) (hroots : c.roots = []) :
    ∃ reply log, reply.items? = some [] ∧
      s.begin r = ({ s with session := ⟨.withoutRoots text mode, s.session.issued + 1⟩ },
        .ended (.ok reply), log) := by
  obtain ⟨log, hload⟩ : ∃ log, s.config = (.ok c, log) := ⟨_, Prod.ext hc rfl⟩
  have hbegin := s.session.begin_withoutRoots htext mode hroots log
  rw [← hload] at hbegin
  rw [begin_of_search? _ hr, beginSearch_ended _ hmode hbegin]
  exact ⟨_, _, items?_searchReply _ (fun _ => rfl) _ _ _, rfl⟩

theorem begin_search_scanning (hr : r.search? = some (text, value, shape))
    (hmode : SearchMode.ofValue value = .ok mode) (htext : text ≠ "") {c : Config}
    (hc : s.config.1 = .ok c) (hroots : c.roots ≠ []) :
    ∃ log, s.begin r = ({ s with session := ⟨.searching text mode, s.session.issued + 1⟩ },
      .waiting ⟨s.job (c.request (.of (some mode) (some text))) c.scanTimeout,
        .search (s.session.nextTicket text mode c) shape⟩, log) := by
  obtain ⟨log, hload⟩ : ∃ log, s.config = (.ok c, log) := ⟨_, Prod.ext hc rfl⟩
  have hbegin := s.session.begin_scanning htext mode hroots log
  rw [← hload] at hbegin
  exact ⟨log, by rw [begin_of_search? _ hr, beginSearch_scanning _ hmode hbegin]; rfl⟩

end Server

/-! ## Runs -/

namespace Floor

/-- The items that a caller is told by an event. -/
def itemsTold? (f : Floor) (e : ServerEvent) : Option (List SearchItem) :=
  (f.answer? e).bind fun answer => answer.toOption.bind Reply.items?

variable {f : Floor} {r : Request} {text : String} {value : Option Value} {shape : SearchShape}
  {mode : SearchMode}

/-- A search that began with roots waits for the scan it has asked for, and is told what is due of
the outcome. -/
theorem itemsTold?_finish (hr : r.search? = some (text, value, shape))
    (hmode : SearchMode.ofValue value = .ok mode) (htext : text ≠ "") {c : Config}
    (hc : f.server.config.1 = .ok c) (hroots : c.roots ≠ []) {between : List ServerEvent}
    (hbetween : ∀ e ∈ between, e.ends (f.begun + 1) = false) :
    (∃ w, ((f.step (.begin r)).run between).find? (f.begun + 1) = some w ∧
        w.job.request = c.request (.of (some mode) (some text))) ∧
      ∀ o, ((f.step (.begin r)).run between).itemsTold? (.finish (f.begun + 1) o) =
        o.items? c.roots := by
  obtain ⟨log, hbegin⟩ := Server.begin_search_scanning hr hmode htext hc hroots
  have hwaits := find?_run_of_begin hbegin hbetween
  refine ⟨⟨_, hwaits, rfl⟩, fun o => ?_⟩
  rw [itemsTold?, answer?, hwaits]
  exact Server.items?_finish _ (f.server.session.nextTicket text mode c) shape o

/-- Every caller gets its own answer, whatever happens to the server before, in the meantime and
after. A search without a text returns no items, does not ask for the configuration and waits for no
scan, and one that finds no roots configured returns no items and waits for no scan either. Any other
search waits for its own scan. It returns no items if that scan fails or takes too long, and an item
for each hit otherwise, labelled by the roots that were configured when the search began : just what
it returns on a server of which nothing else is asked. Nothing answers it again. -/
theorem caller_told_own_items (hr : r.search? = some (text, value, shape))
    (hmode : SearchMode.ofValue value = .ok mode) :
    (text = "" → ∃ reply, reply.items? = some [] ∧ ∀ source,
      { f.server with source := source }.begin r =
        ({ f.server with
            source := source, session := ⟨.cleared mode, f.server.session.issued + 1⟩ },
          .ended (.ok reply), [])) ∧
    ∀ c, text ≠ "" → f.server.config.1 = .ok c →
      (c.roots = [] →
        f.itemsTold? (.begin r) = some [] ∧ (f.step (.begin r)).waiting = f.waiting) ∧
      (c.roots ≠ [] → ∀ between, (∀ e ∈ between, e.ends (f.begun + 1) = false) →
        let call := f.begun + 1
        let g := (f.step (.begin r)).run between
        (∃ w, g.find? call = some w ∧
          w.job.request = c.request (.of (some mode) (some text))) ∧
        (∀ hs, g.itemsTold? (.finish call (.hits hs)) =
          some (hs.map (SearchItem.ofHit c.roots))) ∧
        (∀ reason, g.itemsTold? (.finish call (.failed reason)) = some []) ∧
        g.itemsTold? (.finish call .timedOut) = some [] ∧
        (∀ o t e scanner, g.itemsTold? (.finish call o) =
          ((new t e (.fixed c) scanner).step (.begin r)).itemsTold? (.finish 1 o)) ∧
        ∀ o o' later, ((g.step (.finish call o)).run later).answer? (.finish call o') = none) := by
  constructor
  case left =>
    rintro rfl
    exact Server.begin_search_empty hr hmode
  case right =>
    intro c htext hc
    refine ⟨fun hroots => ?_, ?_⟩
    · obtain ⟨reply, log, hreply, hbegin⟩ :=
        Server.begin_search_withoutRoots hr hmode htext hc hroots
      exact ⟨by simp [itemsTold?, answer?, hbegin, Except.toOption, hreply], by simp [step, hbegin]⟩
    · intro hroots between hbetween call g
      obtain ⟨hwaits, htold⟩ := itemsTold?_finish hr hmode htext hc hroots hbetween
      refine ⟨hwaits, fun hs => htold _, fun reason => htold _, htold _, fun o t e scanner => ?_, ?_⟩
      · have hlone : (new t e (.fixed c) scanner).server.config.1 = .ok c := rfl
        have hnone : ∀ e' ∈ ([] : List ServerEvent), e'.ends 1 = false := by simp
        obtain ⟨-, htold'⟩ := itemsTold?_finish hr hmode htext hlone hroots hnone
        exact (htold o).trans (htold' o).symm
      · intro o o' later
        have hbegun : call ≤ g.begun :=
          Nat.le_trans (Nat.le_of_eq (begun_step_begin r).symm) (begun_le_run between)
        exact answer?_finish_run hbegun o o' later

/-- A configuration with one root. -/
def oneRoot (root : String) : Config :=
  ⟨[root], "grep", none, defaultBudget, 8080⟩

/-- A server that scans below one root. -/
def below (root : String) : Floor :=
  new .empty ⟨[]⟩ (.fixed (oneRoot root)) (.scripted (fun _ => []) .ends)

/-- The root is another one from now on, and a search below it takes too long. -/
def overtaking : List ServerEvent :=
  [.change .empty ⟨[]⟩ (.fixed (oneRoot "/b")) (.scripted (fun _ => []) .ends),
    .begin (.search "y" none), .finish 2 .timedOut]

theorem caller_told_own_items_overtaken :
    let r := Request.search "x" none
    let g := ((below "/a").step (.begin r)).run overtaking
    r.search? = some ("x", none, .reply) ∧ SearchMode.ofValue none = .ok .substring ∧
      (below "/a").server.config.1 = .ok (oneRoot "/a") ∧ (oneRoot "/a").roots ≠ [] ∧
      (∀ e ∈ overtaking, e.ends 1 = false) ∧ g.server.session.state.query = "y" ∧
      g.itemsTold? (.finish 1 (.hits [⟨"/a/m.py", 3, "_name = \"x\""⟩])) =
        some [⟨"/m.py", "/a/m.py", 3⟩] := by
  intro r g
  have hends : ∀ e ∈ overtaking, e.ends 1 = false := by
    simp [overtaking, ServerEvent.ends]
  have hr : r.search? = some ("x", none, .reply) := rfl
  have hmode : SearchMode.ofValue none = .ok .substring := rfl
  obtain ⟨-, hrest⟩ := caller_told_own_items (f := below "/a") hr hmode
  obtain ⟨-, htold, -⟩ := (hrest (oneRoot "/a") (by decide) rfl).2 (by decide) overtaking hends
  refine ⟨hr, hmode, rfl, by decide, hends, rfl, ?_⟩
  exact (htold [⟨"/a/m.py", 3, "_name = \"x\""⟩]).trans (by decide)

end Floor

end AddonAtlas
