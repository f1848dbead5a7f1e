import AddonAtlas.Session
import Mathlib.Data.List.Induction

/-!
# Runs of a session

A run of a session is a list of events : a search begins with the configuration of the
moment, the scan of a running search comes to an outcome, or a running search is cancelled.
A search goes by the number it took, and an event about a search that does not run changes
nothing, so every list of events is a run. Any number of searches overlap, their scans come
to any outcomes in any order, and the configuration is another one at each search.

A running search has the number of its place among the searches begun
(`begun_of_mem_running`), so no two running searches share a number
(`nodup_running`), and only the one begun last may change what the session shows
(`finish_of_ne_issued`).
-/

namespace AddonAtlas

/-! ## One search -/

namespace Session

variable (s : Session)

theorem publish_issued (state : SessionState) :
    s.publish s.issued state = ({ s with state := state }, true) := by
  simp [publish]

theorem publish_of_ne {number : Nat} (h : number ≠ s.issued) (state : SessionState) :
    s.publish number state = (s, false) := by
  simp [publish, h]

/-- An empty text clears the session at once. -/
theorem begin_empty (mode : SearchMode) (config : Except Failure Config × Log) :
    s.begin "" mode config =
      (⟨.cleared mode, s.issued + 1⟩, .ended (.ok ⟨[], true⟩), []) := by
  simp [begin, issue, publish]

/-- Without a configuration a search takes its number and shows nothing. -/
theorem begin_error {query : String} (hq : query ≠ "") (mode : SearchMode) (f : Failure)
    (log : Log) : s.begin query mode (.error f, log) = (s.issue, .ended (.error f), log) := by
  simp [begin, hq]

theorem begin_withoutRoots {query : String} (hq : query ≠ "") (mode : SearchMode) {c : Config}
    (hc : c.roots = []) (log : Log) :
    s.begin query mode (.ok c, log) =
      (⟨.withoutRoots query mode, s.issued + 1⟩, .ended (.ok ⟨[], true⟩),
        log ++ [.warning "Search rejected: no addons path configured"]) := by
  simp [begin, hq, hc, issue, publish]

/-- The ticket of a search that is the next one of a session. -/
def nextTicket (query : String) (mode : SearchMode) (c : Config) : Ticket :=
  ⟨s.issued + 1, query, mode, c.roots, c.scanTimeout⟩

theorem begin_scanning {query : String} (hq : query ≠ "") (mode : SearchMode) {c : Config}
    (hc : c.roots ≠ []) (log : Log) :
    s.begin query mode (.ok c, log) =
      (⟨.searching query mode, s.issued + 1⟩,
        .scanning (s.nextTicket query mode c) (c.request (.of (some mode) (some query))),
        log) := by
  cases hr : c.roots with
  | nil => exact absurd hr hc
  | cons r rs => simp [begin, hq, hr, issue, publish, nextTicket]

/-- How a search begins, by its text and the configuration of the moment : without a text it is over,
without a configuration it is refused, without roots it is over, and else it comes to its scan. -/
inductive Beginning : (query : String) → (config : Except Failure Config × Log) → Prop
  | empty (config : Except Failure Config × Log) : Beginning "" config
  | refused {query : String} (hq : query ≠ "") (f : Failure) (log : Log) :
    Beginning query (.error f, log)
  | withoutRoots {query : String} (hq : query ≠ "") {c : Config} (hc : c.roots = []) (log : Log) :
    Beginning query (.ok c, log)
  | scanning {query : String} (hq : query ≠ "") {c : Config} (hc : c.roots ≠ []) (log : Log) :
    Beginning query (.ok c, log)

theorem beginning (query : String) (config : Except Failure Config × Log) :
    Beginning query config := by
  obtain ⟨c, log⟩ := config
  by_cases hq : query = ""
  · rw [hq]
    exact .empty _
  cases c with
  | error f => exact .refused hq f log
  | ok c =>
    by_cases hc : c.roots = []
    · exact .withoutRoots hq hc log
    · exact .scanning hq hc log

/-- A search that is not the newest one leaves the session alone. -/
theorem finish_of_ne_issued {t : Ticket} (h : t.number ≠ s.issued) (o : ScanOutcome) :
    (s.finish t o).1 = s := by
  unfold finish
  cases itemsOf t o with
  | error f => rfl
  | ok items => simp [publish_of_ne s h]

theorem finish_issued {t : Ticket} (h : t.number = s.issued) {o : ScanOutcome}
    {items : List SearchItem} (ho : itemsOf t o = .ok items) :
    (s.finish t o).1 = { s with state := .finished t.query t.mode items } := by
  simp [finish, ho, h, publish_issued]

/-- The reply of a search says whether it was the newest one when it ended. -/
theorem published_of_finish {t : Ticket} {o : ScanOutcome} {r : SearchReply}
    (h : (s.finish t o).2.1 = .ok r) : r.published = decide (t.number = s.issued) := by
  unfold finish at h
  cases ho : itemsOf t o with
  | error f => simp [ho] at h
  | ok items =>
    simp only [ho] at h
    by_cases hn : t.number = s.issued
    · rw [hn, publish_issued] at h
      cases h
      simp [hn]
    · rw [publish_of_ne s hn] at h
      cases h
      simp [hn]

@[simp] theorem issued_finish (t : Ticket) (o : ScanOutcome) :
    (s.finish t o).1.issued = s.issued := by
  unfold finish publish
  cases itemsOf t o with
  | error f => rfl
  | ok items => simp only; split <;> rfl

@[simp] theorem issued_begin (query : String) (mode : SearchMode)
    (config : Except Failure Config × Log) :
    (s.begin query mode config).1.issued = s.issued + 1 := by
  cases beginning query config with
  | empty => rw [begin_empty]
  | refused hq f log =>
    rw [begin_error s hq]
    rfl
  | withoutRoots hq hc log => rw [begin_withoutRoots s hq mode hc]
  | scanning hq hc log => rw [begin_scanning s hq mode hc]

end Session

/-- The hits of a scan ; none if it came to no good end. -/
def ScanOutcome.found : ScanOutcome → List Hit
  | .hits hs => hs
  | _ => []

namespace Session

theorem itemsOf_eq_ok {t : Ticket} {o : ScanOutcome} {items : List SearchItem}
    (h : itemsOf t o = .ok items) : items = o.found.map (SearchItem.ofHit t.roots) := by
  cases o with
  | raised f => cases h
  | _ =>
    cases h
    rfl

theorem itemsOf_eq_error {t : Ticket} {o : ScanOutcome} {f : Failure}
    (h : itemsOf t o = .error f) : o = .raised f := by
  cases o with
  | raised g =>
    cases h
    rfl
  | _ => cases h

/-- The items of a reply are those of the search's own scan. -/
theorem items_of_finish {s : Session} {t : Ticket} {o : ScanOutcome} {r : SearchReply}
    (h : (s.finish t o).2.1 = .ok r) : itemsOf t o = .ok r.items := by
  unfold finish at h
  cases ho : itemsOf t o with
  | error f => simp [ho] at h
  | ok items =>
    simp only [ho] at h
    cases h
    rfl

end Session

/-! ## Events -/

/-- What happens to a session with its searches. -/
inductive SearchEvent
  | begin (query : String) (mode : SearchMode) (config : Except Failure Config × Log)
  | finish (number : Nat) (outcome : ScanOutcome)
  | cancel (number : Nat)

namespace SearchEvent

/-- Whether a search begins. -/
def begins : SearchEvent → Bool
  | begin _ _ _ => true
  | _ => false

/-- Whether a search begins and is refused a configuration. -/
def isRefused : SearchEvent → Bool
  | begin query _ (.error _, _) => query ≠ ""
  | _ => false

/-- Whether a search begins and comes to a scan. -/
def isScanned : SearchEvent → Bool
  | begin query _ (.ok c, _) => query ≠ "" ∧ c.roots ≠ []
  | _ => false

/-- The number of searches begun. -/
def started (es : List SearchEvent) : Nat :=
  es.countP begins

@[simp] theorem started_nil : started [] = 0 := rfl

@[simp] theorem started_append (es es' : List SearchEvent) :
    started (es ++ es') = started es + started es' :=
  List.countP_append

@[simp] theorem started_cons (e : SearchEvent) (es : List SearchEvent) :
    started (e :: es) = started es + if e.begins then 1 else 0 :=
  List.countP_cons

/-- The last event of a kind in a run that has one. -/
theorem none_or_last (p : SearchEvent → Bool) (es : List SearchEvent) :
    (∀ e ∈ es, p e = false) ∨ ∃ before e after, es = before ++ e :: after ∧ p e = true ∧
      ∀ e' ∈ after, p e' = false := by
  induction es using List.reverseRecOn with
  | nil => exact .inl fun e he => absurd he List.not_mem_nil
  | append_singleton es e ih =>
    cases he : p e with
    | true => exact .inr ⟨es, e, [], rfl, he, fun e' he' => absurd he' List.not_mem_nil⟩
    | false =>
      rcases ih with h | ⟨before, b, after, rfl, hb, ha⟩
      · exact .inl (List.forall_mem_append.2 ⟨h, by simpa using he⟩)
      · exact .inr ⟨before, b, after ++ [e], by simp, hb,
          List.forall_mem_append.2 ⟨ha, by simpa using he⟩⟩

theorem started_eq_zero {es : List SearchEvent} :
    started es = 0 ↔ ∀ e ∈ es, e.begins = false := by
  simp [started, List.countP_eq_zero]

end SearchEvent

open SearchEvent (started)

/-- To leave out the members of one key makes no difference to what is found by another. -/
theorem find?_filter_of_ne {α β : Type} [BEq β] [LawfulBEq β] (key : α → β) {k other : β}
    (h : other ≠ k) (l : List α) :
    (l.filter (key · != k)).find? (key · == other) = l.find? (key · == other) := by
  rw [List.find?_filter]
  congr 1
  ext x
  by_cases hx : key x = other
  · simp [hx, h]
  · simp [hx]

/-- A session with the searches whose scans run, the last one begun first. -/
structure Searches where
  session : Session
  running : List Ticket

namespace Searches

/-- A session before any search. -/
def new : Searches := ⟨.new, []⟩

/-- The running search of a number. -/
def find? (s : Searches) (number : Nat) : Option Ticket :=
  s.running.find? (·.number == number)

/-- The running searches of other numbers. -/
def without (s : Searches) (number : Nat) : List Ticket :=
  s.running.filter (·.number != number)

def step (s : Searches) : SearchEvent → Searches
  | .begin query mode config =>
    match s.session.begin query mode config with
    | (session, .ended _, _) => ⟨session, s.running⟩
    | (session, .scanning ticket _, _) => ⟨session, ticket :: s.running⟩
  | .finish number o =>
    match s.find? number with
    | some ticket => ⟨(s.session.finish ticket o).1, s.without number⟩
    | none => s
  | .cancel number => ⟨s.session, s.without number⟩

/-- What the caller of a search is told when an event ends it ; nothing by other events. -/
def answer? (s : Searches) : SearchEvent → Option (Except Failure SearchReply)
  | .begin query mode config =>
    match (s.session.begin query mode config).2.1 with
    | .ended reply => some reply
    | .scanning _ _ => none
  | .finish number o => (s.find? number).map fun ticket => (s.session.finish ticket o).2.1
  | .cancel _ => none

def run (s : Searches) (es : List SearchEvent) : Searches :=
  es.foldl step s

variable (s : Searches)

@[simp] theorem run_nil : s.run [] = s := rfl

@[simp] theorem run_cons (e : SearchEvent) (es : List SearchEvent) :
    s.run (e :: es) = (s.step e).run es := rfl

theorem run_append (es es' : List SearchEvent) : s.run (es ++ es') = (s.run es).run es' :=
  List.foldl_append

theorem run_concat (es : List SearchEvent) (e : SearchEvent) :
    s.run (es ++ [e]) = (s.run es).step e := by
  rw [run_append, run_cons, run_nil]

/-! ## Running searches by their numbers -/

theorem number_of_find? {s : Searches} {number : Nat} {t : Ticket}
    (h : s.find? number = some t) : t.number = number := by
  simpa using List.find?_some h

theorem mem_running_of_find? {s : Searches} {number : Nat} {t : Ticket}
    (h : s.find? number = some t) : t ∈ s.running :=
  List.mem_of_find?_eq_some h

theorem find?_cons_of_eq {t : Ticket} {number : Nat} (h : t.number = number)
    (session : Session) (running : List Ticket) :
    (Searches.mk session (t :: running)).find? number = some t := by
  simp [find?, h]

theorem find?_eq_none {number : Nat} :
    s.find? number = none ↔ ∀ t ∈ s.running, t.number ≠ number := by
  simp [find?, List.find?_eq_none]

theorem mem_without {t : Ticket} {number : Nat} :
    t ∈ s.without number ↔ t ∈ s.running ∧ t.number ≠ number := by
  simp [without]

theorem find?_without_self (number : Nat) (session : Session) :
    (Searches.mk session (s.without number)).find? number = none := by
  rw [find?_eq_none]
  intro t ht
  exact ((s.mem_without).1 ht).2

theorem find?_without_of_ne {number other : Nat} (h : other ≠ number) (session : Session) :
    (Searches.mk session (s.without number)).find? other = s.find? other :=
  find?_filter_of_ne Ticket.number h s.running

/-! ## One step -/

theorem step_empty (mode : SearchMode) (config : Except Failure Config × Log) :
    s.step (.begin "" mode config) = ⟨⟨.cleared mode, s.session.issued + 1⟩, s.running⟩ := by
  simp [step, Session.begin_empty]

theorem step_refused {query : String} (hq : query ≠ "") (mode : SearchMode) (f : Failure)
    (log : Log) : s.step (.begin query mode (.error f, log)) = ⟨s.session.issue, s.running⟩ := by
  simp [step, Session.begin_error _ hq]

theorem step_of_isRefused {query : String} {mode : SearchMode}
    {config : Except Failure Config × Log}
    (h : (SearchEvent.begin query mode config).isRefused = true) :
    s.step (.begin query mode config) = ⟨s.session.issue, s.running⟩ := by
  obtain ⟨c, log⟩ := config
  cases c with
  | error f => exact step_refused s (by simpa [SearchEvent.isRefused] using h) mode f log
  | ok c => cases h

theorem step_withoutRoots {query : String} (hq : query ≠ "") (mode : SearchMode) {c : Config}
    (hc : c.roots = []) (log : Log) :
    s.step (.begin query mode (.ok c, log)) =
      ⟨⟨.withoutRoots query mode, s.session.issued + 1⟩, s.running⟩ := by
  simp [step, Session.begin_withoutRoots _ hq mode hc]

theorem step_scanning {query : String} (hq : query ≠ "") (mode : SearchMode) {c : Config}
    (hc : c.roots ≠ []) (log : Log) :
    s.step (.begin query mode (.ok c, log)) =
      ⟨⟨.searching query mode, s.session.issued + 1⟩,
        s.session.nextTicket query mode c :: s.running⟩ := by
  simp [step, Session.begin_scanning _ hq mode hc]

theorem step_finish {s : Searches} {number : Nat} {t : Ticket} (h : s.find? number = some t)
    (o : ScanOutcome) :
    s.step (.finish number o) = ⟨(s.session.finish t o).1, s.without number⟩ := by
  simp [step, h]

theorem step_finish_none {s : Searches} {number : Nat} (h : s.find? number = none)
    (o : ScanOutcome) : s.step (.finish number o) = s := by
  simp [step, h]

/-- A search that begins runs if it comes to its scan, and changes no other running search. -/
theorem running_begin (query : String) (mode : SearchMode)
    (config : Except Failure Config × Log) :
    (s.step (.begin query mode config)).running = s.running ∨
      ∃ c log, config = (.ok c, log) ∧ query ≠ "" ∧ c.roots ≠ [] ∧
        (s.step (.begin query mode config)).running =
          s.session.nextTicket query mode c :: s.running := by
  cases Session.beginning query config with
  | empty =>
    rw [step_empty]
    exact .inl rfl
  | refused hq f log =>
    rw [step_refused s hq]
    exact .inl rfl
  | withoutRoots hq hc log =>
    rw [step_withoutRoots s hq mode hc]
    exact .inl rfl
  | scanning hq hc log =>
    rw [step_scanning s hq mode hc]
    exact .inr ⟨_, log, rfl, hq, hc, rfl⟩

/-- The end of a search takes it, and no other, from the running ones. -/
theorem running_of_not_begins {e : SearchEvent} (he : e.begins = false) :
    (s.step e).running = s.running ∨ ∃ number, (s.step e).running = s.without number := by
  cases e with
  | begin query mode config => cases he
  | finish number o =>
    cases hf : s.find? number with
    | none => exact .inl (by rw [step_finish_none hf])
    | some t => exact .inr ⟨number, by rw [step_finish hf]⟩
  | cancel number => exact .inr ⟨number, rfl⟩

theorem issued_step (e : SearchEvent) :
    (s.step e).session.issued = s.session.issued + if e.begins then 1 else 0 := by
  cases e with
  | begin query mode config =>
    have h := s.session.issued_begin query mode config
    simp only [step, SearchEvent.begins, if_true]
    split <;> simp_all
  | finish number o =>
    simp only [step]
    split <;> simp [SearchEvent.begins]
  | cancel number => simp [step, SearchEvent.begins]

/-! ## Whole runs -/

theorem issued_run (es : List SearchEvent) :
    (s.run es).session.issued = s.session.issued + started es := by
  induction es generalizing s with
  | nil => simp
  | cons e es ih =>
    rw [run_cons, ih, issued_step, SearchEvent.started_cons]
    omega

/-- The number of the newest search is the number of searches begun. -/
theorem issued_run_new (es : List SearchEvent) :
    (new.run es).session.issued = started es := by
  rw [issued_run]
  exact Nat.zero_add _

/-- A ticket is that of a search which a run begins and brings to its scan ; its number is the
place of that search among the searches begun. -/
def Begun (es : List SearchEvent) (t : Ticket) : Prop :=
  ∃ before query mode c log between,
    es = before ++ .begin query mode (.ok c, log) :: between ∧ query ≠ "" ∧ c.roots ≠ [] ∧
      t = ⟨started before + 1, query, mode, c.roots, c.scanTimeout⟩

theorem Begun.concat {es : List SearchEvent} {t : Ticket} (h : Begun es t) (e : SearchEvent) :
    Begun (es ++ [e]) t := by
  obtain ⟨before, query, mode, c, log, between, rfl, hrest⟩ := h
  exact ⟨before, query, mode, c, log, between ++ [e], by simp, hrest⟩

theorem begun_of_mem_running {es : List SearchEvent} {t : Ticket}
    (h : t ∈ (new.run es).running) : Begun es t := by
  induction es using List.reverseRecOn with
  | nil => exact absurd h List.not_mem_nil
  | append_singleton es e ih =>
    rw [run_concat] at h
    cases he : e.begins with
    | true =>
      cases e with
      | begin query mode config =>
        rcases running_begin (new.run es) query mode config with hr | ⟨c, log, rfl, hq, hc, hr⟩
        · exact (ih (hr ▸ h)).concat _
        · rw [hr] at h
          rcases List.mem_cons.1 h with rfl | h
          · refine ⟨es, query, mode, c, log, [], rfl, hq, hc, ?_⟩
            rw [Session.nextTicket, issued_run_new]
          · exact (ih h).concat _
      | finish number o => cases he
      | cancel number => cases he
    | false =>
      rcases running_of_not_begins (new.run es) he with hr | ⟨number, hr⟩
      · exact (ih (hr ▸ h)).concat _
      · rw [hr] at h
        exact (ih ((mem_without _).1 h).1).concat _

theorem number_le_started {es : List SearchEvent} {t : Ticket}
    (h : t ∈ (new.run es).running) : t.number ≤ started es := by
  obtain ⟨before, query, mode, c, log, between, rfl, -, -, rfl⟩ := begun_of_mem_running h
  simp only [SearchEvent.started_append, SearchEvent.started_cons, SearchEvent.begins, if_true]
  omega

/-- No two running searches share a number. -/
theorem nodup_running (es : List SearchEvent) :
    ((new.run es).running.map Ticket.number).Nodup := by
  induction es using List.reverseRecOn with
  | nil => exact List.nodup_nil
  | append_singleton es e ih =>
    rw [run_concat]
    cases he : e.begins with
    | true =>
      cases e with
      | begin query mode config =>
        rcases running_begin (new.run es) query mode config with hr | ⟨c, log, rfl, hq, hc, hr⟩
        · rwa [hr]
        · rw [hr, List.map_cons, List.nodup_cons]
          refine ⟨fun hmem => ?_, ih⟩
          obtain ⟨t, ht, hn⟩ := List.mem_map.1 hmem
          have hle := number_le_started ht
          simp only [Session.nextTicket, issued_run_new] at hn
          omega
      | finish number o => cases he
      | cancel number => cases he
    | false =>
      rcases running_of_not_begins (new.run es) he with hr | ⟨number, hr⟩
      · rwa [hr]
      · rw [hr]
        exact ih.sublist (List.filter_sublist.map _)

/-! ## Settled sessions -/

/-- The newest search of a session does not run, so none that runs may change what the session
shows. -/
def Settled (s : Searches) : Prop :=
  ∀ t ∈ s.running, t.number < s.session.issued

variable {s}

/-- A settled session shows the same until a search begins that gets its configuration. -/
theorem Settled.step (h : s.Settled) {e : SearchEvent}
    (he : e.begins = true → e.isRefused = true) :
    (s.step e).Settled ∧ (s.step e).session.state = s.session.state := by
  cases e with
  | begin query mode config =>
    rw [step_of_isRefused s (he rfl)]
    exact ⟨fun t ht => Nat.lt_succ_of_lt (h t ht), rfl⟩
  | finish number o =>
    cases hf : s.find? number with
    | none =>
      rw [step_finish_none hf]
      exact ⟨h, rfl⟩
    | some t =>
      have hn : t.number ≠ s.session.issued := Nat.ne_of_lt (h t (mem_running_of_find? hf))
      rw [step_finish hf, Session.finish_of_ne_issued _ hn]
      exact ⟨fun t ht => h t (s.mem_without.1 ht).1, rfl⟩
  | cancel number => exact ⟨fun t ht => h t (s.mem_without.1 ht).1, rfl⟩

theorem Settled.run (h : s.Settled) {es : List SearchEvent}
    (hes : ∀ e ∈ es, e.begins = true → e.isRefused = true) :
    (s.run es).Settled ∧ (s.run es).session.state = s.session.state := by
  induction es generalizing s with
  | nil => exact ⟨h, rfl⟩
  | cons e es ih =>
    obtain ⟨hstep, hstate⟩ := h.step (hes e List.mem_cons_self)
    obtain ⟨hrun, hrest⟩ := ih hstep fun e' he' => hes e' (List.mem_cons_of_mem e he')
    exact ⟨hrun, hrest.trans hstate⟩

/-- Searches without the newest one are settled. -/
theorem settled_without (h : ∀ t ∈ s.running, t.number ≤ s.session.issued) {session : Session}
    (hi : session.issued = s.session.issued) :
    (Searches.mk session (s.without s.session.issued)).Settled := fun t ht => by
  obtain ⟨hmem, hne⟩ := s.mem_without.1 ht
  have := h t hmem
  show t.number < session.issued
  omega

/-! ## Searches that end -/

/-- A search that ends at once with a configuration, or needs none, settles the session. -/
theorem settled_begin (before : List SearchEvent) {query : String} {mode : SearchMode}
    {config : Except Failure Config × Log}
    (hr : (SearchEvent.begin query mode config).isRefused = false)
    (hs : (SearchEvent.begin query mode config).isScanned = false) :
    ((new.run before).step (.begin query mode config)).Settled ∧
      ((new.run before).step (.begin query mode config)).session.state.status ≠ .searching ∧
      ((new.run before).step (.begin query mode config)).session.state.results = [] := by
  have hold : ∀ session : Session, session.issued = (new.run before).session.issued + 1 →
      (Searches.mk session (new.run before).running).Settled := fun session hi t ht => by
    have := number_le_started ht
    rw [hi, issued_run_new]
    omega
  cases Session.beginning query config with
  | empty =>
    rw [step_empty]
    exact ⟨hold _ rfl, by simp [SessionState.cleared], rfl⟩
  | refused hq f log => simp [SearchEvent.isRefused, hq] at hr
  | withoutRoots hq hc log =>
    rw [step_withoutRoots _ hq mode hc]
    exact ⟨hold _ rfl, by simp [SessionState.withoutRoots], rfl⟩
  | scanning hq hc log => simp [SearchEvent.isScanned, hq, hc] at hs

/-- A search that is answered at its beginning is the newest one, and has not scanned. -/
theorem answer?_begin {query : String} {mode : SearchMode} {config : Except Failure Config × Log}
    {r : SearchReply} (h : s.answer? (.begin query mode config) = some (.ok r)) :
    r = ⟨[], true⟩ ∧ (SearchEvent.begin query mode config).isRefused = false ∧
      (SearchEvent.begin query mode config).isScanned = false := by
  cases Session.beginning query config with
  | empty =>
    simp only [answer?, Session.begin_empty] at h
    cases h
    obtain ⟨c, log⟩ := config
    cases c <;> exact ⟨rfl, by simp [SearchEvent.isRefused], by simp [SearchEvent.isScanned]⟩
  | refused hq f log => simp [answer?, Session.begin_error _ hq] at h
  | withoutRoots hq hc log =>
    simp only [answer?, Session.begin_withoutRoots _ hq mode hc] at h
    cases h
    exact ⟨rfl, rfl, by simp [SearchEvent.isScanned, hc]⟩
  | scanning hq hc log => simp [answer?, Session.begin_scanning _ hq mode hc] at h

/-- An event that ends a search for its caller ends it as the newest one, which settles the
session and shows the items of the reply, or it leaves the session alone. -/
theorem settled_or_unchanged {es : List SearchEvent} {e : SearchEvent} {r : SearchReply}
    (h : (new.run es).answer? e = some (.ok r)) :
    (r.published = true ∧ ((new.run es).step e).Settled ∧
        ((new.run es).step e).session.state.results = r.items) ∨
      (r.published = false ∧ ((new.run es).step e).session = (new.run es).session) := by
  cases e with
  | begin query mode config =>
    obtain ⟨rfl, hr, hs⟩ := answer?_begin h
    obtain ⟨hsettled, -, hresults⟩ := settled_begin es hr hs
    exact .inl ⟨rfl, hsettled, hresults⟩
  | finish k o =>
    obtain ⟨t, hf, ht⟩ := Option.map_eq_some_iff.1 h
    have hitems := Session.items_of_finish ht
    have hpublished := Session.published_of_finish _ ht
    rw [step_finish hf]
    by_cases hn : t.number = (new.run es).session.issued
    · have hle : ∀ t ∈ (new.run es).running, t.number ≤ (new.run es).session.issued :=
        fun t ht => by
          rw [issued_run_new]
          exact number_le_started ht
      rw [Session.finish_issued _ hn hitems, ← number_of_find? hf, hn]
      exact .inl ⟨by simp [hpublished, hn], settled_without hle rfl, rfl⟩
    · rw [Session.finish_of_ne_issued _ hn]
      exact .inr ⟨by simp [hpublished, hn], rfl⟩
  | cancel k => cases h

end Searches

end AddonAtlas
