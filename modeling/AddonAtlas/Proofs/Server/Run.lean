import AddonAtlas.Proofs.Session.Run
import AddonAtlas.Server.Basic
import Mathlib.Data.List.Nodup

/-!
# Runs of a server

A run of a server is a list of events : a request begins, the scan of a waiting call comes to
an outcome, a waiting call is cancelled, or the world around the server changes. Calls go by
the numbers in which they began, and an event about a call that does not wait changes nothing.

Every run of a server is a run of its session (`searches_run`) : to each event of the server
there is at most one event of the session (`told?`), which changes the session in the same way
(`searches_step`) and has the same reply (`exists_reply_of_report`). What holds of all runs of
a session holds of a server's session.
-/

namespace AddonAtlas

/-- The search that a request asks for. -/
def Request.search? : Request → Option (String × Option Value × SearchShape)
  | .query text mode => some (text, mode, .items)
  | .search text mode => some (text, mode, .reply)
  | .tool (.searchModels text mode) => some (text, mode, .report)
  | _ => none

/-- Whether a request asks for the index to be built anew. -/
def Request.isRefresh : Request → Bool
  | .refresh | .tool .refreshModels => true
  | _ => false

/-- Only requests for a scan are answered by this : a refresh by a summary, a search by the
others. -/
def Reply.IsOfScan : Reply → Prop
  | .summary _ | .items _ | .search _ | .report _ => True
  | _ => False

/-- The ticket of a search that waits for its scan. -/
def Waiting.ticket? (w : Waiting) : Option Ticket :=
  match w.purpose with
  | .refresh _ => none
  | .search ticket _ => some ticket

/-- What happens to a server with its calls. -/
inductive ServerEvent
  | begin (r : Request)
  | finish (call : Nat) (outcome : ScanOutcome)
  | cancel (call : Nat)
  | change (tree : FileTree) (environment : Environment) (source : ConfigSource)
    (scanner : Scanner)

namespace ServerEvent

/-- Whether a search begins ; one in a mode that does not exist never does. -/
def beginsSearch : ServerEvent → Bool
  | begin r => r.search?.any fun (_, value, _) => (SearchMode.ofValue value).isOk
  | _ => false

/-- The hits of the scan that comes to its outcome. -/
def found : ServerEvent → List Hit
  | finish _ o => o.found
  | _ => []

end ServerEvent

/-! ## One request -/

namespace Server

variable (s : Server)

theorem begin_of_search? {r : Request} {text : String} {value : Option Value}
    {shape : SearchShape} (h : r.search? = some (text, value, shape)) :
    s.begin r = s.beginSearch text value shape := by
  cases r with
  | tool t =>
    cases t with
    | searchModels text mode =>
      cases h
      rfl
    | _ => cases h
  | query text mode =>
    cases h
    rfl
  | search text mode =>
    cases h
    rfl
  | _ => cases h

theorem beginSearch_error {value : Option Value} {f : Failure}
    (h : SearchMode.ofValue value = .error f) (text : String) (shape : SearchShape) :
    s.beginSearch text value shape = (s, .ended (.error f), []) := by
  simp [beginSearch, h]

theorem beginSearch_ended {value : Option Value} {mode : SearchMode}
    (h : SearchMode.ofValue value = .ok mode) {text : String} {session : Session}
    {reply : Except Failure SearchReply} {log : Log}
    (hb : s.session.begin text mode s.config = (session, .ended reply, log))
    (shape : SearchShape) :
    s.beginSearch text value shape =
      ({ s with session := session },
        .ended (reply.map ({ s with session := session }.searchReply text mode shape)), log) := by
  simp [beginSearch, h, hb]

theorem query?_of {q : String} (hq : q ≠ "") (mode : SearchMode) :
    (DeclarationPattern.of (some mode) (some q)).query? = some q := by
  cases mode <;> simp [DeclarationPattern.of, hq, DeclarationPattern.query?]

theorem beginSearch_scanning {value : Option Value} {mode : SearchMode}
    (h : SearchMode.ofValue value = .ok mode) {text : String} {session : Session}
    {ticket : Ticket} {request : ScanRequest} {log : Log}
    (hb : s.session.begin text mode s.config = (session, .scanning ticket request, log))
    (shape : SearchShape) :
    s.beginSearch text value shape =
      ({ s with session := session },
        .waiting ⟨s.job request ticket.timeout, .search ticket shape⟩, log) := by
  simp [beginSearch, h, hb, job]

/-- How a search begins : it raises, for its mode does not exist, or the session ends it at once, or it
waits for its scan. -/
theorem beginSearch_cases (text : String) (value : Option Value) (shape : SearchShape) :
    (∃ failure, SearchMode.ofValue value = .error failure ∧
      s.beginSearch text value shape = (s, .ended (.error failure), [])) ∨
    (∃ mode session reply log, SearchMode.ofValue value = .ok mode ∧
      s.session.begin text mode s.config = (session, .ended reply, log) ∧
      s.beginSearch text value shape = ({ s with session := session },
        .ended (reply.map ({ s with session := session }.searchReply text mode shape)), log)) ∨
    ∃ mode session ticket request log, SearchMode.ofValue value = .ok mode ∧
      s.session.begin text mode s.config = (session, .scanning ticket request, log) ∧
      s.beginSearch text value shape = ({ s with session := session },
        .waiting ⟨s.job request ticket.timeout, .search ticket shape⟩, log) := by
  cases hv : SearchMode.ofValue value with
  | error failure => exact .inl ⟨failure, rfl, s.beginSearch_error hv text shape⟩
  | ok mode =>
    cases hc : s.session.begin text mode s.config with
    | mk session rest =>
      obtain ⟨start, log⟩ := rest
      cases start with
      | ended reply =>
        exact .inr (.inl ⟨mode, session, reply, log, rfl, hc, s.beginSearch_ended hv hc shape⟩)
      | scanning ticket request =>
        exact .inr (.inr ⟨mode, session, ticket, request, log, rfl, hc,
          s.beginSearch_scanning hv hc shape⟩)

theorem begin_of_isRefresh {r : Request} (h : r.isRefresh) : s.begin r = s.beginRefresh := by
  cases r with
  | refresh => rfl
  | tool t =>
    cases t with
    | refreshModels => rfl
    | _ => cases h
  | _ => cases h

theorem map_ne_ok {α β : Type} {x : Except Failure α} {g : α → β} {b : β} (h : ∀ a, g a ≠ b) :
    x.map g ≠ .ok b := by
  cases x with
  | error failure => exact fun he => by cases he
  | ok a => exact fun he => h a (Except.ok.inj he)

theorem not_isOfScan_of_map {α : Type} {x : Except Failure α} {g : α → Reply}
    (hg : ∀ a, ¬(g a).IsOfScan) {reply : Reply} (h : x.map g = .ok reply) : ¬reply.IsOfScan := by
  cases x with
  | error failure => cases h
  | ok a =>
    cases h
    exact hg a

/-- A request for no scan is answered at once, and not by what only a scan tells. -/
theorem begin_atOnce {r : Request} (hsearch : r.search? = none) (hrefresh : r.isRefresh = false) :
    ∃ answer, s.begin r = s.atOnce answer ∧ ∀ reply, answer = .ok reply → ¬reply.IsOfScan := by
  cases r with
  | refresh => cases hrefresh
  | tool t =>
    cases t with
    | refreshModels => cases hrefresh
    | searchModels text mode => cases hsearch
    | openResult index => exact ⟨_, rfl, fun _ => not_isOfScan_of_map fun _ => id⟩
    | openDeclaration path line => exact ⟨_, rfl, fun _ => not_isOfScan_of_map fun _ => id⟩
    | modelListing model => exact ⟨_, rfl, fun _ => not_isOfScan_of_map fun _ => id⟩
    | _ => exact ⟨_, rfl, fun _ h => Except.ok.inj h ▸ id⟩
  | query text mode => cases hsearch
  | search text mode => cases hsearch
  | openResult index => exact ⟨_, rfl, fun _ => not_isOfScan_of_map fun _ => id⟩
  | modelListing model => exact ⟨_, rfl, fun _ => not_isOfScan_of_map fun _ => id⟩
  | unknown command => exact ⟨_, rfl, fun _ h => by cases h⟩
  | _ => exact ⟨_, rfl, fun _ h => Except.ok.inj h ▸ id⟩

/-- How a refresh begins : it raises, or it empties the index, or it waits for its scan. -/
theorem beginRefresh_cases :
    (∃ failure log, s.config.1 = .error failure ∧
      s.beginRefresh = (s, .ended (.error failure), log)) ∨
    (∃ c log, s.config.1 = .ok c ∧ c.roots = [] ∧
      s.beginRefresh =
        ({ s with index := .empty }, .ended (.ok (.summary ⟨0, 0, some noRoots⟩)), log)) ∨
    ∃ c log, s.config.1 = .ok c ∧ c.roots ≠ [] ∧
      s.beginRefresh =
        (s, .waiting ⟨s.job (c.request .identity) c.scanTimeout, .refresh c.scanTimeout⟩, log) := by
  cases hload : s.config with
  | mk config log =>
    simp only [beginRefresh, hload]
    cases config with
    | error failure => exact .inl ⟨failure, _, rfl, rfl⟩
    | ok c =>
      cases hroots : c.roots with
      | nil =>
        simp only [ModelIndex.beginRefresh, hroots]
        exact .inr (.inl ⟨c, _, rfl, hroots, rfl⟩)
      | cons root others =>
        simp only [ModelIndex.beginRefresh, hroots]
        exact .inr (.inr ⟨c, _, rfl, by simp [hroots], rfl⟩)

/-- A request that is no search leaves the session alone, waits for no search's scan, and is not
answered by a report. -/
theorem begin_of_not_search {r : Request} (h : r.search? = none) :
    (s.begin r).1.session = s.session ∧
      (∀ w, (s.begin r).2.1 = .waiting w → w.ticket? = none) ∧
      ∀ report, (s.begin r).2.1 ≠ .ended (.ok (.report report)) := by
  cases hr : r.isRefresh with
  | true =>
    rw [s.begin_of_isRefresh hr]
    obtain ⟨failure, log, -, hb⟩ | ⟨c, log, -, -, hb⟩ | ⟨c, log, -, -, hb⟩ := s.beginRefresh_cases
    · simp [hb]
    · simp [hb]
    · refine ⟨by rw [hb], fun w hw => ?_, by simp [hb]⟩
      rw [hb] at hw
      cases hw
      rfl
  | false =>
    obtain ⟨answer, hb, hplain⟩ := s.begin_atOnce h hr
    rw [hb]
    exact ⟨rfl, fun w hw => (by cases hw), fun report hw => hplain (.report report) (by cases hw; rfl) trivial⟩

/-- A report of a search is made of the search's reply, with the session as it is then. -/
theorem eq_report {s : Server} {query : String} {mode : SearchMode} {shape : SearchShape}
    {x : Except Failure SearchReply} {report : SearchReport}
    (h : x.map (s.searchReply query mode shape) = .ok (.report report)) :
    ∃ r, x = .ok r ∧ report = .of query mode r s.session := by
  cases x with
  | error f => cases h
  | ok r =>
    cases shape with
    | report =>
      cases h
      exact ⟨r, rfl, rfl⟩
    | _ => cases h

/-- A search is not answered by a summary. -/
theorem map_searchReply_ne (query : String) (mode : SearchMode) (shape : SearchShape)
    (x : Except Failure SearchReply) (summary : IndexSummary) :
    x.map (s.searchReply query mode shape) ≠ .ok (.summary summary) :=
  map_ne_ok fun r => by cases shape <;> simp [searchReply]

theorem session_finish_refresh (timeout : Option Seconds) (o : ScanOutcome) :
    (s.finish (.refresh timeout) o).1.session = s.session := by
  unfold finish
  simp only
  split <;> rfl

@[simp] theorem session_finish_search (ticket : Ticket) (shape : SearchShape) (o : ScanOutcome) :
    (s.finish (.search ticket shape) o).1.session = (s.session.finish ticket o).1 := rfl

end Server

/-! ## Runs -/

/-- A server with the calls that wait for their scans, the last one begun first. -/
structure Floor where
  server : Server
  waiting : List (Nat × Waiting)
  /-- The number of calls begun. -/
  begun : Nat

namespace Floor

/-- A new server, before any request. -/
def new (t : FileTree) (e : Environment) (source : ConfigSource) (scanner : Scanner) : Floor :=
  ⟨.new t e source scanner, [], 0⟩

def find? (f : Floor) (call : Nat) : Option Waiting :=
  (f.waiting.find? (·.1 == call)).map (·.2)

/-- The waiting calls but one. -/
def without (f : Floor) (call : Nat) : List (Nat × Waiting) :=
  f.waiting.filter (·.1 != call)

def step (f : Floor) : ServerEvent → Floor
  | .begin r =>
    match f.server.begin r with
    | (s, .ended _, _) => ⟨s, f.waiting, f.begun + 1⟩
    | (s, .waiting w, _) => ⟨s, (f.begun + 1, w) :: f.waiting, f.begun + 1⟩
  | .finish call o =>
    match f.find? call with
    | some w => ⟨(f.server.finish w.purpose o).1, f.without call, f.begun⟩
    | none => f
  | .cancel call => ⟨f.server, f.without call, f.begun⟩
  | .change tree environment source scanner =>
    ⟨⟨tree, environment, source, scanner, f.server.index, f.server.session⟩, f.waiting, f.begun⟩

/-- The answer that an event gives to a caller. -/
def answer? (f : Floor) : ServerEvent → Option (Except Failure Reply)
  | .begin r =>
    match (f.server.begin r).2.1 with
    | .ended answer => some answer
    | .waiting _ => none
  | .finish call o => (f.find? call).map fun w => (f.server.finish w.purpose o).2.1
  | _ => none

def run (f : Floor) (es : List ServerEvent) : Floor :=
  es.foldl step f

variable (f : Floor)

@[simp] theorem run_nil : f.run [] = f := rfl

@[simp] theorem run_cons (e : ServerEvent) (es : List ServerEvent) :
    f.run (e :: es) = (f.step e).run es := rfl

/-! ## The session of a server -/

/-- The server's session with the searches among the waiting calls. -/
def searches : Searches :=
  ⟨f.server.session, f.waiting.filterMap (·.2.ticket?)⟩

/-- What the session is told of an event. -/
def told? : ServerEvent → Option SearchEvent
  | .begin r =>
    match r.search? with
    | some (text, value, _) =>
      match SearchMode.ofValue value with
      | .ok mode => some (.begin text mode f.server.config)
      | .error _ => none
    | none => none
  | .finish call o => ((f.find? call).bind (·.ticket?)).map fun t => .finish t.number o
  | .cancel call => ((f.find? call).bind (·.ticket?)).map fun t => .cancel t.number
  | .change _ _ _ _ => none

/-- What the session is told of a run. -/
def told (f : Floor) : List ServerEvent → List SearchEvent
  | [] => []
  | e :: es => (f.told? e).toList ++ (f.step e).told es

/-- The waiting calls go by different numbers, at most the number of calls begun. -/
structure Numbered (f : Floor) : Prop where
  nodup : (f.waiting.map Prod.fst).Nodup
  le : ∀ x ∈ f.waiting, x.1 ≤ f.begun

variable {f}

theorem mem_waiting_of_find? {call : Nat} {w : Waiting} (h : f.find? call = some w) :
    (call, w) ∈ f.waiting := by
  obtain ⟨⟨k, w'⟩, hf, rfl⟩ := Option.map_eq_some_iff.1 h
  have hk : k = call := by simpa using List.find?_some hf
  exact hk ▸ List.mem_of_find?_eq_some hf

theorem without_of_find?_eq_none {call : Nat} (h : f.find? call = none) :
    f.without call = f.waiting := by
  refine List.filter_eq_self.2 fun x hx => ?_
  have := List.find?_eq_none.1 (Option.map_eq_none_iff.1 h) x hx
  simpa using this

theorem numbered_new (t : FileTree) (e : Environment) (source : ConfigSource)
    (scanner : Scanner) : (new t e source scanner).Numbered :=
  ⟨List.nodup_nil, fun _ hx => absurd hx List.not_mem_nil⟩

theorem Numbered.without (h : f.Numbered) (s : Server) (call : Nat) :
    (Floor.mk s (f.without call) f.begun).Numbered :=
  ⟨h.nodup.sublist (List.filter_sublist.map _), fun x hx => h.le x (List.mem_filter.1 hx).1⟩

theorem Numbered.step (h : f.Numbered) (e : ServerEvent) : (f.step e).Numbered := by
  cases e with
  | begin r =>
    have hle : ∀ x ∈ f.waiting, x.1 ≤ f.begun + 1 := fun x hx => Nat.le_succ_of_le (h.le x hx)
    simp only [Floor.step]
    split
    · exact ⟨h.nodup, hle⟩
    · refine ⟨?_, List.forall_mem_cons.2 ⟨Nat.le_refl _, hle⟩⟩
      rw [List.map_cons, List.nodup_cons]
      refine ⟨fun hmem => ?_, h.nodup⟩
      obtain ⟨x, hx, hn⟩ := List.mem_map.1 hmem
      have := h.le x hx
      omega
  | finish call o =>
    simp only [Floor.step]
    split
    · exact h.without _ call
    · exact h
  | cancel call => exact h.without _ call
  | change tree environment source scanner => exact ⟨h.nodup, h.le⟩

/-- A list without the one member of a key is the list around that member. -/
theorem filter_ne_of_nodup {α β : Type} [BEq β] [LawfulBEq β] (key : α → β) {a b : List α} {x : α}
    (h : ((a ++ x :: b).map key).Nodup) :
    (a ++ x :: b).filter (key · != key x) = a ++ b := by
  simp only [List.map_append, List.map_cons, List.nodup_append, List.nodup_cons] at h
  obtain ⟨-, ⟨hb, -⟩, hab⟩ := h
  have ha : ∀ y ∈ a, (key y != key x) = true := fun y hy => by
    simpa using hab (key y) (List.mem_map_of_mem hy) (key x) List.mem_cons_self
  have hb : ∀ y ∈ b, (key y != key x) = true := fun y hy => by
    simp only [bne_iff_ne, ne_eq]
    exact fun he => hb (he ▸ List.mem_map_of_mem hy)
  simp [List.filter_eq_self.2 ha, List.filter_eq_self.2 hb]

theorem exists_split (h : f.Numbered) {call : Nat} {w : Waiting} (hw : f.find? call = some w) :
    ∃ a b, f.waiting = a ++ (call, w) :: b ∧ f.without call = a ++ b := by
  obtain ⟨a, b, hab⟩ := List.append_of_mem (mem_waiting_of_find? hw)
  have hk := h.nodup
  rw [hab] at hk
  refine ⟨a, b, hab, ?_⟩
  rw [without, hab]
  exact filter_ne_of_nodup Prod.fst hk

/-- The end of a refresh takes no search from the running ones. -/
theorem running_without_refresh (h : f.Numbered) {call : Nat} {w : Waiting}
    (hw : f.find? call = some w) (ht : w.ticket? = none) :
    (f.without call).filterMap (·.2.ticket?) = f.searches.running := by
  obtain ⟨a, b, hab, hcalls⟩ := exists_split h hw
  rw [searches, hcalls, hab]
  simp [ht]

/-- The end of a search takes it, and no other, from the running ones. -/
theorem running_without_search (h : f.Numbered)
    (hn : (f.searches.running.map Ticket.number).Nodup) {call : Nat} {w : Waiting} {t : Ticket}
    (hw : f.find? call = some w) (ht : w.ticket? = some t) :
    (f.without call).filterMap (·.2.ticket?) = f.searches.without t.number ∧
      f.searches.find? t.number = some t := by
  obtain ⟨a, b, hab, hcalls⟩ := exists_split h hw
  have hsplit : f.searches.running =
      a.filterMap (·.2.ticket?) ++ t :: b.filterMap (·.2.ticket?) := by
    rw [searches, hab]
    simp [ht]
  rw [hsplit] at hn
  constructor
  · rw [Searches.without, hsplit, filter_ne_of_nodup Ticket.number hn, hcalls,
      List.filterMap_append]
  · have hmem : t ∈ f.searches.running := hsplit ▸ List.mem_append_cons_self
    cases hf : f.searches.find? t.number with
    | none => exact absurd rfl ((Searches.find?_eq_none _).1 hf t hmem)
    | some t' =>
      rw [← hsplit] at hn
      rw [List.inj_on_of_nodup_map hn (Searches.mem_running_of_find? hf) hmem
        (Searches.number_of_find? hf)]

/-! ## The simulation -/

/-- What the session is told of an event changes it as the event changes the server. -/
theorem searches_step (h : f.Numbered) (hn : (f.searches.running.map Ticket.number).Nodup)
    (e : ServerEvent) : (f.step e).searches = f.searches.run (f.told? e).toList := by
  cases e with
  | begin r =>
    cases hr : r.search? with
    | none =>
      obtain ⟨hs, ht, -⟩ := f.server.begin_of_not_search hr
      simp only [told?, hr, step]
      split
      · next s answer log hb =>
        rw [hb] at hs
        simp [searches, ← hs]
      · next s w log hb =>
        rw [hb] at hs
        simp [searches, ← hs, ht w (by rw [hb])]
    | some x =>
      obtain ⟨text, value, shape⟩ := x
      have hbegin := f.server.begin_of_search? hr
      obtain ⟨failure, hv, hb⟩ | ⟨mode, session, reply, log, hv, hc, hb⟩ |
        ⟨mode, session, ticket, request, log, hv, hc, hb⟩ :=
        f.server.beginSearch_cases text value shape
      · simp [told?, hr, hv, step, hbegin, hb, searches]
      · simp [told?, hr, hv, step, hbegin, hb, searches, Searches.step, hc]
      · simp [told?, hr, hv, step, hbegin, hb, searches, Searches.step, hc, Waiting.ticket?]
  | finish call o =>
    cases hw : f.find? call with
    | none => simp [told?, hw, step]
    | some w =>
      cases hp : w.purpose with
      | refresh timeout =>
        have ht : w.ticket? = none := by simp [Waiting.ticket?, hp]
        have hs := f.server.session_finish_refresh timeout o
        simp [told?, hw, ht, step, hp, searches, running_without_refresh h hw ht, hs]
      | search t shape =>
        have ht : w.ticket? = some t := by simp [Waiting.ticket?, hp]
        obtain ⟨hrest, hf⟩ := running_without_search h hn hw ht
        have htold : f.told? (.finish call o) = some (.finish t.number o) := by
          simp [told?, hw, ht]
        rw [htold, Option.toList_some, Searches.run_cons, Searches.run_nil,
          Searches.step_finish hf, ← hrest]
        simp [step, hw, hp, searches]
  | cancel call =>
    cases hw : f.find? call with
    | none => simp [told?, hw, step, searches, without_of_find?_eq_none hw]
    | some w =>
      cases ht : w.ticket? with
      | none => simp [told?, hw, ht, step, searches, running_without_refresh h hw ht]
      | some t =>
        obtain ⟨hrest, hf⟩ := running_without_search h hn hw ht
        simp [told?, hw, ht, step, searches, hrest, Searches.step]
  | change tree environment source scanner => rfl

/-- A run of a server is a run of its session. -/
theorem searches_run (h : f.Numbered) {before : List SearchEvent}
    (hs : f.searches = Searches.new.run before) (es : List ServerEvent) :
    (f.run es).Numbered ∧ (f.run es).searches = f.searches.run (f.told es) := by
  induction es generalizing f before with
  | nil => exact ⟨h, rfl⟩
  | cons e es ih =>
    have hstep := searches_step h (hs ▸ Searches.nodup_running before) e
    have hbefore : (f.step e).searches = Searches.new.run (before ++ (f.told? e).toList) := by
      rw [hstep, hs, Searches.run_append]
    obtain ⟨hnum, hrun⟩ := ih (h.step e) hbefore
    exact ⟨hnum, by rw [run_cons, hrun, told, Searches.run_append, hstep]⟩

/-- An event that begins no search begins none in the session. -/
theorem not_begins_of_mem_told {es : List ServerEvent} (hes : ∀ e ∈ es, e.beginsSearch = false) :
    ∀ e ∈ f.told es, e.begins = false := by
  induction es generalizing f with
  | nil => exact fun e he => absurd he List.not_mem_nil
  | cons e es ih =>
    intro e' he'
    rcases List.mem_append.1 he' with he' | he'
    · have he := hes e List.mem_cons_self
      rw [Option.mem_toList] at he'
      cases e with
      | begin r =>
        simp only [told?] at he'
        split at he'
        · next text value shape hr =>
          split at he'
          · next mode hv =>
            simp [ServerEvent.beginsSearch, hr, hv, Except.isOk, Except.toBool] at he
          · cases he'
        · cases he'
      | finish call o =>
        obtain ⟨t, -, rfl⟩ := Option.map_eq_some_iff.1 he'
        rfl
      | cancel call =>
        obtain ⟨t, -, rfl⟩ := Option.map_eq_some_iff.1 he'
        rfl
      | change tree environment source scanner => cases he'
    · exact ih (fun e he => hes e (List.mem_cons_of_mem _ he)) e' he'

/-- A report answers a search of the session, and is made of that search's reply. The items of
the reply are the hits of the search's own scan. -/
theorem exists_reply_of_report (h : f.Numbered)
    (hn : (f.searches.running.map Ticket.number).Nodup) {e : ServerEvent} {report : SearchReport}
    (ha : f.answer? e = some (.ok (.report report))) :
    ∃ e' query mode r, f.told? e = some e' ∧ f.searches.answer? e' = some (.ok r) ∧
      r.items.map (fun i => (i.path, i.line)) = e.found.map (fun h => (h.path, h.line)) ∧
      report = .of query mode r (f.step e).server.session := by
  cases e with
  | begin r =>
    cases hr : r.search? with
    | none =>
      have hne := (f.server.begin_of_not_search hr).2.2 report
      simp only [answer?] at ha
      split at ha
      · next answer hb =>
        cases ha
        exact absurd hb hne
      · cases ha
    | some x =>
      obtain ⟨text, value, shape⟩ := x
      have hbegin := f.server.begin_of_search? hr
      obtain ⟨failure, -, hb⟩ | ⟨mode, session, reply, log, hv, hc, hb⟩ |
        ⟨mode, session, ticket, request, log, -, -, hb⟩ :=
        f.server.beginSearch_cases text value shape
      · simp [answer?, hbegin, hb] at ha
      · have htold : f.told? (.begin r) = some (.begin text mode f.server.config) := by
          simp [told?, hr, hv]
        simp only [answer?, hbegin, hb, Option.some.injEq] at ha
        obtain ⟨r', rfl, rfl⟩ := Server.eq_report ha
        have hanswer : f.searches.answer? (.begin text mode f.server.config) =
            some (.ok r') := by
          simp [Searches.answer?, searches, hc]
        obtain ⟨rfl, -, -⟩ := Searches.answer?_begin hanswer
        exact ⟨_, text, mode, _, htold, hanswer, rfl, by simp [step, hbegin, hb]⟩
      · simp [answer?, hbegin, hb] at ha
  | finish call o =>
    obtain ⟨w, hw, ha⟩ := Option.map_eq_some_iff.1 ha
    cases hp : w.purpose with
    | refresh timeout =>
      rw [hp] at ha
      simp only [Server.finish] at ha
      split at ha <;> cases ha
    | search t shape =>
      have ht : w.ticket? = some t := by simp [Waiting.ticket?, hp]
      obtain ⟨-, hf⟩ := running_without_search h hn hw ht
      rw [hp] at ha
      obtain ⟨r, hr, rfl⟩ := Server.eq_report ha
      refine ⟨.finish t.number o, t.query, t.mode, r, by simp [told?, hw, ht], ?_, ?_, ?_⟩
      · rw [Searches.answer?, hf, Option.map_some]
        exact congrArg some hr
      · rw [Session.itemsOf_eq_ok (Session.items_of_finish hr), List.map_map]
        rfl
      · have hs : (f.step (.finish call o)).server.session = (f.server.session.finish t o).1 := by
          simp [step, hw, hp]
        rw [hs]
        rfl
  | cancel call => cases ha
  | change tree environment source scanner => cases ha

end Floor

end AddonAtlas
