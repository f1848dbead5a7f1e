import AddonAtlas.Proofs.Server.Run
import AddonAtlas.Proofs.Session.WellFormed

/-!
# Searches that fail before their scan

A search is refused before its scan if its mode does not exist, or if there is no configuration.
The mode is looked at first, so a mode that does not exist leaves no trace. The configuration is
asked for when the search has taken its number. The number then stays taken, and a search that runs
and was the newest one may not change what the session shows any more.

What a refused search leaves is told by two runs, one with it and one without, which go in step
from there on (`Searches.Ahead`) : searches begun later have greater numbers, and of the replies
to the earlier ones only `published` differs. The two runs show the same as long as the newest
search does not end among those that ran already (`Searches.Unseen`), and
`failed_search_unseen_iff` says that nothing less will do.
-/

namespace AddonAtlas

open SearchEvent (started)

/-! ## Numbers taken in between -/

/-- The number of a search when `d` more numbers were taken behind the first `n`. -/
def numberBehind (n d k : Nat) : Nat :=
  if k ≤ n then k else k + d

def Ticket.behind (n d : Nat) (t : Ticket) : Ticket :=
  { t with number := numberBehind n d t.number }

/-- An event when `d` more numbers were taken behind the first `n`. -/
def SearchEvent.behind (n d : Nat) : SearchEvent → SearchEvent
  | begin query mode config => begin query mode config
  | finish k o => finish (numberBehind n d k) o
  | cancel k => cancel (numberBehind n d k)

section Numbers

variable {n d k : Nat}

theorem numberBehind_of_le (h : k ≤ n) : numberBehind n d k = k := if_pos h

theorem numberBehind_of_lt (h : n < k) : numberBehind n d k = k + d := if_neg (by omega)

theorem numberBehind_inj {k' : Nat} : numberBehind n d k = numberBehind n d k' ↔ k = k' := by
  unfold numberBehind
  split <;> split <;> omega

end Numbers

/-- A search that ends hands over its items, and whether it is the newest one. -/
theorem Session.reply_finish (s : Session) (t : Ticket) (o : ScanOutcome) :
    (s.finish t o).2.1 =
      (itemsOf t o).map fun items => ⟨items, decide (t.number = s.issued)⟩ := by
  unfold finish
  cases itemsOf t o with
  | error f => rfl
  | ok items => by_cases hn : t.number = s.issued <;> simp [publish, hn, Except.map]

namespace Searches

variable {n d : Nat} {a b : Searches}

/-- `a` is `b` with `d` more numbers taken behind the first `n`, whatever they show. -/
structure Ahead (n d : Nat) (a b : Searches) : Prop where
  issued : a.session.issued = b.session.issued + d
  le : n ≤ b.session.issued
  running : a.running = b.running.map (Ticket.behind n d)

theorem Ahead.find? (h : Ahead n d a b) (k : Nat) :
    a.find? (numberBehind n d k) = (b.find? k).map (Ticket.behind n d) := by
  rw [Searches.find?, h.running, List.find?_map, Searches.find?]
  congr 2
  ext t
  simp [Ticket.behind, numberBehind_inj]

theorem Ahead.without (h : Ahead n d a b) (k : Nat) :
    a.without (numberBehind n d k) = (b.without k).map (Ticket.behind n d) := by
  rw [Searches.without, h.running, List.filter_map, Searches.without]
  congr 2
  ext t
  rw [Function.comp_apply, Bool.eq_iff_iff]
  simp [Ticket.behind, numberBehind_inj]

theorem Ahead.nextTicket (h : Ahead n d a b) (query : String) (mode : SearchMode) (c : Config) :
    a.session.nextTicket query mode c = (b.session.nextTicket query mode c).behind n d := by
  have hn : n < b.session.issued + 1 := Nat.lt_succ_of_le h.le
  rw [Session.nextTicket, Session.nextTicket, Ticket.behind, numberBehind_of_lt hn, h.issued,
    Nat.add_right_comm]

theorem Ahead.step (h : Ahead n d a b) (e : SearchEvent) :
    Ahead n d (a.step (e.behind n d)) (b.step e) := by
  have hbegins : (e.behind n d).begins = e.begins := by cases e <;> rfl
  refine ⟨?_, ?_, ?_⟩
  · rw [issued_step, issued_step, hbegins, h.issued, Nat.add_right_comm]
  · rw [issued_step]
    exact Nat.le_add_right_of_le h.le
  · cases e with
    | begin query mode config =>
      simp only [SearchEvent.behind]
      cases Session.beginning query config with
      | empty => simpa only [step_empty] using h.running
      | refused hq f log => simpa only [step_refused _ hq] using h.running
      | withoutRoots hq hc log => simpa only [step_withoutRoots _ hq mode hc] using h.running
      | scanning hq hc log =>
        simp only [step_scanning _ hq mode hc, List.map_cons, h.nextTicket, h.running]
    | finish k o =>
      have hf := h.find? k
      simp only [SearchEvent.behind]
      cases hk : b.find? k with
      | none =>
        rw [hk] at hf
        rw [step_finish_none hk, step_finish_none hf]
        exact h.running
      | some t =>
        rw [hk] at hf
        rw [step_finish hk, step_finish hf]
        exact h.without k
    | cancel k => exact h.without k

theorem Ahead.run (h : Ahead n d a b) (es : List SearchEvent) :
    Ahead n d (a.run (es.map (SearchEvent.behind n d))) (b.run es) := by
  induction es generalizing a b with
  | nil => exact h
  | cons e es ih => exact ih (h.step e)

/-- A search that runs is the newest one in the run that is ahead if it is in the other run, and was
begun behind the first ones. -/
theorem Ahead.newest_iff (h : Ahead n d a b) (k : Nat) :
    numberBehind n d k = a.session.issued ↔ k = b.session.issued ∧ (n < k ∨ d = 0) := by
  have hle := h.le
  rw [h.issued, numberBehind]
  split <;> omega

/-- The reply to a search in the run that is ahead : the same items, and published only if the
search was begun behind the first ones, or no numbers were taken in between. -/
theorem Ahead.answer? (h : Ahead n d a b) (k : Nat) (o : ScanOutcome) :
    a.answer? (.finish (numberBehind n d k) o) =
      (b.answer? (.finish k o)).map (Except.map fun r =>
        { r with published := r.published && (n < k || d == 0) }) := by
  simp only [Searches.answer?, h.find? k, Option.map_map]
  cases hk : b.find? k with
  | none => rfl
  | some t =>
    have hnewest := h.newest_iff k
    rw [← number_of_find? hk] at hnewest ⊢
    have hitems : Session.itemsOf (t.behind n d) o = Session.itemsOf t o := rfl
    simp only [Option.map_some, Function.comp_apply, Session.reply_finish, hitems]
    cases Session.itemsOf t o with
    | error f => rfl
    | ok items =>
      simp only [Except.map, Ticket.behind, hnewest, Bool.decide_and, Bool.decide_or]
      rfl

/-! ## What is shown -/

/-- Two runs of which one is ahead, and that show the same. If numbers were taken, none of the first
searches that still run is the newest one. -/
structure Unseen (n d : Nat) (a b : Searches) : Prop extends Ahead n d a b where
  state_eq : a.session.state = b.session.state
  lt : d ≠ 0 → ∀ t ∈ b.running, t.number ≤ n → t.number < b.session.issued

theorem Unseen.written? (h : Unseen n d a b) (e : SearchEvent) :
    a.written? (e.behind n d) = b.written? e := by
  cases e with
  | begin query mode config => rfl
  | finish k o =>
    simp only [SearchEvent.behind, Searches.written?, h.find? k]
    cases hk : b.find? k with
    | none => rfl
    | some t =>
      have hnewest := h.newest_iff t.number
      have hitems : Session.itemsOf (t.behind n d) o = Session.itemsOf t o := rfl
      have hkept : numberBehind n d t.number = a.session.issued ↔
          t.number = b.session.issued := by
        rw [hnewest, and_iff_left_iff_imp]
        intro hn
        by_contra hold
        have := h.lt (by omega) t (mem_running_of_find? hk) (by omega)
        omega
      simp only [Option.map_some, hitems]
      simp only [Ticket.behind, hkept]
  | cancel k => rfl

/-- A search that runs after an event ran before it, or is the newest one. -/
theorem mem_running_step {e : SearchEvent} {t : Ticket} (h : t ∈ (b.step e).running) :
    t ∈ b.running ∨ t.number = b.session.issued + 1 := by
  cases he : e.begins with
  | true =>
    cases e with
    | begin query mode config =>
      rcases running_begin b query mode config with hr | ⟨c, log, -, -, -, hr⟩
      · exact .inl (hr ▸ h)
      · rw [hr] at h
        rcases List.mem_cons.1 h with rfl | h
        · exact .inr rfl
        · exact .inl h
    | finish number o => cases he
    | cancel number => cases he
  | false =>
    rcases running_of_not_begins b he with hr | ⟨number, hr⟩
    · exact .inl (hr ▸ h)
    · rw [hr] at h
      exact .inl (b.mem_without.1 h).1

theorem Unseen.step (h : Unseen n d a b) (e : SearchEvent) :
    Unseen n d (a.step (e.behind n d)) (b.step e) where
  toAhead := h.toAhead.step e
  state_eq := by rw [state_step, state_step, h.written?, h.state_eq]
  lt := by
    intro hd t ht hn
    have hle := h.le
    rw [issued_step]
    rcases mem_running_step ht with ht | ht
    · exact Nat.lt_add_right _ (h.lt hd t ht hn)
    · omega

theorem Unseen.run (h : Unseen n d a b) (es : List SearchEvent) :
    Unseen n d (a.run (es.map (SearchEvent.behind n d))) (b.run es) := by
  induction es generalizing a b with
  | nil => exact h
  | cons e es ih => exact ih (h.step e)

/-- Whether the first `n` searches end in two sessions in the same way, whatever happens before :
with the same reply, and with the session showing the same. -/
def EndAlike (n d : Nat) (a b : Searches) : Prop :=
  ∀ after k o, k ≤ n → ((b.run after).find? k).isSome = true →
    (a.run (after.map (SearchEvent.behind n d))).answer? (.finish k o) =
        (b.run after).answer? (.finish k o) ∧
      ((a.run (after.map (SearchEvent.behind n d))).step (.finish k o)).session.state =
        ((b.run after).step (.finish k o)).session.state

theorem Unseen.endAlike (h : Unseen n d a b) : EndAlike n d a b := by
  intro after k o hk hruns
  have hrun := h.run after
  have hstep := (hrun.step (.finish k o)).state_eq
  have hanswer := hrun.answer? k o
  simp only [SearchEvent.behind, numberBehind_of_le hk] at hstep hanswer
  refine ⟨?_, hstep⟩
  rw [hanswer]
  obtain ⟨t, hf⟩ := Option.isSome_iff_exists.1 hruns
  have hnumber := number_of_find? hf
  -- with numbers taken, a search that is not the newest one has not published either
  have hpublished : d ≠ 0 → t.number ≠ (b.run after).session.issued := fun hd =>
    Nat.ne_of_lt (hrun.lt hd t (mem_running_of_find? hf) (hnumber ▸ hk))
  simp only [Searches.answer?, hf, Option.map_some, Session.reply_finish]
  cases Session.itemsOf t o with
  | error f => rfl
  | ok items =>
    by_cases hd : d = 0
    · simp [Except.map, hd]
    · simp [Except.map, hpublished hd]

end Searches

/-! ## Searches that fail -/

/-- A search that fails before its scan leaves its server as it was, or with a number taken. -/
theorem Server.beginSearch_failed {s : Server} {text : String} {value : Option Value}
    {shape : SearchShape} {failure : Failure}
    (h : (s.beginSearch text value shape).2.1 = .ended (.error failure)) :
    (SearchMode.ofValue value = .error failure ∧ (s.beginSearch text value shape).1 = s) ∨
      ((∃ mode, SearchMode.ofValue value = .ok mode) ∧ text ≠ "" ∧
        s.config.1 = .error failure ∧
        (s.beginSearch text value shape).1 = { s with session := s.session.issue }) := by
  cases hv : SearchMode.ofValue value with
  | error f =>
    rw [beginSearch_error _ hv] at h ⊢
    cases h
    exact .inl ⟨rfl, rfl⟩
  | ok mode =>
    refine .inr ⟨⟨mode, rfl⟩, ?_⟩
    generalize hc : s.config = config
    cases Session.beginning text config with
    | empty =>
      rw [beginSearch_ended _ hv (s.session.begin_empty mode s.config)] at h
      cases h
    | refused hq f log =>
      have hb := hc ▸ s.session.begin_error hq mode f log
      rw [beginSearch_ended _ hv hb] at h ⊢
      cases h
      exact ⟨hq, rfl, rfl⟩
    | withoutRoots hq hroots log =>
      have hb := hc ▸ s.session.begin_withoutRoots hq mode hroots log
      rw [beginSearch_ended _ hv hb] at h
      cases h
    | scanning hq hroots log =>
      have hb := hc ▸ s.session.begin_scanning hq mode hroots log
      rw [beginSearch_scanning _ hv hb] at h
      cases h

namespace Searches

/-- Numbers taken now come behind all searches that run. -/
theorem ahead_run_new (before : List SearchEvent) {session : Session} {d : Nat}
    (h : session.issued = started before + d) :
    Ahead (started before) d ⟨session, (new.run before).running⟩ (new.run before) where
  issued := by rw [h, issued_run_new]
  le := Nat.le_of_eq (issued_run_new before).symm
  running := by
    refine (List.map_id' _).symm.trans (List.map_congr_left fun t ht => ?_)
    rw [Ticket.behind, numberBehind_of_le (number_le_started ht)]

/-- A session that is not settled has its newest search running. -/
theorem exists_newest {before : List SearchEvent} (h : ¬ (new.run before).Settled) :
    ∃ t, (new.run before).find? (started before) = some t ∧
      t.number = (new.run before).session.issued := by
  obtain ⟨t, ht, hlt⟩ : ∃ t ∈ (new.run before).running,
      ¬ t.number < (new.run before).session.issued := by
    simpa [Settled] using h
  have hnumber : t.number = started before := by
    have := number_le_started ht
    rw [issued_run_new] at hlt
    omega
  cases hf : (new.run before).find? (started before) with
  | none => exact absurd hnumber ((find?_eq_none _).1 hf t ht)
  | some t' => exact ⟨t', rfl, by rw [number_of_find? hf, issued_run_new]⟩

/-- If a number was taken while the newest search runs, that search ends in another way. -/
theorem Ahead.not_endAlike {before : List SearchEvent} {a : Searches} {d : Nat} (hd : d ≠ 0)
    (h : Ahead (started before) d a (new.run before)) (hs : ¬ (new.run before).Settled) :
    ¬ EndAlike (started before) d a (new.run before) := by
  intro halike
  obtain ⟨t, hf, hnewest⟩ := exists_newest hs
  have hends := (halike [] (started before) (.hits []) (Nat.le_refl _) (by simp [hf])).1
  have hahead := h.answer? (started before) (.hits [])
  rw [numberBehind_of_le (Nat.le_refl _)] at hahead
  simp only [List.map_nil, run_nil] at hends
  rw [hends] at hahead
  simp [Searches.answer?, hf, Session.reply_finish, Session.itemsOf, Except.map, hnewest, hd]
    at hahead

/-- What a search leaves behind that fails before its scan. The session shows the same as before.
The searches that run hand over the same items, whatever comes. They have published as if there
had been no such search if its mode does not exist, and not at all if it was refused its
configuration. So they end as if there had been no such search exactly if its mode does not exist,
or the newest of the searches begun before does not run. -/
theorem failed_search_unseen_iff {before : List SearchEvent} {s : Server}
    (hs : s.session = (new.run before).session) {text : String} {value : Option Value}
    {shape : SearchShape} {failure : Failure}
    (h : (s.beginSearch text value shape).2.1 = .ended (.error failure)) :
    let n := started before
    let b := new.run before
    let a : Searches := ⟨(s.beginSearch text value shape).1.session, b.running⟩
    let d := a.session.issued - b.session.issued
    a.session.state = b.session.state ∧
      (∀ after k o, k ≤ n →
        (a.run (after.map (SearchEvent.behind n d))).answer? (.finish k o) =
          ((b.run after).answer? (.finish k o)).map (Except.map fun r =>
            { r with published := r.published && !(SearchMode.ofValue value).isOk })) ∧
      (EndAlike n d a b ↔ (∃ f, SearchMode.ofValue value = .error f) ∨ b.Settled) := by
  intro n b a d
  rcases Server.beginSearch_failed h with ⟨hv, hserver⟩ | ⟨⟨mode, hv⟩, -, -, hserver⟩
  · have hsession : a.session = b.session := by rw [← hs, ← hserver]
    have hd : d = 0 := by simp [d, hsession]
    have hissued : a.session.issued = started before + d := by
      rw [hsession, hd, issued_run_new, Nat.add_zero]
    have hahead : Ahead n d a b := ahead_run_new before hissued
    have hunseen : Unseen n d a b := ⟨hahead, by rw [hsession], fun h => absurd hd h⟩
    refine ⟨hunseen.state_eq, fun after k o hk => ?_,
      iff_of_true hunseen.endAlike (.inl ⟨failure, hv⟩)⟩
    have hanswer := (hahead.run after).answer? k o
    rw [numberBehind_of_le hk] at hanswer
    rw [hanswer]
    simp [hd, hv, Except.isOk, Except.toBool]
  · have hsession : a.session = b.session.issue := by
      rw [← hs]
      exact congrArg Server.session hserver
    have hd : d = 1 := by simp [d, hsession, Session.issue]
    have hissued : a.session.issued = started before + d := by
      rw [hsession, hd, ← issued_run_new before]
      rfl
    have hahead : Ahead n d a b := ahead_run_new before hissued
    have hstate : a.session.state = b.session.state := by rw [hsession]; rfl
    refine ⟨hstate, fun after k o hk => ?_, fun halike => ?_, ?_⟩
    · have hanswer := (hahead.run after).answer? k o
      rw [numberBehind_of_le hk] at hanswer
      rw [hanswer]
      have hold : ¬ n < k := by omega
      simp [hd, hv, hold, Except.isOk, Except.toBool]
    · by_contra hnot
      exact hahead.not_endAlike (by omega) (fun hsettled => hnot (.inr hsettled)) halike
    · rintro (⟨f, hf⟩ | hsettled)
      · rw [hf] at hv
        cases hv
      · exact Unseen.endAlike ⟨hahead, hstate, fun _ t ht _ => hsettled t ht⟩

/-- A search whose scan runs. -/
def oneRunning : List SearchEvent :=
  [.begin "slow" .substring (.ok ⟨["/a"], "grep", none, defaultBudget, 8080⟩, [])]

/-- A server on which that search runs, and whose configuration has become invalid. -/
def unconfigured : Server :=
  { Server.new .empty ⟨[]⟩ (.failing (Config.invalid "ODOO_MCP_PORT" "x" "no number"))
      (.scripted (fun _ => []) .ends) with
    session := (new.run oneRunning).session }

theorem failed_search_unseen_iff_oneRunning :
    let b := new.run oneRunning
    let a : Searches := ⟨(unconfigured.beginSearch "y" none .reply).1.session, b.running⟩
    unconfigured.session = b.session ∧
      (unconfigured.beginSearch "y" none .reply).2.1 =
        .ended (.error (Config.invalid "ODOO_MCP_PORT" "x" "no number")) ∧
      ¬ b.Settled ∧ ¬ EndAlike 1 1 a b := by
  have hrunning : ¬ (new.run oneRunning).Settled := by
    intro h
    exact absurd (h _ List.mem_cons_self) (by decide)
  refine ⟨rfl, rfl, hrunning, fun h => ?_⟩
  rcases (@failed_search_unseen_iff oneRunning unconfigured rfl "y" none .reply _ rfl).2.2.1 h with
    ⟨f, hf⟩ | hsettled
  · cases hf
  · exact hrunning hsettled

/-- A search that is refused its configuration takes the newest number from the one that runs,
which then ends without the session being told. -/
theorem failed_search_disturbs :
    let b := new.run oneRunning
    let a : Searches := ⟨(unconfigured.beginSearch "y" none .reply).1.session, b.running⟩
    (unconfigured.beginSearch "y" none .reply).2.1 =
        .ended (.error (Config.invalid "ODOO_MCP_PORT" "x" "no number")) ∧
      b.answer? (.finish 1 (.hits [])) = some (.ok ⟨[], true⟩) ∧
      a.answer? (.finish 1 (.hits [])) = some (.ok ⟨[], false⟩) ∧
      (b.step (.finish 1 (.hits []))).session.state.status = .idle ∧
      (a.step (.finish 1 (.hits []))).session.state.status = .searching :=
  ⟨rfl, rfl, rfl, rfl, rfl⟩

end Searches

end AddonAtlas
