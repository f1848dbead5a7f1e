import AddonAtlas.Proofs.Server.Refreshing
import AddonAtlas.Proofs.Server.Waiting

/-!
# What becomes of the hits of a refresh

A refresh groups the hits of its scan, and grouping loses, adds and reorders nothing
(`ModelIndex.Keeps`) : each identity is listed once, where it appears first, its group is what has
this identity in the order of the scan, and between them the groups hold as many declarations as
there are hits. This holds of every refresh that has come to its scan, whatever else happens before
and in the meantime, and so a second refresh with the same hits comes to the same
(`refresh_keeps_all`).
-/

namespace AddonAtlas

/-! ## First appearances -/

/-- Without its repetitions a list is in the order of first appearance. -/
theorem pairwise_idxOf_eraseDups {α : Type} [BEq α] [LawfulBEq α] (l : List α) :
    l.eraseDups.Pairwise fun a b => l.idxOf a < l.idxOf b := by
  induction l using List.reverseRecOn with
  | nil => exact .nil
  | append_singleton l a ih =>
    have hold : l.eraseDups.Pairwise fun b c => (l ++ [a]).idxOf b < (l ++ [a]).idxOf c := by
      refine ih.imp_of_mem fun {b c} hb hc hlt => ?_
      rwa [List.idxOf_append_of_mem (List.mem_eraseDups.1 hb),
        List.idxOf_append_of_mem (List.mem_eraseDups.1 hc)]
    rw [List.eraseDups_append]
    refine List.pairwise_append.2 ⟨hold, ?_, fun b hb c hc => ?_⟩
    · by_cases ha : a ∈ l <;> simp [List.removeAll, List.eraseDups_cons, ha]
    · have hb : b ∈ l := List.mem_eraseDups.1 hb
      obtain ⟨hca, hnew⟩ : c = a ∧ c ∉ l := by
        simpa [List.removeAll] using List.mem_eraseDups.1 hc
      rw [List.idxOf_append_of_mem hb, List.idxOf_append_of_notMem hnew]
      exact Nat.lt_of_lt_of_le (List.idxOf_lt_length_of_mem hb) (Nat.le_add_right _ _)

namespace ModelIndex

/-- An index that keeps declarations as they are, but for their grouping. -/
structure Keeps (x : ModelIndex) (ds : List Declaration) : Prop where
  nodup : x.identities.Nodup
  mem : ∀ identity, identity ∈ x.identities ↔ ∃ d ∈ ds, d.identity = identity
  order : x.identities.Pairwise fun i j =>
    (ds.map (·.identity)).idxOf i < (ds.map (·.identity)).idxOf j
  declarations : ∀ identity, x.declarations identity = ds.filter (·.identity = identity)
  groups : x.groups = x.identities.map fun identity => (identity, x.declarations identity)
  nonempty : ∀ g ∈ x.groups, g.2 ≠ []
  sum : (x.groups.map fun g => g.2.length).sum = ds.length

theorem keeps_ofList (ds : List Declaration) : (ofList ds).Keeps ds where
  nodup := nodup_identities_ofList ds
  mem _ := mem_identities_ofList
  order := by
    rw [identities_ofList]
    exact pairwise_idxOf_eraseDups _
  declarations := declarations_ofList ds
  groups := (groups_ofList ds).mapping
  nonempty := by
    rw [(groups_ofList ds).mapping]
    intro g hg hnil
    obtain ⟨identity, hidentity, rfl⟩ := List.mem_map.1 hg
    exact declarations_ofList_eq_nil.1 hnil hidentity
  sum := size_ofList ds

end ModelIndex

/-! ## Refreshes -/

/-- The summary of a refresh whose scan has come to hits. -/
def IndexSummary.ofHits (hs : List Hit) : IndexSummary :=
  ⟨(ModelIndex.ofList (Hit.declared hs)).groups.length, hs.length,
    if hs = [] then some nothingFound else none⟩

theorem ModelIndex.installed_declared (hs : List Hit) :
    ((installed (Hit.declared hs)).1, (installed (Hit.declared hs)).2.1) =
      (ofList (Hit.declared hs), .ofHits hs) := by
  cases hs with
  | nil => rfl
  | cons h hs => simp [installed, IndexSummary.ofHits, Hit.declared]

theorem Server.finish_refresh_hits (s : Server) (timeout : Option Seconds) (hs : List Hit) :
    (s.finish (.refresh timeout) (.hits hs)).1 = { s with index := .ofList (Hit.declared hs) } ∧
      (s.finish (.refresh timeout) (.hits hs)).2.1 = .ok (.summary (.ofHits hs)) := by
  obtain ⟨hindex, hsummary⟩ := Prod.mk.inj (ModelIndex.installed_declared hs)
  rw [← hindex, ← hsummary]
  exact ⟨rfl, rfl⟩

namespace Floor

/-- A call is a refresh that waits for its scan. -/
def Refreshing (f : Floor) (call : Nat) : Prop :=
  ∃ w timeout, f.find? call = some w ∧ w.refresh? = some timeout

variable {f : Floor}

/-- A refresh with roots waits for its scan until something ends it. -/
theorem refreshing_run_of_begin {r : Request} (hr : r.isRefresh) {c : Config}
    (hc : f.server.config.1 = .ok c) (hroots : c.roots ≠ []) {es : List ServerEvent}
    (hes : ∀ e ∈ es, e.ends (f.begun + 1) = false) :
    ((f.step (.begin r)).run es).Refreshing (f.begun + 1) := by
  obtain ⟨failure, log, hc', -⟩ | ⟨c', log, hc', hroots', -⟩ | ⟨c', log, hc', -, hb⟩ :=
    f.server.beginRefresh_cases
  · cases hc.symm.trans hc'
  · cases hc.symm.trans hc'
    exact absurd hroots' hroots
  · rw [← f.server.begin_of_isRefresh hr] at hb
    exact ⟨_, _, find?_run_of_begin hb hes, rfl⟩

theorem finish_refreshing {call : Nat} (h : f.Refreshing call) (hs : List Hit) :
    f.answer? (.finish call (.hits hs)) = some (.ok (.summary (.ofHits hs))) ∧
      (f.step (.finish call (.hits hs))).server.index = .ofList (Hit.declared hs) := by
  obtain ⟨w, timeout, hw, hrefresh⟩ := h
  have hp : w.purpose = .refresh timeout := by
    unfold Waiting.refresh? at hrefresh
    split at hrefresh
    · next hp => rw [hp, Option.some.inj hrefresh]
    · cases hrefresh
  obtain ⟨hserver, hanswer⟩ := f.server.finish_refresh_hits timeout hs
  simp [answer?, step, hw, hp, hserver, hanswer]

/-- Grouping loses, adds and reorders nothing. Of whatever hits the scan of a refresh with roots
comes to, and whatever happens to the server before and in the meantime, the refresh returns, with
the number of groups and the number of hits, and with a notice exactly if there is no hit. The index
keeps what was extracted of the hits, and a later refresh with the same hits comes to the same answer
and the same index. -/
theorem refresh_keeps_all {r : Request} (hr : r.isRefresh) {c : Config}
    (hc : f.server.config.1 = .ok c) (hroots : c.roots ≠ []) {between : List ServerEvent}
    (hbetween : ∀ e ∈ between, e.ends (f.begun + 1) = false) (hs : List Hit) :
    let g := (f.step (.begin r)).run between
    let e := ServerEvent.finish (f.begun + 1) (.hits hs)
    let x := (g.step e).server.index
    x.Keeps (Hit.declared hs) ∧
      (∃ summary, g.answer? e = some (.ok (.summary summary)) ∧
        summary.models = x.groups.length ∧ summary.declarations = hs.length ∧
        (summary.notice = none ↔ hs ≠ [])) ∧
      ∀ later call, ((g.step e).run later).Refreshing call →
        ((g.step e).run later).answer? (.finish call (.hits hs)) = g.answer? e ∧
        (((g.step e).run later).step (.finish call (.hits hs))).server.index = x := by
  intro g e x
  obtain ⟨hanswer, hindex⟩ := finish_refreshing (refreshing_run_of_begin hr hc hroots hbetween) hs
  have hx : x = .ofList (Hit.declared hs) := hindex
  refine ⟨hx ▸ ModelIndex.keeps_ofList _, ⟨.ofHits hs, hanswer, ?_, rfl, ?_⟩, ?_⟩
  · rw [hx]
    rfl
  · by_cases hnone : hs = [] <;> simp [IndexSummary.ofHits, hnone]
  · intro later call hcall
    obtain ⟨hanswer', hindex'⟩ := finish_refreshing hcall hs
    exact ⟨hanswer'.trans hanswer.symm, hindex'.trans hx.symm⟩

/-- Hits of two models that are declared by turns, and one whose value cannot be read. -/
def byTurns : List Hit :=
  [⟨"/a/m.py", 1, "_name = \"x\""⟩, ⟨"/a/m.py", 5, "_inherit = 'y'"⟩,
    ⟨"/a/n.py", 2, "_name = \"z\"\x0c"⟩, ⟨"/a/n.py", 7, "_inherit = \"x\""⟩]

theorem refresh_keeps_all_byTurns :
    let c : Config := ⟨["/a"], "grep", none, defaultBudget, 8080⟩
    let f := new .empty ⟨[]⟩ (.fixed c) (.scripted (fun _ => []) .ends)
    let between := [.begin (.search "x" none), .finish 2 .timedOut]
    let x := (((f.step (.begin .refresh)).run between).step (.finish 1 (.hits byTurns))).server.index
    Request.isRefresh .refresh ∧ f.server.config.1 = .ok c ∧ c.roots ≠ [] ∧
      (∀ e ∈ between, ServerEvent.ends 1 e = false) ∧
      x.Keeps [⟨"x", "/a/m.py", 1⟩, ⟨"y", "/a/m.py", 5⟩, ⟨"=_=", "/a/n.py", 2⟩, ⟨"x", "/a/n.py", 7⟩] ∧
      x.declarations "x" = [⟨"x", "/a/m.py", 1⟩, ⟨"x", "/a/n.py", 7⟩] := by
  intro c f between x
  have hends : ∀ e ∈ between, ServerEvent.ends 1 e = false := by
    simp [between, ServerEvent.ends]
  obtain ⟨hkeeps, -⟩ := refresh_keeps_all (f := f) (r := .refresh) (c := c) rfl rfl (by decide) hends
    byTurns
  have hdeclared : Hit.declared byTurns =
      [⟨"x", "/a/m.py", 1⟩, ⟨"y", "/a/m.py", 5⟩, ⟨"=_=", "/a/n.py", 2⟩, ⟨"x", "/a/n.py", 7⟩] := by
    decide +kernel
  rw [hdeclared] at hkeeps
  refine ⟨rfl, rfl, by decide, hends, hkeeps, ?_⟩
  exact hkeeps.declarations "x"

end Floor

end AddonAtlas
