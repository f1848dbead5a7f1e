import AddonAtlas.Proofs.Server.Run

/-!
# Calls that wait

A call that waits for its scan goes on to wait, whatever happens to other calls and to the server,
until its scan comes to an outcome or it is cancelled (`find?_run_of_begin`). From then on it waits no
more, and no event answers it (`answer?_finish_run`).
-/

namespace AddonAtlas

/-- Whether a call waits no more after an event. -/
def ServerEvent.ends (call : Nat) : ServerEvent → Bool
  | finish k _ => k = call
  | cancel k => k = call
  | _ => false

namespace Floor

variable {f : Floor}

theorem find?_without_self (s : Server) (call n : Nat) :
    (Floor.mk s (f.without call) n).find? call = none := by
  rw [find?, Option.map_eq_none_iff, List.find?_eq_none]
  intro x hx
  simpa using (List.mem_filter.1 hx).2

theorem find?_without_of_ne {call other : Nat} (h : other ≠ call) (s : Server) (n : Nat) :
    (Floor.mk s (f.without call) n).find? other = f.find? other :=
  congrArg (Option.map _) (find?_filter_of_ne Prod.fst h f.waiting)

theorem begun_step_begin (r : Request) : (f.step (.begin r)).begun = f.begun + 1 := by
  simp only [step]
  split <;> rfl

theorem begun_le_step (e : ServerEvent) : f.begun ≤ (f.step e).begun := by
  cases e with
  | begin r =>
    rw [begun_step_begin]
    exact Nat.le_succ _
  | finish call o =>
    simp only [step]
    split <;> exact Nat.le_refl _
  | cancel call => exact Nat.le_refl _
  | change tree environment source scanner => exact Nat.le_refl _

theorem begun_le_run (es : List ServerEvent) : f.begun ≤ (f.run es).begun := by
  induction es generalizing f with
  | nil => exact Nat.le_refl _
  | cons e es ih => exact Nat.le_trans (begun_le_step e) ih

/-- What begins later goes by another number. -/
theorem find?_step_begin {call : Nat} (hcall : call ≤ f.begun) (r : Request) :
    (f.step (.begin r)).find? call = f.find? call := by
  simp only [step]
  split
  · rfl
  · next s w log hb =>
    have hne : f.begun + 1 ≠ call := by omega
    simp [find?, hne]

theorem find?_step {call : Nat} (hcall : call ≤ f.begun) {e : ServerEvent}
    (he : e.ends call = false) : (f.step e).find? call = f.find? call := by
  cases e with
  | begin r => exact find?_step_begin hcall r
  | finish k o =>
    have hne : call ≠ k := by simpa [ServerEvent.ends, eq_comm] using he
    simp only [step]
    split
    · exact find?_without_of_ne hne _ _
    · rfl
  | cancel k =>
    have hne : call ≠ k := by simpa [ServerEvent.ends, eq_comm] using he
    exact find?_without_of_ne hne _ _
  | change tree environment source scanner => rfl

theorem find?_run {call : Nat} (hcall : call ≤ f.begun) {es : List ServerEvent}
    (hes : ∀ e ∈ es, e.ends call = false) : (f.run es).find? call = f.find? call := by
  induction es generalizing f with
  | nil => rfl
  | cons e es ih =>
    obtain ⟨he, hes⟩ := List.forall_mem_cons.1 hes
    rw [run_cons, ih (Nat.le_trans hcall (begun_le_step e)) hes, find?_step hcall he]

/-- A call that begins to wait goes on to wait while nothing ends it. -/
theorem find?_run_of_begin {r : Request} {s : Server} {w : Waiting} {log : Log}
    (hb : f.server.begin r = (s, .waiting w, log)) {es : List ServerEvent}
    (hes : ∀ e ∈ es, e.ends (f.begun + 1) = false) :
    ((f.step (.begin r)).run es).find? (f.begun + 1) = some w := by
  have hstep : f.step (.begin r) = ⟨s, (f.begun + 1, w) :: f.waiting, f.begun + 1⟩ := by
    simp only [step, hb]
  rw [find?_run (Nat.le_of_eq (begun_step_begin r).symm) hes, hstep]
  simp [find?]

/-- A call that does not wait never does again. -/
theorem find?_step_eq_none {call : Nat} (hcall : call ≤ f.begun) (h : f.find? call = none)
    (e : ServerEvent) : (f.step e).find? call = none := by
  cases he : e.ends call with
  | false => rwa [find?_step hcall he]
  | true =>
    cases e with
    | finish k o =>
      obtain rfl : k = call := by simpa [ServerEvent.ends] using he
      simp [step, h]
    | cancel k =>
      obtain rfl : k = call := by simpa [ServerEvent.ends] using he
      exact find?_without_self _ _ _
    | _ => cases he

theorem find?_run_eq_none {call : Nat} (hcall : call ≤ f.begun) (h : f.find? call = none)
    (es : List ServerEvent) : (f.run es).find? call = none := by
  induction es generalizing f with
  | nil => exact h
  | cons e es ih =>
    exact ih (Nat.le_trans hcall (begun_le_step e)) (find?_step_eq_none hcall h e)

/-- A call whose scan has come to its outcome is answered by no other outcome. -/
theorem answer?_finish_run {call : Nat} (hcall : call ≤ f.begun) (o o' : ScanOutcome)
    (es : List ServerEvent) : ((f.step (.finish call o)).run es).answer? (.finish call o') = none := by
  have hnone : (f.step (.finish call o)).find? call = none := by
    cases hw : f.find? call with
    | none => exact find?_step_eq_none hcall hw _
    | some w =>
      simp only [step, hw]
      exact find?_without_self _ _ _
  rw [answer?, find?_run_eq_none (Nat.le_trans hcall (begun_le_step _)) hnone, Option.map_none]

end Floor

end AddonAtlas
