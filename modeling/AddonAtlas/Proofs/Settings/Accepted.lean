import AddonAtlas.Proofs.Number.Unordered
import AddonAtlas.Proofs.Settings.Roots

/-!
# Configurations that are accepted

Whatever the environment, the settings file and the override hold, a configuration that is loaded
has numbers within their bounds, a program to scan with, and roots that are not empty
(`Config.Accepted`). Its time limit is greater than zero, with one exception : the number that is
none passes the check for negative limits, so it is accepted as a limit from those texts that it is
read from (`Config.accepted_of_load`).
-/

namespace AddonAtlas

open AddonAtlas.Number AddonAtlas.Text

/-- A number is greater than zero. The number that is none is not. -/
def Number.Binary64.ExceedsZero : Binary64 → Prop
  | nan => False
  | infinite negative => negative = false
  | finite negative m _ => negative = false ∧ 0 < m

/-- A time limit is greater than zero. -/
def Seconds.ExceedsZero : Seconds → Prop
  | whole n => 0 < n
  | real x => x.ExceedsZero

/-- A number exceeds zero if it is neither zero nor negative, unless it is the number that is none. -/
theorem Number.Binary64.exceedsZero_iff {x : Binary64} :
    x.ExceedsZero ↔ x ≠ nan ∧ x.isZero = false ∧ x.isNegative = false := by
  cases x with
  | nan => simp [ExceedsZero]
  | infinite s => simp [ExceedsZero, isZero, isNegative]
  | finite s m e =>
    simp only [ExceedsZero, isZero, isNegative, Nat.pos_iff_ne_zero, ne_eq, reduceCtorEq,
      not_false_eq_true, true_and, beq_eq_false_iff_ne]
    constructor
    · rintro ⟨rfl, hm⟩
      exact ⟨hm, rfl⟩
    · rintro ⟨hm, hs⟩
      exact ⟨by simpa [hm] using hs, hm⟩

/-- A variable is given if it is set, and not to nothing. -/
theorem Environment.given?_eq_some {e : Environment} {name value : String} :
    e.given? name = some value ↔ e.get? name = some value ∧ value ≠ "" := by
  unfold given?
  split
  · next hempty => simp +contextual [hempty, eq_comm]
  · next hset =>
    refine ⟨fun h => ⟨h, ?_⟩, And.left⟩
    rintro rfl
    exact hset h

namespace Config

/-- The bounds of the settings, apart from that of the time limit. -/
structure Accepted (c : Config) : Prop where
  roots : ∀ root ∈ c.roots, root ≠ ""
  grep : c.grep ≠ ""
  maxOutput : 200000000 ≤ c.maxOutput
  port : 1 ≤ c.port ∧ c.port ≤ 65535

section Settings

variable {e : Environment} {override : Option String} {s : Settings}

theorem ne_empty_of_loadRoots {roots : List String} (h : loadRoots e override s = .ok roots) :
    ∀ root ∈ roots, root ≠ "" := by
  unfold loadRoots at h
  split at h
  · exact ne_empty_of_rootsOfEntries h
  · split at h
    · exact ne_empty_of_rootsOfEntries h
    · exact ne_empty_of_rootsOfValue h

theorem ne_empty_of_loadGrep {grep : String} (h : loadGrep e s = .ok grep) : grep ≠ "" := by
  unfold loadGrep at h
  split at h
  · next hgiven =>
    cases h
    exact (Environment.given?_eq_some.1 hgiven).2
  · split at h
    · split at h
      · next hgiven => exact Value.asText_ne_empty hgiven h
      · cases h
        decide
    · cases h
      decide

/-- A variable hides the text of the settings file. -/
theorem settingText_of_get? {key name usual text value : String}
    (h : settingText e key s name usual = .ok text) (hvalue : e.get? key = some value) :
    text = value := by
  simp only [settingText] at h
  split at h
  · next v _ =>
    cases htext : v.asText s.collections with
    | error f => simp [htext, Except.map] at h
    | ok written => simpa [htext, Except.map, hvalue, eq_comm] using h
  · simpa [Except.map, hvalue, eq_comm] using h

end Settings

/-! ## Numbers in their bounds -/

theorem readMaxOutput_eq_ok {text : String} {n : Int} :
    readMaxOutput text = .ok n ↔ SpellsInteger text.toList n ∧ 200000000 ≤ n := by
  rw [← readInteger_eq_ok, readMaxOutput]
  cases readInteger text with
  | error f => simp
  | ok m =>
    have hbudget : defaultBudget = 200000000 := rfl
    simp only [hbudget, Except.ok.injEq]
    split
    · simp only [reduceCtorEq, false_iff, not_and]
      omega
    · simp only [Except.ok.injEq]
      omega

theorem readPort_eq_ok {text : String} {n : Int} :
    readPort text = .ok n ↔ SpellsInteger text.toList n ∧ 1 ≤ n ∧ n ≤ 65535 := by
  rw [← readInteger_eq_ok, readPort]
  cases readInteger text with
  | error f => simp
  | ok m =>
    simp only [Except.ok.injEq]
    split
    · simp only [reduceCtorEq, false_iff, not_and]
      omega
    · simp only [Except.ok.injEq]
      omega

/-- A time limit that is read exceeds zero, or is the number that is none. -/
theorem limit_of_readTimeout {text : String} {limit : Option Seconds}
    (h : readTimeout text = .ok limit) :
    (SpellsNan text.toList → limit = some (.real .nan)) ∧
      (¬SpellsNan text.toList → ∀ x ∈ limit, x.ExceedsZero) := by
  rw [← readReal?_eq_nan]
  unfold readTimeout at h
  split at h
  · cases h
  · next x hread =>
    split at h
    · cases h
    · next hnegative =>
      cases h
      rw [hread, Option.some.injEq]
      constructor
      · rintro rfl
        rfl
      · intro hnan limit hlimit
        split at hlimit
        · cases hlimit
        · next hzero =>
          cases hlimit
          exact Binary64.exceedsZero_iff.2
            ⟨hnan, Bool.eq_false_iff.2 hzero, Bool.eq_false_iff.2 hnegative⟩

/-- What is accepted is within its bounds, but for a time limit that is read from the name of the
number that is none. The numbers of the environment are the integers that its texts spell. -/
theorem accepted_of_load {t : FileTree} {e : Environment} {override : Option String} {c : Config}
    (h : (load t e override).1 = .ok c) :
    c.Accepted ∧
    (∀ text, e.get? "ODOO_MAX_OUTPUT" = some text → SpellsInteger text.toList c.maxOutput) ∧
    (∀ text, e.get? "ODOO_MCP_PORT" = some text → SpellsInteger text.toList c.port) ∧
    ∃ s text, (loadSettings t e).1 = .ok s ∧
      settingText e "ODOO_SCAN_TIMEOUT" s "scan_timeout" "0" = .ok text ∧
      (SpellsNan text.toList → c.scanTimeout = some (.real .nan)) ∧
      (¬SpellsNan text.toList → ∀ x ∈ c.scanTimeout, x.ExceedsZero) := by
  obtain ⟨s, hs, hc⟩ := load_eq_ok.1 h
  obtain ⟨hroots, hgrep, ⟨limit, hlimit, htimeout⟩, ⟨output, houtput, hmax⟩, hport⟩ :=
    ofSettings_eq_ok.1 hc
  obtain ⟨hmax, hleast⟩ := readMaxOutput_eq_ok.1 hmax
  obtain ⟨hport, hrange⟩ := readPort_eq_ok.1 hport
  refine ⟨⟨ne_empty_of_loadRoots hroots, ne_empty_of_loadGrep hgrep, hleast, hrange⟩,
    fun text htext => ?_, fun text htext => ?_, s, limit, hs, hlimit, limit_of_readTimeout htimeout⟩
  · rwa [← settingText_of_get? houtput htext]
  · rwa [htext, Option.getD_some] at hport

theorem accepted_of_load_spelled :
    let e : Environment := ⟨[("ODOO_MAX_OUTPUT", " 3_00000000"), ("ODOO_MCP_PORT", "+08069"),
      ("ODOO_SCAN_TIMEOUT", "2.5")]⟩
    ∃ c, (load ⟨[], []⟩ e none).1 = .ok c ∧ c.Accepted ∧
      SpellsInteger " 3_00000000".toList c.maxOutput ∧ SpellsInteger "+08069".toList c.port ∧
      (∀ x ∈ c.scanTimeout, x.ExceedsZero) ∧ c.maxOutput = 300000000 ∧ c.port = 8069 := by
  intro e
  have hload : (load ⟨[], []⟩ e none).1 = .ok ⟨[], "grep",
      some (.real (.finite false 5629499534213120 (-51))), 300000000, 8069⟩ := by
    decide +kernel
  obtain ⟨haccepted, hmax, hport, s, text, -, htext, -, hlimit⟩ := accepted_of_load hload
  have hnan : ¬SpellsNan text.toList := by
    rw [settingText_of_get? htext rfl, ← readReal?_eq_nan]
    decide +kernel
  exact ⟨_, hload, haccepted, hmax _ rfl, hport _ rfl, hlimit hnan, rfl, rfl⟩

/-- The number that is none is accepted as a time limit, and does not exceed zero. -/
theorem limit_of_nan : ∃ c,
    (load ⟨[], []⟩ ⟨[("ODOO_SCAN_TIMEOUT", "nan")]⟩ none).1 = .ok c ∧
      c.scanTimeout = some (.real .nan) ∧ ¬(Seconds.real .nan).ExceedsZero :=
  ⟨⟨[], "grep", some (.real .nan), 200000000, 8080⟩, by decide +kernel, rfl, id⟩

end Config

end AddonAtlas
