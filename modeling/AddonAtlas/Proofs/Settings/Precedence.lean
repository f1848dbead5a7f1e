import AddonAtlas.Proofs.FileTree
import AddonAtlas.Proofs.Settings.Accepted

/-!
# Which source a setting is taken from

An override hides the roots of the environment and of the settings file, and a variable hides the
file's setting. What is hidden does not matter : two settings files make no difference where an
override or a variable stands above them, and two environments make none where an override does
(`Config.higher_source_hides`).
-/

namespace AddonAtlas

/-- Two environments differ in one variable at most. -/
def Environment.AgreeBut (name : String) (e₁ e₂ : Environment) : Prop :=
  ∀ other, other ≠ name → e₁.get? other = e₂.get? other

section AgreeBut

variable {name : String} {e₁ e₂ : Environment} (hagree : e₁.AgreeBut name e₂)

include hagree

theorem Environment.AgreeBut.given? {other : String} (hother : other ≠ name) :
    e₁.given? other = e₂.given? other := by
  rw [Environment.given?, hagree other hother, Environment.given?]

/-- Home directories depend on one variable. -/
theorem Environment.AgreeBut.homes (hname : "HOME" ≠ name) : e₁.homes = e₂.homes := by
  have hhome : e₁.home? = e₂.home? := by
    funext user
    rw [Environment.home?, hagree _ hname, Environment.home?]
  rw [Environment.homes, hhome, Environment.homes]

end AgreeBut

namespace Config

/-- What two configurations have in common if they are loaded in an environment and with an
override, but from different settings files. -/
structure AgreeAbove (e : Environment) (override : Option String) (c₁ c₂ : Config) : Prop where
  roots : (override ≠ none ∨ ∃ paths, e.get? "ODOO_ADDONS_PATH" = some paths ∧ paths ≠ "") →
    c₁.roots = c₂.roots
  grep : (∃ program, e.get? "ODOO_GREP" = some program ∧ program ≠ "") → c₁.grep = c₂.grep
  scanTimeout : (∃ text, e.get? "ODOO_SCAN_TIMEOUT" = some text) → c₁.scanTimeout = c₂.scanTimeout
  maxOutput : (∃ text, e.get? "ODOO_MAX_OUTPUT" = some text) → c₁.maxOutput = c₂.maxOutput
  port : c₁.port = c₂.port

variable {e₁ e₂ : Environment} {override : Option String} {s₁ s₂ : Settings} {c₁ c₂ : Config}

/-! ## Single settings -/

/-- The roots of an override or a variable, whatever is below. -/
theorem loadRoots_congr (hhomes : e₁.homes = e₂.homes)
    (habove : override ≠ none ∨ ∃ paths, (e₁.get? "ODOO_ADDONS_PATH" = some paths ∧
      e₂.get? "ODOO_ADDONS_PATH" = some paths) ∧ paths ≠ "") :
    loadRoots e₁ override s₁ = loadRoots e₂ override s₂ := by
  cases override with
  | some paths => rw [loadRoots, hhomes, loadRoots]
  | none =>
    obtain ⟨paths, ⟨hset₁, hset₂⟩, hne⟩ := habove.resolve_left (not_not_intro rfl)
    rw [loadRoots, Environment.given?_eq_some.2 ⟨hset₁, hne⟩, hhomes, loadRoots,
      Environment.given?_eq_some.2 ⟨hset₂, hne⟩]

theorem loadGrep_of_get? {program : String} (hset : e₁.get? "ODOO_GREP" = some program)
    (hne : program ≠ "") : loadGrep e₁ s₁ = .ok program := by
  rw [loadGrep, Environment.given?_eq_some.2 ⟨hset, hne⟩]

/-- What is read of a text that a variable holds. -/
theorem eq_of_settingText {α : Type} {read : String → Except Failure α} {a₁ a₂ : α}
    {key name usual value : String} (hset₁ : e₁.get? key = some value)
    (hset₂ : e₂.get? key = some value)
    (h₁ : ∃ text, settingText e₁ key s₁ name usual = .ok text ∧ read text = .ok a₁)
    (h₂ : ∃ text, settingText e₂ key s₂ name usual = .ok text ∧ read text = .ok a₂) : a₁ = a₂ := by
  obtain ⟨text₁, htext₁, hread₁⟩ := h₁
  obtain ⟨text₂, htext₂, hread₂⟩ := h₂
  rw [settingText_of_get? htext₁ hset₁] at hread₁
  rw [settingText_of_get? htext₂ hset₂, hread₁] at hread₂
  exact Except.ok.inj hread₂

/-! ## All settings -/

/-- Settings of a file make no difference where something stands above them. -/
theorem agreeAbove_of_ofSettings (hagree : e₁.AgreeBut "ODOO_MCP_CONFIG" e₂)
    (h₁ : ofSettings e₁ override s₁ = .ok c₁) (h₂ : ofSettings e₂ override s₂ = .ok c₂) :
    AgreeAbove e₁ override c₁ c₂ := by
  obtain ⟨hroots₁, hgrep₁, htimeout₁, houtput₁, hport₁⟩ := ofSettings_eq_ok.1 h₁
  obtain ⟨hroots₂, hgrep₂, htimeout₂, houtput₂, hport₂⟩ := ofSettings_eq_ok.1 h₂
  have hset₂ : ∀ {name value}, name ≠ "ODOO_MCP_CONFIG" → e₁.get? name = some value →
      e₂.get? name = some value := fun hname hset => (hagree _ hname).symm.trans hset
  constructor
  case roots =>
    intro habove
    have hroots : loadRoots e₁ override s₁ = loadRoots e₂ override s₂ :=
      loadRoots_congr (hagree.homes (by decide)) (habove.imp_right fun ⟨paths, hset, hne⟩ =>
        ⟨paths, ⟨hset, hset₂ (by decide) hset⟩, hne⟩)
    rw [hroots, hroots₂] at hroots₁
    exact (Except.ok.inj hroots₁).symm
  case grep =>
    rintro ⟨program, hset, hne⟩
    rw [loadGrep_of_get? hset hne] at hgrep₁
    rw [loadGrep_of_get? (hset₂ (by decide) hset) hne] at hgrep₂
    exact Except.ok.inj (hgrep₁.symm.trans hgrep₂)
  case scanTimeout =>
    rintro ⟨text, hset⟩
    exact eq_of_settingText hset (hset₂ (by decide) hset) htimeout₁ htimeout₂
  case maxOutput =>
    rintro ⟨text, hset⟩
    exact eq_of_settingText hset (hset₂ (by decide) hset) houtput₁ houtput₂
  case port =>
    rw [hagree _ (by decide), hport₂] at hport₁
    exact (Except.ok.inj hport₁).symm

section Override

variable {paths : String} (hagree : e₁.AgreeBut "ODOO_ADDONS_PATH" e₂)

include hagree

theorem ofSettings_override_congr (s : Settings) :
    ofSettings e₁ (some paths) s = ofSettings e₂ (some paths) s := by
  have hroots : loadRoots e₁ (some paths) s = loadRoots e₂ (some paths) s :=
    loadRoots_congr (hagree.homes (by decide)) (.inl (by simp))
  have hgrep : loadGrep e₁ s = loadGrep e₂ s := by
    rw [loadGrep, hagree.given? (by decide), loadGrep]
  have htext : ∀ {key : String} (name usual : String), key ≠ "ODOO_ADDONS_PATH" →
      settingText e₁ key s name usual = settingText e₂ key s name usual := fun name usual hkey => by
    rw [settingText, hagree _ hkey, settingText]
  rw [ofSettings, hroots, hgrep, htext _ _ (by decide), htext _ _ (by decide),
    hagree _ (by decide), ofSettings]

theorem loadSettings_congr (t : FileTree) : loadSettings t e₁ = loadSettings t e₂ := by
  have hpath : ∀ path, settingsPath e₁ path = settingsPath e₂ path := fun path => by
    unfold settingsPath Environment.expandHome
    rw [hagree.homes (by decide)]
  have hfile : e₁.given? "ODOO_MCP_CONFIG" = e₂.given? "ODOO_MCP_CONFIG" :=
    hagree.given? (by decide)
  simp only [loadSettings, hfile, hpath]

end Override

/-- What stands above hides what is below. Two settings files make no difference to what comes from
an override or from a variable, and the variable of the roots makes none at all if there is an
override. -/
theorem higher_source_hides :
    (∀ t₁ t₂ e₁ e₂ override c₁ c₂, Environment.AgreeBut "ODOO_MCP_CONFIG" e₁ e₂ →
      (load t₁ e₁ override).1 = .ok c₁ → (load t₂ e₂ override).1 = .ok c₂ →
        AgreeAbove e₁ override c₁ c₂) ∧
    ∀ t e₁ e₂ paths, Environment.AgreeBut "ODOO_ADDONS_PATH" e₁ e₂ →
      load t e₁ (some paths) = load t e₂ (some paths) := by
  constructor
  · intro t₁ t₂ e₁ e₂ override c₁ c₂ hagree h₁ h₂
    obtain ⟨s₁, -, hc₁⟩ := load_eq_ok.1 h₁
    obtain ⟨s₂, -, hc₂⟩ := load_eq_ok.1 h₂
    exact agreeAbove_of_ofSettings hagree hc₁ hc₂
  · intro t e₁ e₂ paths hagree
    have hsettings : ofSettings e₁ (some paths) = ofSettings e₂ (some paths) :=
      funext (ofSettings_override_congr hagree)
    rw [load, loadSettings_congr hagree t, hsettings, load]

/-- A settings file that has something to say. -/
def crowdedFile : Bytes :=
  Bytes.ofString "{grep: awk, addons_path: [x], scan_timeout: 9}"

theorem higher_source_hides_crowded :
    let e₁ : Environment := ⟨[("ODOO_MCP_CONFIG", "s"), ("ODOO_ADDONS_PATH", "a,b"),
      ("ODOO_GREP", "zgrep"), ("ODOO_SCAN_TIMEOUT", "0")]⟩
    let e₂ : Environment := ⟨[("ODOO_ADDONS_PATH", "a,b"), ("ODOO_GREP", "zgrep"),
      ("ODOO_SCAN_TIMEOUT", "0")]⟩
    ∃ c₁ c₂, (load ⟨[(["s"], .file crowdedFile false)], []⟩ e₁ none).1 = .ok c₁ ∧
      (load ⟨[], []⟩ e₂ none).1 = .ok c₂ ∧
      AgreeAbove e₁ none c₁ c₂ ∧ c₁.roots = c₂.roots ∧ c₁.grep = c₂.grep ∧
      c₁.scanTimeout = c₂.scanTimeout ∧
      load ⟨[], []⟩ e₂ (some "c") = load ⟨[], []⟩ (e₂.set "ODOO_ADDONS_PATH" "d") (some "c") := by
  intro e₁ e₂
  have hfound : FileTree.resolve ⟨[(["s"], .file crowdedFile false)], []⟩ "s" =
      .ok (["s"], .file crowdedFile false) :=
    FileTree.resolve_name (by decide) (by simp [FileTree.find?, System.root])
      fun target h => by cases h
  have hgiven : e₁.given? "ODOO_MCP_CONFIG" = some "s" := by decide
  have hpath : settingsPath e₁ "s" = .ok "s" := by rfl
  have hload₁ : (load ⟨[(["s"], .file crowdedFile false)], []⟩ e₁ none).1 =
      .ok ⟨["a", "b"], "zgrep", none, 200000000, 8080⟩ := by
    simp only [load, loadSettings, hgiven, hpath, Settings.read, hfound]
    decide +kernel
  have hload₂ : (load ⟨[], []⟩ e₂ none).1 = .ok ⟨["a", "b"], "zgrep", none, 200000000, 8080⟩ := by
    decide +kernel
  have hagree : Environment.AgreeBut "ODOO_MCP_CONFIG" e₁ e₂ := fun other hother => by
    simp [e₁, e₂, Environment.get?, hother.symm]
  have hroots : Environment.AgreeBut "ODOO_ADDONS_PATH" e₂ (e₂.set "ODOO_ADDONS_PATH" "d") :=
    fun other hother => by simp [e₂, Environment.set, Environment.get?, hother.symm]
  obtain ⟨hfiles, hoverride⟩ := higher_source_hides
  have habove := hfiles _ _ _ _ _ _ _ hagree hload₁ hload₂
  exact ⟨_, _, hload₁, hload₂, habove, habove.roots (.inr ⟨"a,b", rfl, by decide⟩),
    habove.grep ⟨"zgrep", rfl, by decide⟩, habove.scanTimeout ⟨"0", rfl⟩,
    hoverride _ _ _ _ hroots⟩

end Config

end AddonAtlas
