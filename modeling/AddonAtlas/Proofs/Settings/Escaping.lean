import AddonAtlas.Settings.Config

/-!
# Failures of a configuration that are about no value

Whoever loads a configuration expects failures about values, and no others (`Failure.Kind.isValue`).
What the checks of the settings refuse is all of this kind. The others come from below the checks :
from the path of the settings file, from the values that its text makes, and from the texts of these
values (`Config.FileEscape`, `Config.SettingEscape`). A configuration fails in this way for these
reasons and no others (`Config.load_eq_error`).
-/

namespace AddonAtlas

open AddonAtlas.Text

/-! ## Failures in a sequence of steps -/

section Steps

variable {α β : Type} {f : Failure}

theorem bind_eq_error {x : Except Failure α} {g : α → Except Failure β} :
    x >>= g = .error f ↔ x = .error f ∨ ∃ a, x = .ok a ∧ g a = .error f := by
  cases x with
  | error failure => simp [bind, Except.bind]
  | ok a => simp [bind, Except.bind]

theorem bind_eq_ok {x : Except Failure α} {g : α → Except Failure β} {b : β} :
    x >>= g = .ok b ↔ ∃ a, x = .ok a ∧ g a = .ok b := by
  cases x with
  | error failure => simp [bind, Except.bind]
  | ok a => simp [bind, Except.bind]

/-- Steps over a list fail as the first of them does that fails. -/
theorem mapM_eq_error {g : α → Except Failure β} {l : List α} :
    l.mapM g = .error f ↔ ∃ before x after, l = before ++ x :: after ∧
      (∀ y ∈ before, ∃ z, g y = .ok z) ∧ g x = .error f := by
  induction l with
  | nil => simp [pure, Except.pure]
  | cons x l ih =>
    rw [List.mapM_cons, bind_eq_error]
    constructor
    · rintro (h | ⟨z, hz, h⟩)
      · exact ⟨[], x, l, rfl, by simp, h⟩
      · rcases bind_eq_error.1 h with h | ⟨zs, -, h⟩
        · obtain ⟨before, y, after, rfl, hbefore, hy⟩ := ih.1 h
          exact ⟨x :: before, y, after, rfl, List.forall_mem_cons.2 ⟨⟨z, hz⟩, hbefore⟩, hy⟩
        · cases h
    · rintro ⟨before, y, after, hl, hbefore, hy⟩
      cases before with
      | nil =>
        cases hl
        exact .inl hy
      | cons x' before =>
        cases hl
        obtain ⟨⟨z, hz⟩, hbefore⟩ := List.forall_mem_cons.1 hbefore
        exact .inr ⟨z, hz, bind_eq_error.2 (.inl (ih.2 ⟨before, y, after, rfl, hbefore, hy⟩))⟩

end Steps

/-! ## Steps that fail about values only -/

theorem Environment.isValue_of_expandHome {e : Environment} {path : String} {f : Failure}
    (h : e.expandHome path = .error f) : f.kind.isValue = true := by
  unfold expandHome Homes.expand at h
  split at h
  · simp only at h
    split at h
    · cases h
      rfl
    · split at h <;> cases h
  · cases h

theorem isValue_of_rootsOfEntries {e : Environment} {entries : List String} {f : Failure}
    (h : rootsOfEntries e entries = .error f) : f.kind.isValue = true := by
  obtain ⟨-, path, -, -, -, hpath⟩ := mapM_eq_error.1 h
  exact e.isValue_of_expandHome hpath

namespace Config

variable {text : String} {f : Failure}

theorem isValue_of_readTimeout (h : readTimeout text = .error f) : f.kind.isValue = true := by
  unfold readTimeout at h
  split at h
  · cases h
    rfl
  · split at h <;> cases h
    rfl

theorem isValue_of_readMaxOutput (h : readMaxOutput text = .error f) : f.kind.isValue = true := by
  unfold readMaxOutput at h
  split at h
  · cases h
    rfl
  · split at h <;> cases h
    rfl

theorem isValue_of_readPort (h : readPort text = .error f) : f.kind.isValue = true := by
  unfold readPort at h
  split at h
  · cases h
    rfl
  · split at h <;> cases h
    rfl

end Config

/-! ## Values without a text -/

namespace Value

/-- The failure of a value that is nested too deep to have a text. -/
def tooDeep : Failure := .tooDeep " while getting the repr of an object"

/-- A value has no text for a reason that is not about a value only if it is nested too deep. -/
theorem asText_eq_error {v : Value} {within : Collections} {f : Failure}
    (hf : f.kind.isValue = false) :
    v.asText within = .error f ↔ v.isShallow within = false ∧ f = tooDeep := by
  have hlong : tooLong ≠ f := fun h => by simp [← h, tooLong, Failure.Kind.isValue] at hf
  have nested : (if !v.isShallow within then .error tooDeep
      else if v.isWritable within then .ok (v.shown within) else .error tooLong) =
        (.error f : Except Failure String) ↔ v.isShallow within = false ∧ f = tooDeep := by
    cases v.isShallow within with
    | false => simp [eq_comm]
    | true => cases v.isWritable within <;> simp [hlong]
  have flat : v.isShallow within = true → (v.isShallow within = false ∧ f = tooDeep ↔ False) :=
    fun h => by simp [h]
  cases v with
  | text s => simp [asText, flat rfl]
  | date d => simp [asText, flat rfl]
  | moment t => simp [asText, flat rfl]
  | _ => exact nested

end Value

/-- The failure of roots that are neither a text nor a collection. -/
def Value.notIterable (v : Value) (within : Collections) : Failure :=
  ⟨.type, "'" ++ v.typeName within ++ "' object is not iterable"⟩

/-- The first of several values that has no text is nested too deep. -/
def Value.FirstTooDeep (members : List Value) (within : Collections) : Prop :=
  ∃ before m after, members = before ++ m :: after ∧
    (∀ x ∈ before, ∃ s, x.asText within = .ok s) ∧ m.isShallow within = false

/-- The roots of a value with members, if it is not a text. -/
theorem rootsOfValue_of_members {homes : Homes} {v : Value} {within : Collections}
    {members : List Value} (hgiven : v.isGiven within = true) (htext : ∀ s, v ≠ .text s)
    (hmembers : v.members? within = some members) :
    rootsOfValue homes v within =
      (members.mapM fun (m : Value) => m.asText within).bind (rootsOfEntries homes) := by
  cases v with
  | text s => exact absurd rfl (htext s)
  | _ => simp [rootsOfValue, hgiven, hmembers]

section Roots

variable {e : Environment} {within : Collections} {f : Failure} (hf : f.kind.isValue = false)

include hf

theorem rootsOfEntries_ne_error (entries : List String) : rootsOfEntries e entries ≠ .error f :=
  fun h => by simp [isValue_of_rootsOfEntries h] at hf

theorem rootsOfMembers_eq_error (members : List Value) :
    (members.mapM fun (m : Value) => m.asText within).bind (rootsOfEntries e) = .error f ↔
      Value.FirstTooDeep members within ∧ f = Value.tooDeep := by
  have hbind : (members.mapM fun (m : Value) => m.asText within).bind (rootsOfEntries e) =
      (members.mapM fun (m : Value) => m.asText within) >>= rootsOfEntries e := rfl
  rw [hbind, bind_eq_error, mapM_eq_error]
  simp only [Value.asText_eq_error hf, rootsOfEntries_ne_error hf, and_false, exists_false,
    or_false]
  constructor
  · rintro ⟨before, m, after, hmembers, hbefore, hdeep, rfl⟩
    exact ⟨⟨before, m, after, hmembers, hbefore, hdeep⟩, rfl⟩
  · rintro ⟨⟨before, m, after, hmembers, hbefore, hdeep⟩, rfl⟩
    exact ⟨before, m, after, hmembers, hbefore, hdeep, rfl⟩

theorem rootsOfValue_eq_error (v : Value) :
    rootsOfValue e v within = .error f ↔ v.isGiven within = true ∧ (∀ s, v ≠ .text s) ∧
      (v.members? within = none ∧ f = v.notIterable within ∨
        ∃ members, v.members? within = some members ∧ Value.FirstTooDeep members within ∧
          f = Value.tooDeep) := by
  cases hgiven : v.isGiven within with
  | false => simp [rootsOfValue, hgiven]
  | true =>
    by_cases htext : ∃ s, v = .text s
    · obtain ⟨s, rfl⟩ := htext
      simp [rootsOfValue, hgiven, rootsOfText, rootsOfEntries_ne_error hf]
    · have hne : ∀ s, v ≠ .text s := fun s hs => htext ⟨s, hs⟩
      cases hmembers : v.members? within with
      | none =>
        have hroots : rootsOfValue e v within = .error (v.notIterable within) := by
          cases v with
          | text s => exact absurd rfl (hne s)
          | _ => simp [rootsOfValue, hgiven, hmembers, Value.notIterable]
        simp [hroots, hne, eq_comm]
      | some members =>
        rw [rootsOfValue_of_members hgiven hne hmembers, rootsOfMembers_eq_error hf]
        simp [hne]

end Roots

namespace Config

/-! ## Settings -/

/-- The failures of settings that are about no value : roots that are neither a text nor a
collection, and a setting that is read as a text and nested too deep, where nothing was refused
before it. -/
inductive SettingEscape (e : Environment) (override : Option String) (s : Settings) : Failure → Prop
  | roots {v : Value} (unset : override = none) (unnamed : e.given? "ODOO_ADDONS_PATH" = none)
      (setting : s.get? "addons_path" = some v) (given : v.isGiven s.collections = true)
      (nothing : v.members? s.collections = none) :
      SettingEscape e override s (v.notIterable s.collections)
  | deepRoots {v : Value} {members : List Value} (unset : override = none)
      (unnamed : e.given? "ODOO_ADDONS_PATH" = none) (setting : s.get? "addons_path" = some v)
      (given : v.isGiven s.collections = true) (nontext : ∀ x, v ≠ .text x)
      (some : v.members? s.collections = some members)
      (deep : Value.FirstTooDeep members s.collections) : SettingEscape e override s Value.tooDeep
  | deepGrep {roots : List String} {v : Value} (loaded : loadRoots e override s = .ok roots)
      (unnamed : e.given? "ODOO_GREP" = none) (setting : s.get? "grep" = some v)
      (given : v.isGiven s.collections = true) (deep : v.isShallow s.collections = false) :
      SettingEscape e override s Value.tooDeep
  | deepTimeout {roots : List String} {grep : String} {v : Value}
      (loaded : loadRoots e override s = .ok roots) (named : loadGrep e s = .ok grep)
      (setting : s.get? "scan_timeout" = some v) (deep : v.isShallow s.collections = false) :
      SettingEscape e override s Value.tooDeep
  | deepOutput {roots : List String} {grep text : String} {timeout : Option Seconds} {v : Value}
      (loaded : loadRoots e override s = .ok roots) (named : loadGrep e s = .ok grep)
      (written : settingText e "ODOO_SCAN_TIMEOUT" s "scan_timeout" "0" = .ok text)
      (limited : readTimeout text = .ok timeout) (setting : s.get? "max_output" = some v)
      (deep : v.isShallow s.collections = false) : SettingEscape e override s Value.tooDeep

section Settings

variable {e : Environment} {override : Option String} {s : Settings} {f : Failure}
  (hf : f.kind.isValue = false)

include hf

theorem loadRoots_eq_error : loadRoots e override s = .error f ↔
    override = none ∧ e.given? "ODOO_ADDONS_PATH" = none ∧
      ∃ v, s.get? "addons_path" = some v ∧ rootsOfValue e v s.collections = .error f := by
  cases override with
  | some paths => simp [loadRoots, rootsOfText, rootsOfEntries_ne_error hf]
  | none =>
    cases hgiven : e.given? "ODOO_ADDONS_PATH" with
    | some paths => simp [loadRoots, hgiven, rootsOfText, rootsOfEntries_ne_error hf]
    | none =>
      cases hv : s.get? "addons_path" with
      | none => simp [loadRoots, hgiven, hv, rootsOfValue, Value.isGiven, Value.resolve]
      | some v => simp [loadRoots, hgiven, hv]

theorem loadGrep_eq_error : loadGrep e s = .error f ↔
    e.given? "ODOO_GREP" = none ∧ ∃ v, s.get? "grep" = some v ∧ v.isGiven s.collections = true ∧
      v.isShallow s.collections = false ∧ f = Value.tooDeep := by
  cases hgiven : e.given? "ODOO_GREP" with
  | some name => simp [loadGrep, hgiven]
  | none =>
    cases hv : s.get? "grep" with
    | none => simp [loadGrep, hgiven, hv]
    | some v =>
      cases hset : v.isGiven s.collections with
      | false => simp [loadGrep, hgiven, hv, hset]
      | true => simp [loadGrep, hgiven, hv, hset, Value.asText_eq_error hf]

theorem settingText_eq_error {key name usual : String} :
    settingText e key s name usual = .error f ↔
      ∃ v, s.get? name = some v ∧ v.isShallow s.collections = false ∧ f = Value.tooDeep := by
  cases hv : s.get? name with
  | none => simp [settingText, hv, Except.map]
  | some v =>
    simp only [settingText, hv, Option.some.injEq, exists_eq_left', ← Value.asText_eq_error hf]
    cases v.asText s.collections <;> simp [Except.map]

/-- Settings fail about no value exactly by the failures listed. -/
theorem ofSettings_eq_error :
    ofSettings e override s = .error f ↔ SettingEscape e override s f := by
  have htimeout : ∀ text, readTimeout text ≠ .error f := fun text h => by
    simp [isValue_of_readTimeout h] at hf
  have houtput : ∀ text, readMaxOutput text ≠ .error f := fun text h => by
    simp [isValue_of_readMaxOutput h] at hf
  have hport : ∀ text, readPort text ≠ .error f := fun text h => by
    simp [isValue_of_readPort h] at hf
  simp only [ofSettings, bind_eq_error, loadRoots_eq_error hf, loadGrep_eq_error hf,
    settingText_eq_error hf, rootsOfValue_eq_error hf, htimeout, houtput, hport, pure, Except.pure,
    reduceCtorEq, and_false, exists_false, or_false, false_or]
  constructor
  · rintro (⟨unset, unnamed, v, setting, given, nontext, hroots⟩ | ⟨roots, loaded, h⟩)
    · obtain ⟨nothing, rfl⟩ | ⟨members, some, deep, rfl⟩ := hroots
      · exact .roots unset unnamed setting given nothing
      · exact .deepRoots unset unnamed setting given nontext some deep
    · obtain ⟨unnamed, v, setting, given, deep, rfl⟩ | ⟨grep, named, h⟩ := h
      · exact .deepGrep loaded unnamed setting given deep
      · obtain ⟨v, setting, deep, rfl⟩ |
          ⟨text, written, timeout, limited, v, setting, deep, rfl⟩ := h
        · exact .deepTimeout loaded named setting deep
        · exact .deepOutput loaded named written limited setting deep
  · intro h
    cases h with
    | @roots v unset unnamed setting given nothing =>
      have nontext : ∀ x, v ≠ .text x := fun x hx => by
        rw [hx] at nothing
        cases nothing
      exact .inl ⟨unset, unnamed, v, setting, given, nontext, .inl ⟨nothing, rfl⟩⟩
    | deepRoots unset unnamed setting given nontext some deep =>
      exact .inl ⟨unset, unnamed, _, setting, given, nontext, .inr ⟨_, some, deep, rfl⟩⟩
    | deepGrep loaded unnamed setting given deep =>
      exact .inr ⟨_, loaded, .inl ⟨unnamed, _, setting, given, deep, rfl⟩⟩
    | deepTimeout loaded named setting deep =>
      exact .inr ⟨_, loaded, .inr ⟨_, named, .inl ⟨_, setting, deep, rfl⟩⟩⟩
    | deepOutput loaded named written limited setting deep =>
      exact .inr ⟨_, loaded, .inr ⟨_, named, .inr ⟨_, written, _, limited, _, setting, deep, rfl⟩⟩⟩

end Settings

/-- What a configuration is made of. -/
theorem ofSettings_eq_ok {e : Environment} {override : Option String} {s : Settings} {c : Config} :
    ofSettings e override s = .ok c ↔ loadRoots e override s = .ok c.roots ∧
      loadGrep e s = .ok c.grep ∧
      (∃ text, settingText e "ODOO_SCAN_TIMEOUT" s "scan_timeout" "0" = .ok text ∧
        readTimeout text = .ok c.scanTimeout) ∧
      (∃ text, settingText e "ODOO_MAX_OUTPUT" s "max_output" (toString defaultBudget) = .ok text ∧
        readMaxOutput text = .ok c.maxOutput) ∧
      readPort ((e.get? "ODOO_MCP_PORT").getD defaultPort) = .ok c.port := by
  simp only [ofSettings, bind_eq_ok, pure, Except.pure, Except.ok.injEq]
  constructor
  · rintro ⟨roots, hroots, grep, hgrep, text, htext, timeout, htimeout, text', htext', output,
      houtput, port, hport, rfl⟩
    exact ⟨hroots, hgrep, ⟨text, htext, htimeout⟩, ⟨text', htext', houtput⟩, hport⟩
  · rintro ⟨hroots, hgrep, ⟨text, htext, htimeout⟩, ⟨text', htext', houtput⟩, hport⟩
    exact ⟨_, hroots, _, hgrep, text, htext, _, htimeout, text', htext', _, houtput, _, hport, rfl⟩

/-- A configuration is made of the settings that are read. -/
theorem load_eq_ok {t : FileTree} {e : Environment} {override : Option String} {c : Config} :
    (load t e override).1 = .ok c ↔
      ∃ s, (loadSettings t e).1 = .ok s ∧ ofSettings e override s = .ok c := by
  have hbind : (load t e override).1 = (loadSettings t e).1 >>= ofSettings e override := rfl
  rw [hbind, bind_eq_ok]

/-! ## The settings file -/

/-- The failures in reading the settings file that are about no value : a home directory that is not
known, a path that is too long or stands for no file, and a text from which no values can
be made. -/
inductive FileEscape (t : FileTree) (e : Environment) : Failure → Prop
  | home {path : String} (named : e.given? "ODOO_MCP_CONFIG" = some path) {f : Failure}
      (unknown : settingsPath e path = .error f) (kind : f.kind.isValue = false) : FileEscape t e f
  | tooLong {path normal : String} (named : e.given? "ODOO_MCP_CONFIG" = some path)
      (known : settingsPath e path = .ok normal) (found : t.resolve normal = .error .nameTooLong) :
      FileEscape t e (pathFailure .nameTooLong normal)
  | directory {path normal : String} {place : Location} {entry : Entry}
      (named : e.given? "ODOO_MCP_CONFIG" = some path) (known : settingsPath e path = .ok normal)
      (found : t.resolve normal = .ok (place, entry))
      (nofile : ∀ content executable, entry ≠ .file content executable) :
      FileEscape t e (pathFailure .isDirectory normal)
  | value {path normal : String} {place : Location} {content : Bytes} {executable : Bool}
      {chars : List Char} {f : Failure} (named : e.given? "ODOO_MCP_CONFIG" = some path)
      (known : settingsPath e path = .ok normal)
      (found : t.resolve normal = .ok (place, .file content executable))
      (text : Utf8.decode? content.toList = .ok chars)
      (unmade : Yaml.load (unifyLines chars) = .error (.value f)) (kind : f.kind.isValue = false) :
      FileEscape t e f

section File

variable {t : FileTree} {e : Environment} {f : Failure} (hf : f.kind.isValue = false)

include hf

theorem ofBytes_eq_error {path : String} {content : Bytes} :
    Settings.ofBytes path content = .error f ↔ ∃ chars, Utf8.decode? content.toList = .ok chars ∧
      Yaml.load (unifyLines chars) = .error (.value f) := by
  have hdecoding : ∀ message, (⟨.decoding, message⟩ : Failure) ≠ f := fun message h => by
    simp [← h, Failure.Kind.isValue] at hf
  have hvalue : ∀ message, (⟨.value, message⟩ : Failure) ≠ f := fun message h => by
    simp [← h, Failure.Kind.isValue] at hf
  cases htext : Utf8.decode? content.toList with
  | error e => simp [Settings.ofBytes, htext, hdecoding]
  | ok chars =>
    simp only [Settings.ofBytes, htext, Except.ok.injEq, exists_eq_left']
    cases hload : Yaml.load (unifyLines chars) with
    | error fault =>
      cases fault with
      | malformed => simp [hvalue]
      | value failure => simp
    | ok made =>
      obtain ⟨v, collections⟩ := made
      cases hentries : v.entries? collections with
      | none => cases v <;> simp [hentries, hvalue]
      | some entries => cases v <;> simp [hentries]

theorem read_eq_error {path : String} : (Settings.read t path).1 = .error f ↔
    t.resolve path = .error .nameTooLong ∧ f = pathFailure .nameTooLong path ∨
      ∃ found, t.resolve path = .ok found ∧
        ((∀ content executable, found.2 ≠ .file content executable) ∧
            f = pathFailure .isDirectory path ∨
          ∃ content executable chars, found.2 = .file content executable ∧
            Utf8.decode? content.toList = .ok chars ∧
              Yaml.load (unifyLines chars) = .error (.value f)) := by
  cases hfound : t.resolve path with
  | error reason => cases reason <;> simp [Settings.read, hfound, eq_comm]
  | ok found =>
    obtain ⟨place, entry⟩ := found
    cases entry with
    | file content executable =>
      simp only [Settings.read, hfound, ofBytes_eq_error hf, Except.ok.injEq, exists_eq_left']
      simp
    | _ => simp [Settings.read, hfound, eq_comm]

/-- Reading the settings file fails about no value exactly by the failures listed. -/
theorem loadSettings_eq_error : (loadSettings t e).1 = .error f ↔ FileEscape t e f := by
  constructor
  · intro h
    unfold loadSettings at h
    split at h
    · cases h
    · next path named =>
      split at h
      · next failure unknown =>
        cases h
        exact .home named unknown hf
      · next normal known =>
        obtain ⟨found, rfl⟩ | ⟨⟨place, entry⟩, found, h⟩ := (read_eq_error hf).1 h
        · exact .tooLong named known found
        · obtain ⟨nofile, rfl⟩ | ⟨content, executable, chars, rfl, text, unmade⟩ := h
          · exact .directory named known found nofile
          · exact .value named known found text unmade hf
  · intro h
    cases h with
    | home named unknown kind => simp [loadSettings, named, unknown]
    | tooLong named known found =>
      simp only [loadSettings, named, known]
      exact (read_eq_error hf).2 (.inl ⟨found, rfl⟩)
    | directory named known found nofile =>
      simp only [loadSettings, named, known]
      exact (read_eq_error hf).2 (.inr ⟨_, found, .inl ⟨nofile, rfl⟩⟩)
    | value named known found text unmade kind =>
      simp only [loadSettings, named, known]
      exact (read_eq_error hf).2 (.inr ⟨_, found, .inr ⟨_, _, _, rfl, text, unmade⟩⟩)

end File

theorem SettingEscape.isValue_eq_false {e : Environment} {override : Option String} {s : Settings}
    {f : Failure} (h : SettingEscape e override s f) : f.kind.isValue = false := by
  cases h <;> rfl

theorem FileEscape.isValue_eq_false {t : FileTree} {e : Environment} {f : Failure}
    (h : FileEscape t e f) : f.kind.isValue = false := by
  cases h with
  | home named unknown kind => exact kind
  | value named known found text unmade kind => exact kind
  | _ => rfl

/-- A configuration fails about no value exactly by the failures listed. -/
theorem load_eq_error {t : FileTree} {e : Environment} {override : Option String} {f : Failure} :
    (load t e override).1 = .error f ∧ f.kind.isValue = false ↔ FileEscape t e f ∨
      ∃ s, (loadSettings t e).1 = .ok s ∧ SettingEscape e override s f := by
  have hload : f.kind.isValue = false → ((load t e override).1 = .error f ↔ FileEscape t e f ∨
      ∃ s, (loadSettings t e).1 = .ok s ∧ SettingEscape e override s f) := fun hf => by
    have hbind : (load t e override).1 = (loadSettings t e).1 >>= ofSettings e override := rfl
    rw [hbind, bind_eq_error, loadSettings_eq_error hf]
    simp only [ofSettings_eq_error hf]
  constructor
  · exact fun ⟨h, hf⟩ => (hload hf).1 h
  · intro h
    have hf : f.kind.isValue = false := by
      rcases h with h | ⟨s, -, h⟩
      · exact h.isValue_eq_false
      · exact h.isValue_eq_false
    exact ⟨(hload hf).2 h, hf⟩

end Config

end AddonAtlas
