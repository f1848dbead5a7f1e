import AddonAtlas.Proofs.Settings.Escaping
import AddonAtlas.Proofs.Text.Ending
import AddonAtlas.Proofs.Value
import Mathlib.Data.List.Forall2

/-!
# Roots and the entries they are made of

Roots are given by entries, in one text with commas or in a list, and it does not matter in which
(`rootsOfValue_of_gives`). Each entry that is not blank makes one root, in order
(`rootsOfEntries_eq_ok`). A home directory may be any text, and still no root is empty ; if it is an
absolute path, the roots are their own roots again (`rootsOfEntries_of_roots`).
-/

namespace AddonAtlas

open AddonAtlas.Text

/-- Steps over a list make something of each of its members, in order. -/
theorem mapM_eq_ok {α β : Type} {g : α → Except Failure β} {l : List α} {l' : List β} :
    l.mapM g = .ok l' ↔ List.Forall₂ (fun x y => g x = .ok y) l l' := by
  induction l generalizing l' with
  | nil => simp [pure, Except.pure, eq_comm]
  | cons x l ih =>
    simp only [List.mapM_cons, bind_eq_ok, List.forall₂_cons_left_iff, ih, pure, Except.pure,
      Except.ok.injEq]
    constructor
    · rintro ⟨y, hy, ys, hys, rfl⟩
      exact ⟨y, ys, hy, hys, rfl⟩
    · rintro ⟨y, ys, hy, hys, rfl⟩
      exact ⟨y, hy, ys, hys, rfl⟩

/-- Steps over a list make something if each of them does. -/
theorem exists_mapM_eq_ok {α β : Type} {g : α → Except Failure β} {l : List α} :
    (∃ l', l.mapM g = .ok l') ↔ ∀ x ∈ l, ∃ y, g x = .ok y := by
  simp only [mapM_eq_ok]
  induction l with
  | nil => simp
  | cons x l ih =>
    simp only [List.forall₂_cons_left_iff, List.forall_mem_cons, ← ih]
    constructor
    · rintro ⟨_, y, ys, hy, hys, -⟩
      exact ⟨⟨y, hy⟩, ys, hys⟩
    · rintro ⟨⟨y, hy⟩, ys, hys⟩
      exact ⟨y :: ys, y, ys, hy, hys, rfl⟩

theorem forall_mem_of_forall₂ {α β : Type} {R : α → β → Prop} {P : β → Prop} {l : List α}
    {l' : List β} (h : List.Forall₂ R l l') (hR : ∀ x ∈ l, ∀ y, R x y → P y) : ∀ y ∈ l', P y := by
  induction h with
  | nil => exact List.forall_mem_nil P
  | cons hxy _ ih =>
    obtain ⟨hx, hl⟩ := List.forall_mem_cons.1 hR
    exact List.forall_mem_cons.2 ⟨hx _ hxy, ih hl⟩

/-! ## Entries -/

/-- Nothing but white space. -/
def IsBlank (s : String) : Prop :=
  ∀ c ∈ s.toList, isSpace c = true

instance : DecidablePred IsBlank := fun s => List.decidableBAll _ s.toList

/-- The second entries are the first, with white space around them and blank ones between them. -/
inductive Padded : List String → List String → Prop
  | nil : Padded [] []
  | blank {xs ys : List String} {b : String} (hb : IsBlank b) (rest : Padded xs ys) :
      Padded xs (b :: ys)
  | entry {xs ys : List String} {before x after : String} (hbefore : IsBlank before)
      (hafter : IsBlank after) (rest : Padded xs ys) :
      Padded (x :: xs) ((before ++ (x ++ after)) :: ys)

/-- A value gives entries in one text, with commas between them, or as a list. -/
inductive Value.Gives (within : Collections) (xs : List String) : Value → Prop
  | text : Gives within xs (.text (",".intercalate xs))
  | list {v : Value} (h : v.resolve within = .list (xs.map .text)) : Gives within xs v

theorem strip_eq_empty {s : String} : strip s = "" ↔ IsBlank s := by
  rw [strip, ← String.toList_eq_nil_iff, String.toList_ofList]
  constructor
  · intro h c hc
    obtain ⟨before, after, hs, hbefore, hafter⟩ := exists_eq_append_trim isSpace s.toList
    rw [hs, h, List.nil_append, List.mem_append] at hc
    exact hc.elim (hbefore c) (hafter c)
  · intro h
    have hends := trim_append_of_pos h [] (List.forall_mem_nil (isSpace · = true))
    rwa [List.append_nil, List.append_nil] at hends

theorem strip_eq_self {s : String} (hhead : ∀ c ∈ s.toList.head?, isSpace c = false)
    (hlast : ∀ c ∈ s.toList.getLast?, isSpace c = false) : strip s = s := by
  rw [strip, trim_eq_self hhead hlast, String.ofList_toList]

theorem strip_strip (s : String) : strip (strip s) = strip s := by
  refine strip_eq_self ?_ ?_
  · rw [strip, String.toList_ofList]
    exact head?_trim s.toList
  · rw [strip, String.toList_ofList]
    exact getLast?_trim s.toList

theorem strip_append {before x after : String} (hbefore : IsBlank before) (hafter : IsBlank after) :
    strip (before ++ (x ++ after)) = strip x := by
  rw [strip, String.toList_append, String.toList_append, trim_append_of_pos hbefore _ hafter, strip]

theorem filter_map_strip (xs : List String) :
    (xs.map strip).filter (· ≠ "") = (xs.filter (¬ IsBlank ·)).map strip := by
  rw [List.filter_map]
  simp [Function.comp_def, strip_eq_empty]

theorem Padded.rootsOfEntries_eq {xs ys : List String} (h : Padded xs ys) (homes : Homes) :
    rootsOfEntries homes ys = rootsOfEntries homes xs := by
  have hkept : (ys.map strip).filter (· ≠ "") = (xs.map strip).filter (· ≠ "") := by
    induction h with
    | nil => rfl
    | blank hb rest ih => simpa [strip_eq_empty.2 hb] using ih
    | entry hbefore hafter rest ih =>
      simp only [List.map_cons, strip_append hbefore hafter, List.filter_cons]
      rw [ih]
  rw [rootsOfEntries, hkept, rootsOfEntries]

theorem IsBlank.comma_notMem {s : String} (h : IsBlank s) : ',' ∉ s.toList := fun hmem => by
  have := h _ hmem
  cases this

theorem Padded.comma_notMem {xs ys : List String} (h : Padded xs ys)
    (hxs : ∀ x ∈ xs, ',' ∉ x.toList) : ∀ y ∈ ys, ',' ∉ y.toList := by
  induction h with
  | nil => exact hxs
  | blank hb rest ih => exact List.forall_mem_cons.2 ⟨hb.comma_notMem, ih hxs⟩
  | entry hbefore hafter rest ih =>
    obtain ⟨hx, hxs⟩ := List.forall_mem_cons.1 hxs
    refine List.forall_mem_cons.2 ⟨?_, ih hxs⟩
    simp [hbefore.comma_notMem, hx, hafter.comma_notMem]

/-! ## The two forms -/

theorem commaEntries_intercalate {xs : List String} (hxs : ∀ x ∈ xs, ',' ∉ x.toList)
    (hne : xs ≠ []) : commaEntries (",".intercalate xs) = xs := by
  have hcomma : ",".toList = [','] := rfl
  rw [commaEntries, String.toList_intercalate, hcomma,
    List.splitOn_intercalate ',' (by simpa using hxs) (by simpa using hne), List.map_map]
  exact (List.map_congr_left fun s _ => String.ofList_toList).trans (List.map_id xs)

theorem rootsOfValue_text (homes : Homes) (s : String) (within : Collections) :
    rootsOfValue homes (.text s) within = rootsOfText homes s := by
  by_cases hs : s = ""
  · rw [hs]
    rfl
  · simp [rootsOfValue, Value.isGiven, Value.resolve, hs]

theorem mapM_asText (xs : List String) (within : Collections) :
    ((xs.map Value.text).mapM fun (m : Value) => m.asText within) = .ok xs := by
  rw [mapM_eq_ok, List.forall₂_map_left_iff]
  exact List.forall₂_same.2 fun x _ => rfl

theorem rootsOfValue_list {v : Value} {within : Collections} {xs : List String}
    (hv : v.resolve within = .list (xs.map .text)) (homes : Homes) :
    rootsOfValue homes v within = rootsOfEntries homes xs := by
  have hgiven : v.isGiven within = !xs.isEmpty := by
    rw [Value.isGiven, hv]
    simp
  cases xs with
  | nil =>
    unfold rootsOfValue
    rw [hgiven]
    rfl
  | cons x xs =>
    have htext : ∀ s, v ≠ .text s := by
      rintro s rfl
      cases hv
    have hmembers : v.members? within = some ((x :: xs).map .text) := by
      rw [Value.members?, hv]
    rw [rootsOfValue_of_members hgiven htext hmembers, mapM_asText, Except.bind]

/-- Roots do not depend on the form in which their entries are given. -/
theorem rootsOfValue_of_gives {within : Collections} {xs : List String} {v : Value}
    (hv : v.Gives within xs) (hxs : ∀ x ∈ xs, ',' ∉ x.toList) (homes : Homes) :
    rootsOfValue homes v within = rootsOfEntries homes xs := by
  cases hv with
  | text =>
    rw [rootsOfValue_text]
    by_cases hne : xs = []
    · rw [hne]
      rfl
    · rw [rootsOfText, commaEntries_intercalate hxs hne]
  | list hv => exact rootsOfValue_list hv homes

/-! ## Home directories -/

/-- A path names a user that there cannot be, by a name with a NUL. -/
def NamesNoUser (path : String) : Prop :=
  ∃ user after, path.toList = '~' :: (user ++ after) ∧ '/' ∉ user ∧ '\x00' ∈ user

/-- An absolute path without white space. -/
def IsAbsolutePath (path : String) : Prop :=
  path.toList.head? = some '/' ∧ ∀ c ∈ path.toList, isSpace c = false

instance : DecidablePred IsAbsolutePath := fun path =>
  @instDecidableAnd _ _ inferInstance (List.decidableBAll _ path.toList)

namespace Homes

variable {homes : Homes} {path root : String}

/-- The home directories that are known are absolute paths without white space. -/
def AreAbsolute (homes : Homes) : Prop :=
  ∀ user home, homes.home? user = some home → IsAbsolutePath home

/-- A home directory without the slashes at its end, and what follows it in a path. -/
def join (home : String) (after : List Char) : String :=
  let expanded := dropEndWhile (· == '/') home.toList ++ after
  if expanded.isEmpty then "/" else String.ofList expanded

/-- What a path may be expanded to : where no home directory is known, to itself. -/
inductive Expands (homes : Homes) (path : String) : Except Failure String → Prop
  | itself (h : ∀ rest, path.toList = '~' :: rest →
      homes.home? (String.ofList (rest.takeWhile (· != '/'))) = none) :
      Expands homes path (.ok path)
  | noUser (h : NamesNoUser path) : Expands homes path (.error ⟨.value, "embedded null byte"⟩)
  | home {user after : List Char} {home : String} (hpath : path.toList = '~' :: (user ++ after))
      (hafter : ∀ c ∈ after.head?, c = '/') (known : homes.home? (String.ofList user) = some home) :
      Expands homes path (.ok (join home after))

theorem expands (homes : Homes) (path : String) : homes.Expands path (homes.expand path) := by
  unfold expand
  split
  · next rest hpath =>
    have hsplit : rest.takeWhile (· != '/') ++ rest.dropWhile (· != '/') = rest :=
      List.takeWhile_append_dropWhile
    simp only
    split
    · next hnul =>
      refine .noUser ⟨_, _, hsplit.symm ▸ hpath, fun hslash => ?_, by simpa using hnul⟩
      simpa using List.mem_takeWhile_imp hslash
    · split
      · next unknown =>
        refine .itself fun rest' hrest' => ?_
        obtain rfl : rest = rest' := by simpa [hpath] using hrest'
        exact unknown
      · next home known =>
        refine .home (hsplit.symm ▸ hpath) (fun c hc => ?_) known
        have hstop := List.head?_dropWhile_not (· != '/') rest
        rw [hc] at hstop
        simpa using hstop
  · next hpath => exact .itself fun rest hrest => absurd hrest (hpath rest)

/-- Every path is expanded, except for one that names a user whom there cannot be. -/
theorem exists_expand_eq_ok : (∃ root, homes.expand path = .ok root) ↔ ¬NamesNoUser path := by
  constructor
  · rintro ⟨root, hroot⟩ ⟨user, after, hpath, hslash, hnul⟩
    have huser : ∀ c ∈ user, (c != '/') = true := fun c hc => by
      rw [bne_iff_ne]
      rintro rfl
      exact hslash hc
    have htake : '\x00' ∈ (user ++ after).takeWhile (· != '/') := by
      rw [List.takeWhile_append_of_pos huser]
      exact List.mem_append_left _ hnul
    simp [expand, hpath, htake] at hroot
  · intro hnamed
    generalize hresult : homes.expand path = result
    have hexpands := hresult ▸ homes.expands path
    cases hexpands with
    | itself => exact ⟨_, rfl⟩
    | noUser h => exact absurd h hnamed
    | home => exact ⟨_, rfl⟩

theorem join_ne_empty (home : String) (after : List Char) : join home after ≠ "" := by
  simp only [join]
  split
  · decide
  · next h => exact ofList_ne_empty (by simpa using h)

theorem expand_ne_empty (hpath : path ≠ "") (h : homes.expand path = .ok root) : root ≠ "" := by
  have hexpands := h ▸ homes.expands path
  cases hexpands with
  | itself => exact hpath
  | home => exact join_ne_empty _ _

/-- An absolute home directory makes an absolute path. It ends as what follows the home directory,
or not in white space. -/
theorem ends_of_join {home : String} {after : List Char} (hhome : IsAbsolutePath home)
    (hafter : ∀ c ∈ after.head?, c = '/') : (join home after).toList.head? = some '/' ∧
      ∀ c ∈ (join home after).toList.getLast?, c ∈ after.getLast? ∨ isSpace c = false := by
  obtain ⟨hhead, hspace⟩ := hhome
  simp only [join]
  split
  · have hslash : "/".toList = ['/'] := rfl
    rw [hslash]
    refine ⟨rfl, fun c hc => .inr ?_⟩
    obtain rfl : '/' = c := by simpa using hc
    decide
  · next hne =>
    rw [String.toList_ofList]
    constructor
    · cases hbare : dropEndWhile (· == '/') home.toList with
      | nil =>
        cases after with
        | nil => simp [hbare] at hne
        | cons c t => simpa using hafter c rfl
      | cons c bare =>
        rw [← dropEndWhile_append_reverse (· == '/') home.toList, hbare] at hhead
        simpa using hhead
    · intro c hc
      rw [List.getLast?_append, Option.mem_def, Option.or_eq_some_iff] at hc
      obtain hc | ⟨-, hc⟩ := hc
      · exact .inl hc
      · exact .inr (hspace c (mem_of_mem_dropEndWhile (List.mem_of_mem_getLast? hc)))

/-- What a path is expanded to is not expanded further. -/
theorem expand_expand (hhomes : homes.AreAbsolute) (hpath : strip path = path)
    (h : homes.expand path = .ok root) : strip root = root ∧ homes.expand root = .ok root := by
  have hexpands := h ▸ homes.expands path
  cases hexpands with
  | itself => exact ⟨hpath, h⟩
  | @home user after home hlist hafter known =>
    obtain ⟨hhead, hlast⟩ := ends_of_join (hhomes _ _ known) hafter
    have hend : ∀ c ∈ path.toList.getLast?, isSpace c = false := by
      rw [← hpath, strip, String.toList_ofList]
      exact getLast?_trim path.toList
    constructor
    · refine strip_eq_self (fun c hc => ?_) fun c hc => (hlast c hc).elim (fun hc => ?_) id
      · obtain rfl : '/' = c := by simpa [hhead] using hc
        decide
      · refine hend c ?_
        rw [hlist, ← List.cons_append, List.getLast?_append, Option.mem_def.1 hc]
        rfl
    · unfold expand
      split
      · next rest hrest => simp [hrest] at hhead
      · rfl

end Homes

/-- The home directory of the user who runs the program is in a variable, or else is the root's. -/
theorem Environment.areAbsolute_homes {e : Environment}
    (hhome : ∀ home, e.get? "HOME" = some home → IsAbsolutePath home) : e.homes.AreAbsolute := by
  intro user home h
  unfold homes home? at h
  simp only at h
  split at h
  · cases hget : e.get? "HOME" with
    | none =>
      rw [hget] at h
      cases h
      decide
    | some path =>
      rw [hget] at h
      cases h
      exact hhome path hget
  · obtain ⟨⟨name, path⟩, hfound, rfl⟩ := Option.map_eq_some_iff.1 h
    have hsystem : ∀ known ∈ systemHomes, IsAbsolutePath known.2 := by decide
    exact hsystem _ (List.mem_of_find?_eq_some hfound)

/-! ## Roots -/

section Entries

variable {homes : Homes} {xs roots : List String}

/-- Each entry that is not blank makes one root, in order. -/
theorem rootsOfEntries_eq_ok : rootsOfEntries homes xs = .ok roots ↔
    List.Forall₂ (fun x root => homes.expand (strip x) = .ok root) (xs.filter (¬IsBlank ·))
      roots := by
  rw [rootsOfEntries, filter_map_strip, mapM_eq_ok, List.forall₂_map_left_iff]

theorem exists_rootsOfEntries_eq_ok : (∃ roots, rootsOfEntries homes xs = .ok roots) ↔
    ∀ x ∈ xs, ¬NamesNoUser (strip x) := by
  rw [rootsOfEntries, filter_map_strip, exists_mapM_eq_ok, List.forall_mem_map]
  simp only [homes.exists_expand_eq_ok, List.mem_filter, decide_eq_true_eq, and_imp]
  refine forall₂_congr fun x _ => ⟨fun h hnamed => ?_, fun h _ => h⟩
  -- A blank entry is not expanded, and names nobody.
  refine h (fun hblank => ?_) hnamed
  rw [strip_eq_empty.2 hblank] at hnamed
  obtain ⟨user, after, hempty, -, -⟩ := hnamed
  cases hempty

theorem ne_empty_of_rootsOfEntries (h : rootsOfEntries homes xs = .ok roots) :
    ∀ root ∈ roots, root ≠ "" := by
  refine forall_mem_of_forall₂ (rootsOfEntries_eq_ok.1 h) fun x hx root hroot => ?_
  exact homes.expand_ne_empty (strip_eq_empty.not.2 (by simpa using (List.mem_filter.1 hx).2)) hroot

theorem ne_empty_of_rootsOfValue {v : Value} {within : Collections}
    (h : rootsOfValue homes v within = .ok roots) :
    ∀ root ∈ roots, root ≠ "" := by
  unfold rootsOfValue at h
  split at h
  · cases h
    exact List.forall_mem_nil _
  · split at h
    · exact ne_empty_of_rootsOfEntries h
    · split at h
      · obtain ⟨entries, -, hroots⟩ := bind_eq_ok.1 h
        exact ne_empty_of_rootsOfEntries hroots
      · cases h

/-- Roots are their own roots, if no home directory is amiss. -/
theorem rootsOfEntries_of_roots (hhomes : homes.AreAbsolute)
    (h : rootsOfEntries homes xs = .ok roots) : rootsOfEntries homes roots = .ok roots := by
  have hroots := forall_mem_of_forall₂ (rootsOfEntries_eq_ok.1 h) fun x _ root hroot =>
    homes.expand_expand hhomes (strip_strip x) hroot
  have hne := ne_empty_of_rootsOfEntries h
  have hkept : (roots.map strip).filter (· ≠ "") = roots := by
    rw [List.map_congr_left fun root hroot => (hroots root hroot).1, List.map_id',
      List.filter_eq_self]
    exact fun root hroot => by simpa using hne root hroot
  rw [rootsOfEntries, hkept, mapM_eq_ok, List.forall₂_same]
  exact fun root hroot => (hroots root hroot).2

end Entries

/-- The roots that entries give which have no comma in them. They depend neither on the form of the
entries nor on white space around and between them ; they can be told unless an entry names a user
that there cannot be ; each entry that is not blank makes one of them, in order, and none is empty. If
the home directories are absolute paths, the list of the roots gives the same roots again. -/
theorem roots_of_either_form (homes : Homes) {xs : List String} (hxs : ∀ x ∈ xs, ',' ∉ x.toList)
    {v : Value} {within : Collections} (hv : v.Gives within xs) :
    (∀ w within', Value.Gives within' xs w →
      rootsOfValue homes w within' = rootsOfValue homes v within) ∧
    (∀ ys w within', Padded xs ys → Value.Gives within' ys w →
      rootsOfValue homes w within' = rootsOfValue homes v within) ∧
    ((∃ roots, rootsOfValue homes v within = .ok roots) ↔ ∀ x ∈ xs, ¬NamesNoUser (strip x)) ∧
    ∀ roots, rootsOfValue homes v within = .ok roots →
      List.Forall₂ (fun x root => homes.expand (strip x) = .ok root) (xs.filter (¬IsBlank ·))
        roots ∧
      (∀ root ∈ roots, root ≠ "") ∧
      (homes.AreAbsolute → ∀ w within', w.resolve within' = .list (roots.map .text) →
        rootsOfValue homes w within' = .ok roots) := by
  rw [rootsOfValue_of_gives hv hxs]
  refine ⟨fun w within' hw => rootsOfValue_of_gives hw hxs homes, fun ys w within' hpadded hw => ?_,
    exists_rootsOfEntries_eq_ok, fun roots h => ⟨rootsOfEntries_eq_ok.1 h,
      ne_empty_of_rootsOfEntries h, fun hhomes w within' hw => ?_⟩⟩
  · rw [rootsOfValue_of_gives hw (hpadded.comma_notMem hxs), hpadded.rootsOfEntries_eq]
  · rw [rootsOfValue_list hw, rootsOfEntries_of_roots hhomes h]

theorem roots_of_either_form_padded :
    let e : Environment := ⟨[("HOME", "/home/me")]⟩
    let asText : Value := .text "/opt/a,~/b"
    let asList : Value := .list [.text " /opt/a", .text "", .text "~/b\t"]
    let again : Value := .list [.text "/opt/a", .text "/home/me/b"]
    rootsOfValue e asList = rootsOfValue e asText ∧
      rootsOfValue e asText = .ok ["/opt/a", "/home/me/b"] ∧
      rootsOfValue e again = .ok ["/opt/a", "/home/me/b"] := by
  intro e asText asList again
  have hjoined : ",".intercalate ["/opt/a", "~/b"] = "/opt/a,~/b" := by decide +kernel
  have htext : Value.Gives #[] ["/opt/a", "~/b"] (.text "/opt/a,~/b") := hjoined ▸ .text
  have hpadded : Padded ["/opt/a", "~/b"] [" /opt/a", "", "~/b\t"] :=
    @Padded.entry _ _ " " "/opt/a" "" (by decide) (by decide)
      (.blank (by decide) (@Padded.entry _ _ "" "~/b" "\t" (by decide) (by decide) .nil))
  have hok : rootsOfValue e asText = .ok ["/opt/a", "/home/me/b"] := by decide +kernel
  obtain ⟨-, hforms, -, hroots⟩ := roots_of_either_form e.homes (by decide) htext
  obtain ⟨-, -, hagain⟩ := hroots _ hok
  have habsolute : e.homes.AreAbsolute := e.areAbsolute_homes fun home h => by
    obtain rfl : "/home/me" = home := by simpa [e, Environment.get?] using h
    decide
  exact ⟨hforms _ _ _ hpadded (.list rfl), hok, hagain habsolute _ _ rfl⟩

end AddonAtlas
