import AddonAtlas.Session
import AddonAtlas.TreeSearch
import Mathlib.Data.List.Infix

/-!
# Labels and roots

A scan finds files at the root itself, or behind the root and a slash
(`TreeSearch.isBelow_of_mem_visitRoot`), so there is a root that encloses the path of a file that is
found, at the end of a segment. The label of a path is the path without the first root it begins
with, and nothing is asked of how a segment ends there. So it is the path without the first root that
encloses it if no root in front of that one is a beginning of the path (`displayLabel_of_isBelow`), and
cut inside of a segment otherwise.
-/

namespace AddonAtlas

/-- A root encloses a path : the path is the root, or what follows the root in it begins a segment. -/
def Encloses (root path : String) : Prop :=
  ∃ rest, path.toList = root.toList ++ rest ∧
    (rest = [] ∨ root.toList.getLast? = some '/' ∨ rest.head? = some '/')

theorem encloses_iff {root path : String} :
    Encloses root path ↔ root.toList <+: path.toList ∧
      (path.toList.drop root.toList.length = [] ∨ root.toList.getLast? = some '/' ∨
        (path.toList.drop root.toList.length).head? = some '/') := by
  constructor
  · rintro ⟨rest, hpath, hends⟩
    rw [hpath, List.drop_left]
    exact ⟨List.prefix_append _ _, hends⟩
  · rintro ⟨⟨rest, hpath⟩, hends⟩
    rw [← hpath, List.drop_left] at hends
    exact ⟨rest, hpath.symm, hends⟩

instance (root path : String) : Decidable (Encloses root path) :=
  decidable_of_iff _ encloses_iff.symm

/-- The path of a file that a scan of a root may find : the root, or something behind the root as a
directory. -/
def IsBelow (path root : String) : Prop :=
  path = root ∨ ∃ below : String, path = TreeSearch.withSlash root ++ below

/-! ## Files below a root -/

namespace TreeSearch

theorem toList_withSlash (path : String) :
    (withSlash path).toList = path.toList ∧ path.toList.getLast? = some '/' ∨
      (withSlash path).toList = path.toList ++ ['/'] := by
  unfold withSlash
  split
  · next h => exact .inl ⟨rfl, h⟩
  · exact .inr (by simp)

theorem exists_withSlash_append (path name : String) :
    ∃ below : String, withSlash (withSlash path ++ name) = withSlash path ++ below := by
  rcases toList_withSlash (withSlash path ++ name) with ⟨h, -⟩ | h
  · exact ⟨name, String.toList_inj.1 h⟩
  · exact ⟨name ++ "/", String.toList_inj.1 (h.trans (by simp))⟩

/-- The files of a directory are behind its path. -/
theorem exists_of_mem_visitDirectory {t : FileTree} {depth : Nat} {above : List Location}
    {path : String} {here : Location} {file : String} {content : Bytes}
    (h : Visit.file file content ∈ visitDirectory t depth above path here) :
    ∃ below : String, file = withSlash path ++ below := by
  induction depth generalizing above path here with
  | zero => exact absurd h List.not_mem_nil
  | succ depth ih =>
    rw [visitDirectory] at h
    split at h
    · exact absurd h List.not_mem_nil
    · obtain ⟨name, -, h⟩ := List.mem_flatMap.1 h
      split at h
      · cases List.mem_singleton.1 h
      · cases List.mem_singleton.1 h
        exact ⟨name, rfl⟩
      · obtain ⟨below, rfl⟩ := ih h
        obtain ⟨name', hname⟩ := exists_withSlash_append path name
        exact ⟨name' ++ below, by rw [hname, String.append_assoc]⟩

/-- What is found of a root is below it, if no slash at its end is one too many. -/
theorem isBelow_of_mem_visitRoot {t : FileTree} {root : String} (hroot : trimSlashes root = root)
    {file : String} {content : Bytes} (h : Visit.file file content ∈ visitRoot t root) :
    IsBelow file root := by
  unfold visitRoot at h
  split at h
  · cases List.mem_singleton.1 h
  · cases List.mem_singleton.1 h
    exact .inl rfl
  · rw [hroot] at h
    exact .inr (exists_of_mem_visitDirectory h)

end TreeSearch

theorem IsBelow.encloses {path root : String} (h : IsBelow path root) : Encloses root path := by
  rcases h with rfl | ⟨below, rfl⟩
  · exact ⟨[], (List.append_nil _).symm, .inl rfl⟩
  · rcases TreeSearch.toList_withSlash root with ⟨hroot, hslash⟩ | hroot
    · exact ⟨below.toList, by rw [String.toList_append, hroot], .inr (.inl hslash)⟩
    · exact ⟨'/' :: below.toList, by simp [hroot], .inr (.inr rfl)⟩

/-! ## Labels -/

theorem Encloses.isPrefix {root path : String} (h : Encloses root path) :
    root.toList <+: path.toList := by
  obtain ⟨rest, hpath, -⟩ := h
  exact ⟨rest, hpath.symm⟩

/-- The first member of a list that has a property. -/
theorem exists_first {α : Type} {p : α → Prop} {l : List α} (h : ∃ x ∈ l, p x) :
    ∃ before x after, l = before ++ x :: after ∧ p x ∧ ∀ y ∈ before, ¬ p y := by
  classical
  have hsome : (l.find? (decide <| p ·)).isSome := List.find?_isSome.2 (by simpa using h)
  obtain ⟨x, hx⟩ := Option.isSome_iff_exists.1 hsome
  obtain ⟨hp, before, after, rfl, hbefore⟩ := List.find?_eq_some_iff_append.1 hx
  exact ⟨before, x, after, rfl, by simpa using hp, by simpa using hbefore⟩

/-- A label is the path without the first root that the path begins with. -/
theorem append_displayLabel {path root : String} {before after : List String}
    (hroot : root.toList <+: path.toList) (hbefore : ∀ r ∈ before, ¬ r.toList <+: path.toList) :
    root ++ displayLabel path (before ++ root :: after) = path := by
  have hnone : ∀ r ∈ before, (!r.toList.isPrefixOf path.toList) = true := fun r hr => by
    rw [Bool.not_eq_true', ← Bool.not_eq_true, List.isPrefixOf_iff_prefix]
    exact hbefore r hr
  have hfind : (before ++ root :: after).find? (fun r => r.toList.isPrefixOf path.toList) =
      some root :=
    List.find?_eq_some_iff_append.2
      ⟨List.isPrefixOf_iff_prefix.2 hroot, before, after, rfl, hnone⟩
  obtain ⟨rest, hrest⟩ := hroot
  rw [displayLabel, hfind, ← String.toList_inj]
  simp [← hrest, ← String.length_toList]

/-- There is a first root that a path begins with, and the label lacks it, whatever roots stand
behind. -/
theorem exists_append_displayLabel {path : String} {roots : List String}
    (h : ∃ r ∈ roots, r.toList <+: path.toList) :
    ∃ before first after, roots = before ++ first :: after ∧
      (∀ r ∈ before, ¬ r.toList <+: path.toList) ∧
      ∀ more, first ++ displayLabel path (roots ++ more) = path := by
  obtain ⟨before, first, after, rfl, hfirst, hbefore⟩ := exists_first h
  refine ⟨before, first, after, rfl, hbefore, fun more => ?_⟩
  rw [List.append_assoc, List.cons_append]
  exact append_displayLabel hfirst hbefore

/-- The label of a path that a scan has found. There is a first root that encloses the path, and
a first one that the path begins with, which is what the label lacks. The label is the path without
the first root that encloses it if and only if no root in front of that one is a beginning of the
path. -/
theorem displayLabel_of_isBelow {roots : List String} {path : String}
    (h : ∃ root ∈ roots, IsBelow path root) :
    ∃ before root after, roots = before ++ root :: after ∧
      Encloses root path ∧ (∀ r ∈ before, ¬ Encloses r path) ∧
      (root ++ displayLabel path roots = path ↔ ∀ r ∈ before, ¬ r.toList <+: path.toList) ∧
      ∃ before' first after', roots = before' ++ first :: after' ∧
        (∀ r ∈ before', ¬ r.toList <+: path.toList) ∧ first ++ displayLabel path roots = path := by
  obtain ⟨found, hfound, hbelow⟩ := h
  obtain ⟨before, root, after, hroots, hroot, hbefore⟩ :=
    exists_first (p := (Encloses · path)) ⟨found, hfound, hbelow.encloses⟩
  obtain ⟨before', first, after', hroots', hbefore', hlabel⟩ :=
    exists_append_displayLabel ⟨found, hfound, hbelow.encloses.isPrefix⟩
  refine ⟨before, root, after, hroots, hroot, hbefore, ⟨fun hcut r hr hprefix => ?_, fun hnone => ?_⟩,
    before', first, after', hroots', hbefore', by simpa using hlabel []⟩
  · -- the label lacks a root that stands in front, and this would be the same one
    obtain ⟨front, other, back, hsplit, -, hother⟩ := exists_append_displayLabel ⟨r, hr, hprefix⟩
    have hsame : other = root := by
      have heq := (hother (root :: after)).trans hcut.symm
      rw [← hroots] at heq
      simpa using heq
    exact hbefore other (hsplit ▸ List.mem_append_cons_self) (hsame ▸ hroot)
  · rw [hroots]
    exact append_displayLabel hroot.isPrefix hnone

/-- A root in front that is longer than the path's own one is no beginning of the path. -/
theorem displayLabel_of_isBelow_shorter :
    let roots := ["/opt/odoo-enterprise", "/opt/odoo"]
    let path := "/opt/odoo/a.py"
    (∃ root ∈ roots, IsBelow path root) ∧ displayLabel path roots = "/a.py" ∧
      ∃ before root after, roots = before ++ root :: after ∧ Encloses root path ∧
        (root ++ "/a.py" = path ↔ ∀ r ∈ before, ¬ r.toList <+: path.toList) := by
  intro roots path
  have hbelow : ∃ root ∈ roots, IsBelow path root :=
    ⟨"/opt/odoo", by decide, .inr ⟨"a.py", by decide⟩⟩
  have hlabel : displayLabel path roots = "/a.py" := by decide
  obtain ⟨before, root, after, hroots, hroot, -, hiff, -⟩ := displayLabel_of_isBelow hbelow
  exact ⟨hbelow, hlabel, before, root, after, hroots, hroot, hlabel ▸ hiff⟩

/-- The label is cut inside of a segment if a root in front is a beginning of the path. -/
theorem displayLabel_cut :
    IsBelow "/opt/odoo-enterprise/a.py" "/opt/odoo-enterprise" ∧
      ¬ Encloses "/opt/odoo" "/opt/odoo-enterprise/a.py" ∧
      displayLabel "/opt/odoo-enterprise/a.py" ["/opt/odoo", "/opt/odoo-enterprise"] =
        "-enterprise/a.py" :=
  ⟨.inr ⟨"a.py", by decide⟩, by decide, by decide⟩

end AddonAtlas
