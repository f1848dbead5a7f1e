import AddonAtlas.FileTree

/-!
# Paths without links

Names lead from one directory of a tree to the next and at last to an entry (`FileTree.Leads`). If
there is no link among what they lead to, the path with these names stands for the entry
(`FileTree.Leads.resolve_eq`). A name alone stands for what has it in the working directory
(`FileTree.resolve_name`).
-/

namespace AddonAtlas.FileTree

/-- What an entry can be called. The names that a directory has for itself and for the one above it
are none. -/
structure IsEntryName (name : String) : Prop where
  ne_empty : name ≠ ""
  ne_itself : name ≠ "."
  ne_above : name ≠ ".."
  noSlash : '/' ∉ name.toList
  size : name.utf8ByteSize ≤ 255

instance (name : String) : Decidable (IsEntryName name) :=
  decidable_of_iff (name ≠ "" ∧ name ≠ "." ∧ name ≠ ".." ∧ '/' ∉ name.toList ∧
      name.utf8ByteSize ≤ 255)
    ⟨fun ⟨h₁, h₂, h₃, h₄, h₅⟩ => ⟨h₁, h₂, h₃, h₄, h₅⟩, fun ⟨h₁, h₂, h₃, h₄, h₅⟩ => ⟨h₁, h₂, h₃, h₄, h₅⟩⟩

/-- Names lead from a directory to an entry, through directories and not through links. An empty
name, such as that in front of a first slash, leads nowhere else. The directory of temporary files is
left out : from there a name leads back to the working directory. -/
inductive Leads (t : FileTree) : (here : Location) → List String → Location → Entry → Prop
  | nowhere {here : Location} : Leads t here [] here .directory
  | empty {here place : Location} {rest : List String} {e : Entry} (h : Leads t here rest place e) :
    Leads t here ("" :: rest) place e
  | into {here place : Location} {name : String} {rest : List String} {e : Entry}
      (hname : IsEntryName name) (hhere : here ≠ System.temporary)
      (hfind : t.find? (here ++ [name]) = some .directory)
      (h : Leads t (here ++ [name]) rest place e) : Leads t here (name :: rest) place e
  | file {here : Location} {name : String} {content : Bytes} {executable : Bool}
      (hname : IsEntryName name) (hhere : here ≠ System.temporary)
      (hfind : t.find? (here ++ [name]) = some (.file content executable)) :
    Leads t here [name] (here ++ [name]) (.file content executable)

variable {t : FileTree} {here place : Location} {parts : List String} {e : Entry}

theorem Leads.walk_eq (h : t.Leads here parts place e) (links : Nat) :
    t.walk links here parts = .ok (place, e) := by
  induction h with
  | nowhere => rw [walk]
  | empty h ih => rw [walk, if_pos (.inl rfl), ih]
  | into hname hhere hfind h ih =>
    rw [walk, if_neg (not_or.2 ⟨hname.ne_empty, hname.ne_itself⟩), if_neg hname.ne_above,
      if_neg fun h => hhere h.1, if_neg (Nat.not_lt.2 hname.size), hfind]
    exact ih
  | file hname hhere hfind =>
    rw [walk, if_neg (not_or.2 ⟨hname.ne_empty, hname.ne_itself⟩), if_neg hname.ne_above,
      if_neg fun h => hhere h.1, if_neg (Nat.not_lt.2 hname.size), hfind]
    rfl

variable {path : String}

/-- A path stands for what its names lead to. -/
theorem Leads.resolve_eq (h : t.Leads (origin path here) (names path) place e) (hne : path ≠ "")
    (hsize : path.utf8ByteSize ≤ maxPath) : t.resolve path here = .ok (place, e) := by
  rw [resolve, if_neg hne, if_neg (by omega), h.walk_eq]

/-- A name stands for the file or the directory of the working directory that has it. -/
theorem resolve_name {name : String} (hname : IsEntryName name) (hfind : t.find? [name] = some e)
    (hlink : ∀ target, e ≠ .link target) : t.resolve name = .ok ([name], e) := by
  have hnames : names name = [name] := by
    rw [names, List.splitOn_eq_singleton hname.noSlash]
    simp
  have horigin : origin name = [] := by
    have hhead : name.toList.head? ≠ some '/' := fun h => hname.noSlash (List.mem_of_head? h)
    simp [origin, isAbsolute, hhead]
  have hleads : t.Leads (origin name) (names name) [name] e := by
    rw [hnames, horigin]
    cases e with
    | file content executable => exact .file hname (by decide) hfind
    | link target => exact absurd rfl (hlink target)
    | directory => exact .into hname (by decide) hfind .nowhere
  refine hleads.resolve_eq hname.ne_empty ?_
  have := hname.size
  simp only [maxPath]
  omega

/-- What is read by the name of a file of the working directory is the file. -/
theorem read_name {name : String} {content : Bytes} {executable : Bool} (hname : IsEntryName name)
    (hfind : t.find? [name] = some (.file content executable)) : t.read name = .ok content := by
  rw [read, resolve_name hname hfind fun target h => by cases h]

end AddonAtlas.FileTree
