import AddonAtlas.Proofs.Declaration.Grammar
import AddonAtlas.Proofs.Number.Numeral
import AddonAtlas.Server.Request

/-!
# Listings as lines

Names are put into the listings as they are, whatever signs they hold, so what a listing says of
them is not plain from its text. It is if no name has a newline : then the lines of the listing of
all models are its heading, the number of models, an empty line, and one line a model
(`lines_models`), and from a model's line its name and its count can be told (`bullet_inj`). So
two listings with the same text list the same models with the same counts (`models_inj`).

A model is listed by itself if it has declarations (`model_eq`), with one line for each of them if
no path has a newline (`lines_page`). A label brings none, since it is the end of its path.
-/

namespace AddonAtlas.Resource

/-! ## Lines -/

/-- The lines of a text, which are what stands between its newlines. Behind a newline at the end
there is one more line, an empty one. -/
def lines (text : String) : List String :=
  (text.toList.splitOn '\n').map String.ofList

theorem lines_append {line : String} (h : '\n' ∉ line.toList) (text : String) :
    lines (line ++ "\n" ++ text) = line :: lines text := by
  have hline : ∀ c ∈ line.toList, (c == '\n') = false :=
    fun c hc => beq_false_of_ne fun he => h (he ▸ hc)
  have hsplit : (line.toList ++ '\n' :: text.toList).splitOn '\n' =
      line.toList :: text.toList.splitOn '\n' :=
    List.splitOnP_append_cons_of_forall_mem hline _ (beq_self_eq_true _) _
  have htext : (line ++ "\n" ++ text).toList = line.toList ++ '\n' :: text.toList := by simp
  unfold lines
  rw [htext, hsplit, List.map_cons, String.ofList_toList]

/-- A text that is made of lines has these lines. -/
theorem lines_join {ls : List String} (h : ∀ l ∈ ls, '\n' ∉ l.toList) :
    lines (String.join (ls.map (· ++ "\n"))) = ls ++ [""] := by
  induction ls with
  | nil => rfl
  | cons l ls ih =>
    obtain ⟨hl, hls⟩ := List.forall_mem_cons.1 h
    rw [List.map_cons, String.join_cons, lines_append hl, ih hls]
    rfl

/-! ## The listing of all models -/

/-- What the listing of all models says of a model. -/
def bullet (name : String) (count : Nat) : String :=
  if count = 1 then "- `" ++ name ++ "` (1 declaration)"
  else "- `" ++ name ++ "` (" ++ toString count ++ " declarations)"

theorem bullet_eq (name : String) (count : Nat) :
    bullet name count =
      "- `" ++ name ++ "` (" ++ toString count ++ " " ++ declarationWord count ++ ")" := by
  have hone : toString (1 : Nat) = "1" := by decide
  unfold bullet declarationWord
  split
  · next h =>
    subst h
    rw [hone]
    simp [String.append_assoc]
  · simp [String.append_assoc]

theorem modelLine_eq (name : String) (count : Nat) :
    modelLine name count = bullet name count ++ "\n" := by
  have htick : tick = "`" := by decide
  rw [bullet_eq]
  unfold modelLine
  rw [htick]
  simp [String.append_assoc]

theorem notMem_declarationWord (count : Nat) :
    '\n' ∉ (declarationWord count).toList ∧ '(' ∉ (declarationWord count).toList := by
  unfold declarationWord
  split <;> decide

theorem newline_notMem_bullet {name : String} (h : '\n' ∉ name.toList) (count : Nat) :
    '\n' ∉ (bullet name count).toList := by
  have hcount : '\n' ∉ (toString count).toList := Number.notMem_toString (by decide) count
  have hword := (notMem_declarationWord count).1
  rw [bullet_eq]
  simp only [String.toList_append, List.mem_append, not_or]
  exact ⟨⟨⟨⟨⟨⟨by decide, h⟩, by decide⟩, hcount⟩, by decide⟩, hword⟩, by decide⟩

/-- What stands behind the last opening parenthesis of a model's line. -/
def counted (count : Nat) : List Char :=
  (toString count).toList ++ ' ' :: ((declarationWord count).toList ++ [')'])

theorem toList_bullet (name : String) (count : Nat) :
    (bullet name count).toList =
      "- `".toList ++ ((name.toList ++ "` ".toList) ++ '(' :: counted count) := by
  have hopen : "` (".toList = "` ".toList ++ ['('] := by decide
  have hblank : " ".toList = [' '] := by decide
  have hclose : ")".toList = [')'] := by decide
  rw [bullet_eq]
  simp only [String.toList_append, hopen, hblank, hclose, counted, List.append_assoc,
    List.cons_append, List.nil_append]

theorem parenthesis_notMem_counted (count : Nat) : '(' ∉ counted count := by
  have hcount : '(' ∉ (toString count).toList := Number.notMem_toString (by decide) count
  have hword := (notMem_declarationWord count).2
  unfold counted
  simp only [List.mem_append, List.mem_cons, not_or]
  exact ⟨hcount, by decide, hword, by decide⟩

/-- A count is told by its digits. -/
theorem counted_inj {count count' : Nat} (h : counted count = counted count') :
    count = count' := by
  have hdigits : ∀ (n : Nat), ∀ c ∈ (toString n).toList, c.isDigit = true :=
    fun n c => Number.isDigit_of_mem_toString
  unfold counted at h
  obtain ⟨htext, -⟩ := LineGrammar.eq_of_append_cons (hdigits count) (hdigits count')
    (by decide) (by decide) h
  rw [← Number.ofDigits_toString count, htext, Number.ofDigits_toString]

/-- The name and the count of a model can be told from its line. The last opening parenthesis of the
line is the one in front of the count, whatever the name holds. -/
theorem bullet_inj {name name' : String} {count count' : Nat}
    (h : bullet name count = bullet name' count') : name = name' ∧ count = count' := by
  have hlist := congrArg String.toList h
  rw [toList_bullet, toList_bullet] at hlist
  have hlist := List.append_cancel_left hlist
  have hbehind : ∀ n, ∀ c ∈ counted n, (c != '(') = true := by
    intro n c hc
    rw [bne_iff_ne]
    rintro rfl
    exact parenthesis_notMem_counted n hc
  obtain ⟨hname, hcount⟩ := LineGrammar.eq_of_append_cons_end (p := (· != '('))
    (hbehind count) (hbehind count') rfl rfl hlist
  refine ⟨String.toList_inj.1 (List.append_cancel_right hname), ?_⟩
  exact counted_inj (List.cons.inj hcount).2

/-- The number of declarations of each model. -/
def counts (x : ModelIndex) : List (String × Nat) :=
  x.identities.map fun i => (i, (x.declarations i).length)

section Models

variable {x x' : ModelIndex}

/-- The lines of the listing of all models. -/
theorem lines_models (hx : ∀ i ∈ x.identities, '\n' ∉ i.toList) :
    lines (models x) =
      ["# Odoo Models", "Total models: " ++ toString x.identities.length, ""] ++
        (counts x).map (fun (name, count) => bullet name count) ++ [""] := by
  have htext : models x = String.join
      ((["# Odoo Models", "Total models: " ++ toString x.identities.length, ""] ++
        (counts x).map fun (name, count) => bullet name count).map (· ++ "\n")) := by
    have hheading : "# Odoo Models\n" = "# Odoo Models" ++ "\n" := by decide
    unfold models counts
    simp only [List.map_append, List.map_map, String.join_append, Function.comp_def,
      ← modelLine_eq]
    simp only [List.map_cons, List.map_nil, String.join_cons, String.join_nil, hheading,
      String.append_assoc, String.empty_append, String.append_empty]
  rw [htext, lines_join]
  intro l hl
  rcases List.mem_append.1 hl with hl | hl
  · have hcount : '\n' ∉ (toString x.identities.length).toList :=
      Number.notMem_toString (by decide) _
    simp only [List.mem_cons, List.not_mem_nil, or_false] at hl
    rcases hl with rfl | rfl | rfl
    · decide
    · rw [String.toList_append, List.mem_append, not_or]
      exact ⟨by decide, hcount⟩
    · decide
  · obtain ⟨⟨name, count⟩, hmem, rfl⟩ := List.mem_map.1 hl
    obtain ⟨i, hi, he⟩ := List.mem_map.1 hmem
    obtain rfl : i = name := congrArg Prod.fst he
    exact newline_notMem_bullet (hx i hi) count

/-- Two listings with the same text list the same models with the same counts. -/
theorem models_inj (hx : ∀ i ∈ x.identities, '\n' ∉ i.toList)
    (hx' : ∀ i ∈ x'.identities, '\n' ∉ i.toList) (h : models x = models x') :
    counts x = counts x' := by
  have hlines := congrArg lines h
  rw [lines_models hx, lines_models hx'] at hlines
  have hbullets := List.append_cancel_right hlines
  obtain ⟨-, hbullets⟩ := List.append_inj hbullets rfl
  refine (List.map_inj_right ?_).1 hbullets
  rintro ⟨name, count⟩ ⟨name', count'⟩ he
  obtain ⟨rfl, rfl⟩ := bullet_inj he
  rfl

end Models

/-! ## The listing of one model -/

theorem suffix_intercalate_drop {α : Type} (sep : List α) (ls : List (List α)) (n : Nat) :
    sep.intercalate (ls.drop n) <:+ sep.intercalate ls := by
  induction n generalizing ls with
  | zero => exact List.suffix_refl _
  | succ n ih =>
    cases ls with
    | nil => exact List.suffix_refl _
    | cons l rest =>
      have hrest : sep.intercalate rest <:+ sep.intercalate (l :: rest) := by
        cases rest with
        | nil => exact List.nil_suffix
        | cons l' rest => exact ⟨l ++ sep, by simp⟩
      exact (ih rest).trans hrest

/-- A label is the end of its path. -/
theorem browseLabel_suffix (path : String) : (browseLabel path).toList <:+ path.toList := by
  have hpath : ['/'].intercalate (path.toList.splitOn '/') = path.toList :=
    List.intercalate_splitOn '/'
  have hlabel : (browseLabel path).toList = ['/'].intercalate ((path.toList.splitOn '/').drop
      ((path.toList.splitOn '/').length - labelSegments)) := by
    simp [browseLabel, Function.comp_def]
  have hdrop := suffix_intercalate_drop ['/'] (path.toList.splitOn '/')
    ((path.toList.splitOn '/').length - labelSegments)
  rwa [hpath, ← hlabel] at hdrop

/-- What the listing of a model says of a place. -/
def placeBullet (p : Place) : String :=
  "- " ++ p.label ++ ":" ++ toString p.line ++ " (`" ++ p.path ++ "`)"

theorem declarationLine_eq (d : Declaration) :
    declarationLine d = placeBullet (.of d) ++ "\n" := by
  have htick : tick = "`" := by decide
  unfold declarationLine placeBullet Place.of
  rw [htick]
  simp [String.append_assoc]

theorem newline_notMem_toString (n : Int) : '\n' ∉ (toString n).toList := by
  have hnat : ∀ m : Nat, '\n' ∉ (toString m).toList := Number.notMem_toString (by decide)
  cases n with
  | ofNat m => exact hnat m
  | negSucc m =>
    have hneg : toString (Int.negSucc m) = "-" ++ toString (m + 1) := rfl
    rw [hneg, String.toList_append, List.mem_append, not_or]
    exact ⟨by decide, hnat (m + 1)⟩

theorem newline_notMem_placeBullet {d : Declaration} (h : '\n' ∉ d.path.toList) :
    '\n' ∉ (placeBullet (.of d)).toList := by
  have hlabel : '\n' ∉ (browseLabel d.path).toList :=
    fun hmem => h ((browseLabel_suffix d.path).mem hmem)
  have hline := newline_notMem_toString d.line
  unfold placeBullet Place.of
  simp only [String.toList_append, List.mem_append, not_or]
  exact ⟨⟨⟨⟨⟨⟨by decide, hlabel⟩, by decide⟩, hline⟩, by decide⟩, h⟩, by decide⟩

/-- The listing of a model's places. -/
def page (name : String) (places : List Place) : String :=
  String.join ((["# Model: " ++ name, ""] ++ places.map placeBullet).map (· ++ "\n"))

/-- There is a listing of the models that have declarations, and of no others. -/
theorem model_eq (x : ModelIndex) (name : String) :
    model x name =
      if x.declarations name = [] then .error ⟨.value, "Model '" ++ name ++ "' not found"⟩
      else .ok (page name ((x.declarations name).map .of)) := by
  unfold model
  cases hds : x.declarations name with
  | nil => rfl
  | cons d ds =>
    have hbreaks : "\n\n" = "\n" ++ "\n" := by decide
    rw [if_neg (List.cons_ne_nil d ds)]
    unfold page
    simp only [List.map_append, List.map_map, String.join_append, Function.comp_def,
      ← declarationLine_eq]
    simp only [List.map_cons, List.map_nil, String.join_cons, String.join_nil, hbreaks,
      String.append_assoc, String.empty_append, String.append_empty]

theorem lines_page {name : String} (hname : '\n' ∉ name.toList) {ds : List Declaration}
    (hds : ∀ d ∈ ds, '\n' ∉ d.path.toList) :
    lines (page name (ds.map .of)) =
      ["# Model: " ++ name, ""] ++ (ds.map Place.of).map placeBullet ++ [""] := by
  unfold page
  rw [lines_join]
  intro l hl
  rcases List.mem_append.1 hl with hl | hl
  · simp only [List.mem_cons, List.not_mem_nil, or_false] at hl
    rcases hl with rfl | rfl
    · rw [String.toList_append, List.mem_append, not_or]
      exact ⟨by decide, hname⟩
    · decide
  · rw [List.map_map] at hl
    obtain ⟨d, hd, rfl⟩ := List.mem_map.1 hl
    exact newline_notMem_placeBullet (hds d hd)

end AddonAtlas.Resource
