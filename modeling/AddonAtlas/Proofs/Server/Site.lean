import AddonAtlas.Proofs.FileTree
import AddonAtlas.Proofs.Server.Scanning

/-!
# A directory with one declaration

A server with one file to scan, whose only line declares a value. The scan for any value finds this
line (`outcome_free`), whatever the value is, as long as it is a text that fits on one line. So
after a refresh the index holds just this declaration (`answer_refresh_site`).
-/

namespace AddonAtlas

open Utf8 (encode)

/-! ## The search program -/

/-- The file of a program is that of this program. -/
theorem System.program?_concat (name : String) :
    System.program? (Bytes.concat [System.programMark, Bytes.ofString name]) = some name := by
  have hsize : System.programMark.size = System.programMark.toList.length := by simp
  have hfile : (Bytes.concat [System.programMark, Bytes.ofString name]).toList =
      System.programMark.toList ++ encode name.toList := by
    simp [Bytes.toList_concat]
  rw [System.program?, if_pos]
  · rw [Bytes.decode, Bytes.toList_drop, hfile, hsize, List.drop_left, Utf8.decode_encode,
      String.ofList_toList]
  · rw [Bytes.toList_take, hfile, hsize, List.take_left]

/-- What is started for the file of a program is the program. -/
theorem Invocation.atPath_of_program {t : FileTree} {here place : Location} {path program : String}
    {content : Bytes} (h : t.resolve path here = .ok (place, .file content true))
    (hprogram : System.program? content = some program) (scripts : Nat) :
    Invocation.atPath t here scripts path = .ok ⟨program, path, []⟩ := by
  rw [Invocation.atPath.eq_1, h]
  simp only [bind, Except.bind, hprogram]
  rfl

/-! ## The files -/

namespace Site

/-- What stands in front of the value. -/
def front : List Char :=
  "_name = \"".toList

/-- The line that declares a value. -/
def line (value : String) : List Char :=
  front ++ (value.toList ++ ['"'])

/-- A file with this line only. -/
def content (value : String) : Bytes :=
  Bytes.ofString (String.ofList (line value ++ ['\n']))

/-- A directory with this file only. -/
def tree (value : String) : FileTree :=
  ⟨[(["r"], .directory), (["r", "m.py"], .file (content value) false)], []⟩

def config : Config :=
  ⟨["r"], "/usr/bin/grep", none, defaultBudget, 8080⟩

/-- A server that scans this directory, before any request. -/
def server (value : String) : Server :=
  .new (tree value) ⟨[]⟩ (.fixed config) (.program false)

variable (value : String)

theorem find?_r : (tree value).find? ["r"] = some .directory := by
  simp [FileTree.find?, tree, System.root]

theorem resolve_r : (tree value).resolve "r" = .ok (["r"], .directory) :=
  FileTree.resolve_name (by decide) (find?_r value) fun target h => by cases h

/-- The name of the file leads to it, from the directory that holds it. -/
theorem leads_file : (tree value).Leads ["r"] ["m.py"] ["r", "m.py"] (.file (content value) false) :=
  .file (by decide) (by decide) (by simp [FileTree.find?, tree, System.root])

theorem resolveIn_file :
    (tree value).resolveIn ["r"] "m.py" = .ok (["r", "m.py"], .file (content value) false) :=
  (leads_file value).walk_eq _

theorem read_file : (tree value).read "r/m.py" = .ok (content value) := by
  have horigin : FileTree.origin "r/m.py" = [] := by decide
  have hnames : FileTree.names "r/m.py" = ["r", "m.py"] := by decide
  have hleads : (tree value).Leads (FileTree.origin "r/m.py") (FileTree.names "r/m.py")
      ["r", "m.py"] (.file (content value) false) := by
    rw [horigin, hnames]
    exact .into (by decide) (by decide) (find?_r value) (leads_file value)
  rw [FileTree.read, hleads.resolve_eq (by decide) (by decide)]

theorem visitRoot_r :
    TreeSearch.visitRoot (tree value) "r" = [.file "r/m.py" (content value)] := by
  have htrim : TreeSearch.trimSlashes "r" = "r" := by decide
  have hpath : TreeSearch.withSlash "r" ++ "m.py" = "r/m.py" := by decide
  have hchildren : (tree value).children ["r"] = ["m.py"] := by
    simp [FileTree.children, tree]
  simp [TreeSearch.visitRoot, resolve_r, TreeSearch.visitDirectory, htrim, hchildren,
    resolveIn_file, hpath]

theorem namesFiles_r : TreeSearch.namesFiles (tree value) ["r"] = true := by
  simp [TreeSearch.namesFiles, resolve_r]

theorem resolve_grep : (tree value).resolve "/usr/bin/grep" =
    .ok (["/", "usr", "bin", "grep"], System.program "grep") := by
  have horigin : FileTree.origin "/usr/bin/grep" = ["/"] := by decide
  have hnames : FileTree.names "/usr/bin/grep" = ["", "usr", "bin", "grep"] := by decide
  have husr : (tree value).find? ["/", "usr"] = some .directory := by
    simp [FileTree.find?, tree, System.root, System.find?, System.directories]
  have hbin : (tree value).find? ["/", "usr", "bin"] = some .directory := by
    simp [FileTree.find?, tree, System.root, System.find?, System.directories]
  have hgrep : (tree value).find? ["/", "usr", "bin", "grep"] = some (System.program "grep") := by
    simp [FileTree.find?, tree, System.root, System.find?, System.programs]
  have hleads : (tree value).Leads (FileTree.origin "/usr/bin/grep")
      (FileTree.names "/usr/bin/grep") ["/", "usr", "bin", "grep"] (System.program "grep") := by
    rw [horigin, hnames]
    exact .empty (.into (by decide) (by decide) husr (.into (by decide) (by decide) hbin
      (.file (by decide) (by decide) hgrep)))
  exact hleads.resolve_eq (by decide) (by decide)

theorem findsGrep (environment : List (String × String)) :
    Launch.FindsGrep (tree value) environment "/usr/bin/grep" := by
  have hslash : "/usr/bin/grep".toList.contains '/' = true := by decide
  refine ⟨⟨"grep", "/usr/bin/grep", []⟩, ?_, rfl, rfl⟩
  rw [Invocation.find, if_pos hslash]
  exact Invocation.atPath_of_program (resolve_grep value) (System.program?_concat "grep") _

/-! ## The scan -/

/-- A value that can stand on a line of a file that is searched as a whole. -/
structure Fits (value : String) : Prop where
  newline : '\n' ∉ value.toList
  verticalTab : '\x0b' ∉ value.toList
  formFeed : '\x0c' ∉ value.toList
  nul : '\x00' ∉ value.toList
  /-- The report of the line keeps to the limit. -/
  size : (encode value.toList).length + 32 ≤ lineLimit

variable {value}

theorem notMem_line {c : Char} (hline : c ∉ front ++ ['"']) (hvalue : c ∉ value.toList) :
    c ∉ line value := by
  rw [line, List.mem_append, List.mem_append]
  rintro (hc | hc | hc)
  · exact hline (List.mem_append_left _ hc)
  · exact hvalue hc
  · exact hline (List.mem_append_right _ hc)

theorem Fits.plain (h : Fits value) : DeclarationPattern.Plain (line value) :=
  ⟨notMem_line (by decide) h.newline, notMem_line (by decide) h.verticalTab,
    notMem_line (by decide) h.formFeed⟩

theorem toList_content : (content value).toList = encode (line value ++ ['\n']) := by
  rw [content, Bytes.toList_ofString, String.toList_ofList]

theorem isPlain_tree (h : Fits value) : TreeSearch.IsPlain (tree value) config.roots := by
  intro v hv
  rw [config, List.flatMap_singleton, visitRoot_r, List.mem_singleton] at hv
  subst hv
  refine ⟨by decide, by decide, _, toList_content, fun hmem => ?_, fun hmem => ?_⟩
  · simp [h.plain.verticalTab] at hmem
  · simp [h.plain.formFeed] at hmem

theorem exists_lines_content (h : Fits value) :
    ∃ l, (content value).beforeNul.lines = [l] ∧ l.toList = encode (line value) := by
  have hnul : 0 ∉ (content value).toList := fun hmem => by
    rw [toList_content] at hmem
    have := (Utf8.byte_mem_encode (c := '\x00') (by decide)).1 hmem
    simp [notMem_line (by decide) h.nul] at this
  rw [Bytes.beforeNul_eq_self hnul]
  refine Bytes.exists_lines_eq h.plain.newline_notMem_encode ?_
  rw [toList_content, Utf8.encode_append]
  rfl

theorem matchValue_line (h : Fits value) :
    DeclarationPattern.free.matchValue (String.ofList (line value)) = some value := by
  have hdeclares : DeclarationPattern.searchGrammar.Declares (line value) value.toList :=
    DeclarationPattern.declares_name (by simp) value.toList
  exact (DeclarationPattern.matchValue_free h.plain.newline).2
    ((DeclarationPattern.declares_searchGrammar h.plain).1 hdeclares)

theorem selects_line (h : Fits value) {l : Bytes} (hl : l.toList = encode (line value)) :
    DeclarationPattern.free.byteRegex.selects l.word = true := by
  rw [Bytes.word_eq, hl, DeclarationPattern.selects_encode_plain h.plain]
  exact ⟨value, matchValue_line h, trivial⟩

/-- The output of the scan for any value is the report of the line. -/
theorem exists_output (h : Fits value) :
    ∃ l, TreeSearch.output (tree value) config.roots .free =
        [TreeSearch.report true "r/m.py" 1 l] ∧ l.toList = encode (line value) := by
  obtain ⟨l, hlines, hl⟩ := exists_lines_content h
  have hselects := selects_line h hl
  have hnamed := namesFiles_r value
  refine ⟨l, ?_, hl⟩
  simp [TreeSearch.output, config, visitRoot_r, TreeSearch.reportsOn, hlines,
    TreeSearch.selectedLines, hselects, hnamed]

theorem length_record (h : Fits value) :
    (encode (TreeSearch.record true "r/m.py" 1 (line value))).length ≤ lineLimit := by
  have hsplit : TreeSearch.record true "r/m.py" 1 (line value) =
      ("r/m.py:1:".toList ++ front) ++ (value.toList ++ ['"']) := by
    rw [TreeSearch.record, line, ← List.append_assoc]
    rfl
  have hfront : (encode ("r/m.py:1:".toList ++ front)).length = 18 := by decide
  have hquote : (encode ['"']).length = 1 := by decide
  have := h.size
  rw [hsplit, Utf8.encode_append, List.length_append, hfront, Utf8.encode_append,
    List.length_append, hquote]
  omega

theorem toList_report {l : Bytes} (hl : l.toList = encode (line value)) :
    (TreeSearch.report true "r/m.py" 1 l).toList =
      encode (TreeSearch.record true "r/m.py" 1 (line value)) ++ [Bytes.newline] := by
  rw [TreeSearch.toList_report, hl, TreeSearch.record_append true _ _ (line value),
    Utf8.encode_append]

/-- The hit on the line. -/
def hit (value : String) : Hit :=
  ⟨"r/m.py", 1, String.ofList (line value)⟩

theorem hits_free (h : Fits value) :
    TreeSearch.hits lineLimit (tree value) config.roots .free = [hit value] := by
  obtain ⟨l, houtput, hl⟩ := exists_output h
  have hnumber : Hit.number? (toString 1).toList = some 1 := by decide
  have hhit : Reading.hitOn lineLimit (TreeSearch.report true "r/m.py" 1 l).toList =
      some (hit value) := by
    have hfree : Bytes.newline ∉ l.toList := hl ▸ h.plain.newline_notMem_encode
    rw [Reading.hitOn, if_pos, ← Hit.ofLine?_eq, TreeSearch.ofLine?_report (by decide) true 1 hfree,
      TreeSearch.parse?_record (by decide), hnumber, hl, Utf8.decode_encode]
    · rfl
    · rw [toList_report hl, textLength_append]
      exact length_record h
  rw [TreeSearch.hits, houtput, List.filterMap_cons, hhit]
  rfl

theorem scans_server (h : Fits value) : (server value).Scans config where
  config := rfl
  roots := by decide
  scanner := rfl
  grep := findsGrep value _
  plain := isPlain_tree h
  budget := by
    obtain ⟨l, houtput, hl⟩ := exists_output h
    have hsize : (TreeSearch.report true "r/m.py" 1 l).size =
        (encode (TreeSearch.record true "r/m.py" 1 (line value))).length + 1 := by
      rw [← Bytes.length_toList, toList_report hl, List.length_append, List.length_singleton]
    have := length_record h
    have hlimit : lineLimit + 1 ≤ 200000000 := by decide
    have hbudget : config.maxOutput = 200000000 := rfl
    show (((TreeSearch.output (tree value) config.roots .free).map Bytes.size).sum : Int) ≤ _
    rw [houtput, List.map_singleton, List.sum_singleton, hsize, hbudget]
    omega

/-- The scan for any value finds the line. -/
theorem outcome_free (h : Fits value) (environment : List (String × String)) :
    (ScanRun.run (tree value) environment lineLimit (config.request .free)).outcome =
      .hits [hit value] := by
  have hroots : Launch.refusal? config.grep config.roots = none := by decide
  have hplain := isPlain_tree h
  have hbudget := (scans_server h).budget
  have hrun := ScanRun.run_eq (findsGrep value environment) (show config.roots ≠ [] by decide)
    ScanRun.isSearchable_free lineLimit config.maxOutput
  rw [show Launch.refusal? "/usr/bin/grep" config.roots = none from hroots] at hrun
  rcases ScanRun.outcome_search hplain ScanRun.isSearchable_free lineLimit hbudget with
    ho | ⟨hnil, -⟩
  · rw [hits_free h] at ho
    rw [← ho]
    exact congrArg ScanRun.outcome hrun
  · rw [hits_free h] at hnil
    cases hnil

theorem scanned_free (h : Fits value) :
    (server value).scanned config .free = .hits [hit value] :=
  outcome_free h []

theorem ofHit_hit (h : Fits value) :
    Declaration.ofHit .identity (hit value) = ⟨value, "r/m.py", 1⟩ := by
  have hmatch : DeclarationPattern.identity.matchValue (hit value).text = some value :=
    matchValue_line h
  rw [Declaration.ofHit, hmatch]
  rfl

end Site

end AddonAtlas
