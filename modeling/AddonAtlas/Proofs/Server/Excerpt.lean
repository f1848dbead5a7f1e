import AddonAtlas.Proofs.Scan.Place
import AddonAtlas.Proofs.Server.Opening
import AddonAtlas.Proofs.Server.Site

/-!
# What an excerpt shows of a hit

An excerpt begins three lines above a hit, or with the first line of the file, by the hit's
number. The number counts newlines, and the excerpt is cut from lines that end with carriage
returns too. So the hit's line stands where it should if no carriage return stands alone in front
of it, and all of it does if its own carriage returns are at its end. Otherwise it stands lower by
as many lines as there are such carriage returns, or behind the excerpt, and only its part in
front of the first carriage return stands there (`viewport_of_hit`, `excerpt_misses_hit`).
-/

namespace AddonAtlas

open AddonAtlas.Text
open Bytes (newline carriageReturn LineAt)
open TreeSearch (visitRoot namesFiles hitsIn)
open Utf8 (decode encode)

/-! ## Excerpts -/

/-- What can be shown is a window of the file. -/
theorem viewport_eq_ok {t : FileTree} {target : NavigationTarget} {content : Bytes}
    (hread : t.read target.path = .ok content) (hshows : t.Shows target) (hline : 1 ≤ target.line) :
    viewport t target =
      .ok (textWindow content (target.line - 1) (target.line - 1 + excerptLines)) :=
  viewport_of_le hshows.1 hread hline (by decide) (hshows.2 content hread)

/-- The excerpt for a line of a file has the part of the line in front of its first carriage
return, as many lines too low as carriage returns stand alone in front of it. -/
theorem viewport_of_lineAt {t : FileTree} {path : String} {content : Bytes} {i : Nat}
    {before line after : List UInt8} (h : LineAt content.toList i before line after)
    (hne : line ≠ []) (hread : t.read path = .ok content)
    (hshows : t.Shows (.of path (i + 1))) :
    ∃ excerpt, viewport t (.of path (i + 1)) = .ok excerpt ∧
      (min i 3 + strays before < 20 → excerpt[min i 3 + strays before]? =
        some (String.ofList (decode (line.takeWhile (· != carriageReturn))))) := by
  have hline : (NavigationTarget.of path (i + 1)).line = ((i - 3 : Nat) : Int) + 1 := by
    simp only [NavigationTarget.of, NavigationTarget.linesAbove]
    omega
  refine ⟨_, viewport_eq_ok hread hshows (by omega), fun hlt => ?_⟩
  have hstart : ((NavigationTarget.of path (i + 1)).line - 1).toNat = i - 3 := by omega
  have hcount : ∀ n : Int, (n + excerptLines - n).toNat = 20 := fun n => by
    simp only [excerptLines]
    omega
  have hindex : i - 3 + (min i 3 + strays before) = i + strays before := by omega
  rw [textWindow_eq, hcount, hstart, List.getElem?_map, List.getElem?_take_of_lt hlt,
    List.getElem?_drop, hindex, getElem?_textLinesOf h hne]
  rfl

/-! ## Hits -/

/-- What is shown of a hit. The hits of a scan are those in the single files. A hit in a file is at
a line of it, by the number of newlines in front of the line, and has the line's text. If the
file is the same when it is opened, and the excerpt can be made, the line stands in it
`min (n - 1) 3` lines from the top and as many lower as carriage returns stand alone in front of
it, if the excerpt reaches so far ; and it stands there up to its first carriage return. If no
carriage return stands alone in front of it and all of its own are at its end, the excerpt has
the hit's text without them at its place. -/
theorem viewport_of_hit {t : FileTree} {environment : List (String × String)} {grep : String}
    (hgrep : Launch.FindsGrep t environment grep) (roots : List String) (p : DeclarationPattern)
    (limit : Nat) (budget : Int) :
    (∀ h ∈ (ScanRun.run t environment limit ⟨roots, p, grep, budget⟩).hits,
      ∃ v ∈ roots.flatMap (visitRoot t), h ∈ hitsIn limit p (namesFiles t roots) v) ∧
    ∀ (h : Hit) (content : Bytes), 0 ∉ content.toList →
      h ∈ hitsIn limit p (namesFiles t roots) (.file h.path content) →
      ∀ t' : FileTree, t'.read h.path = .ok content → t'.Shows (.of h.path h.line) →
        ∃ i before line after excerpt,
          LineAt content.toList i before line after ∧ h.line = i + 1 ∧
            h.text = String.ofList (decode line) ∧
            viewport t' (.of h.path h.line) = .ok excerpt ∧
            h.line - (NavigationTarget.of h.path h.line).line = (min i 3 : Nat) ∧
            (min i 3 + strays before < 20 → excerpt[min i 3 + strays before]? =
              some (String.ofList (decode (line.takeWhile (· != carriageReturn))))) ∧
            (strays before = 0 → ∀ m k, line = m ++ List.replicate k carriageReturn →
              carriageReturn ∉ m → excerpt[min i 3]? =
                some (String.ofList (dropEndWhile (· == '\r') h.text.toList))) := by
  refine ⟨fun h => ScanRun.exists_visit_of_mem_hits hgrep, fun h content hnul hh t' hread hshows => ?_⟩
  obtain ⟨i, before, line, after, hat, hline, htext, v, hdeclares⟩ :=
    TreeSearch.exists_lineAt_of_mem_hitsIn hnul hh
  rw [hline] at hshows ⊢
  obtain ⟨excerpt, hview, hshown⟩ := viewport_of_lineAt hat hdeclares.ne_nil hread hshows
  refine ⟨i, before, line, after, excerpt, hat, rfl, htext, hview, ?_, hshown, ?_⟩
  · simp only [NavigationTarget.of, NavigationTarget.linesAbove]
    omega
  · rintro hstrays m k rfl hm
    rw [hstrays, Nat.add_zero] at hshown
    have hpos : ∀ c ∈ m, (c != carriageReturn) = true := fun c hc =>
      bne_iff_ne.2 fun he => hm (he ▸ hc)
    have htake : (m ++ List.replicate k carriageReturn).takeWhile (· != carriageReturn) = m := by
      rw [List.takeWhile_append_of_pos hpos]
      simp
    have hends : dropEndWhile (· == '\r') (decode (m ++ List.replicate k carriageReturn)) = decode m :=
      Utf8.dropEndWhile_decode (c := '\r') (by decide) (by decide) hm k
    rw [hshown (by omega), htake, htext, String.toList_ofList, hends]

/-- The hit on a line that declares a value is read off the report on its file. -/
theorem Site.hit_mem_hitsIn {value : String} (h : Fits value) :
    hit value ∈ hitsIn lineLimit .free (namesFiles (tree value) config.roots)
      (.file "r/m.py" (content value)) := by
  obtain ⟨l, hlines, hl⟩ := exists_lines_content h
  have hline : (content value).beforeNul.lines[0]? = some l := by
    rw [hlines]
    rfl
  have hlimit := length_record h
  rw [TreeSearch.record_append, Utf8.encode_append, List.length_append, ← hl] at hlimit
  have hmem := TreeSearch.mem_hitsIn (n := 1) (by decide) (by decide) hline (selects_line h hl)
    (by decide) hlimit
  rw [hl, Utf8.decode_encode] at hmem
  rw [config, namesFiles_r]
  exact hmem

/-- The declaration of a value is shown : the file has this one line, and the excerpt begins with
it. -/
theorem viewport_of_hit_site :
    Launch.FindsGrep (Site.tree "x") [] "/usr/bin/grep" ∧
      Site.hit "x" ∈ hitsIn lineLimit .free (namesFiles (Site.tree "x") Site.config.roots)
        (.file "r/m.py" (Site.content "x")) ∧
      ∃ excerpt, viewport (Site.tree "x") (.of "r/m.py" 1) = .ok excerpt ∧
        excerpt[0]? = some "_name = \"x\"" := by
  have hgrep := Site.findsGrep "x" []
  have hnul : 0 ∉ (Site.content "x").toList := by
    rw [Site.toList_content]
    decide
  have hreturn : carriageReturn ∉ (Site.content "x").toList := by
    rw [Site.toList_content]
    decide
  have hfits : Site.Fits "x" := ⟨by decide, by decide, by decide, by decide, by decide⟩
  have hhit := Site.hit_mem_hitsIn hfits
  have hread := Site.read_file "x"
  obtain ⟨i, before, line, after, excerpt, hat, hi, -, hview, -, -, hshown⟩ :=
    (viewport_of_hit hgrep Site.config.roots .free lineLimit 0).2 (Site.hit "x") _ hnul hhit _ hread
      ⟨by decide, fun _ _ => by decide⟩
  obtain rfl : i = 0 := by
    have : (1 : Int) = i + 1 := hi
    omega
  have hbefore : before = [] := by
    rcases hat.begins with hnil | ⟨s, rfl⟩
    · exact hnil
    · simpa using hat.count
  have hline : carriageReturn ∉ line := fun hmem => hreturn (by
    rw [hat.split]
    simp [hmem])
  have htext : dropEndWhile (· == '\r') (Site.hit "x").text.toList = "_name = \"x\"".toList := by
    rw [Site.hit, String.toList_ofList]
    decide
  have hfirst := hshown (by rw [hbefore]; rfl) line 0 (by simp) hline
  rw [htext, String.ofList_toList] at hfirst
  exact ⟨hgrep, hhit, excerpt, hview, hfirst⟩

/-! ## A carriage return in front of a declaration -/

namespace StrayReturn

/-- A file whose first line has a carriage return in it. -/
def content : Bytes :=
  .ofString "a\rb\n_name = \"x\"\n"

def tree : FileTree :=
  ⟨[(["m.py"], .file content false)], []⟩

def hit : Hit :=
  ⟨"m.py", 2, "_name = \"x\""⟩

end StrayReturn

open StrayReturn in
/-- The declaration on the second line of a file is found, and at its place the excerpt shows
what stands behind a carriage return on the first line. -/
theorem excerpt_misses_hit :
    hit ∈ hitsIn lineLimit .free true (.file "m.py" content) ∧
      tree.read "m.py" = .ok content ∧
      viewport tree (.of "m.py" 2) = .ok ["a", "b", "_name = \"x\""] := by
  have hcontent : content.toList =
      encode "a\rb".toList ++ newline :: (encode hit.text.toList ++ [newline]) := by
    rw [content, Bytes.toList_ofString]
    rfl
  have hfile : tree.find? ["m.py"] = some (.file content false) := by
    simp [FileTree.find?, tree, System.root]
  have hread : tree.read "m.py" = .ok content := FileTree.read_name (by decide) hfile
  refine ⟨?_, hread, ?_⟩
  · obtain ⟨_, b', hlines, -, hrest⟩ := Bytes.lines_of_newline (by decide) hcontent
    obtain ⟨l, hlines', hl⟩ := Bytes.exists_lines_eq (by decide) hrest
    have hnul : 0 ∉ content.toList := by
      rw [hcontent]
      decide
    have hline : content.beforeNul.lines[1]? = some l := by
      rw [Bytes.beforeNul_eq_self hnul, hlines, hlines']
      rfl
    have hselects : DeclarationPattern.free.byteRegex.selects l.word = true := by
      rw [Bytes.word_eq, hl, DeclarationPattern.selects_encode (by decide)]
      exact ⟨['x'], DeclarationPattern.declares_name (by simp) ['x'], trivial⟩
    have hlimit : (encode (TreeSearch.record true "m.py" 2 [])).length + l.toList.length ≤
        lineLimit := by
      rw [hl]
      decide
    have hmem := TreeSearch.mem_hitsIn (n := 2) (by decide) (by decide) hline hselects (by decide)
      hlimit
    rwa [hl, Utf8.decode_encode] at hmem
  · have hlines : textLinesOf content.toList =
        [encode ['a'], encode ['b'], encode hit.text.toList] := by
      rw [hcontent]
      decide
    rw [viewport_eq_ok hread ⟨by decide, fun _ _ => by decide⟩ (by decide), textWindow_eq, hlines]
    show Except.ok [String.ofList (decode _), String.ofList (decode _), String.ofList (decode _)] = _
    simp only [Utf8.decode_encode]
    rfl

end AddonAtlas
