import AddonAtlas.Proofs.FileTree
import AddonAtlas.Proofs.Navigation.TextLines
import AddonAtlas.Proofs.Text.Replacement

/-!
# Windows of a file

The lines of a text are what stands between its line ends (`CutInLines`), and there is one way to
cut a text into them (`CutInLines.textLinesOf_eq`). It does not matter whether a file is cut before
it is decoded or after, since no line end is made or lost by decoding (`CutInLines.decode`).

A window shows the lines from its first one on, as many as are asked for and there are
(`viewport_of_le`). So windows that begin one behind the other show all lines of the file, each
once (`flatMap_windows`).
-/

namespace AddonAtlas

open Bytes (newline carriageReturn)

/-! ## Cutting a text -/

/-- What ends a line, in front of the rest of the text : a newline, a carriage return and a newline,
or a carriage return that stands alone. -/
inductive EndsLine {α : Type} (cr nl : α) : (ending rest : List α) → Prop
  | single {rest : List α} : EndsLine cr nl [nl] rest
  | pair {rest : List α} : EndsLine cr nl [cr, nl] rest
  | stray {rest : List α} (alone : rest.head? ≠ some nl) : EndsLine cr nl [cr] rest

/-- A text and its lines without their ends. A last line without an end counts if it is not empty. -/
inductive CutInLines {α : Type} (cr nl : α) : List α → List (List α) → Prop
  | nothing : CutInLines cr nl [] []
  | last {line : List α} (hcr : cr ∉ line) (hnl : nl ∉ line) (ne : line ≠ []) :
    CutInLines cr nl line [line]
  | ended {line ending rest : List α} {lines : List (List α)} (hcr : cr ∉ line) (hnl : nl ∉ line)
      (ends : EndsLine cr nl ending rest) (cut : CutInLines cr nl rest lines) :
    CutInLines cr nl (line ++ (ending ++ rest)) (line :: lines)

/-- No line holds what ends one. -/
theorem CutInLines.notMem {α : Type} {cr nl : α} {l : List α} {lines : List (List α)}
    (h : CutInLines cr nl l lines) : ∀ line ∈ lines, cr ∉ line ∧ nl ∉ line := by
  induction h with
  | nothing => exact fun _ hmem => absurd hmem List.not_mem_nil
  | last hcr hnl ne => exact List.forall_mem_singleton.2 ⟨hcr, hnl⟩
  | ended hcr hnl ends cut ih => exact List.forall_mem_cons.2 ⟨⟨hcr, hnl⟩, ih⟩

/-- A text is cut into its lines in one way. -/
theorem CutInLines.textLinesOf_eq {l : List UInt8} {lines : List (List UInt8)}
    (h : CutInLines carriageReturn newline l lines) : textLinesOf l = lines := by
  induction h with
  | nothing => rfl
  | last hcr hnl ne => exact textLinesOf_of_notMem hnl hcr ne
  | @ended line ending rest lines hcr hnl ends cut ih =>
    refine textLinesOf_append hnl hcr ?_
    rw [← ih]
    cases ends with
    | single => exact textLinesOf_newline rest
    | pair => exact textLinesOf_pair rest
    | stray alone => exact textLinesOf_stray alone

/-- Every text is cut into its lines, from its first end of a line on. -/
theorem cutInLines_textLinesOf (l : List UInt8) :
    CutInLines carriageReturn newline l (textLinesOf l) := by
  induction hn : l.length using Nat.strongRecOn generalizing l with
  | _ n ih =>
    subst hn
    cases hfind : l.find? (fun c => c == newline || c == carriageReturn) with
    | none =>
      have hfree := List.find?_eq_none.1 hfind
      have hnl : newline ∉ l := fun hmem => by simpa using hfree _ hmem
      have hcr : carriageReturn ∉ l := fun hmem => by simpa using hfree _ hmem
      by_cases hne : l = []
      · subst hne
        exact .nothing
      · rw [textLinesOf_of_notMem hnl hcr hne]
        exact .last hcr hnl hne
    | some c =>
      obtain ⟨hc, line, rest, rfl, hfree⟩ := List.find?_eq_some_iff_append.1 hfind
      have hnl : newline ∉ line := fun hmem => by simpa using hfree _ hmem
      have hcr : carriageReturn ∉ line := fun hmem => by simpa using hfree _ hmem
      have hends : c = newline ∨ c = carriageReturn := by simpa using hc
      rcases hends with rfl | rfl
      · rw [textLinesOf_append hnl hcr (textLinesOf_newline rest)]
        exact .ended hcr hnl .single (ih _ (by simp; omega) rest rfl)
      · by_cases hpair : rest.head? = some newline
        · obtain ⟨rest, rfl⟩ := List.head?_eq_some_iff.1 hpair
          rw [textLinesOf_append hnl hcr (textLinesOf_pair rest)]
          exact .ended hcr hnl .pair (ih _ (by simp; omega) rest rfl)
        · rw [textLinesOf_append hnl hcr (textLinesOf_stray hpair)]
          exact .ended hcr hnl (.stray hpair) (ih _ (by simp; omega) rest rfl)

/-! ## Decoding lines -/

theorem decode_ne_nil {l : List UInt8} (h : l ≠ []) : Utf8.decode l ≠ [] := by
  obtain ⟨b, rest, rfl⟩ := List.exists_cons_of_ne_nil h
  rw [Utf8.decode_cons]
  exact List.cons_ne_nil _ _

/-- The text of a line holds none of the characters that end one. -/
theorem notMem_decode {line : List UInt8} (hcr : carriageReturn ∉ line) (hnl : newline ∉ line) :
    '\r' ∉ Utf8.decode line ∧ '\n' ∉ Utf8.decode line :=
  ⟨fun hmem => hcr (Utf8.byte_mem_of_mem_decode (c := '\r') (by decide) (by decide) hmem),
    fun hmem => hnl (Utf8.byte_mem_of_mem_decode (c := '\n') (by decide) (by decide) hmem)⟩

/-- A text begins with a newline only if its bytes do. -/
theorem head?_decode_ne {l : List UInt8} (h : l.head? ≠ some newline) :
    (Utf8.decode l).head? ≠ some '\n' := by
  cases l with
  | nil => simp
  | cons b rest =>
    rw [Utf8.decode_cons, List.head?_cons]
    intro hshown
    refine h (congrArg some ?_)
    exact Utf8.eq_byte_of_shown (c := '\n') (by decide) (by decide) (Option.some.inj hshown)

/-- What ends a line ends its text, and what stands around it is decoded apart. -/
theorem EndsLine.decode {ending rest : List UInt8} (h : EndsLine carriageReturn newline ending rest) :
    ∃ ending', EndsLine '\r' '\n' ending' (Utf8.decode rest) ∧ ∀ line,
      Utf8.decode (line ++ (ending ++ rest)) = Utf8.decode line ++ (ending' ++ Utf8.decode rest) := by
  have hnewline := Utf8.decode_append_byte (c := '\n') (by decide)
  have hreturn := Utf8.decode_append_byte (c := '\r') (by decide)
  cases h with
  | single => exact ⟨_, .single, fun line => hnewline line rest⟩
  | pair =>
    refine ⟨_, .pair, fun line => (hreturn line (newline :: rest)).trans ?_⟩
    have hrest := hnewline [] rest
    rw [List.nil_append, Utf8.decode_nil, List.nil_append] at hrest
    exact congrArg (Utf8.decode line ++ '\r' :: ·) hrest
  | stray alone => exact ⟨_, .stray (head?_decode_ne alone), fun line => hreturn line rest⟩

/-- The lines of a text that is decoded are its lines, decoded. -/
theorem CutInLines.decode {l : List UInt8} {lines : List (List UInt8)}
    (h : CutInLines carriageReturn newline l lines) :
    CutInLines '\r' '\n' (Utf8.decode l) (lines.map Utf8.decode) := by
  induction h with
  | nothing =>
    rw [Utf8.decode_nil]
    exact .nothing
  | last hcr hnl ne =>
    obtain ⟨hcr', hnl'⟩ := notMem_decode hcr hnl
    exact .last hcr' hnl' (decode_ne_nil ne)
  | ended hcr hnl ends cut ih =>
    obtain ⟨hcr', hnl'⟩ := notMem_decode hcr hnl
    obtain ⟨ending', hends, heq⟩ := ends.decode
    rw [heq]
    exact .ended hcr' hnl' hends ih

/-! ## Windows -/

theorem inRange_eq_true {n : Int} : inRange n = true ↔ -maxBound - 1 ≤ n ∧ n ≤ maxBound := by
  simp [inRange]

theorem windowFailure?_eq_none {start count : Int} (hstart : 0 ≤ start) (hcount : 0 ≤ count) :
    windowFailure? start (start + count) = none ↔ start + count ≤ maxBound := by
  have hbound : 0 < maxBound := by decide
  constructor
  · intro hw
    by_contra hlt
    have hout : inRange (start + count) = false := by
      rw [Bool.eq_false_iff, ne_eq, inRange_eq_true]
      exact fun h => hlt h.2
    simp [windowFailure?, hout] at hw
  · intro hle
    have hstop := inRange_eq_true.2 ⟨by omega, hle⟩
    have hfirst : inRange start = true := inRange_eq_true.2 ⟨by omega, by omega⟩
    rw [windowFailure?, hfirst, hstop, if_neg (by simp; omega), if_neg (by simp; omega)]

/-- A window of a file that can be read is shown, if its bounds can be represented. -/
theorem viewport_of_le {t : FileTree} {target : NavigationTarget} {content : Bytes}
    (hpath : '\x00' ∉ target.path.toList) (hread : t.read target.path = .ok content)
    {count : Int} (hline : 1 ≤ target.line) (hcount : 0 ≤ count)
    (hle : target.line - 1 + count ≤ maxBound) :
    viewport t target count =
      .ok (textWindow content (target.line - 1) (target.line - 1 + count)) := by
  have hwindow := (windowFailure?_eq_none (by omega) hcount).2 hle
  rw [viewport, if_neg (by simpa using hpath), hread]
  simp only [hwindow]

/-- The text of a line. -/
def lineText (line : List UInt8) : String :=
  String.ofList (Utf8.decode line)

/-- What is shown of a file, from a line on. -/
theorem viewport_eq_lines {t : FileTree} {path : String} {content : Bytes}
    (hpath : '\x00' ∉ path.toList) (hread : t.read path = .ok content) {line count : Int}
    (hline : 1 ≤ line) (hcount : 0 ≤ count) (hle : line - 1 + count ≤ maxBound) :
    viewport t ⟨path, line⟩ count =
      .ok ((((textLinesOf content.toList).map lineText).drop (line - 1).toNat).take
        count.toNat) := by
  have hsize : line - 1 + count - (line - 1) = count := by omega
  rw [viewport_of_le hpath hread hline hcount hle, textWindow_eq, hsize, ← List.map_drop,
    ← List.map_take]
  rfl

/-- Windows of one size that begin one behind the other hold what they reach, each member once. -/
theorem flatMap_windows {α : Type} (l : List α) (size n : Nat) :
    ((List.range n).flatMap fun k => (l.drop (k * size)).take size) = l.take (n * size) := by
  induction n with
  | zero => simp
  | succ n ih =>
    rw [List.range_succ, List.flatMap_append, ih, List.flatMap_singleton, Nat.succ_mul,
      List.take_add]

/-- The windows of a file. The file has lines, in one way, and they are the same whether it is cut or
decoded first. A window whose bounds can be represented shows its lines from the first one on, as many
as it has room for and there are, and no end of a line. Windows of one size that begin one behind the
other show as many lines as they reach, in order and each once, and so all lines if they reach the
end. -/
theorem windows_tile {t : FileTree} {path : String} {content : Bytes}
    (hpath : '\x00' ∉ path.toList) (hread : t.read path = .ok content) :
    ∃ lines : List (List UInt8),
      (∀ lines', CutInLines carriageReturn newline content.toList lines' ↔ lines' = lines) ∧
      CutInLines '\r' '\n' (Utf8.decode content.toList) (lines.map Utf8.decode) ∧
      (∀ line count : Int, 1 ≤ line → 0 ≤ count → line - 1 + count ≤ maxBound →
        ∃ shown, viewport t ⟨path, line⟩ count = .ok shown ∧
          shown = ((lines.drop (line - 1).toNat).take count.toNat).map lineText ∧
          (shown.length : Int) = min count (max 0 (lines.length - (line - 1))) ∧
          ∀ s ∈ shown, '\r' ∉ s.toList ∧ '\n' ∉ s.toList) ∧
      ∀ size n : Nat, ((n * size : Nat) : Int) ≤ maxBound →
        ∃ window : Nat → List String,
          (∀ k < n, viewport t ⟨path, 1 + (k * size : Nat)⟩ size = .ok (window k)) ∧
          (List.range n).flatMap window = (lines.take (n * size)).map lineText ∧
          (lines.length ≤ n * size → (List.range n).flatMap window = lines.map lineText) := by
  have hcut := cutInLines_textLinesOf content.toList
  refine ⟨textLinesOf content.toList, fun lines' => ?_, hcut.decode,
    fun line count hline hcount hle => ?_, fun size n hle => ?_⟩
  · exact ⟨fun h => h.textLinesOf_eq.symm, fun h => h ▸ hcut⟩
  · refine ⟨_, viewport_eq_lines hpath hread hline hcount hle, by rw [List.map_take, List.map_drop],
      ?_, fun s hs => ?_⟩
    · rw [List.length_take, List.length_drop, List.length_map]
      omega
    · obtain ⟨l, hl, rfl⟩ := List.mem_map.1 (List.mem_of_mem_drop (List.mem_of_mem_take hs))
      obtain ⟨hcr, hnl⟩ := hcut.notMem l hl
      rw [lineText, String.toList_ofList]
      exact notMem_decode hcr hnl
  · have htile := flatMap_windows ((textLinesOf content.toList).map lineText) size n
    refine ⟨fun k => (((textLinesOf content.toList).map lineText).drop (k * size)).take size,
      fun k hk => ?_, by rw [htile, List.map_take],
      fun hall => by rw [htile, List.take_of_length_le (by simpa using hall)]⟩
    have hnext : (k + 1) * size ≤ n * size := Nat.mul_le_mul_right size hk
    rw [Nat.succ_mul] at hnext
    have hstart : (1 + ((k * size : Nat) : Int) - 1).toNat = k * size := by omega
    rw [viewport_eq_lines hpath hread (by omega) (by omega) (by omega), hstart, Int.toNat_natCast]

/-- A working directory with one file. -/
def oneFile (content : Bytes) : FileTree :=
  ⟨[(["m.py"], .file content false)], []⟩

/-- Any content may be that of a file that can be read. -/
theorem read_oneFile (content : Bytes) : (oneFile content).read "m.py" = .ok content := by
  have hfile : (oneFile content).find? ["m.py"] = some (.file content false) := by
    simp [FileTree.find?, oneFile, System.root]
  exact FileTree.read_name (by decide) hfile

/-- Lines that end in each way there is, and one that does not end. -/
def mixedEnds : Bytes := .ofList [97, 13, 98, 13, 10, 10, 99]

theorem windows_tile_mixedEnds :
    '\x00' ∉ "m.py".toList ∧ (oneFile mixedEnds).read "m.py" = .ok mixedEnds ∧
      ((2 * 2 : Nat) : Int) ≤ maxBound ∧
      ∃ window : Nat → List String,
        (∀ k < 2, viewport (oneFile mixedEnds) ⟨"m.py", 1 + (k * 2 : Nat)⟩ 2 = .ok (window k)) ∧
          (List.range 2).flatMap window = ["a", "b", "", "c"] := by
  have hpath : '\x00' ∉ "m.py".toList := by decide
  have hread := read_oneFile mixedEnds
  have hle : ((2 * 2 : Nat) : Int) ≤ maxBound := by decide
  obtain ⟨lines, hcut, -, -, htile⟩ := windows_tile hpath hread
  have hlines : lines = [Utf8.encode ['a'], Utf8.encode ['b'], Utf8.encode [], Utf8.encode ['c']] := by
    rw [← (hcut _).1 (cutInLines_textLinesOf _), mixedEnds, Bytes.toList_ofList]
    decide
  obtain ⟨window, hview, -, hall⟩ := htile 2 2 hle
  refine ⟨hpath, hread, hle, window, hview, ?_⟩
  rw [hall (by simp [hlines]), hlines]
  simp only [List.map_cons, List.map_nil, lineText, Utf8.decode_encode]

end AddonAtlas
