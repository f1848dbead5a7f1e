import AddonAtlas.Bytes
import AddonAtlas.Number.Instances

/-!
# Reading lines from arrivals

Output arrives in pieces. A `Reader` holds what has arrived and was not consumed, and what is still to
come. It gives out whole lines up to a limit. A longer line overruns the limit: nothing is consumed
then, and the reader says how many bytes it has looked at in vain. `discardLine` consumes one line of
any length; every overrun it meets makes progress, which is what `remaining` measures.
-/

namespace AddonAtlas

namespace Bytes

theorem size_ofByteArray (a : ByteArray) : (ofByteArray a).size = a.size := by
  simp [ofByteArray, size]

theorem size_toByteArray (b : Bytes) : b.toByteArray.size = b.size := by
  have h := b.stop_le_size
  simp only [toByteArray, size, ByteArray.size_extract]
  omega

theorem size_eq_zero_of_isEmpty {b : Bytes} (h : b.isEmpty = true) : b.size = 0 := by
  simp only [isEmpty, beq_iff_eq] at h
  simp [size, h]

@[simp] theorem size_append (a b : Bytes) : (a ++ b).size = a.size + b.size := by
  show (append a b).size = _
  unfold append
  split
  · next h => simp [size_eq_zero_of_isEmpty h]
  · split
    · next h => simp [size_eq_zero_of_isEmpty h]
    · simp [size_ofByteArray, size_toByteArray]

theorem size_drop (b : Bytes) (n : Nat) : (b.drop n).size = b.size - n := by
  simp only [size, drop]
  omega

theorem size_take (b : Bytes) (n : Nat) : (b.take n).size = min n b.size := by
  have h := b.start_le_stop
  simp only [size, take]
  omega

theorem findIdxFrom?_lt {b : Bytes} {p : UInt8 → Bool} {i j : Nat}
    (h : b.findIdxFrom? p i = some j) : j < b.size := by
  fun_induction findIdxFrom? b p i with
  | case1 i hi hp =>
    cases h
    simp only [size]
    omega
  | case2 i hi hp ih => exact ih h
  | case3 i hi => cases h

end Bytes

/-- What has arrived and what will arrive. -/
structure Reader where
  /-- The longest line, without its newline, that is given out. -/
  limit : Nat
  /-- What has arrived and was not consumed. -/
  buffer : Bytes
  /-- What is still to arrive, piece by piece. -/
  pending : List Bytes

/-- The outcome of asking for a line. -/
inductive LineRead
  /-- A line with its newline. -/
  | line (bytes : Bytes)
  /-- The line is longer than the limit; so many bytes before its newline are known. -/
  | overrun (known : Nat)
  /-- What stood after the last newline; the output has ended. -/
  | rest (bytes : Bytes)

namespace Reader

/-- The number of bytes not consumed yet. -/
def remaining (r : Reader) : Nat :=
  r.buffer.size + (r.pending.map Bytes.size).sum

/-- What can be said of the next line from what has arrived, when the first `offset` bytes of it are
known to hold no newline: nothing as long as the line may still fit the limit. -/
def arrived? (limit : Nat) (buffer : Bytes) (offset : Nat) (pending : List Bytes) :
    Option (LineRead × Reader) :=
  match buffer.findIdxFrom? (· == Bytes.newline) offset with
  | some i =>
    if limit < i then some (.overrun i, ⟨limit, buffer, pending⟩)
    else some (.line (buffer.take (i + 1)), ⟨limit, buffer.drop (i + 1), pending⟩)
  | none =>
    if limit < buffer.size then some (.overrun buffer.size, ⟨limit, buffer, pending⟩) else none

/-- Asks for a line of which the first `offset` bytes in `buffer` are known to hold no newline. -/
def readLineFrom (limit : Nat) (buffer : Bytes) (offset : Nat) : List Bytes → LineRead × Reader
  | [] => (arrived? limit buffer offset []).getD (.rest buffer, ⟨limit, Bytes.empty, []⟩)
  | piece :: later =>
    match arrived? limit buffer offset (piece :: later) with
    | some answer => answer
    | none => readLineFrom limit (buffer ++ piece) buffer.size later

/-- Asks for the next line. -/
def readLine (r : Reader) : LineRead × Reader :=
  readLineFrom r.limit r.buffer 0 r.pending

/-- Consumes bytes that have arrived. -/
def skip (r : Reader) (n : Nat) : Reader :=
  { r with buffer := r.buffer.drop n }

/-! ## Progress -/

/-- An answer accounts for all bytes: those it gives out and those that remain. -/
def Accounts (total : Nat) : LineRead × Reader → Prop
  | (.line b, r) => 0 < b.size ∧ b.size + r.remaining = total
  | (.overrun n, r) => 0 < n ∧ n ≤ r.buffer.size ∧ r.remaining = total
  | (.rest b, r) => b.size = total ∧ r.remaining = 0

theorem accounts_arrived? {limit : Nat} {buffer : Bytes} {offset : Nat} {pending : List Bytes}
    {answer : LineRead × Reader} (h : arrived? limit buffer offset pending = some answer) :
    Accounts (buffer.size + (pending.map Bytes.size).sum) answer := by
  unfold arrived? at h
  split at h
  · next i hi =>
    have := Bytes.findIdxFrom?_lt hi
    split at h <;> cases h
    · exact ⟨by omega, by simp only; omega, rfl⟩
    · simp only [Accounts, remaining, Bytes.size_take, Bytes.size_drop]
      omega
  · split at h <;> cases h
    exact ⟨by omega, Nat.le_refl _, rfl⟩

theorem accounts_readLineFrom (limit : Nat) (buffer : Bytes) (offset : Nat)
    (pending : List Bytes) :
    Accounts (buffer.size + (pending.map Bytes.size).sum)
      (readLineFrom limit buffer offset pending) := by
  fun_induction readLineFrom limit buffer offset pending with
  | case1 buffer offset =>
    cases h : arrived? limit buffer offset [] with
    | some answer => exact accounts_arrived? h
    | none => simp [Accounts, remaining, Bytes.size, Bytes.empty, Bytes.ofByteArray]
  | case2 buffer offset piece later answer h => exact accounts_arrived? h
  | case3 buffer offset piece later h ih =>
    simpa [Nat.add_assoc] using ih

theorem accounts_readLine (r : Reader) : Accounts r.remaining r.readLine :=
  accounts_readLineFrom r.limit r.buffer 0 r.pending

theorem readLine_line {r r' : Reader} {b : Bytes} (h : r.readLine = (.line b, r')) :
    0 < b.size ∧ b.size + r'.remaining = r.remaining := by
  have := accounts_readLine r
  rwa [h] at this

theorem readLine_overrun {r r' : Reader} {n : Nat} (h : r.readLine = (.overrun n, r')) :
    0 < n ∧ n ≤ r'.buffer.size ∧ r'.remaining = r.remaining := by
  have := accounts_readLine r
  rwa [h] at this

theorem readLine_rest {r r' : Reader} {b : Bytes} (h : r.readLine = (.rest b, r')) :
    b.size = r.remaining ∧ r'.remaining = 0 := by
  have := accounts_readLine r
  rwa [h] at this

theorem remaining_skip {r : Reader} {n : Nat} (h : n ≤ r.buffer.size) :
    (r.skip n).remaining + n = r.remaining := by
  simp only [remaining, skip, Bytes.size_drop]
  omega

/-! ## Lines of any length -/

/-- Consumes the next line, whatever its length, and counts its bytes onto `count`. -/
def discardOnto (count : Nat) (r : Reader) : Nat × Reader :=
  match _h : r.readLine with
  | (.line b, r') => (count + b.size, r')
  | (.overrun n, r') => discardOnto (count + n) (r'.skip n)
  | (.rest b, r') => (count + b.size, r')
termination_by r.remaining
decreasing_by
  have h₁ := readLine_overrun _h
  have h₂ := remaining_skip h₁.2.1
  omega

/-- Consumes the next line, whatever its length, newline included, and counts its bytes. -/
def discardLine (r : Reader) : Nat × Reader :=
  discardOnto 0 r

theorem remaining_discardOnto (count : Nat) (r : Reader) :
    (discardOnto count r).1 + (discardOnto count r).2.remaining = count + r.remaining := by
  fun_induction discardOnto count r with
  | case1 count r b r' h =>
    have := readLine_line h
    simp only
    omega
  | case2 count r n r' h ih =>
    have h₁ := readLine_overrun h
    have h₂ := remaining_skip h₁.2.1
    omega
  | case3 count r b r' h =>
    have := readLine_rest h
    simp only
    omega

theorem le_discardOnto (count : Nat) (r : Reader) : count ≤ (discardOnto count r).1 := by
  fun_induction discardOnto count r with
  | case1 => exact Nat.le_add_right _ _
  | case2 count r n r' h ih => omega
  | case3 => exact Nat.le_add_right _ _

/-- After an overrun there are bytes to discard. -/
theorem remaining_discardLine_lt {r r' : Reader} {n : Nat} (h : r.readLine = (.overrun n, r')) :
    r'.discardLine.2.remaining < r.remaining := by
  have h₁ := readLine_overrun h
  have h₂ := remaining_discardOnto 0 r'
  have h₃ : 0 < r'.discardLine.1 := by
    unfold discardLine discardOnto
    split
    · next b r'' hb => have := readLine_line hb; omega
    · next m r'' hm =>
      have := readLine_overrun hm
      exact Nat.lt_of_lt_of_le (by omega) (le_discardOnto (0 + m) _)
    · next b r'' hb =>
      have := readLine_rest hb
      have : 0 < r'.remaining := by
        simp only [remaining] at *
        omega
      simp only
      omega
  simp only [discardLine] at *
  omega

end Reader

end AddonAtlas
