import AddonAtlas.Number.Instances
import AddonAtlas.Proofs.Text.Ending
import AddonAtlas.Proofs.Text.Utf8

/-!
# Bytes that are no text

`Utf8.decode` reads any bytes, with a replacement character for each malformed unit. The byte of
a character below 0x80 belongs to no other unit, and ends a unit that is not finished. So bytes
may be cut there before or after they are decoded (`decode_append_byte`), and nothing else comes
to this character (`byte_mem_of_mem_decode`). It may also be taken off the end of a line before or
after the line is decoded (`dropEndWhile_decode`).
-/

namespace AddonAtlas.Utf8

/-- Behind a byte that continues nothing, more bytes change of a unit only why it is malformed. -/
theorem continueUnit_append {b : UInt8} (hb : b < 0x80) (rest : List UInt8)
    (bits needed used : Nat) {low : UInt8} (hlow : 0x80 ≤ low) (high : UInt8) (bs : List UInt8) :
    (continueUnit bits needed low high used (bs ++ b :: rest)).shown =
        (continueUnit bits needed low high used bs).shown ∧
      (continueUnit bits needed low high used (bs ++ b :: rest)).length =
        (continueUnit bits needed low high used bs).length ∧
      (continueUnit bits needed low high used bs).length ≤ used + bs.length := by
  induction needed generalizing bits used low high bs with
  | zero => exact ⟨rfl, rfl, Nat.le_add_right _ _⟩
  | succ needed ih =>
    cases bs with
    | nil =>
      have hout : ¬(low ≤ b ∧ b ≤ high) := fun h =>
        UInt8.not_le.2 hb (UInt8.le_trans hlow h.1)
      rw [List.nil_append, continueUnit, continueUnit, if_neg hout]
      exact ⟨rfl, rfl, Nat.le_add_right _ _⟩
    | cons c cs =>
      rw [List.cons_append, continueUnit, continueUnit]
      split
      · obtain ⟨hshown, hlength, hle⟩ :=
          ih (bits * 64 + (c.toNat - 0x80)) (used + 1) (UInt8.le_refl _) 0xBF cs
        exact ⟨hshown, hlength, by rw [List.length_cons]; omega⟩
      · exact ⟨rfl, rfl, Nat.le_add_right _ _⟩

/-- A first byte sets bounds that a byte below 0x80 does not keep, and that leave no room for a
character below 0x80. -/
theorem bounds_of_lead? {b : UInt8} {l : Lead} (h : lead? b = some l) :
    0x80 ≤ l.low ∧
      ∃ k, l.needed = k + 1 ∧ 0x80 ≤ (l.bits * 64 + (l.low.toNat - 0x80)) * 64 ^ k := by
  obtain ⟨n, hn, rfl⟩ : ∃ n, n < 256 ∧ b = UInt8.ofNat n := ⟨b.toNat, b.toNat_lt, by simp⟩
  have h₁ : (0x80 : UInt8).toNat = 0x80 := rfl
  have h₂ : (0x90 : UInt8).toNat = 0x90 := rfl
  have h₃ : (0xA0 : UInt8).toNat = 0xA0 := rfl
  rw [lead?_ofNat hn] at h
  repeat' split at h
  all_goals simp only [reduceCtorEq, Option.some.injEq] at h
  all_goals
    subst h
    refine ⟨UInt8.le_iff_toNat_le.2 ?_, _, rfl, ?_⟩ <;> simp only [h₁, h₂, h₃] <;> omega

theorem readUnit_append {b : UInt8} (hb : b < 0x80) (rest : List UInt8) (b₀ : UInt8)
    (bs : List UInt8) :
    (readUnit b₀ (bs ++ b :: rest)).shown = (readUnit b₀ bs).shown ∧
      (readUnit b₀ (bs ++ b :: rest)).length = (readUnit b₀ bs).length ∧
      (readUnit b₀ bs).length ≤ 1 + bs.length := by
  rw [readUnit, readUnit]
  split
  · exact ⟨rfl, rfl, Nat.le_add_right _ _⟩
  · cases hl : lead? b₀ with
    | none => exact ⟨rfl, rfl, Nat.le_add_right _ _⟩
    | some l => exact continueUnit_append hb rest l.bits l.needed 1 (bounds_of_lead? hl).1 l.high bs

@[simp] theorem decode_nil : decode [] = [] := by
  simp [decode, units, unitsOnto]

theorem decode_cons (b : UInt8) (rest : List UInt8) :
    decode (b :: rest) =
      (readUnit b rest).shown :: decode (rest.drop ((readUnit b rest).length - 1)) := by
  rw [decode, units_cons, List.map_cons, decode]

theorem byte_lt {c : Char} (hc : c.toNat < 0x80) : byte c < 0x80 := by
  rw [UInt8.lt_iff_toNat_lt, byte, toNat_ofNat (by omega)]
  exact hc

theorem readUnit_byte {c : Char} (hc : c.toNat < 0x80) (rest : List UInt8) :
    readUnit (byte c) rest = .char c 1 := by
  rw [readUnit, if_pos (byte_lt hc), byte, toNat_ofNat (by omega), Char.ofNat_toNat]

/-- Bytes are cut at a character of one byte before or after they are decoded. -/
theorem decode_append_byte {c : Char} (hc : c.toNat < 0x80) (bs rest : List UInt8) :
    decode (bs ++ byte c :: rest) = decode bs ++ c :: decode rest := by
  induction hn : bs.length using Nat.strongRecOn generalizing bs with
  | _ n ih =>
    subst hn
    cases bs with
    | nil =>
      rw [List.nil_append, decode_cons, readUnit_byte hc]
      simp [Unit.shown, Unit.length]
    | cons b₀ bs =>
      obtain ⟨hshown, hlength, hle⟩ := readUnit_append (byte_lt hc) rest b₀ bs
      have hshorter : (bs.drop ((readUnit b₀ bs).length - 1)).length < (b₀ :: bs).length := by
        simp only [List.length_drop, List.length_cons]
        omega
      rw [List.cons_append, decode_cons, hshown, hlength,
        List.drop_append_of_le_length (by omega), ih _ hshorter _ rfl, decode_cons,
        List.cons_append]

/-! ## What comes to a character of one byte -/

/-- The bits of a character are at least those of its first bytes. -/
theorem le_of_continueUnit {bits needed used : Nat} {low high : UInt8} {bs : List UInt8}
    {c : Char} {n : Nat} (h : continueUnit bits (needed + 1) low high used bs = .char c n) :
    ∃ v, c = Char.ofNat v ∧ (bits * 64 + (low.toNat - 0x80)) * 64 ^ needed ≤ v := by
  induction needed generalizing bits used low high bs with
  | zero =>
    cases bs with
    | nil => cases h
    | cons b rest =>
      rw [continueUnit] at h
      split at h
      · next hb =>
        rw [continueUnit] at h
        have hle := UInt8.le_iff_toNat_le.1 hb.1
        exact ⟨_, (Unit.char.inj h).1.symm, by omega⟩
      · cases h
  | succ needed ih =>
    cases bs with
    | nil => cases h
    | cons b rest =>
      rw [continueUnit] at h
      split at h
      · next hb =>
        obtain ⟨v, rfl, hv⟩ := ih h
        have hle := UInt8.le_iff_toNat_le.1 hb.1
        refine ⟨v, rfl, Nat.le_trans ?_ hv⟩
        rw [Nat.pow_succ', ← Nat.mul_assoc]
        exact Nat.mul_le_mul_right _ (by omega)
      · cases h

theorem toNat_charOfNat {n : Nat} (h : n.isValidChar) : (Char.ofNat n).toNat = n := by
  rw [Char.ofNat, dif_pos h]
  rfl

/-- A character of one byte, NUL apart, is read from its byte only. -/
theorem eq_byte_of_shown {b : UInt8} {rest : List UInt8} {c : Char} (hc : c.toNat < 0x80)
    (h0 : c ≠ '\x00') (h : (readUnit b rest).shown = c) : b = byte c := by
  have hreplaced : '\uFFFD' ≠ c := fun he => by
    rw [← he] at hc
    exact absurd hc (by decide)
  rw [readUnit] at h
  split at h
  · next hb =>
    have hvalid : Nat.isValidChar b.toNat := .inl (by
      have := UInt8.lt_iff_toNat_lt.1 hb
      have : (0x80 : UInt8).toNat = 0x80 := rfl
      omega)
    rw [← h, byte, Unit.shown, toNat_charOfNat hvalid, UInt8.ofNat_toNat]
  · cases hl : lead? b with
    | none =>
      rw [hl] at h
      exact absurd h hreplaced
    | some l =>
      simp only [hl] at h
      obtain ⟨-, k, hk, hle⟩ := bounds_of_lead? hl
      rw [hk] at h
      cases hunit : continueUnit l.bits (k + 1) l.low l.high 1 rest with
      | malformed fault n =>
        rw [hunit] at h
        exact absurd h hreplaced
      | char d n =>
        rw [hunit] at h
        obtain rfl : d = c := h
        obtain ⟨v, rfl, hv⟩ := le_of_continueUnit hunit
        -- a number that is no character is read as NUL
        by_cases hvalid : v.isValidChar
        · rw [toNat_charOfNat hvalid] at hc
          omega
        · refine absurd ?_ h0
          rw [Char.ofNat, dif_neg hvalid]
          rfl

theorem byte_mem_of_mem_decode {c : Char} (hc : c.toNat < 0x80) (h0 : c ≠ '\x00')
    {bs : List UInt8} (h : c ∈ decode bs) : byte c ∈ bs := by
  induction hn : bs.length using Nat.strongRecOn generalizing bs with
  | _ n ih =>
    subst hn
    cases bs with
    | nil => simp at h
    | cons b rest =>
      rw [decode_cons] at h
      rcases List.mem_cons.1 h with h | h
      · rw [eq_byte_of_shown hc h0 h.symm]
        exact List.mem_cons_self
      · have hshorter : (rest.drop ((readUnit b rest).length - 1)).length <
            (b :: rest).length := by
          simp only [List.length_drop, List.length_cons]
          omega
        exact List.mem_cons_of_mem _ (List.mem_of_mem_drop (ih _ hshorter h rfl))

/-! ## Characters at the end -/

theorem decode_append_replicate {c : Char} (hc : c.toNat < 0x80) (bs : List UInt8) (k : Nat) :
    decode (bs ++ List.replicate k (byte c)) = decode bs ++ List.replicate k c := by
  induction k with
  | zero => simp
  | succ k ih =>
    rw [List.replicate_succ', ← List.append_assoc, decode_append_byte hc, ih, decode_nil,
      List.replicate_succ', List.append_assoc]

theorem dropEndWhile_decode {c : Char} (hc : c.toNat < 0x80) (h0 : c ≠ '\x00') {bs : List UInt8}
    (h : byte c ∉ bs) (k : Nat) :
    Text.dropEndWhile (· == c) (decode (bs ++ List.replicate k (byte c))) = decode bs := by
  rw [decode_append_replicate hc]
  refine Text.dropEndWhile_append (fun d hd => beq_false_of_ne ?_) fun d hd => ?_
  · rintro rfl
    exact h (byte_mem_of_mem_decode hc h0 hd)
  · rw [List.eq_of_mem_replicate hd]
    exact beq_self_eq_true c

end AddonAtlas.Utf8
