import AddonAtlas.Text.Utf8

/-!
# Encoding and decoding

`Utf8.encode` is what `Utf8.decode` undoes (`decode_encode`), so texts of different characters
have different bytes. The encoding can be entered anywhere : a byte that does not continue a
character begins one (`exists_encode_of_append`), so a text is found in another one exactly where
its bytes are found in the other one's bytes (`encode_infix_encode`).
-/

namespace AddonAtlas.Utf8

/-- The bytes of a text. -/
def encode (cs : List Char) : List UInt8 :=
  cs.flatMap String.utf8EncodeChar

@[simp] theorem encode_nil : encode [] = [] := rfl

@[simp] theorem encode_cons (c : Char) (cs : List Char) :
    encode (c :: cs) = String.utf8EncodeChar c ++ encode cs := rfl

@[simp] theorem encode_append (cs ds : List Char) :
    encode (cs ++ ds) = encode cs ++ encode ds :=
  List.flatMap_append

/-- Whether a byte continues a character that another byte begins. -/
def continues (b : UInt8) : Bool :=
  0x80 ≤ b && b < 0xC0

/-! ## One character -/

theorem toNat_ofNat {n : Nat} (h : n < 256) : (UInt8.ofNat n).toNat = n := by
  simp [Nat.mod_eq_of_lt h]

theorem continues_ofNat {n : Nat} (h : n < 256) :
    continues (UInt8.ofNat n) = decide (0x80 ≤ n ∧ n < 0xC0) := by
  simp [continues, UInt8.le_iff_toNat_le, UInt8.lt_iff_toNat_lt, Nat.mod_eq_of_lt h]

theorem continues_tail (n : Nat) : continues (UInt8.ofNat (n % 64 + 0x80)) = true := by
  rw [continues_ofNat (by omega), decide_eq_true_iff]
  omega

theorem tail_le (n : Nat) : n % 64 + 0x80 ≤ (0xBF : UInt8).toNat := by
  have : (0xBF : UInt8).toNat = 0xBF := rfl
  omega

theorem lead?_ofNat {n : Nat} (h : n < 256) : lead? (UInt8.ofNat n) =
    if n < 0xC2 then none
    else if n < 0xE0 then some ⟨n - 0xC0, 1, 0x80, 0xBF⟩
    else if n = 0xE0 then some ⟨0, 2, 0xA0, 0xBF⟩
    else if n = 0xED then some ⟨0xD, 2, 0x80, 0x9F⟩
    else if n < 0xF0 then some ⟨n - 0xE0, 2, 0x80, 0xBF⟩
    else if n = 0xF0 then some ⟨0, 3, 0x90, 0xBF⟩
    else if n < 0xF4 then some ⟨n - 0xF0, 3, 0x80, 0xBF⟩
    else if n = 0xF4 then some ⟨4, 3, 0x80, 0x8F⟩
    else none := by
  simp [lead?, UInt8.lt_iff_toNat_lt, ← UInt8.toNat_inj, Nat.mod_eq_of_lt h]

theorem readUnit_ofNat {n : Nat} {l : Lead} (h : n < 256) (hl : lead? (UInt8.ofNat n) = some l)
    (rest : List UInt8) :
    readUnit (UInt8.ofNat n) rest = continueUnit l.bits l.needed l.low l.high 1 rest := by
  have hn : ¬ UInt8.ofNat n < 0x80 := by
    rw [lead?_ofNat h] at hl
    rw [UInt8.lt_iff_toNat_lt, toNat_ofNat h]
    split at hl
    · cases hl
    · simp
      omega
  rw [readUnit, if_neg hn, hl]

/-- Bits that one more byte brings. -/
theorem continueUnit_ofNat {bits needed used n : Nat} {low high : UInt8} {rest : List UInt8}
    (hl : low.toNat ≤ n % 64 + 0x80) (hh : n % 64 + 0x80 ≤ high.toNat) :
    continueUnit bits (needed + 1) low high used (UInt8.ofNat (n % 64 + 0x80) :: rest) =
      continueUnit (bits * 64 + n % 64) needed 0x80 0xBF (used + 1) rest := by
  have hn : (UInt8.ofNat (n % 64 + 0x80)).toNat = n % 64 + 0x80 := toNat_ofNat (by omega)
  have hbounds : low ≤ UInt8.ofNat (n % 64 + 0x80) ∧ UInt8.ofNat (n % 64 + 0x80) ≤ high := by
    rw [UInt8.le_iff_toNat_le, UInt8.le_iff_toNat_le, hn]
    exact ⟨hl, hh⟩
  rw [continueUnit, if_pos hbounds, hn, Nat.add_sub_cancel]

/-- The first byte of a character of three bytes, and the bounds it sets the second one. -/
theorem exists_lead_three {v : Nat} (hmin : 0x7FF < v) (hmax : v ≤ 0xFFFF)
    (hs : v < 0xD800 ∨ 0xDFFF < v) :
    ∃ low high : UInt8,
      lead? (UInt8.ofNat (v / 4096 % 16 + 0xE0)) = some ⟨v / 4096 % 16, 2, low, high⟩ ∧
        low.toNat ≤ v / 64 % 64 + 0x80 ∧ v / 64 % 64 + 0x80 ≤ high.toNat := by
  rw [lead?_ofNat (by omega), if_neg (by omega), if_neg (by omega)]
  by_cases h₀ : v / 4096 % 16 = 0
  · have : (0xA0 : UInt8).toNat = 0xA0 := rfl
    rw [if_pos (by omega), h₀]
    exact ⟨0xA0, 0xBF, rfl, by omega, tail_le _⟩
  rw [if_neg (by omega)]
  by_cases h₁₃ : v / 4096 % 16 = 13
  · have : (0x9F : UInt8).toNat = 0x9F := rfl
    rw [if_pos (by omega), h₁₃]
    exact ⟨0x80, 0x9F, rfl, Nat.le_add_left .., by omega⟩
  rw [if_neg (by omega), if_pos (by omega), Nat.add_sub_cancel]
  exact ⟨0x80, 0xBF, rfl, Nat.le_add_left .., tail_le _⟩

/-- The first byte of a character of four bytes, and the bounds it sets the second one. -/
theorem exists_lead_four {v : Nat} (hmin : 0xFFFF < v) (hmax : v < 0x110000) :
    ∃ low high : UInt8,
      lead? (UInt8.ofNat (v / 262144 % 8 + 0xF0)) = some ⟨v / 262144 % 8, 3, low, high⟩ ∧
        low.toNat ≤ v / 4096 % 64 + 0x80 ∧ v / 4096 % 64 + 0x80 ≤ high.toNat := by
  rw [lead?_ofNat (by omega), if_neg (by omega), if_neg (by omega), if_neg (by omega),
    if_neg (by omega), if_neg (by omega)]
  by_cases h₀ : v / 262144 % 8 = 0
  · have : (0x90 : UInt8).toNat = 0x90 := rfl
    rw [if_pos (by omega), h₀]
    exact ⟨0x90, 0xBF, rfl, by omega, tail_le _⟩
  rw [if_neg (by omega)]
  by_cases h₄ : v / 262144 % 8 = 4
  · have : (0x8F : UInt8).toNat = 0x8F := rfl
    rw [if_neg (by omega), if_pos (by omega), h₄]
    exact ⟨0x80, 0x8F, rfl, Nat.le_add_left .., by omega⟩
  rw [if_pos (by omega), Nat.add_sub_cancel]
  exact ⟨0x80, 0xBF, rfl, Nat.le_add_left .., tail_le _⟩

/-- The first byte of a character does not continue one, the others do ; and it is read as one
unit, whatever follows. -/
theorem exists_encodeChar (c : Char) : ∃ b t, String.utf8EncodeChar c = b :: t ∧
    continues b = false ∧ (∀ x ∈ t, continues x = true) ∧
    ∀ rest, readUnit b (t ++ rest) = .char c (t.length + 1) := by
  have hvalid : c.val.toNat < 0xD800 ∨ 0xDFFF < c.val.toNat ∧ c.val.toNat < 0x110000 := c.valid
  have hc : ∀ n, n = c.val.toNat → Char.ofNat n = c := fun n hn => hn ▸ c.ofNat_toNat
  fun_cases String.utf8EncodeChar c with
  | case1 v h =>
    refine ⟨_, [], rfl, ?_, fun x hx => absurd hx List.not_mem_nil, fun rest => ?_⟩
    · rw [continues_ofNat (by omega), decide_eq_false_iff_not]
      omega
    · have hlt : UInt8.ofNat v < 0x80 := by
        rw [UInt8.lt_iff_toNat_lt, toNat_ofNat (by omega)]
        exact Nat.lt_succ_of_le h
      rw [readUnit, if_pos hlt, toNat_ofNat (by omega), hc v rfl]
      rfl
  | case2 v h₁ h₂ =>
    have hl : lead? (UInt8.ofNat (v / 64 % 32 + 0xC0)) = some ⟨v / 64 % 32, 1, 0x80, 0xBF⟩ := by
      rw [lead?_ofNat (by omega), if_neg (by omega), if_pos (by omega), Nat.add_sub_cancel]
    refine ⟨_, _, rfl, ?_, ?_, fun rest => ?_⟩
    · rw [continues_ofNat (by omega), decide_eq_false_iff_not]
      omega
    · simp only [List.forall_mem_cons, continues_tail, true_and]
      exact fun x hx => absurd hx List.not_mem_nil
    · rw [readUnit_ofNat (by omega) hl, List.cons_append]
      dsimp only
      rw [continueUnit_ofNat (Nat.le_add_left ..) (tail_le _), continueUnit, hc _ (by omega)]
      rfl
  | case3 v h₁ h₂ h₃ =>
    have hn : v / 4096 % 16 + 0xE0 < 256 := by omega
    obtain ⟨low, high, hl, hlow, hhigh⟩ := exists_lead_three (v := v) (by omega) h₃ (by omega)
    refine ⟨_, _, rfl, ?_, ?_, fun rest => ?_⟩
    · rw [continues_ofNat hn, decide_eq_false_iff_not]
      omega
    · simp only [List.forall_mem_cons, continues_tail, true_and]
      exact fun x hx => absurd hx List.not_mem_nil
    · rw [readUnit_ofNat hn hl, List.cons_append, List.cons_append]
      dsimp only
      rw [continueUnit_ofNat hlow hhigh, continueUnit_ofNat (Nat.le_add_left ..) (tail_le _),
        continueUnit, hc _ (by omega)]
      rfl
  | case4 v h₁ h₂ h₃ =>
    have hn : v / 262144 % 8 + 0xF0 < 256 := by omega
    obtain ⟨low, high, hl, hlow, hhigh⟩ := exists_lead_four (v := v) (by omega) (by omega)
    refine ⟨_, _, rfl, ?_, ?_, fun rest => ?_⟩
    · rw [continues_ofNat hn, decide_eq_false_iff_not]
      omega
    · simp only [List.forall_mem_cons, continues_tail, true_and]
      exact fun x hx => absurd hx List.not_mem_nil
    · rw [readUnit_ofNat hn hl, List.cons_append, List.cons_append, List.cons_append]
      dsimp only
      rw [continueUnit_ofNat hlow hhigh, continueUnit_ofNat (Nat.le_add_left ..) (tail_le _),
        continueUnit_ofNat (Nat.le_add_left ..) (tail_le _), continueUnit, hc _ (by omega)]
      rfl

/-! ## Texts -/

theorem unitsOnto_eq (acc : List Unit) (bytes : List UInt8) :
    unitsOnto acc bytes = acc.reverse ++ units bytes := by
  rw [units]
  induction h : bytes.length using Nat.strongRecOn generalizing acc bytes with
  | _ n ih =>
    subst h
    cases bytes with
    | nil => simp [unitsOnto]
    | cons b rest =>
      have hlt : (rest.drop ((readUnit b rest).length - 1)).length < (b :: rest).length := by
        simp only [List.length_drop, List.length_cons]
        omega
      rw [unitsOnto, ih _ hlt (readUnit b rest :: acc) _ rfl,
        unitsOnto, ih _ hlt [readUnit b rest] _ rfl]
      simp

theorem units_cons (b : UInt8) (rest : List UInt8) :
    units (b :: rest) =
      readUnit b rest :: units (rest.drop ((readUnit b rest).length - 1)) := by
  rw [units, unitsOnto, unitsOnto_eq]
  rfl

theorem units_encodeChar (c : Char) (rest : List UInt8) :
    ∃ n, units (String.utf8EncodeChar c ++ rest) = .char c n :: units rest := by
  obtain ⟨b, t, hbt, -, -, hread⟩ := exists_encodeChar c
  refine ⟨t.length + 1, ?_⟩
  rw [hbt, List.cons_append, units_cons, hread]
  simp [Unit.length]

theorem decode_encode_append (cs : List Char) (rest : List UInt8) :
    decode (encode cs ++ rest) = cs ++ decode rest := by
  induction cs with
  | nil => rfl
  | cons c cs ih =>
    obtain ⟨n, hn⟩ := units_encodeChar c (encode cs ++ rest)
    rw [encode_cons, List.append_assoc, decode, hn, List.map_cons, ← decode, ih]
    rfl

theorem decode_encode (cs : List Char) : decode (encode cs) = cs := by
  have := decode_encode_append cs []
  rw [List.append_nil] at this
  rw [this]
  simp [decode, units, unitsOnto]

theorem encode_injective {cs ds : List Char} (h : encode cs = encode ds) : cs = ds := by
  rw [← decode_encode cs, h, decode_encode]

/-- Bytes that begin with those of a text are those of a text that begins with it. -/
theorem exists_of_encode_append {cs ds : List Char} {y : List UInt8}
    (h : encode cs ++ y = encode ds) : ∃ es, ds = cs ++ es ∧ y = encode es := by
  have hd := congrArg decode h
  rw [decode_encode_append, decode_encode] at hd
  refine ⟨decode y, hd.symm, ?_⟩
  rw [← hd, encode_append] at h
  exact List.append_cancel_left h

/-- A byte that does not continue a character begins one. -/
theorem exists_encode_of_append {cs : List Char} {x y : List UInt8} {b : UInt8}
    (hb : continues b = false) (h : encode cs = x ++ b :: y) :
    ∃ ds es, cs = ds ++ es ∧ x = encode ds ∧ b :: y = encode es := by
  induction cs generalizing x with
  | nil => simp at h
  | cons c cs ih =>
    cases x with
    | nil => exact ⟨[], c :: cs, rfl, rfl, h.symm⟩
    | cons b₀ x =>
      obtain ⟨b₁, t, hbt, -, ht, -⟩ := exists_encodeChar c
      rw [encode_cons, hbt, List.cons_append, List.cons_append] at h
      obtain ⟨rfl, h'⟩ := List.cons.inj h
      rcases List.append_eq_append_iff.1 h' with ⟨z, rfl, hz⟩ | ⟨z, rfl, hz⟩
      · obtain ⟨ds, es, rfl, rfl, hes⟩ := ih hz
        exact ⟨c :: ds, es, rfl, by rw [encode_cons, hbt]; rfl, hes⟩
      · cases z with
        | nil => exact ⟨[c], cs, rfl, by simp [hbt], hz⟩
        | cons b₂ z =>
          obtain ⟨rfl, -⟩ := List.cons.inj hz
          have := ht b (by simp)
          rw [hb] at this
          cases this

/-- The bytes of a text are found exactly where the text is. -/
theorem encode_infix_encode {cs ds : List Char} : encode cs <:+: encode ds ↔ cs <:+: ds := by
  constructor
  · rintro ⟨x, y, h⟩
    cases cs with
    | nil => exact List.nil_infix
    | cons c cs =>
      obtain ⟨b, t, hbt, hb, -, -⟩ := exists_encodeChar c
      have hsplit : encode ds = x ++ b :: (t ++ encode cs ++ y) := by
        rw [← h, encode_cons, hbt]
        simp
      obtain ⟨ds₁, ds₂, rfl, -, hds₂⟩ := exists_encode_of_append hb hsplit
      have hprefix : encode (c :: cs) ++ y = encode ds₂ := by
        rw [← hds₂, encode_cons, hbt]
        simp
      obtain ⟨es, rfl, -⟩ := exists_of_encode_append hprefix
      exact ⟨ds₁, es, by simp⟩
  · rintro ⟨s, t, rfl⟩
    exact ⟨encode s, encode t, by simp⟩

/-! ## Characters of one byte -/

/-- The byte of a character that has one. -/
def byte (c : Char) : UInt8 := UInt8.ofNat c.toNat

theorem encodeChar_of_lt {c : Char} (h : c.toNat < 0x80) :
    String.utf8EncodeChar c = [byte c] := by
  have h : c.val.toNat ≤ 0x7F := Nat.le_of_lt_succ h
  simp only [String.utf8EncodeChar, h, if_true]
  rfl

/-- A text whose characters have one byte each. -/
def IsAscii (cs : List Char) : Prop := ∀ c ∈ cs, c.toNat < 0x80

instance (cs : List Char) : Decidable (IsAscii cs) := List.decidableBAll _ cs

theorem encode_of_isAscii {cs : List Char} (h : IsAscii cs) : encode cs = cs.map byte := by
  induction cs with
  | nil => rfl
  | cons c cs ih =>
    obtain ⟨hc, hcs⟩ := List.forall_mem_cons.1 h
    rw [encode_cons, encodeChar_of_lt hc, ih hcs]
    rfl

theorem continues_byte {c : Char} (h : c.toNat < 0x80) : continues (byte c) = false := by
  rw [byte, continues_ofNat (by omega), decide_eq_false_iff_not]
  omega

/-- A byte of its own cuts a text where its character does. -/
theorem exists_of_encode_eq {cs : List Char} {x y : List UInt8} {c : Char} (hc : c.toNat < 0x80)
    (h : encode cs = x ++ byte c :: y) :
    ∃ ds es, cs = ds ++ c :: es ∧ x = encode ds ∧ y = encode es := by
  obtain ⟨ds, es, rfl, rfl, hes⟩ := exists_encode_of_append (continues_byte hc) h
  have hprefix : encode [c] ++ y = encode es := by
    rw [← hes, encode_cons, encodeChar_of_lt hc]
    rfl
  obtain ⟨es', rfl, rfl⟩ := exists_of_encode_append hprefix
  exact ⟨ds, es', rfl, rfl, rfl⟩

/-- The bytes of a text are all of a kind exactly if its characters are. -/
theorem forall_mem_encode {cs ds : List Char} (hds : IsAscii ds) :
    (∀ b ∈ encode cs, b ∈ ds.map byte) ↔ ∀ c ∈ cs, c ∈ ds := by
  constructor
  · intro h c hc
    obtain ⟨s, t, rfl⟩ := List.append_of_mem hc
    obtain ⟨b, u, hbu, -⟩ := exists_encodeChar c
    obtain ⟨d, hd, rfl⟩ := List.mem_map.1 (h b (by simp [hbu]))
    have hprefix : encode [d] ++ (u ++ encode t) = encode (c :: t) := by
      rw [encode_cons, encodeChar_of_lt (hds d hd), encode_cons, hbu]
      rfl
    obtain ⟨es, hes, -⟩ := exists_of_encode_append hprefix
    obtain ⟨rfl, -⟩ := List.cons.inj hes
    exact hd
  · intro h b hb
    rw [encode_of_isAscii fun c hc => hds c (h c hc)] at hb
    obtain ⟨c, hc, rfl⟩ := List.mem_map.1 hb
    exact List.mem_map_of_mem (h c hc)

/-- A byte of its own stands only for its character. -/
theorem byte_mem_encode {cs : List Char} {c : Char} (hc : c.toNat < 0x80) :
    byte c ∈ encode cs ↔ c ∈ cs := by
  constructor
  · intro h
    obtain ⟨x, y, hxy⟩ := List.append_of_mem h
    obtain ⟨ds, es, rfl, -, -⟩ := exists_of_encode_eq hc hxy
    exact List.mem_append_cons_self
  · intro h
    obtain ⟨ds, es, rfl⟩ := List.append_of_mem h
    simp [encodeChar_of_lt hc]

end AddonAtlas.Utf8
