import TypeGraph.Text.File

/-!
What is read as UTF-8. Reading succeeds on the encodings of texts and on nothing else, and gives the
text that has been encoded: a longer encoding of a character is refused, and so is a surrogate.
-/

namespace TypeGraph.Text.Utf8

/-- The encoding of a text, one character after the other. -/
def encode (text : List Char) : List UInt8 := text.flatMap String.utf8EncodeChar

theorem Shape.ofFirst_eq_some_iff {b : Nat} {shape : Shape} :
    Shape.ofFirst b = some shape ↔
      (b < 0x80 ∧ shape = ⟨0, b, 0, 0⟩) ∨
      (0xC2 ≤ b ∧ b < 0xE0 ∧ shape = ⟨1, b - 0xC0, 0x80, 0xBF⟩) ∨
      (0xE0 ≤ b ∧ b < 0xF0 ∧ shape = ⟨2, b - 0xE0, if b = 0xE0 then 0xA0 else 0x80,
        if b = 0xED then 0x9F else 0xBF⟩) ∨
      (0xF0 ≤ b ∧ b < 0xF5 ∧ shape = ⟨3, b - 0xF0, if b = 0xF0 then 0x90 else 0x80,
        if b = 0xF4 then 0x8F else 0xBF⟩) := by
  unfold Shape.ofFirst
  grind

theorem continuation_zero_eq_ok_iff {lo hi code seen result : Nat} {rest : List UInt8} :
    continuation lo hi 0 code seen rest = .ok result ↔ result = code := by
  rw [continuation, Except.ok.injEq, eq_comm]

theorem continuation_succ_eq_ok_iff {lo hi n code seen result : Nat} {rest : List UInt8} :
    continuation lo hi (n + 1) code seen rest = .ok result ↔
      ∃ b tail, rest = b :: tail ∧ lo ≤ b.toNat ∧ b.toNat ≤ hi ∧
        continuation 0x80 0xBF n (code * 64 + (b.toNat - 0x80)) (seen + 1) tail = .ok result := by
  cases rest with
  | nil => simp [continuation]
  | cons b tail =>
      rw [continuation]
      constructor
      · intro read
        split at read
        · rename_i within
          exact ⟨b, tail, rfl, within.1, within.2, read⟩
        · cases read
      · rintro ⟨_, _, same, above, below, read⟩
        cases same
        rw [if_pos ⟨above, below⟩, read]

theorem toNat_ofNat_of_isValidChar {code : Nat} (valid : code.isValidChar) :
    (Char.ofNat code).val.toNat = code := by
  rw [Char.ofNat, dif_pos valid]
  rfl

theorem ofNat_eq_of_toNat {b : UInt8} {n : Nat} (h : n = b.toNat) : UInt8.ofNat n = b := by
  rw [h, UInt8.ofNat_toNat]

theorem toNat_ofNat_of_le {n : Nat} (h : n ≤ 0xFF) : (UInt8.ofNat n).toNat = n :=
  UInt8.toNat_ofNat_of_lt' (Nat.lt_succ_of_le h)

/-- A byte that is read as a continuation adds its lower six bits. -/
theorem continuation_ofNat {lo hi n code seen v : Nat} {rest : List UInt8} (above : lo ≤ v)
    (below : v ≤ hi) (byte : v ≤ 0xFF) :
    continuation lo hi (n + 1) code seen (UInt8.ofNat v :: rest) =
      continuation 0x80 0xBF n (code * 64 + (v - 0x80)) (seen + 1) rest := by
  rw [continuation, toNat_ofNat_of_le byte, if_pos ⟨above, below⟩]

section

variable {code : Nat} (valid : code.isValidChar)
include valid

theorem encodeChar_one (h : code < 0x80) :
    String.utf8EncodeChar (Char.ofNat code) = [UInt8.ofNat code] := by
  simp only [String.utf8EncodeChar, toNat_ofNat_of_isValidChar valid]
  rw [if_pos (by omega)]

theorem encodeChar_two (above : 0x80 ≤ code) (below : code < 0x800) :
    String.utf8EncodeChar (Char.ofNat code) =
      [UInt8.ofNat (code / 64 + 0xC0), UInt8.ofNat (code % 64 + 0x80)] := by
  simp only [String.utf8EncodeChar, toNat_ofNat_of_isValidChar valid]
  rw [if_neg (by omega), if_pos (by omega), Nat.mod_eq_of_lt (a := code / 64) (by omega)]

theorem encodeChar_three (above : 0x800 ≤ code) (below : code < 0x10000) :
    String.utf8EncodeChar (Char.ofNat code) =
      [UInt8.ofNat (code / 4096 + 0xE0), UInt8.ofNat (code / 64 % 64 + 0x80),
        UInt8.ofNat (code % 64 + 0x80)] := by
  simp only [String.utf8EncodeChar, toNat_ofNat_of_isValidChar valid]
  rw [if_neg (by omega), if_neg (by omega), if_pos (by omega),
    Nat.mod_eq_of_lt (a := code / 4096) (by omega)]

theorem encodeChar_four (above : 0x10000 ≤ code) (below : code < 0x110000) :
    String.utf8EncodeChar (Char.ofNat code) =
      [UInt8.ofNat (code / 262144 + 0xF0), UInt8.ofNat (code / 4096 % 64 + 0x80),
        UInt8.ofNat (code / 64 % 64 + 0x80), UInt8.ofNat (code % 64 + 0x80)] := by
  simp only [String.utf8EncodeChar, toNat_ofNat_of_isValidChar valid]
  rw [if_neg (by omega), if_neg (by omega), if_neg (by omega),
    Nat.mod_eq_of_lt (a := code / 262144) (by omega)]

end

/-- A first byte announces some more, and these are read as a code point whatever follows them. -/
structure ReadsAs (first : UInt8) (more : List UInt8) (code : Nat) (shape : Shape) : Prop where
  announced : Shape.ofFirst first.toNat = some shape
  length : shape.following = more.length
  continued : ∀ rest, continuation shape.secondMin shape.secondMax shape.following shape.payload 1
    (more ++ rest) = .ok code

section

variable {code : Nat}

theorem readsAs_one (below : code < 0x80) :
    ReadsAs (UInt8.ofNat code) [] code ⟨0, code, 0, 0⟩ := by
  refine ⟨?announced, rfl, fun rest => continuation_zero_eq_ok_iff.mpr rfl⟩
  rw [toNat_ofNat_of_le (by omega)]
  exact Shape.ofFirst_eq_some_iff.mpr (.inl ⟨below, rfl⟩)

theorem readsAs_two (above : 0x80 ≤ code) (below : code < 0x800) :
    ReadsAs (UInt8.ofNat (code / 64 + 0xC0)) [UInt8.ofNat (code % 64 + 0x80)] code
      ⟨1, code / 64 + 0xC0 - 0xC0, 0x80, 0xBF⟩ := by
  refine ⟨?announced, rfl, fun rest => ?continued⟩
  case announced =>
    rw [toNat_ofNat_of_le (by omega)]
    exact Shape.ofFirst_eq_some_iff.mpr (.inr (.inl ⟨by omega, by omega, rfl⟩))
  case continued =>
    change continuation 0x80 0xBF 1 (code / 64 + 0xC0 - 0xC0) 1 (UInt8.ofNat _ :: rest) = _
    rw [continuation_ofNat (by omega) (by omega) (by omega)]
    exact continuation_zero_eq_ok_iff.mpr (by omega)

theorem readsAs_three (valid : code.isValidChar) (above : 0x800 ≤ code)
    (below : code < 0x10000) :
    ReadsAs (UInt8.ofNat (code / 4096 + 0xE0))
      [UInt8.ofNat (code / 64 % 64 + 0x80), UInt8.ofNat (code % 64 + 0x80)] code
      ⟨2, code / 4096 + 0xE0 - 0xE0, if code / 4096 + 0xE0 = 0xE0 then 0xA0 else 0x80,
        if code / 4096 + 0xE0 = 0xED then 0x9F else 0xBF⟩ := by
  refine ⟨?announced, rfl, fun rest => ?continued⟩
  case announced =>
    rw [toNat_ofNat_of_le (by omega)]
    exact Shape.ofFirst_eq_some_iff.mpr (.inr (.inr (.inl ⟨by omega, by omega, rfl⟩)))
  case continued =>
    have least : (if code / 4096 + 0xE0 = 0xE0 then 0xA0 else 0x80) ≤ code / 64 % 64 + 0x80 := by
      split <;> omega
    have most : code / 64 % 64 + 0x80 ≤ if code / 4096 + 0xE0 = 0xED then 0x9F else 0xBF := by
      rcases valid with valid | valid <;> split <;> omega
    change continuation _ _ 2 (code / 4096 + 0xE0 - 0xE0) 1
      (UInt8.ofNat _ :: UInt8.ofNat _ :: rest) = _
    rw [continuation_ofNat least most (by omega),
      continuation_ofNat (by omega) (by omega) (by omega)]
    exact continuation_zero_eq_ok_iff.mpr (by omega)

theorem readsAs_four (above : 0x10000 ≤ code) (below : code < 0x110000) :
    ReadsAs (UInt8.ofNat (code / 262144 + 0xF0))
      [UInt8.ofNat (code / 4096 % 64 + 0x80), UInt8.ofNat (code / 64 % 64 + 0x80),
        UInt8.ofNat (code % 64 + 0x80)] code
      ⟨3, code / 262144 + 0xF0 - 0xF0, if code / 262144 + 0xF0 = 0xF0 then 0x90 else 0x80,
        if code / 262144 + 0xF0 = 0xF4 then 0x8F else 0xBF⟩ := by
  refine ⟨?announced, rfl, fun rest => ?continued⟩
  case announced =>
    rw [toNat_ofNat_of_le (by omega)]
    exact Shape.ofFirst_eq_some_iff.mpr (.inr (.inr (.inr ⟨by omega, by omega, rfl⟩)))
  case continued =>
    have least : (if code / 262144 + 0xF0 = 0xF0 then 0x90 else 0x80) ≤
        code / 4096 % 64 + 0x80 := by
      split <;> omega
    have most : code / 4096 % 64 + 0x80 ≤ if code / 262144 + 0xF0 = 0xF4 then 0x8F else 0xBF := by
      split <;> omega
    change continuation _ _ 3 (code / 262144 + 0xF0 - 0xF0) 1
      (UInt8.ofNat _ :: UInt8.ofNat _ :: UInt8.ofNat _ :: rest) = _
    rw [continuation_ofNat least most (by omega),
      continuation_ofNat (by omega) (by omega) (by omega),
      continuation_ofNat (by omega) (by omega) (by omega)]
    exact continuation_zero_eq_ok_iff.mpr (by omega)

end

/-- The encoding of a character is read as this character. -/
theorem encodeChar_readsAs (c : Char) :
    ∃ first more shape, String.utf8EncodeChar c = first :: more ∧
      ReadsAs first more c.toNat shape := by
  have valid : c.toNat.isValidChar := c.valid
  have bound : c.toNat < 0x110000 := by rcases valid with below | ⟨-, below⟩ <;> omega
  have same : String.utf8EncodeChar c = String.utf8EncodeChar (Char.ofNat c.toNat) := by
    rw [Char.ofNat_toNat]
  rw [same]
  rcases Nat.lt_or_ge c.toNat 0x80 with h₁ | h₁
  · exact ⟨_, _, _, encodeChar_one valid h₁, readsAs_one h₁⟩
  rcases Nat.lt_or_ge c.toNat 0x800 with h₂ | h₂
  · exact ⟨_, _, _, encodeChar_two valid h₁ h₂, readsAs_two h₁ h₂⟩
  rcases Nat.lt_or_ge c.toNat 0x10000 with h₃ | h₃
  · exact ⟨_, _, _, encodeChar_three valid h₂ h₃, readsAs_three valid h₂ h₃⟩
  · exact ⟨_, _, _, encodeChar_four valid h₃ bound, readsAs_four h₃ bound⟩

/-- What is read as one character is the encoding of this character. -/
theorem cons_eq_encoding {first : UInt8} {rest : List UInt8} {shape : Shape} {code : Nat}
    (announced : Shape.ofFirst first.toNat = some shape)
    (read : continuation shape.secondMin shape.secondMax shape.following shape.payload 1 rest =
      .ok code) :
    first :: rest =
      String.utf8EncodeChar (Char.ofNat code) ++ rest.drop shape.following := by
  rcases Shape.ofFirst_eq_some_iff.mp announced with
    ⟨below, rfl⟩ | ⟨above, below, rfl⟩ | ⟨above, below, rfl⟩ | ⟨above, below, rfl⟩
  · have hcode := continuation_zero_eq_ok_iff.mp read
    dsimp only at hcode
    have valid : code.isValidChar := .inl (by omega)
    rw [encodeChar_one valid (by omega), ofNat_eq_of_toNat hcode]
    rfl
  · obtain ⟨b, tail, rfl, lo, hi, read⟩ := continuation_succ_eq_ok_iff.mp read
    have hcode := continuation_zero_eq_ok_iff.mp read
    dsimp only at lo hi hcode
    have valid : code.isValidChar := .inl (by omega)
    rw [encodeChar_two valid (by omega) (by omega), ofNat_eq_of_toNat (b := first) (by omega),
      ofNat_eq_of_toNat (b := b) (by omega)]
    rfl
  · obtain ⟨b, tail, rfl, lo, hi, read⟩ := continuation_succ_eq_ok_iff.mp read
    obtain ⟨c, tail, rfl, lo', hi', read⟩ := continuation_succ_eq_ok_iff.mp read
    have hcode := continuation_zero_eq_ok_iff.mp read
    dsimp only at lo hi hcode
    have least : 0x80 ≤ b.toNat ∧ (first.toNat = 0xE0 → 0xA0 ≤ b.toNat) := by grind
    have most : b.toNat ≤ 0xBF ∧ (first.toNat = 0xED → b.toNat ≤ 0x9F) := by grind
    have valid : code.isValidChar := by
      unfold Nat.isValidChar
      omega
    rw [encodeChar_three valid (by omega) (by omega), ofNat_eq_of_toNat (b := first) (by omega),
      ofNat_eq_of_toNat (b := b) (by omega), ofNat_eq_of_toNat (b := c) (by omega)]
    rfl
  · obtain ⟨b, tail, rfl, lo, hi, read⟩ := continuation_succ_eq_ok_iff.mp read
    obtain ⟨c, tail, rfl, lo', hi', read⟩ := continuation_succ_eq_ok_iff.mp read
    obtain ⟨d, tail, rfl, lo'', hi'', read⟩ := continuation_succ_eq_ok_iff.mp read
    have hcode := continuation_zero_eq_ok_iff.mp read
    dsimp only at lo hi hcode
    have least : 0x80 ≤ b.toNat ∧ (first.toNat = 0xF0 → 0x90 ≤ b.toNat) := by grind
    have most : b.toNat ≤ 0xBF ∧ (first.toNat = 0xF4 → b.toNat ≤ 0x8F) := by grind
    have valid : code.isValidChar := .inr ⟨by omega, by omega⟩
    rw [encodeChar_four valid (by omega) (by omega), ofNat_eq_of_toNat (b := first) (by omega),
      ofNat_eq_of_toNat (b := b) (by omega), ofNat_eq_of_toNat (b := c) (by omega),
      ofNat_eq_of_toNat (b := d) (by omega)]
    rfl

theorem encode_cons (c : Char) (text : List Char) :
    encode (c :: text) = String.utf8EncodeChar c ++ encode text :=
  List.flatMap_cons

theorem decodeFrom_encode (text : List Char) (position : Nat) :
    decodeFrom position (encode text) = .ok text := by
  induction text generalizing position with
  | nil => exact decodeFrom.eq_1 position
  | cons c text ih =>
      obtain ⟨first, more, shape, encoded, reads⟩ := encodeChar_readsAs c
      rw [encode_cons, encoded, List.cons_append, decodeFrom, reads.announced]
      dsimp only
      rw [reads.continued, reads.length, List.drop_left, ih]
      dsimp only [bind, Except.bind]
      rw [Char.ofNat_toNat]

theorem eq_encode_of_decodeFrom {position : Nat} {bytes : List UInt8} {text : List Char}
    (h : decodeFrom position bytes = .ok text) : bytes = encode text := by
  induction position, bytes using decodeFrom.induct generalizing text with
  | case1 position =>
      rw [decodeFrom] at h
      cases h
      rfl
  | case2 position first rest unannounced =>
      rw [decodeFrom, unannounced] at h
      cases h
  | case3 position first rest shape announced length reason broken =>
      rw [decodeFrom, announced] at h
      dsimp only at h
      rw [broken] at h
      cases h
  | case4 position first rest shape announced code read ih =>
      rw [decodeFrom, announced] at h
      dsimp only at h
      rw [read] at h
      rcases later : decodeFrom (position + 1 + shape.following) (rest.drop shape.following) with
        e | tail
      · rw [later] at h
        cases h
      · rw [later] at h
        cases h
        rw [encode_cons, ← ih later]
        exact cons_eq_encoding announced read

/-- What is read as UTF-8 is the encoding of what is got from it. -/
theorem decode_eq_ok_iff {bytes : List UInt8} {text : List Char} :
    decode bytes = .ok text ↔ bytes = encode text :=
  ⟨eq_encode_of_decodeFrom, fun h => h ▸ decodeFrom_encode text 0⟩

end TypeGraph.Text.Utf8
