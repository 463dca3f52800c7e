import DealForm.Text.Utf8
import Mathlib.Data.List.Basic

/-!
# Text and its bytes

The bytes of a text are cut into its characters again, so that the text is read back. The other way
around, bytes that are read as a text are the bytes of that text.
-/

namespace DealForm.Utf8

variable {k m n : Nat}

/-! ## Bytes of a number -/

theorem toNat_ofNat (h : n < 256) : (UInt8.ofNat n).toNat = n := by
  simp [Nat.mod_eq_of_lt h]

theorem ofNat_lt_ofNat (hm : m < 256) (hk : k < 256) : UInt8.ofNat m < UInt8.ofNat k ↔ m < k := by
  rw [UInt8.lt_iff_toNat_lt, toNat_ofNat hm, toNat_ofNat hk]

theorem ofNat_le_ofNat (hm : m < 256) (hk : k < 256) : UInt8.ofNat m ≤ UInt8.ofNat k ↔ m ≤ k := by
  rw [UInt8.le_iff_toNat_le, toNat_ofNat hm, toNat_ofNat hk]

theorem ofNat_eq_ofNat (hm : m < 256) (hk : k < 256) : UInt8.ofNat m = UInt8.ofNat k ↔ m = k := by
  rw [← UInt8.toNat_inj, toNat_ofNat hm, toNat_ofNat hk]

theorem isTail_ofNat (hm : 0x80 ≤ m) (hm' : m ≤ 0xBF) : isTail (UInt8.ofNat m) = true := by
  have hleast : (0x80 : UInt8) ≤ UInt8.ofNat m :=
    (ofNat_le_ofNat (m := 0x80) (by omega) (by omega)).mpr hm
  have hgreatest : UInt8.ofNat m ≤ 0xBF :=
    (ofNat_le_ofNat (k := 0xBF) (by omega) (by omega)).mpr hm'
  simp [isTail, hleast, hgreatest]

theorem tailBits_ofNat (hn : n < 64) : tailBits (UInt8.ofNat (0x80 + n)) = n := by
  have hbyte := toNat_ofNat (n := 0x80 + n) (by omega)
  unfold tailBits
  omega

/-- Six bits make a byte that continues a character. -/
theorem isTail_mod (n : Nat) : isTail (UInt8.ofNat (0x80 + n % 64)) = true :=
  isTail_ofNat (by omega) (by omega)

theorem tailBits_mod (n : Nat) : tailBits (UInt8.ofNat (0x80 + n % 64)) = n % 64 :=
  tailBits_ofNat (Nat.mod_lt n (by decide))

/-! ## Characters -/

variable (bs : Bytes)

theorem pieces_one (hn : n < 0x80) :
    pieces (UInt8.ofNat n :: bs) = .char (Char.ofNat n) :: pieces bs := by
  have h0 : UInt8.ofNat n < 0x80 := (ofNat_lt_ofNat (k := 0x80) (by omega) (by omega)).mpr hn
  rw [pieces.eq_def]
  dsimp only
  rw [if_pos h0, toNat_ofNat (by omega)]

theorem pieces_two (hn : 0x80 ≤ n) (hn' : n < 0x800) :
    pieces (UInt8.ofNat (0xC0 + n / 64) :: UInt8.ofNat (0x80 + n % 64) :: bs) =
      .char (Char.ofNat n) :: pieces bs := by
  have hfirst := fun k (hk : k < 256) ↦ ofNat_lt_ofNat (m := 0xC0 + n / 64) (k := k) (by omega) hk
  have h0 : ¬UInt8.ofNat (0xC0 + n / 64) < 0x80 := mt (hfirst 0x80 (by omega)).mp (by omega)
  have h1 : ¬UInt8.ofNat (0xC0 + n / 64) < 0xC2 := mt (hfirst 0xC2 (by omega)).mp (by omega)
  have h2 : UInt8.ofNat (0xC0 + n / 64) < 0xE0 := (hfirst 0xE0 (by omega)).mpr (by omega)
  rw [pieces.eq_def]
  dsimp only
  rw [if_neg h0, if_neg h1, if_pos h2, if_pos (isTail_mod n), tailBits_mod, toNat_ofNat (by omega)]
  congr 3
  omega

/-- The second byte of three leaves out what would be shorter and the surrogates. -/
theorem isSecondOfThree_ofNat (hn : 0x800 ≤ n) (hn' : n < 0x10000)
    (hsurrogate : n < 0xD800 ∨ 0xDFFF < n) :
    isSecondOfThree (UInt8.ofNat (0xE0 + n / 4096)) (UInt8.ofNat (0x80 + n / 64 % 64)) = true := by
  have hfirst := fun k (hk : k < 256) ↦ ofNat_eq_ofNat (m := 0xE0 + n / 4096) (k := k) (by omega) hk
  have hleast := fun k (hk : k < 256) ↦
    ofNat_le_ofNat (m := k) (k := 0x80 + n / 64 % 64) hk (by omega)
  have hgreatest := fun k (hk : k < 256) ↦
    ofNat_le_ofNat (m := 0x80 + n / 64 % 64) (k := k) (by omega) hk
  unfold isSecondOfThree
  split
  · next h =>
    have hn'' := (hfirst 0xE0 (by omega)).mp (by simpa using h)
    exact Bool.and_eq_true_iff.mpr ⟨decide_eq_true ((hleast 0xA0 (by omega)).mpr (by omega)),
      decide_eq_true ((hgreatest 0xBF (by omega)).mpr (by omega))⟩
  split
  · next h =>
    have hn'' := (hfirst 0xED (by omega)).mp (by simpa using h)
    exact Bool.and_eq_true_iff.mpr ⟨decide_eq_true ((hleast 0x80 (by omega)).mpr (by omega)),
      decide_eq_true ((hgreatest 0x9F (by omega)).mpr (by omega))⟩
  · exact isTail_mod _

theorem pieces_three (hn : 0x800 ≤ n) (hn' : n < 0x10000)
    (hsurrogate : n < 0xD800 ∨ 0xDFFF < n) :
    pieces (UInt8.ofNat (0xE0 + n / 4096) :: UInt8.ofNat (0x80 + n / 64 % 64) ::
      UInt8.ofNat (0x80 + n % 64) :: bs) = .char (Char.ofNat n) :: pieces bs := by
  have hfirst := fun k (hk : k < 256) ↦ ofNat_lt_ofNat (m := 0xE0 + n / 4096) (k := k) (by omega) hk
  have h0 : ¬UInt8.ofNat (0xE0 + n / 4096) < 0x80 := mt (hfirst 0x80 (by omega)).mp (by omega)
  have h1 : ¬UInt8.ofNat (0xE0 + n / 4096) < 0xC2 := mt (hfirst 0xC2 (by omega)).mp (by omega)
  have h2 : ¬UInt8.ofNat (0xE0 + n / 4096) < 0xE0 := mt (hfirst 0xE0 (by omega)).mp (by omega)
  have h3 : UInt8.ofNat (0xE0 + n / 4096) < 0xF0 := (hfirst 0xF0 (by omega)).mpr (by omega)
  rw [pieces.eq_def]
  dsimp only
  rw [if_neg h0, if_neg h1, if_neg h2, if_pos h3,
    if_pos (isSecondOfThree_ofNat hn hn' hsurrogate), if_pos (isTail_mod n), tailBits_mod,
    tailBits_mod, toNat_ofNat (by omega)]
  congr 3
  omega

/-- The second byte of four leaves out what would be shorter and what is past the last
character. -/
theorem isSecondOfFour_ofNat (hn : 0x10000 ≤ n) (hn' : n < 0x110000) :
    isSecondOfFour (UInt8.ofNat (0xF0 + n / 262144)) (UInt8.ofNat (0x80 + n / 4096 % 64)) =
      true := by
  have hfirst := fun k (hk : k < 256) ↦
    ofNat_eq_ofNat (m := 0xF0 + n / 262144) (k := k) (by omega) hk
  have hleast := fun k (hk : k < 256) ↦
    ofNat_le_ofNat (m := k) (k := 0x80 + n / 4096 % 64) hk (by omega)
  have hgreatest := fun k (hk : k < 256) ↦
    ofNat_le_ofNat (m := 0x80 + n / 4096 % 64) (k := k) (by omega) hk
  unfold isSecondOfFour
  split
  · next h =>
    have hn'' := (hfirst 0xF0 (by omega)).mp (by simpa using h)
    exact Bool.and_eq_true_iff.mpr ⟨decide_eq_true ((hleast 0x90 (by omega)).mpr (by omega)),
      decide_eq_true ((hgreatest 0xBF (by omega)).mpr (by omega))⟩
  split
  · next h =>
    have hn'' := (hfirst 0xF4 (by omega)).mp (by simpa using h)
    exact Bool.and_eq_true_iff.mpr ⟨decide_eq_true ((hleast 0x80 (by omega)).mpr (by omega)),
      decide_eq_true ((hgreatest 0x8F (by omega)).mpr (by omega))⟩
  · exact isTail_mod _

theorem pieces_four (hn : 0x10000 ≤ n) (hn' : n < 0x110000) :
    pieces (UInt8.ofNat (0xF0 + n / 262144) :: UInt8.ofNat (0x80 + n / 4096 % 64) ::
      UInt8.ofNat (0x80 + n / 64 % 64) :: UInt8.ofNat (0x80 + n % 64) :: bs) =
        .char (Char.ofNat n) :: pieces bs := by
  have hfirst := fun k (hk : k < 256) ↦
    ofNat_lt_ofNat (m := 0xF0 + n / 262144) (k := k) (by omega) hk
  have h0 : ¬UInt8.ofNat (0xF0 + n / 262144) < 0x80 := mt (hfirst 0x80 (by omega)).mp (by omega)
  have h1 : ¬UInt8.ofNat (0xF0 + n / 262144) < 0xC2 := mt (hfirst 0xC2 (by omega)).mp (by omega)
  have h2 : ¬UInt8.ofNat (0xF0 + n / 262144) < 0xE0 := mt (hfirst 0xE0 (by omega)).mp (by omega)
  have h3 : ¬UInt8.ofNat (0xF0 + n / 262144) < 0xF0 := mt (hfirst 0xF0 (by omega)).mp (by omega)
  have h4 : UInt8.ofNat (0xF0 + n / 262144) < 0xF5 := (hfirst 0xF5 (by omega)).mpr (by omega)
  rw [pieces.eq_def]
  dsimp only
  rw [if_neg h0, if_neg h1, if_neg h2, if_neg h3, if_pos h4,
    if_pos (isSecondOfFour_ofNat hn hn'), if_pos (isTail_mod (n / 64)), if_pos (isTail_mod n),
    tailBits_mod, tailBits_mod, tailBits_mod, toNat_ofNat (by omega)]
  congr 3
  omega

/-- The bytes of a character are cut off in one piece. -/
theorem pieces_encodeChar (c : Char) : pieces (encodeChar c ++ bs) = .char c :: pieces bs := by
  have hvalid : c.toNat < 0xd800 ∨ 0xdfff < c.toNat ∧ c.toNat < 0x110000 := c.valid
  have hchar : Char.ofNat c.toNat = c := Char.ofNat_toNat c
  unfold encodeChar
  simp only
  split
  · next h => rw [List.singleton_append, pieces_one bs h, hchar]
  split
  · next h h' =>
    simp only [List.cons_append, List.nil_append]
    rw [pieces_two bs (by omega) h', hchar]
  split
  · next h h' =>
    simp only [List.cons_append, List.nil_append]
    rw [pieces_three bs (by omega) h' (by omega), hchar]
  · simp only [List.cons_append, List.nil_append]
    rw [pieces_four bs (by omega) (by omega), hchar]

/-! ## Texts -/

theorem pieces_encodeChars (cs : List Char) : pieces (encodeChars cs) = cs.map .char := by
  induction cs with
  | nil => rw [encodeChars, List.flatMap_nil, pieces, List.map_nil]
  | cons c cs ih =>
      rw [encodeChars, List.flatMap_cons, pieces_encodeChar, List.map_cons]
      exact congrArg _ ih

theorem collect_map_char (cs : List Char) (index : Nat) :
    collect index (cs.map .char) = .ok cs := by
  induction cs generalizing index with
  | nil => rfl
  | cons c cs ih => rw [List.map_cons, collect, ih, Except.map]

/-- The bytes of a text are read as that text. -/
theorem decode_encode (s : String) : decode (encode s) = .ok s := by
  rw [decode, decodeChars, encode, pieces_encodeChars, collect_map_char, Except.map,
    String.ofList_toList]

theorem encode_inj {s t : String} : encode s = encode t ↔ s = t := by
  refine ⟨fun h ↦ ?_, congrArg encode⟩
  have hdecoded := congrArg decode h
  rw [decode_encode, decode_encode] at hdecoded
  exact Except.ok.inj hdecoded

theorem mem_encode {s : String} {c : Char} {b : UInt8} (hc : c ∈ s.toList)
    (hb : b ∈ encodeChar c) : b ∈ encode s :=
  List.mem_flatMap.mpr ⟨c, hc, hb⟩

theorem encodeChars_append (cs ds : List Char) :
    encodeChars (cs ++ ds) = encodeChars cs ++ encodeChars ds :=
  List.flatMap_append

theorem encode_append (s t : String) : encode (s ++ t) = encode s ++ encode t := by
  rw [encode, String.toList_append, encodeChars_append, encode, encode]

/-! ## Bytes of a piece -/

variable {a b c d : UInt8} {bs} {ch : Char} {ps : List Piece}

theorem toNat_ofNat_of_isValidChar (h : n.isValidChar) : (Char.ofNat n).toNat = n := by
  rw [Char.ofNat, dif_pos h]
  rfl

theorem isTail_iff : isTail a = true ↔ 0x80 ≤ a.toNat ∧ a.toNat ≤ 0xBF := by
  simp [isTail, UInt8.le_iff_toNat_le]

theorem isSecondOfThree_iff : isSecondOfThree a b = true ↔
    0x80 ≤ b.toNat ∧ b.toNat ≤ 0xBF ∧ (a.toNat = 0xE0 → 0xA0 ≤ b.toNat) ∧
      (a.toNat = 0xED → b.toNat ≤ 0x9F) := by
  unfold isSecondOfThree
  simp only [beq_iff_eq, ← UInt8.toNat_inj, UInt8.reduceToNat]
  split
  · simp only [Bool.and_eq_true, decide_eq_true_eq, UInt8.le_iff_toNat_le, UInt8.reduceToNat]
    omega
  split
  · simp only [Bool.and_eq_true, decide_eq_true_eq, UInt8.le_iff_toNat_le, UInt8.reduceToNat]
    omega
  · rw [isTail_iff]
    omega

theorem isSecondOfFour_iff : isSecondOfFour a b = true ↔
    0x80 ≤ b.toNat ∧ b.toNat ≤ 0xBF ∧ (a.toNat = 0xF0 → 0x90 ≤ b.toNat) ∧
      (a.toNat = 0xF4 → b.toNat ≤ 0x8F) := by
  unfold isSecondOfFour
  simp only [beq_iff_eq, ← UInt8.toNat_inj, UInt8.reduceToNat]
  split
  · simp only [Bool.and_eq_true, decide_eq_true_eq, UInt8.le_iff_toNat_le, UInt8.reduceToNat]
    omega
  split
  · simp only [Bool.and_eq_true, decide_eq_true_eq, UInt8.le_iff_toNat_le, UInt8.reduceToNat]
    omega
  · rw [isTail_iff]
    omega

theorem ofNat_eq (h : a.toNat = n) : UInt8.ofNat n = a := by
  rw [← h, UInt8.ofNat_toNat]

theorem encodeChar_one (ha : a < 0x80) : encodeChar (Char.ofNat a.toNat) = [a] := by
  have hsmall : a.toNat < 0x80 := UInt8.lt_iff_toNat_lt.mp ha
  have hchar := toNat_ofNat_of_isValidChar (n := a.toNat) (Or.inl (by omega))
  simp only [encodeChar, hchar, if_pos hsmall, UInt8.ofNat_toNat]

theorem encodeChar_two (ha : ¬a < 0xC2) (ha' : a < 0xE0) (hb : isTail b = true) :
    encodeChar (Char.ofNat ((a.toNat - 0xC0) * 64 + tailBits b)) = [a, b] := by
  rw [isTail_iff] at hb
  simp only [UInt8.lt_iff_toNat_lt, UInt8.reduceToNat] at ha ha'
  unfold tailBits
  have hchar := toNat_ofNat_of_isValidChar (n := (a.toNat - 0xC0) * 64 + (b.toNat - 0x80))
    (Or.inl (by omega))
  simp only [encodeChar, hchar]
  rw [if_neg (by omega), if_pos (by omega), ofNat_eq (a := a) (by omega),
    ofNat_eq (a := b) (by omega)]

theorem encodeChar_three (ha : ¬a < 0xE0) (ha' : a < 0xF0) (hb : isSecondOfThree a b = true)
    (hc : isTail c = true) :
    encodeChar (Char.ofNat ((a.toNat - 0xE0) * 4096 + tailBits b * 64 + tailBits c)) =
      [a, b, c] := by
  rw [isSecondOfThree_iff] at hb
  rw [isTail_iff] at hc
  simp only [UInt8.lt_iff_toNat_lt, UInt8.reduceToNat] at ha ha'
  unfold tailBits
  have hvalid : ((a.toNat - 0xE0) * 4096 + (b.toNat - 0x80) * 64 +
      (c.toNat - 0x80)).isValidChar := by
    unfold Nat.isValidChar
    omega
  simp only [encodeChar, toNat_ofNat_of_isValidChar hvalid]
  rw [if_neg (by omega), if_neg (by omega), if_pos (by omega), ofNat_eq (a := a) (by omega),
    ofNat_eq (a := b) (by omega), ofNat_eq (a := c) (by omega)]

theorem encodeChar_four (ha : ¬a < 0xF0) (ha' : a < 0xF5) (hb : isSecondOfFour a b = true)
    (hc : isTail c = true) (hd : isTail d = true) :
    encodeChar (Char.ofNat ((a.toNat - 0xF0) * 262144 + tailBits b * 4096 + tailBits c * 64 +
      tailBits d)) = [a, b, c, d] := by
  rw [isSecondOfFour_iff] at hb
  rw [isTail_iff] at hc hd
  simp only [UInt8.lt_iff_toNat_lt, UInt8.reduceToNat] at ha ha'
  unfold tailBits
  have hvalid : ((a.toNat - 0xF0) * 262144 + (b.toNat - 0x80) * 4096 + (c.toNat - 0x80) * 64 +
      (d.toNat - 0x80)).isValidChar := by
    unfold Nat.isValidChar
    omega
  simp only [encodeChar, toNat_ofNat_of_isValidChar hvalid]
  rw [if_neg (by omega), if_neg (by omega), if_neg (by omega), ofNat_eq (a := a) (by omega),
    ofNat_eq (a := b) (by omega), ofNat_eq (a := c) (by omega), ofNat_eq (a := d) (by omega)]

/-- A piece that is a character is cut off from the bytes of the character. -/
theorem exists_bytes_of_pieces (h : pieces bs = .char ch :: ps) :
    ∃ rest, bs = encodeChar ch ++ rest ∧ pieces rest = ps := by
  have hcut {bytes rest : Bytes} {ch' : Char} (hbytes : encodeChar ch' = bytes)
      (h : Piece.char ch' :: pieces rest = .char ch :: ps) :
      ∃ rest', bytes ++ rest = encodeChar ch ++ rest' ∧ pieces rest' = ps := by
    obtain ⟨hchar, hps⟩ := List.cons_eq_cons.mp h
    obtain rfl := Piece.char.inj hchar
    exact ⟨rest, by rw [hbytes], hps⟩
  revert h
  fun_cases pieces bs
  -- Four cases cut off a character of one to four bytes, the others a bad piece or nothing.
  case case2 a rest ha => exact hcut (encodeChar_one ha)
  case case5 a _ ha ha' b rest hb => exact hcut (encodeChar_two ha ha' hb)
  case case9 a _ _ ha ha' b hb c rest hc => exact hcut (encodeChar_three ha ha' hb hc)
  case case15 a _ _ _ ha ha' b hb c hc d rest hd => exact hcut (encodeChar_four ha ha' hb hc hd)
  all_goals nofun

theorem pieces_ne_nil (a : UInt8) (bs : Bytes) : pieces (a :: bs) ≠ [] := by
  rw [pieces.eq_def]
  grind

theorem eq_encodeChars_of_pieces {cs : List Char} (h : pieces bs = cs.map .char) :
    bs = encodeChars cs := by
  induction cs generalizing bs with
  | nil =>
      cases bs with
      | nil => rfl
      | cons a bs => exact absurd h (pieces_ne_nil a bs)
  | cons c cs ih =>
      obtain ⟨rest, rfl, hrest⟩ := exists_bytes_of_pieces h
      rw [ih hrest]
      rfl

theorem collect_eq_ok {index : Nat} {cs : List Char} (h : collect index ps = .ok cs) :
    ps = cs.map .char := by
  induction ps generalizing index cs with
  | nil =>
      cases h
      rfl
  | cons p ps ih =>
      cases p with
      | char c =>
          rw [collect] at h
          cases hrest : collect (index + charSize c) ps with
          | error fault =>
              rw [hrest] at h
              cases h
          | ok rest =>
              rw [hrest] at h
              cases h
              rw [ih hrest]
              rfl
      | invalid length => cases h
      | incomplete => cases h

/-- A text is read exactly from its own bytes. -/
theorem decode_eq_ok_iff {s : String} : decode bs = .ok s ↔ bs = encode s := by
  constructor
  · intro h
    unfold decode decodeChars at h
    cases hcs : collect 0 (pieces bs) with
    | error fault =>
        rw [hcs] at h
        cases h
    | ok cs =>
        rw [hcs] at h
        cases h
        rw [encode, String.toList_ofList]
        exact eq_encodeChars_of_pieces (collect_eq_ok hcs)
  · rintro rfl
    exact decode_encode s

/-! ## Bytes below 0x80 -/

theorem isAlphanum_iff {c : Char} : c.isAlphanum = true ↔
    ('A' ≤ c ∧ c ≤ 'Z') ∨ ('a' ≤ c ∧ c ≤ 'z') ∨ ('0' ≤ c ∧ c ≤ '9') := by
  have hranges : c.isAlphanum = (decide ('A' ≤ c ∧ c ≤ 'Z') ||
      (decide ('a' ≤ c) && decide (c ≤ 'z')) || (decide ('0' ≤ c) && decide (c ≤ '9'))) := rfl
  simp only [hranges, Bool.or_eq_true, Bool.and_eq_true, decide_eq_true_eq, or_assoc]

theorem toNat_of_isAlphanum {c : Char} (h : c.isAlphanum = true) :
    0x30 ≤ c.toNat ∧ c.toNat ≤ 0x7A := by
  rw [isAlphanum_iff] at h
  simp only [Char.le_def, UInt32.le_iff_toNat_le] at h
  rcases h with h | h | h
  all_goals exact ⟨Nat.le_trans (by decide) h.1, Nat.le_trans h.2 (by decide)⟩

/-- A byte below 0x80 is a character of its own, never a part of one. -/
theorem toNat_eq_of_mem_encodeChar {c : Char} {b : UInt8} (hb : b.toNat < 0x80)
    (hmem : b ∈ encodeChar c) : c.toNat = b.toNat := by
  have hlong : ∀ n, 0x80 ≤ n → n < 256 → b ≠ UInt8.ofNat n := by
    rintro n hn hn' rfl
    rw [toNat_ofNat hn'] at hb
    exact absurd hb (Nat.not_lt.mpr hn)
  have htail : ∀ n, b ≠ UInt8.ofNat (0x80 + n % 64) := fun n ↦ hlong _ (by omega) (by omega)
  have hvalid : c.toNat < 0xd800 ∨ 0xdfff < c.toNat ∧ c.toNat < 0x110000 := c.valid
  unfold encodeChar at hmem
  dsimp only at hmem
  split_ifs at hmem with h1 h2 h3
  · rw [List.mem_singleton.mp hmem, toNat_ofNat (by omega)]
  all_goals
    simp only [List.mem_cons, List.not_mem_nil, or_false, htail, or_self] at hmem
    exact absurd hmem (hlong _ (by omega) (by omega))

theorem encodeChar_of_lt {c : Char} (hc : c.toNat < 0x80) :
    encodeChar c = [UInt8.ofNat c.toNat] := by
  simp only [encodeChar, if_pos hc]

/-- Such characters take one byte each. -/
theorem length_encodeChars {cs : List Char} (h : ∀ c ∈ cs, c.toNat < 0x80) :
    (encodeChars cs).length = cs.length := by
  induction cs with
  | nil => rfl
  | cons c cs ih =>
      obtain ⟨hc, hcs⟩ := List.forall_mem_cons.mp h
      rw [encodeChars, List.flatMap_cons, encodeChar_of_lt hc, List.singleton_append,
        List.length_cons, List.length_cons]
      exact congrArg (· + 1) (ih hcs)

theorem length_encode {s : String} (h : ∀ c ∈ s.toList, c.toNat < 0x80) :
    (encode s).length = s.length := by
  rw [encode, length_encodeChars h, String.length_toList]

theorem exists_mem_of_mem_encode {s : String} {b : UInt8} (hb : b.toNat < 0x80)
    (hmem : b ∈ encode s) : Char.ofNat b.toNat ∈ s.toList := by
  obtain ⟨c, hc, hbyte⟩ := List.mem_flatMap.mp hmem
  rw [← toNat_eq_of_mem_encodeChar hb hbyte, Char.ofNat_toNat]
  exact hc

end DealForm.Utf8
