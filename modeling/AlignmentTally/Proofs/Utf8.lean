import AlignmentTally.Proofs.Formats
import AlignmentTally.Utf8

/-!
# Octets that are UTF-8

Octets decode exactly when they are the octets of some text, and then to that text
(`Utf8.decode_eq_ok_iff`). The encoding is that of the standard library; decoding looks at octets
and knows nothing of it.

## One character

What the two share is the form of a single character (`Utf8.Writes`): one to four octets in certain
ranges, which exclude overlong forms and surrogates.

* A character is encoded in this form (`Utf8.writes_utf8EncodeChar`) and in no other
  (`Utf8.Writes.utf8EncodeChar`). Both are arithmetic, with one case for each number of octets.
* Decoding takes octets of this form off the front (`Utf8.Writes.decodeFrom`), and it never takes
  anything else (`Utf8.flatMap_of_decodeFrom`).

## Whole texts

From there it is an induction on the characters in one direction, and on the steps of decoding in
the other. The place at which decoding has arrived is carried along, since an error names it; it has
no influence on what is decoded.

Errors are not described any further. Which octets of an invalid text are blamed, and whether more
input could have made it valid, is for the decoder to say.
-/

namespace AlignmentTally.Utf8

/-! ### One character -/

/-- A character of several octets may begin with `a` and `b`. -/
def Opens (a b : UInt8) : Prop :=
  ∃ range, secondRange? a = some range ∧ ¬ (b < range.1 ∨ range.2 < b)

/-- The octets that write a character. -/
inductive Writes : List UInt8 → Char → Prop where
  | one {a : UInt8} (ha : a < 0x80) : Writes [a] (.ofNat a.toNat)
  | two {a b : UInt8} (hopens : Opens a b) (ha : a < 0xe0) : Writes [a, b] (two a b)
  | three {a b c : UInt8} (hopens : Opens a b) (hlow : ¬ a < 0xe0) (hhigh : a < 0xf0)
      (hc : isTail c) : Writes [a, b, c] (three a b c)
  | four {a b c d : UInt8} (hopens : Opens a b) (hlow : ¬ a < 0xe0) (ha : ¬ a < 0xf0)
      (hc : isTail c) (hd : isTail d) : Writes [a, b, c, d] (four a b c d)

/-- The ranges of the first two octets, as numbers. -/
theorem opens_iff {a b : UInt8} :
    Opens a b ↔ 0xc2 ≤ a.toNat ∧ a.toNat ≤ 0xf4 ∧ 0x80 ≤ b.toNat ∧ b.toNat ≤ 0xbf ∧
      (a.toNat = 0xe0 → 0xa0 ≤ b.toNat) ∧ (a.toNat = 0xed → b.toNat ≤ 0x9f) ∧
      (a.toNat = 0xf0 → 0x90 ≤ b.toNat) ∧ (a.toNat = 0xf4 → b.toNat ≤ 0x8f) := by
  simp only [Opens, secondRange?, UInt8.lt_iff_toNat_lt, ← UInt8.toNat_inj]
  split_ifs <;> simp_all <;> omega

theorem isTail_iff {b : UInt8} : isTail b ↔ 0x80 ≤ b.toNat ∧ b.toNat ≤ 0xbf := by
  simp [isTail, UInt8.le_iff_toNat_le]

theorem Opens.not_lt {a b : UInt8} (h : Opens a b) : ¬ a < 0x80 := by
  rw [opens_iff] at h
  simp only [UInt8.lt_iff_toNat_lt, UInt8.reduceToNat]
  omega

/-- A number that is no surrogate and not too large is the number of its character. -/
theorem toNat_val_ofNat {n : Nat} (h : n < 0xd800 ∨ 0xdfff < n ∧ n < 0x110000) :
    (Char.ofNat n).val.toNat = n := by
  have hvalid : n.isValidChar := h
  rw [Char.ofNat, dif_pos hvalid]
  rfl

/-- Octets that write a character are its encoding. The numbers of the octets are got back from the
number of the character by division. -/
theorem Writes.utf8EncodeChar {octets : List UInt8} {char : Char} (h : Writes octets char) :
    String.utf8EncodeChar char = octets := by
  cases h with
  | @one a ha =>
    simp only [UInt8.lt_iff_toNat_lt, UInt8.reduceToNat] at ha
    have hval := toNat_val_ofNat (n := a.toNat) (by omega)
    rw [String.utf8EncodeChar, hval, if_pos (by omega), UInt8.ofNat_toNat]
  | @two a b hopens ha =>
    rw [opens_iff] at hopens
    simp only [UInt8.lt_iff_toNat_lt, UInt8.reduceToNat] at ha
    rw [String.utf8EncodeChar, Utf8.two, toNat_val_ofNat (by omega), if_neg (by omega),
      if_pos (by omega)]
    generalize hv : (a.toNat - 0xc0) * 64 + (b.toNat - 0x80) = v
    have hfirst : v / 64 % 32 + 0xc0 = a.toNat := by omega
    have hsecond : v % 64 + 0x80 = b.toNat := by omega
    rw [hfirst, hsecond, UInt8.ofNat_toNat, UInt8.ofNat_toNat]
  | @three a b c hopens hlow hhigh hc =>
    rw [opens_iff] at hopens
    rw [isTail_iff] at hc
    simp only [UInt8.lt_iff_toNat_lt, UInt8.reduceToNat] at hlow hhigh
    rw [String.utf8EncodeChar, Utf8.three, toNat_val_ofNat (by omega), if_neg (by omega),
      if_neg (by omega), if_pos (by omega)]
    generalize hv : (a.toNat - 0xe0) * 4096 + (b.toNat - 0x80) * 64 + (c.toNat - 0x80) = v
    have hfirst : v / 4096 % 16 + 0xe0 = a.toNat := by omega
    have hsecond : v / 64 % 64 + 0x80 = b.toNat := by omega
    have hthird : v % 64 + 0x80 = c.toNat := by omega
    rw [hfirst, hsecond, hthird, UInt8.ofNat_toNat, UInt8.ofNat_toNat, UInt8.ofNat_toNat]
  | @four a b c d hopens hlow ha hc hd =>
    rw [opens_iff] at hopens
    rw [isTail_iff] at hc hd
    simp only [UInt8.lt_iff_toNat_lt, UInt8.reduceToNat] at ha
    rw [String.utf8EncodeChar, Utf8.four, toNat_val_ofNat (by omega), if_neg (by omega),
      if_neg (by omega), if_neg (by omega)]
    generalize hv : (a.toNat - 0xf0) * 262144 + (b.toNat - 0x80) * 4096 +
      (c.toNat - 0x80) * 64 + (d.toNat - 0x80) = v
    have hfirst : v / 262144 % 8 + 0xf0 = a.toNat := by omega
    have hsecond : v / 4096 % 64 + 0x80 = b.toNat := by omega
    have hthird : v / 64 % 64 + 0x80 = c.toNat := by omega
    have hfourth : v % 64 + 0x80 = d.toNat := by omega
    rw [hfirst, hsecond, hthird, hfourth, UInt8.ofNat_toNat, UInt8.ofNat_toNat,
      UInt8.ofNat_toNat, UInt8.ofNat_toNat]

/-- The encoding of a character writes it. -/
theorem writes_utf8EncodeChar (char : Char) : Writes (String.utf8EncodeChar char) char := by
  have hvalid : char.val.toNat < 0xd800 ∨ 0xdfff < char.val.toNat ∧ char.val.toNat < 0x110000 :=
    char.valid
  have hchar : Char.ofNat char.val.toNat = char := Char.ofNat_toNat char
  have hoctet : ∀ {n : Nat}, n < 256 → (UInt8.ofNat n).toNat = n := UInt8.toNat_ofNat_of_lt
  generalize hv : char.val.toNat = v at hvalid hchar
  rw [String.utf8EncodeChar, hv]
  split_ifs with hone htwo hthree
  · have ha := hoctet (n := v) (by omega)
    have h := Writes.one (a := .ofNat v) (by
      simp only [UInt8.lt_iff_toNat_lt, UInt8.reduceToNat]
      omega)
    rwa [ha, hchar] at h
  · have ha := hoctet (n := v / 64 % 32 + 0xc0) (by omega)
    have hb := hoctet (n := v % 64 + 0x80) (by omega)
    have hopens := opens_iff (a := .ofNat (v / 64 % 32 + 0xc0)) (b := .ofNat (v % 64 + 0x80))
    have h := Writes.two (hopens.2 (by omega)) (by
      simp only [UInt8.lt_iff_toNat_lt, UInt8.reduceToNat]
      omega)
    have hsum : (v / 64 % 32 + 0xc0 - 0xc0) * 64 + (v % 64 + 0x80 - 0x80) = v := by omega
    rwa [Utf8.two, ha, hb, hsum, hchar] at h
  · have ha := hoctet (n := v / 4096 % 16 + 0xe0) (by omega)
    have hb := hoctet (n := v / 64 % 64 + 0x80) (by omega)
    have hc := hoctet (n := v % 64 + 0x80) (by omega)
    have hopens := opens_iff (a := .ofNat (v / 4096 % 16 + 0xe0))
      (b := .ofNat (v / 64 % 64 + 0x80))
    have h := Writes.three (c := .ofNat (v % 64 + 0x80)) (hopens.2 (by omega))
      (by simp only [UInt8.lt_iff_toNat_lt, UInt8.reduceToNat]; omega)
      (by simp only [UInt8.lt_iff_toNat_lt, UInt8.reduceToNat]; omega) (isTail_iff.2 (by omega))
    have hsum : (v / 4096 % 16 + 0xe0 - 0xe0) * 4096 + (v / 64 % 64 + 0x80 - 0x80) * 64 +
        (v % 64 + 0x80 - 0x80) = v := by omega
    rwa [Utf8.three, ha, hb, hc, hsum, hchar] at h
  · have ha := hoctet (n := v / 262144 % 8 + 0xf0) (by omega)
    have hb := hoctet (n := v / 4096 % 64 + 0x80) (by omega)
    have hc := hoctet (n := v / 64 % 64 + 0x80) (by omega)
    have hd := hoctet (n := v % 64 + 0x80) (by omega)
    have hopens := opens_iff (a := .ofNat (v / 262144 % 8 + 0xf0))
      (b := .ofNat (v / 4096 % 64 + 0x80))
    have h := Writes.four (c := .ofNat (v / 64 % 64 + 0x80)) (d := .ofNat (v % 64 + 0x80))
      (hopens.2 (by omega))
      (by simp only [UInt8.lt_iff_toNat_lt, UInt8.reduceToNat]; omega)
      (by simp only [UInt8.lt_iff_toNat_lt, UInt8.reduceToNat]; omega)
      (isTail_iff.2 (by omega)) (isTail_iff.2 (by omega))
    have hsum : (v / 262144 % 8 + 0xf0 - 0xf0) * 262144 + (v / 4096 % 64 + 0x80 - 0x80) * 4096 +
        (v / 64 % 64 + 0x80 - 0x80) * 64 + (v % 64 + 0x80 - 0x80) = v := by omega
    rwa [Utf8.four, ha, hb, hc, hd, hsum, hchar] at h

/-! ### Whole texts -/

/-- **Octets that write a character are taken off the front as that character.** -/
theorem Writes.decodeFrom {octets : List UInt8} {char : Char} (h : Writes octets char)
    (index : Nat) (rest : List UInt8) :
    Utf8.decodeFrom index (octets ++ rest) =
      (Utf8.decodeFrom (index + octets.length) rest).map (char :: ·) := by
  cases h with
  | one ha =>
    conv_lhs => unfold Utf8.decodeFrom
    simp only [List.cons_append, List.nil_append, if_pos ha]
    rfl
  | two hopens ha =>
    have hlow := hopens.not_lt
    obtain ⟨range, hrange, hb⟩ := hopens
    conv_lhs => unfold Utf8.decodeFrom
    simp only [List.cons_append, List.nil_append, if_neg hlow, hrange, if_neg hb, if_pos ha]
    rfl
  | three hopens hnot ha hc =>
    have hlow := hopens.not_lt
    obtain ⟨range, hrange, hb⟩ := hopens
    conv_lhs => unfold Utf8.decodeFrom
    simp only [List.cons_append, List.nil_append, if_neg hlow, hrange, if_neg hb, if_neg hnot, hc,
      not_true_eq_false, if_false, if_pos ha]
    rfl
  | four hopens hnot ha hc hd =>
    have hlow := hopens.not_lt
    obtain ⟨range, hrange, hb⟩ := hopens
    conv_lhs => unfold Utf8.decodeFrom
    simp only [List.cons_append, List.nil_append, if_neg hlow, hrange, if_neg hb, if_neg hnot, hc,
      hd, not_true_eq_false, if_false, if_neg ha]
    rfl

/-- The encoding of characters is read back, wherever it stands. -/
theorem decodeFrom_flatMap (index : Nat) (chars : List Char) :
    decodeFrom index (chars.flatMap String.utf8EncodeChar) = .ok chars := by
  induction chars generalizing index with
  | nil => rw [List.flatMap_nil, decodeFrom]
  | cons char rest ih =>
    rw [List.flatMap_cons, (writes_utf8EncodeChar char).decodeFrom, ih]
    rfl

/-- If a character is read off the front and the others are written by what follows, all of them
are written by the octets. -/
theorem Writes.flatMap_of_bind {front rest : List UInt8} {char : Char} {chars : List Char}
    {read : Except Error (List Char)} (h : Writes front char)
    (hrest : ∀ {others}, read = .ok others → others.flatMap String.utf8EncodeChar = rest)
    (hread : (read >>= fun others ↦ pure (char :: others)) = .ok chars) :
    chars.flatMap String.utf8EncodeChar = front ++ rest := by
  obtain ⟨others, hothers, hchars⟩ := bind_eq_ok_iff.1 hread
  cases hchars
  rw [List.flatMap_cons, h.utf8EncodeChar, hrest hothers]

/-- **Whatever is read is written by the octets**: characters are taken off only in the form in
which they are encoded. -/
theorem flatMap_of_decodeFrom {index : Nat} {octets : List UInt8} {chars : List Char}
    (h : decodeFrom index octets = .ok chars) : chars.flatMap String.utf8EncodeChar = octets := by
  fun_induction decodeFrom index octets generalizing chars with
  | case1 =>
    cases h
    rfl
  | case2 index a rest ha ih => exact (Writes.one ha).flatMap_of_bind ih h
  | case6 index a hlow low high b rest hrange hb ha ih =>
    exact (Writes.two ⟨_, hrange, hb⟩ ha).flatMap_of_bind ih h
  | case9 index a hlow low high b hrange hb hnot c rest hc ha ih =>
    exact (Writes.three ⟨_, hrange, hb⟩ hnot ha (not_not.1 hc)).flatMap_of_bind ih h
  | case12 index a hlow low high b hrange hb hnot c hc ha d rest hd ih =>
    exact (Writes.four ⟨_, hrange, hb⟩ hnot ha (not_not.1 hc) (not_not.1 hd)).flatMap_of_bind ih h
  | _ => cases h

/-- **Octets decode exactly when they encode a text**, and then to that text. -/
theorem decode_eq_ok_iff {octets : List UInt8} {text : String} :
    decode octets = .ok text ↔ encode text = octets := by
  rw [decode, map_eq_ok_iff]
  constructor
  · rintro ⟨chars, hchars, rfl⟩
    rw [encode, String.toList_ofList]
    exact flatMap_of_decodeFrom hchars
  · rintro rfl
    exact ⟨text.toList, decodeFrom_flatMap 0 _, String.ofList_toList⟩

end AlignmentTally.Utf8
