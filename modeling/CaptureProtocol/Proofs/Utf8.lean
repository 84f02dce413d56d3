import CaptureProtocol.Payload.Block
import Mathlib

/-!
# Text survives the wire

Writing a text and reading it back gives the text; a text block gives the text without the NUL characters at
its end.

* `decodeAfter_encodeChar` — one written character is read back, whatever follows; the four written lengths are
  `decodeFrom_one` to `decodeFrom_four`;
* `trimNul` — a text without the NUL characters at its end;
* `readText_append` — a text block is read back trimmed, from in front of any rest.
-/

namespace CaptureProtocol

namespace Utf8

theorem toNat_ofNat_of_lt {n : Nat} (h : n < 256) : (UInt8.ofNat n).toNat = n := by
  rw [UInt8.toNat_ofNat', Nat.mod_eq_of_lt h]

/-! ### Leading and following bytes as numbers -/

theorem continuations_eq (lead : UInt8) :
    continuations lead =
      if lead.toNat < 128 then some 0
      else if 194 ≤ lead.toNat ∧ lead.toNat ≤ 223 then some 1
      else if 224 ≤ lead.toNat ∧ lead.toNat ≤ 239 then some 2
      else if 240 ≤ lead.toNat ∧ lead.toNat ≤ 244 then some 3
      else none := by
  simp [continuations, UInt8.lt_iff_toNat_lt, UInt8.le_iff_toNat_le]

theorem secondBounds_fst (lead : UInt8) :
    (secondBounds lead).1.toNat
      = if lead.toNat = 224 then 160 else if lead.toNat = 240 then 144 else 128 := by
  simp only [secondBounds, ← UInt8.toNat_inj]
  split_ifs <;> simp_all

theorem secondBounds_snd (lead : UInt8) :
    (secondBounds lead).2.toNat
      = if lead.toNat = 237 then 159 else if lead.toNat = 244 then 143 else 191 := by
  simp only [secondBounds, ← UInt8.toNat_inj]
  split_ifs <;> simp_all

theorem extend_cons {count code : Nat} {bounds : UInt8 × UInt8} {byte : UInt8} {rest : Bytes}
    (hlow : bounds.1.toNat ≤ byte.toNat) (hhigh : byte.toNat ≤ bounds.2.toNat) :
    extend (count + 1) code bounds (byte :: rest)
      = extend count (code * 64 + byte.toNat % 64) (0x80, 0xBF) rest := by
  obtain ⟨low, high⟩ := bounds
  rw [extend, if_pos]
  simpa [UInt8.le_iff_toNat_le] using And.intro hlow hhigh

/-- A byte after the second adds its six low bits. -/
theorem extend_tail {count code n : Nat} {rest : Bytes} :
    extend (count + 1) code (0x80, 0xBF) (UInt8.ofNat (n % 64 + 128) :: rest)
      = extend count (code * 64 + n % 64) (0x80, 0xBF) rest := by
  have hbyte : (UInt8.ofNat (n % 64 + 128)).toNat = n % 64 + 128 := toNat_ofNat_of_lt (by omega)
  rw [extend_cons (by rw [hbyte]; exact Nat.le_add_left ..) (by rw [hbyte]; show _ ≤ 191; omega), hbyte]
  congr 1
  omega

/-! ### One character -/

theorem decodeFrom_one {code : Nat} (rest : Bytes) (h : code ≤ 0x7F) :
    decodeFrom (UInt8.ofNat code) rest = (Char.ofNat code, rest) := by
  have hlead : (UInt8.ofNat code).toNat = code := toNat_ofNat_of_lt (by omega)
  rw [decodeFrom, continuations_eq, hlead, if_pos (by omega)]
  simp only [extend, leadBits, if_pos, hlead]

theorem decodeFrom_two {code : Nat} (rest : Bytes) (hlow : 0x7F < code) (hhigh : code ≤ 0x7FF) :
    decodeFrom (UInt8.ofNat (code / 64 % 0x20 + 0xC0)) (UInt8.ofNat (code % 0x40 + 0x80) :: rest)
      = (Char.ofNat code, rest) := by
  have hlead : (UInt8.ofNat (code / 64 % 0x20 + 0xC0)).toNat = code / 64 % 32 + 192 :=
    toNat_ofNat_of_lt (by omega)
  have hbits : leadBits (UInt8.ofNat (code / 64 % 0x20 + 0xC0)) 1 = (code / 64 % 32 + 192) % 32 := by
    show _ % 32 = _
    rw [hlead]
  have hsecond : (UInt8.ofNat (code % 0x40 + 0x80)).toNat = code % 64 + 128 := toNat_ofNat_of_lt (by omega)
  rw [decodeFrom, continuations_eq, hlead, if_neg (by omega), if_pos (by omega)]
  show extend 1 _ _ _ = _
  rw [extend_cons (by rw [secondBounds_fst, hlead, hsecond]; split_ifs <;> omega)
      (by rw [secondBounds_snd, hlead, hsecond]; split_ifs <;> omega), extend, hbits, hsecond,
    show (code / 64 % 32 + 192) % 32 * 64 + (code % 64 + 128) % 64 = code from by omega]

theorem decodeFrom_three {code : Nat} (rest : Bytes) (hlow : 0x7FF < code) (hhigh : code ≤ 0xFFFF)
    (hsurrogate : code < 0xD800 ∨ 0xDFFF < code) :
    decodeFrom (UInt8.ofNat (code / 4096 % 0x10 + 0xE0))
        (UInt8.ofNat (code / 64 % 0x40 + 0x80) :: UInt8.ofNat (code % 0x40 + 0x80) :: rest)
      = (Char.ofNat code, rest) := by
  have hlead : (UInt8.ofNat (code / 4096 % 0x10 + 0xE0)).toNat = code / 4096 % 16 + 224 :=
    toNat_ofNat_of_lt (by omega)
  have hbits : leadBits (UInt8.ofNat (code / 4096 % 0x10 + 0xE0)) 2 = (code / 4096 % 16 + 224) % 16 := by
    show _ % 16 = _
    rw [hlead]
  have hsecond : (UInt8.ofNat (code / 64 % 0x40 + 0x80)).toNat = code / 64 % 64 + 128 :=
    toNat_ofNat_of_lt (by omega)
  rw [decodeFrom, continuations_eq, hlead, if_neg (by omega), if_neg (by omega), if_pos (by omega)]
  show extend 2 _ _ _ = _
  -- the bounds of the second byte shut out what two bytes can write, and the surrogates
  rw [extend_cons (by rw [secondBounds_fst, hlead, hsecond]; split_ifs <;> omega)
      (by rw [secondBounds_snd, hlead, hsecond]; split_ifs <;> omega), extend_tail, extend, hbits, hsecond,
    show ((code / 4096 % 16 + 224) % 16 * 64 + (code / 64 % 64 + 128) % 64) * 64 + code % 64 = code from by
      omega]

theorem decodeFrom_four {code : Nat} (rest : Bytes) (hlow : 0xFFFF < code) (hhigh : code < 0x110000) :
    decodeFrom (UInt8.ofNat (code / 262144 % 0x08 + 0xF0))
        (UInt8.ofNat (code / 4096 % 0x40 + 0x80) :: UInt8.ofNat (code / 64 % 0x40 + 0x80) ::
          UInt8.ofNat (code % 0x40 + 0x80) :: rest)
      = (Char.ofNat code, rest) := by
  have hlead : (UInt8.ofNat (code / 262144 % 0x08 + 0xF0)).toNat = code / 262144 % 8 + 240 :=
    toNat_ofNat_of_lt (by omega)
  have hbits : leadBits (UInt8.ofNat (code / 262144 % 0x08 + 0xF0)) 3 = (code / 262144 % 8 + 240) % 8 := by
    show _ % 8 = _
    rw [hlead]
  have hsecond : (UInt8.ofNat (code / 4096 % 0x40 + 0x80)).toNat = code / 4096 % 64 + 128 :=
    toNat_ofNat_of_lt (by omega)
  rw [decodeFrom, continuations_eq, hlead, if_neg (by omega), if_neg (by omega), if_neg (by omega),
    if_pos (by omega)]
  show extend 3 _ _ _ = _
  rw [extend_cons (by rw [secondBounds_fst, hlead, hsecond]; split_ifs <;> omega)
      (by rw [secondBounds_snd, hlead, hsecond]; split_ifs <;> omega), extend_tail, extend_tail, extend, hbits,
    hsecond,
    show (((code / 262144 % 8 + 240) % 8 * 64 + (code / 4096 % 64 + 128) % 64) * 64 + code / 64 % 64) * 64
        + code % 64 = code from by omega]

/-- One written character is read back and the rest is left alone. -/
theorem decodeAfter_encodeChar (read : List Char) (c : Char) (rest : Bytes) :
    decodeAfter read (String.utf8EncodeChar c ++ rest) = decodeAfter (c :: read) rest := by
  have hvalid := c.valid
  simp only [UInt32.isValidChar, Nat.isValidChar] at hvalid
  have hcode : Char.ofNat c.val.toNat = c := Char.ofNat_toNat c
  unfold String.utf8EncodeChar
  dsimp only
  split_ifs with h1 h2 h3
  · rw [List.singleton_append, decodeAfter, decodeFrom_one _ h1, hcode]
  · rw [List.cons_append, List.singleton_append, decodeAfter, decodeFrom_two _ (by omega) h2, hcode]
  · rw [List.cons_append, List.cons_append, List.singleton_append, decodeAfter,
      decodeFrom_three _ (by omega) h3 (by omega), hcode]
  · rw [List.cons_append, List.cons_append, List.cons_append, List.singleton_append, decodeAfter,
      decodeFrom_four _ (by omega) (by omega), hcode]

/-! ### Whole texts -/

theorem decodeAfter_flatMap (read chars : List Char) :
    decodeAfter read (chars.flatMap String.utf8EncodeChar) = read.reverse ++ chars := by
  induction chars generalizing read with
  | nil => rw [List.flatMap_nil, decodeAfter, List.append_nil]
  | cons c chars ih =>
    rw [List.flatMap_cons, decodeAfter_encodeChar, ih, List.reverse_cons, List.append_assoc,
      List.singleton_append]

/-- A written list of characters is read back as the text that it makes up. -/
theorem decodeLossy_flatMap (chars : List Char) :
    decodeLossy (chars.flatMap String.utf8EncodeChar) = String.ofList chars := by
  rw [decodeLossy, decodeAfter_flatMap, List.reverse_nil, List.nil_append]

/-- Only the NUL character ends in a zero byte. -/
theorem encodeChar_ends (c : Char) (h : c ≠ '\x00') :
    ∃ front last, String.utf8EncodeChar c = front ++ [last] ∧ last ≠ 0 := by
  have hcode : c.val.toNat ≠ 0 := fun h0 => h (Char.ext (UInt32.toNat_inj.mp h0))
  have hfollowing : ∀ n : Nat, UInt8.ofNat (n % 0x40 + 0x80) ≠ 0 := by
    intro n hzero
    have := congrArg UInt8.toNat hzero
    rw [toNat_ofNat_of_lt (by omega), UInt8.toNat_zero] at this
    omega
  unfold String.utf8EncodeChar
  dsimp only
  split_ifs with h1 h2 h3
  · refine ⟨[], _, rfl, fun hzero => hcode ?_⟩
    have := congrArg UInt8.toNat hzero
    rwa [toNat_ofNat_of_lt (by omega), UInt8.toNat_zero] at this
  · exact ⟨[_], _, rfl, hfollowing _⟩
  · exact ⟨[_, _], _, rfl, hfollowing _⟩
  · exact ⟨[_, _, _], _, rfl, hfollowing _⟩

end Utf8

/-! ### Text blocks -/

namespace Block

/-- A text without the NUL characters at its end. -/
def trimNul (text : String) : String := String.ofList (text.toList.rdropWhile (· == '\x00'))

theorem trimZeros_eq (bytes : Bytes) : trimZeros bytes = bytes.rdropWhile (· == 0) := rfl

theorem trimZeros_append_zeros (bytes : Bytes) (count : Nat) :
    trimZeros (bytes ++ List.replicate count 0) = trimZeros bytes := by
  induction count with
  | zero => rw [List.replicate_zero, List.append_nil]
  | succ count ih =>
    rw [List.replicate_succ', ← List.append_assoc, trimZeros_eq, List.rdropWhile_concat_pos _ _ _ rfl]
    exact ih

/-- Zero bytes at the end of a written text are its NUL characters. -/
theorem trimZeros_flatMap (chars : List Char) :
    trimZeros (chars.flatMap String.utf8EncodeChar)
      = (chars.rdropWhile (· == '\x00')).flatMap String.utf8EncodeChar := by
  induction chars using List.reverseRecOn with
  | nil => rfl
  | append_singleton chars c ih =>
    rw [List.flatMap_append, List.flatMap_singleton]
    by_cases hnul : c = '\x00'
    · subst hnul
      rw [List.rdropWhile_concat_pos _ _ _ rfl, ← ih]
      exact trimZeros_append_zeros _ 1
    · obtain ⟨front, last, hencoded, hlast⟩ := Utf8.encodeChar_ends c hnul
      rw [List.rdropWhile_concat_neg _ _ _ (by simpa using hnul), List.flatMap_append,
        List.flatMap_singleton, hencoded, ← List.append_assoc, trimZeros_eq,
        List.rdropWhile_concat_neg _ _ _ (by simpa using hlast)]

theorem evenPadding_eq (length : Nat) : evenPadding length = List.replicate (length % 2) 0 := by
  rcases Nat.mod_two_eq_zero_or_one length with h | h <;> simp [evenPadding, h]

/-- A text block whose padded length fits its field is read back, trimmed, from in front of any rest. -/
theorem readText_append (text : String) (rest : Bytes)
    (h : Bytes.fitsLengthField (paddedLength text) = true) :
    readText (writeText text ++ rest) = some (trimNul text, rest) := by
  have hlength : (Utf8.encode text ++ evenPadding (Utf8.encode text).length).length = paddedLength text := by
    rw [List.length_append, evenPadding_length, paddedLength, Bytes.evenLength]
  have hwrite : writeText text = writeData (Utf8.encode text ++ evenPadding (Utf8.encode text).length) := by
    rw [writeData, hlength, ← List.append_assoc]
    rfl
  rw [readText, Reader.bind_apply, hwrite, readData_append _ _ (by rwa [hlength]), Option.bind_some]
  show some (Utf8.decodeLossy _, rest) = _
  rw [evenPadding_eq, trimZeros_append_zeros, Utf8.encode, trimZeros_flatMap, Utf8.decodeLossy_flatMap]
  rfl

end Block

end CaptureProtocol
