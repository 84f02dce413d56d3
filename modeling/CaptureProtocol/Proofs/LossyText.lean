import CaptureProtocol.Proofs.Utf8
import Mathlib

/-!
# What reading makes of any bytes

Text is read from any bytes: what is not UTF-8 is replaced, and zero bytes at the end are dropped.

* `Utf8.decodeFrom_read` — what one leading byte gives: a replacement, or a character that is not NUL unless the byte
  is zero;
* `Utf8.decodeAfter_encoded_length_le` — a replacement is three bytes long, so text grows to at most three times the
  bytes;
* `Block.readText_eq_some` — a text that was read has no NUL at its end, so that it stays as it is when it is read
  again;
* `Block.fits_and_rest_of_readText` — a text comes back from its own block only if its length fits the length field.
-/

namespace CaptureProtocol

namespace Utf8

theorem extend_suffix (count code : Nat) (bounds : UInt8 × UInt8) (rest : Bytes) :
    (extend count code bounds rest).2 <:+ rest := by
  induction count generalizing code bounds rest with
  | zero => exact List.suffix_rfl
  | succ count ih =>
    cases rest with
    | nil => exact List.suffix_rfl
    | cons byte rest =>
      rw [extend]
      split
      · exact (ih _ _ rest).trans (List.suffix_cons byte rest)
      · exact List.suffix_rfl

theorem decodeFrom_suffix (lead : UInt8) (rest : Bytes) : (decodeFrom lead rest).2 <:+ rest := by
  unfold decodeFrom
  split
  · exact List.suffix_rfl
  · exact extend_suffix ..

theorem decodeAfter_eq (read : List Char) (bytes : Bytes) :
    decodeAfter read bytes = read.reverse ++ decodeAfter [] bytes := by
  induction hlength : bytes.length using Nat.strong_induction_on generalizing read bytes with
  | _ length ih =>
    cases bytes with
    | nil => rw [decodeAfter, decodeAfter, List.reverse_nil, List.append_nil]
    | cons lead rest =>
      have hshorter : (decodeFrom lead rest).2.length < length := by
        have := decodeFrom_length_le lead rest
        rw [← hlength, List.length_cons]
        omega
      rw [decodeAfter, decodeAfter, ih _ hshorter _ _ rfl, ih _ hshorter [_] _ rfl]
      simp

theorem decodeAfter_cons (lead : UInt8) (rest : Bytes) :
    decodeAfter [] (lead :: rest) = (decodeFrom lead rest).1 :: decodeAfter [] (decodeFrom lead rest).2 := by
  rw [decodeAfter, decodeAfter_eq]
  rfl

/-- Bytes after the second put six more bits each behind the code. -/
theorem extend_fst (count code : Nat) (rest : Bytes) :
    (extend count code (0x80, 0xBF) rest).1 = replacement
      ∨ ∃ low, low < 64 ^ count ∧ (extend count code (0x80, 0xBF) rest).1 = Char.ofNat (code * 64 ^ count + low) := by
  induction count generalizing code rest with
  | zero => exact .inr ⟨0, by simp, by simp [extend]⟩
  | succ count ih =>
    cases rest with
    | nil => exact .inl rfl
    | cons byte rest =>
      rw [extend]
      split
      · rcases ih (code * 64 + byte.toNat % 64) rest with hreplaced | ⟨low, hlow, hchar⟩
        · exact .inl hreplaced
        · refine .inr ⟨byte.toNat % 64 * 64 ^ count + low, ?_, ?_⟩
          · have hdigit : byte.toNat % 64 < 64 := Nat.mod_lt _ (by decide)
            calc byte.toNat % 64 * 64 ^ count + low < byte.toNat % 64 * 64 ^ count + 64 ^ count := by omega
              _ = (byte.toNat % 64 + 1) * 64 ^ count := by ring
              _ ≤ 64 * 64 ^ count := Nat.mul_le_mul_right _ hdigit
              _ = 64 ^ (count + 1) := by ring
          · rw [hchar]
            congr 1
            ring
      · exact .inl rfl

/-- What a leading byte gives: a replacement, the character of a single byte, or one of two bytes or more. -/
inductive Read (lead : UInt8) (rest : Bytes) : Char × Bytes → Prop
  | replaced {left : Bytes} (hleft : left.length ≤ rest.length) : Read lead rest (replacement, left)
  | single (hlead : lead.toNat < 128) : Read lead rest (Char.ofNat lead.toNat, rest)
  | wide {code : Nat} {left : Bytes} (hcode : 128 ≤ code) (hvalid : code.isValidChar)
      (hleft : left.length < rest.length) : Read lead rest (Char.ofNat code, left)

theorem decodeFrom_read (lead : UInt8) (rest : Bytes) : Read lead rest (decodeFrom lead rest) := by
  have hlength := decodeFrom_length_le lead rest
  rw [decodeFrom, continuations_eq] at hlength ⊢
  have hfirst := secondBounds_fst lead
  have hsecond := secondBounds_snd lead
  -- a leading byte of `count + 1` following bytes, with the bounds of the first of them
  have hmore : ∀ count,
      (∀ byte : UInt8, (secondBounds lead).1.toNat ≤ byte.toNat → byte.toNat ≤ (secondBounds lead).2.toNat →
        ∀ low, low < 64 ^ count →
          128 ≤ (leadBits lead (count + 1) * 64 + byte.toNat % 64) * 64 ^ count + low
            ∧ ((leadBits lead (count + 1) * 64 + byte.toNat % 64) * 64 ^ count + low).isValidChar) →
      Read lead rest (extend (count + 1) (leadBits lead (count + 1)) (secondBounds lead) rest) := by
    intro count hcodes
    cases rest with
    | nil => exact .replaced le_rfl
    | cons byte rest =>
      rw [extend]
      split
      · rename_i hbounds
        simp only [Bool.and_eq_true, decide_eq_true_eq, UInt8.le_iff_toNat_le] at hbounds
        have hleft := extend_length_le count (leadBits lead (count + 1) * 64 + byte.toNat % 64) (0x80, 0xBF) rest
        have hread := extend_fst count (leadBits lead (count + 1) * 64 + byte.toNat % 64) rest
        generalize extend count (leadBits lead (count + 1) * 64 + byte.toNat % 64) (0x80, 0xBF) rest = found
          at hleft hread
        obtain ⟨char, left⟩ := found
        rcases hread with rfl | ⟨low, hlow, rfl⟩
        · exact .replaced (hleft.trans (Nat.le_succ _))
        · obtain ⟨hcode, hvalid⟩ := hcodes byte hbounds.1 hbounds.2 low hlow
          exact .wide hcode hvalid (Nat.lt_succ_of_le hleft)
      · exact .replaced le_rfl
  split_ifs with h1 h2 h3 h4
  · exact .single h1
  · refine hmore 0 fun byte hlow hhigh low hsmall => ?_
    have hbits : leadBits lead (0 + 1) = lead.toNat % 32 := rfl
    rw [hfirst] at hlow
    rw [hsecond] at hhigh
    rw [hbits, Nat.isValidChar]
    split_ifs at hlow hhigh <;> omega
  · refine hmore 1 fun byte hlow hhigh low hsmall => ?_
    have hbits : leadBits lead (1 + 1) = lead.toNat % 16 := rfl
    rw [hfirst] at hlow
    rw [hsecond] at hhigh
    rw [hbits, Nat.isValidChar]
    have hbyte := byte.toNat_lt
    split_ifs at hlow hhigh <;> omega
  · refine hmore 2 fun byte hlow hhigh low hsmall => ?_
    have hbits : leadBits lead (2 + 1) = lead.toNat % 8 := rfl
    rw [hfirst] at hlow
    rw [hsecond] at hhigh
    rw [hbits, Nat.isValidChar]
    have hbyte := byte.toNat_lt
    split_ifs at hlow hhigh <;> omega
  · exact .replaced le_rfl

theorem toNat_ofNat {code : Nat} (hvalid : code.isValidChar) : (Char.ofNat code).toNat = code := by
  rw [Char.ofNat, dif_pos hvalid]
  rfl

theorem ofNat_ne_nul {code : Nat} (hpos : code ≠ 0) (hvalid : code.isValidChar) : Char.ofNat code ≠ '\x00' := by
  intro hnul
  have hcode := toNat_ofNat hvalid
  rw [hnul] at hcode
  exact hpos hcode.symm

/-- Text that was read from bytes whose last is not zero does not end in NUL.  The induction is on the bytes that are
left; the last of them stays the same. -/
theorem decodeAfter_getLast? {bytes : Bytes} {last : UInt8} (hlast : bytes.getLast? = some last) (hne : last ≠ 0) :
    ∀ char ∈ (decodeAfter [] bytes).getLast?, char ≠ '\x00' := by
  induction hlength : bytes.length using Nat.strong_induction_on generalizing bytes with
  | _ length ih =>
    cases bytes with
    | nil => cases hlast
    | cons lead rest =>
      rw [decodeAfter_cons]
      have hread := decodeFrom_read lead rest
      have hshorter := decodeFrom_length_le lead rest
      have hsuffix := decodeFrom_suffix lead rest
      generalize decodeFrom lead rest = found at hread hshorter hsuffix
      obtain ⟨char, left⟩ := found
      dsimp only at hshorter hsuffix ⊢
      cases left with
      | nil =>
        intro final hfinal
        rw [decodeAfter, List.reverse_nil, List.getLast?_singleton, Option.mem_some_iff] at hfinal
        subst hfinal
        generalize hnil : ([] : Bytes) = left at hread
        cases hread with
        | replaced => decide
        | single hlead =>
          subst hnil
          rw [List.getLast?_singleton, Option.some.injEq] at hlast
          subst hlast
          refine ofNat_ne_nul (fun hzero => hne (UInt8.toNat_inj.mp hzero)) ?_
          left
          omega
        | wide hcode hvalid => exact ofNat_ne_nul (by omega) hvalid
      | cons byte others =>
        obtain ⟨front, rfl⟩ := hsuffix
        have hsame : (byte :: others).getLast? = some last := by
          rw [← hlast]
          exact (List.getLast?_append_of_ne_nil (lead :: front) (List.cons_ne_nil byte others)).symm
        have hlater := ih _ (by rw [List.length_cons] at hlength; omega) hsame rfl
        have hsome : decodeAfter [] (byte :: others) ≠ [] := by
          rw [decodeAfter_cons]
          exact List.cons_ne_nil _ _
        rw [List.getLast?_cons_of_ne_nil hsome]
        exact hlater

/-- Text that was read is at most three times as long as the bytes that it was read from: a byte that leads no
character becomes the three bytes of a replacement. -/
theorem decodeAfter_encoded_length_le (bytes : Bytes) :
    ((decodeAfter [] bytes).flatMap String.utf8EncodeChar).length ≤ 3 * bytes.length := by
  induction hlength : bytes.length using Nat.strong_induction_on generalizing bytes with
  | _ length ih =>
    cases bytes with
    | nil =>
      rw [decodeAfter]
      exact Nat.zero_le _
    | cons lead rest =>
      rw [decodeAfter_cons, List.flatMap_cons, List.length_append, String.length_utf8EncodeChar]
      have hread := decodeFrom_read lead rest
      have hshorter := decodeFrom_length_le lead rest
      generalize decodeFrom lead rest = found at hread hshorter
      obtain ⟨char, left⟩ := found
      dsimp only at hshorter ⊢
      rw [List.length_cons] at hlength
      have hlater := ih left.length (by omega) left rfl
      cases hread with
      | replaced =>
        have hsize : replacement.utf8Size = 3 := by decide
        omega
      | single hlead =>
        have hsize : (Char.ofNat lead.toNat).utf8Size = 1 := by
          have hcode : (Char.ofNat lead.toNat).toNat = lead.toNat := toNat_ofNat (.inl (by omega))
          rw [Char.utf8Size_eq_one_iff, UInt32.le_iff_toNat_le]
          show (Char.ofNat lead.toNat).toNat ≤ 127
          omega
        omega
      | @wide code left hcode hvalid hleft =>
        have hsize := (Char.ofNat code).utf8Size_le_four
        omega

/-- Text that was written and cut short is read back but for its last character. -/
theorem decodeAfter_take_encoded_length_le (chars : List Char) (count : Nat) :
    ((decodeAfter [] ((chars.flatMap String.utf8EncodeChar).take count)).flatMap String.utf8EncodeChar).length
      ≤ count + 9 := by
  induction chars generalizing count with
  | nil =>
    rw [List.flatMap_nil, List.take_nil, decodeAfter]
    exact Nat.zero_le _
  | cons char chars ih =>
    rw [List.flatMap_cons, List.take_append]
    by_cases hwhole : (String.utf8EncodeChar char).length ≤ count
    · have hlater := ih (count - (String.utf8EncodeChar char).length)
      rw [List.take_of_length_le hwhole, decodeAfter_encodeChar, decodeAfter_eq]
      rw [List.flatMap_append, List.length_append, List.reverse_singleton, List.flatMap_singleton]
      omega
    · have hsize := char.utf8Size_le_four
      rw [← String.length_utf8EncodeChar] at hsize
      rw [show count - (String.utf8EncodeChar char).length = 0 from by omega, List.take_zero, List.append_nil]
      have hgrowth := decodeAfter_encoded_length_le ((String.utf8EncodeChar char).take count)
      rw [List.length_take] at hgrowth
      omega

end Utf8

namespace Block

open Reader

/-- A text that was read has no NUL at its end. -/
theorem trimNul_decodeLossy_trimZeros (bytes : Bytes) :
    trimNul (Utf8.decodeLossy (trimZeros bytes)) = Utf8.decodeLossy (trimZeros bytes) := by
  rw [trimNul, Utf8.decodeLossy, String.toList_ofList]
  congr 1
  rw [List.rdropWhile_eq_self_iff]
  intro hchars hnul
  have hbytes : trimZeros bytes ≠ [] := by
    intro hempty
    rw [hempty, Utf8.decodeAfter] at hchars
    exact hchars rfl
  have hlast := List.rdropWhile_last_not (· == 0) bytes hbytes
  rw [beq_iff_eq] at hlast hnul
  exact Utf8.decodeAfter_getLast? (List.getLast?_eq_some_getLast hbytes) hlast _
    (List.getLast?_eq_some_getLast hchars) hnul

theorem trimZeros_length_le (bytes : Bytes) : (trimZeros bytes).length ≤ bytes.length :=
  (List.rdropWhile_prefix (· == 0) bytes).length_le

/-- A block of text that was read: its text has no NUL at its end, and it is at most three times as long as the
block. -/
theorem readText_eq_some {bytes rest : Bytes} {text : String} (h : readText bytes = some (text, rest)) :
    trimNul text = text ∧ (Utf8.encode text).length + 3 * (rest.length + 2) ≤ 3 * bytes.length := by
  obtain ⟨data, left, hdata, hpure⟩ := bind_eq_some.mp h
  cases pure_eq_some.mp hpure
  obtain ⟨length, left, hlength, htake⟩ := bind_eq_some.mp hdata
  obtain ⟨hcount, rfl⟩ := take_eq_some htake
  have hbytes := u16_eq_some hlength
  refine ⟨trimNul_decodeLossy_trimZeros data, ?_⟩
  have hgrowth := Utf8.decodeAfter_encoded_length_le (trimZeros data)
  have htrim := trimZeros_length_le data
  rw [hbytes, Utf8.encode, Utf8.decodeLossy, String.toList_ofList, List.length_append, List.length_append,
    Bytes.ofUInt16_length]
  omega

/-- A text block gives its text back only if its length can be announced. -/
theorem fits_of_readText_writeText {text : String} {bytes rest : Bytes}
    (h : readText (writeText text ++ bytes) = some (text, rest)) :
    Bytes.fitsLengthField (paddedLength text) = true := by
  by_contra hlong
  rw [Bytes.fitsLengthField, decide_eq_true_iff] at hlong
  obtain ⟨data, left, hdata, hpure⟩ := bind_eq_some.mp h
  have htext := congrArg Prod.fst (pure_eq_some.mp hpure)
  dsimp only at htext
  obtain ⟨length, left', hlength, htake⟩ := bind_eq_some.mp hdata
  rw [writeText, lengthField, List.append_assoc, List.append_assoc, u16_append, Option.some.injEq,
    Prod.mk.injEq] at hlength
  obtain ⟨hannounced, hleft⟩ := hlength
  have hcount : length.toNat = paddedLength text % 65536 := by
    rw [← hannounced, UInt16.toNat_ofNat']
  have hpadded : paddedLength text ≤ (Utf8.encode text).length + 1 := by
    rw [paddedLength, Bytes.evenLength]
    omega
  -- the announced length is short by at least 65536 bytes, so only a front of the text is read
  obtain ⟨count, hfront⟩ : ∃ count, count ≤ length.toNat ∧ trimZeros data = (Utf8.encode text).take count := by
    obtain ⟨hsize, hsplit⟩ := take_eq_some htake
    have hdataFront : data = (Utf8.encode text).take length.toNat := by
      have := congrArg (List.take length.toNat) (hleft.trans hsplit)
      rw [List.take_append_of_le_length (by omega), List.take_append_of_le_length (by omega),
        List.take_of_length_le (by omega : data.length ≤ length.toNat)] at this
      exact this.symm
    have hprefix := List.prefix_iff_eq_take.mp (List.rdropWhile_prefix (· == 0) data)
    refine ⟨min (trimZeros data).length length.toNat, min_le_right _ _, ?_⟩
    rw [← List.take_take, ← hdataFront]
    exact hprefix
  have hgrowth := Utf8.decodeAfter_take_encoded_length_le text.toList count
  have hsame : (Utf8.encode text).length
      = ((Utf8.decodeAfter [] (trimZeros data)).flatMap String.utf8EncodeChar).length := by
    conv_lhs => rw [htext]
    rw [Utf8.encode, Utf8.decodeLossy, String.toList_ofList]
  rw [hfront.2, Utf8.encode] at hsame
  rw [Utf8.encode] at hpadded
  omega

/-- A text that its block gives back was written in full, and reading goes on behind it. -/
theorem fits_and_rest_of_readText {text : String} {bytes rest : Bytes}
    (h : readText (writeText text ++ bytes) = some (text, rest)) :
    Bytes.fitsLengthField (paddedLength text) = true ∧ rest = bytes := by
  have hfits := fits_of_readText_writeText h
  rw [readText_append _ _ hfits, Option.some.injEq, Prod.mk.injEq] at h
  exact ⟨hfits, h.2.symm⟩

end Block

end CaptureProtocol
