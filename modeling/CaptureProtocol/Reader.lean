import CaptureProtocol.Bytes

/-!
# Readers of byte strings

A `Reader` takes a value off the front of a byte string and leaves the rest, or fails when the string is too
short.  A reader never looks past what it takes.

* `take`, `skip` — a number of bytes;
* `u8`, `u16`, `u32`, `u64` — words, most significant byte first;
* `finish` — succeeds only at the end of the string;
* `pure_apply`, `bind_apply`, `map_apply` — how readers are composed;
* `take_append`, `u16_append`, `u32_append`, `u64_append` — a reader recovers what was written in front of any
  rest;
* `take_eq_some`, `u8_eq_some`, `u16_eq_some`, `u32_eq_some`, `u64_eq_some` — a reader that succeeds has seen the
  bytes of its value.
-/

namespace CaptureProtocol

/-- Takes a value off the front of a byte string, or fails. -/
abbrev Reader (α : Type) := StateT Bytes Option α

namespace Reader

/-- Exactly `count` bytes. -/
def take (count : Nat) : Reader Bytes := fun bytes =>
  let (front, rest) := bytes.splitAt count
  if front.length = count then some (front, rest) else none

/-- Passes over `count` bytes. -/
def skip (count : Nat) : Reader PUnit := do
  let _ ← take count

/-- One byte. -/
def u8 : Reader UInt8
  | byte :: rest => some (byte, rest)
  | [] => none

/-- A 16-bit word. -/
def u16 : Reader UInt16 := do return UInt16.ofNat (Bytes.value (← take 2))

/-- A 32-bit word. -/
def u32 : Reader UInt32 := do return UInt32.ofNat (Bytes.value (← take 4))

/-- A 64-bit word. -/
def u64 : Reader UInt64 := do return UInt64.ofNat (Bytes.value (← take 8))

/-- Succeeds only where nothing is left. -/
def finish : Reader PUnit := fun bytes => if bytes.isEmpty then some (⟨⟩, bytes) else none

/-- All that is left. -/
def remaining : Reader Bytes := fun bytes => some (bytes, [])

/-- The value that a reader finds in a byte string, whatever is left. -/
def parse {α : Type} (reader : Reader α) (bytes : Bytes) : Option α :=
  (reader bytes).map (·.1)

/-- Returning a value leaves the string alone. -/
theorem pure_apply {α : Type} (value : α) (bytes : Bytes) : (pure value : Reader α) bytes = some (value, bytes) :=
  rfl

/-- A composed reader runs its parts one after the other. -/
theorem bind_apply {α β : Type} (reader : Reader α) (next : α → Reader β) (bytes : Bytes) :
    (reader >>= next) bytes = (reader bytes).bind fun found => next found.1 found.2 := rfl

/-- A function is applied to what a reader finds. -/
theorem map_apply {α β : Type} (change : α → β) (reader : Reader α) (bytes : Bytes) :
    (change <$> reader) bytes = (reader bytes).map fun found => (change found.1, found.2) := by
  show (reader bytes).bind _ = _
  cases reader bytes <;> rfl

theorem take_eq (count : Nat) (bytes : Bytes) :
    take count bytes
      = if count ≤ bytes.length then some (bytes.take count, bytes.drop count) else none := by
  by_cases h : count ≤ bytes.length
  · rw [take, List.splitAt_eq, if_pos h]
    exact if_pos (List.length_take_of_le h)
  · rw [take, List.splitAt_eq, if_neg h]
    refine if_neg fun hlength => h ?_
    rw [← hlength, List.length_take]
    exact Nat.min_le_right ..

/-- Taking as many bytes as were put in front gives them back. -/
@[simp] theorem take_append (front rest : Bytes) :
    take front.length (front ++ rest) = some (front, rest) := by
  simp [take_eq]

/-- What is taken and what is left make up the string. -/
theorem take_eq_some {count : Nat} {bytes front rest : Bytes} (h : take count bytes = some (front, rest)) :
    front.length = count ∧ bytes = front ++ rest := by
  rw [take_eq] at h
  split at h
  · rename_i hle
    cases h
    exact ⟨by simp [hle], (List.take_append_drop ..).symm⟩
  · cases h

theorem take_bigEndian (width word : Nat) (rest : Bytes) :
    take width (Bytes.bigEndian width word ++ rest) = some (Bytes.bigEndian width word, rest) := by
  have h := take_append (Bytes.bigEndian width word) rest
  rwa [Bytes.bigEndian_length] at h

@[simp] theorem u16_append (word : UInt16) (rest : Bytes) :
    u16 (Bytes.ofUInt16 word ++ rest) = some (word, rest) := by
  have h := word.toNat_lt
  simp only [u16, Bytes.ofUInt16, bind_apply, take_bigEndian, Option.bind_some, pure_apply, Bytes.value_bigEndian,
    Bytes.wordCount]
  rw [Nat.mod_eq_of_lt (by omega), UInt16.ofNat_toNat]

@[simp] theorem u32_append (word : UInt32) (rest : Bytes) :
    u32 (Bytes.ofUInt32 word ++ rest) = some (word, rest) := by
  have h := word.toNat_lt
  simp only [u32, Bytes.ofUInt32, bind_apply, take_bigEndian, Option.bind_some, pure_apply, Bytes.value_bigEndian,
    Bytes.wordCount]
  rw [Nat.mod_eq_of_lt (by omega), UInt32.ofNat_toNat]

@[simp] theorem u64_append (word : UInt64) (rest : Bytes) :
    u64 (Bytes.ofUInt64 word ++ rest) = some (word, rest) := by
  have h := word.toNat_lt
  simp only [u64, Bytes.ofUInt64, bind_apply, take_bigEndian, Option.bind_some, pure_apply, Bytes.value_bigEndian,
    Bytes.wordCount]
  rw [Nat.mod_eq_of_lt (by omega), UInt64.ofNat_toNat]

/-! ### What a successful reader has seen -/

/-- A composed reader succeeds exactly when its parts do, one after the other. -/
theorem bind_eq_some {α β : Type} {reader : Reader α} {next : α → Reader β} {bytes : Bytes} {result : β × Bytes} :
    (reader >>= next) bytes = some result
      ↔ ∃ value rest, reader bytes = some (value, rest) ∧ next value rest = some result := by
  rw [bind_apply, Option.bind_eq_some_iff]
  constructor
  · rintro ⟨⟨value, rest⟩, h, hnext⟩
    exact ⟨value, rest, h, hnext⟩
  · rintro ⟨value, rest, h, hnext⟩
    exact ⟨⟨value, rest⟩, h, hnext⟩

/-- A reader that only returns leaves the string alone. -/
theorem pure_eq_some {α : Type} {value : α} {bytes : Bytes} {result : α × Bytes} :
    (pure value : Reader α) bytes = some result ↔ result = (value, bytes) := by
  rw [pure_apply, Option.some.injEq, eq_comm]

theorem u8_eq_some {bytes rest : Bytes} {byte : UInt8} (h : u8 bytes = some (byte, rest)) :
    bytes = byte :: rest := by
  cases bytes with
  | nil => cases h
  | cons => cases h; rfl

theorem u16_eq_some {bytes rest : Bytes} {word : UInt16} (h : u16 bytes = some (word, rest)) :
    bytes = Bytes.ofUInt16 word ++ rest := by
  obtain ⟨front, left, htake, hpure⟩ := bind_eq_some.mp h
  obtain ⟨hlen, rfl⟩ := take_eq_some htake
  cases pure_eq_some.mp hpure
  have hlt := Bytes.value_lt front
  simp only [hlen, Bytes.wordCount] at hlt
  rw [Bytes.ofUInt16, UInt16.toNat_ofNat', Nat.mod_eq_of_lt (by omega), ← hlen, Bytes.bigEndian_value]

theorem u32_eq_some {bytes rest : Bytes} {word : UInt32} (h : u32 bytes = some (word, rest)) :
    bytes = Bytes.ofUInt32 word ++ rest := by
  obtain ⟨front, left, htake, hpure⟩ := bind_eq_some.mp h
  obtain ⟨hlen, rfl⟩ := take_eq_some htake
  cases pure_eq_some.mp hpure
  have hlt := Bytes.value_lt front
  simp only [hlen, Bytes.wordCount] at hlt
  rw [Bytes.ofUInt32, UInt32.toNat_ofNat', Nat.mod_eq_of_lt (by omega), ← hlen, Bytes.bigEndian_value]

theorem u64_eq_some {bytes rest : Bytes} {word : UInt64} (h : u64 bytes = some (word, rest)) :
    bytes = Bytes.ofUInt64 word ++ rest := by
  obtain ⟨front, left, htake, hpure⟩ := bind_eq_some.mp h
  obtain ⟨hlen, rfl⟩ := take_eq_some htake
  cases pure_eq_some.mp hpure
  have hlt := Bytes.value_lt front
  simp only [hlen, Bytes.wordCount] at hlt
  rw [Bytes.ofUInt64, UInt64.toNat_ofNat', Nat.mod_eq_of_lt (by omega), ← hlen, Bytes.bigEndian_value]

end Reader

end CaptureProtocol
