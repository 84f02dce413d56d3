import CaptureProtocol.Proofs.FrameGrammar
import CaptureProtocol.Proofs.ReadPayloads
import Mathlib

/-!
# Readers that do not look before they read

A reader checks at every step that the bytes it takes are there.  A scanner does not: it asks for bytes and overruns
when there are fewer, and it is up to the layout to compare lengths before.  A scanner has three endings, a reader two,
and a scanner that does what a reader does has never overrun.

* `Scan` — the endings; `Scanner` — the scanners, with `split`, `advance` and the words as their unchecked steps, and
  `require`, `need` as the only checks;
* `Fixed` — an unchecked step against the reader of as many bytes: it overruns exactly where the reader fails;
* `Guards` — a scanner does what a reader does once enough bytes are known to be there; `Fixed.bind`, `Guards.bind`
  and `Guards.need` put scanners together;
* `SampleWidth.scanSamplesAfter` — the loop over samples, which has no check of its own; `scanSamplesAfter_cases`;
* `CanFrame.scan`, `AnalogBlock.scan`, `ModuleStatus.scan`, `InterfaceStatus.scan` — the layouts with few checks;
* `Payload.scan_eq_parse` — no body makes the scanner of a payload overrun.
-/

namespace CaptureProtocol

/-- How a scanner ends. -/
inductive Scan (α : Type) where
  | found (value : α)
  /-- The bytes do not have the layout. -/
  | refused
  /-- More bytes were asked for than were left. -/
  | overrun
deriving DecidableEq, Inhabited, Repr

namespace Scan

variable {α β : Type}

/-- Goes on with what was found. -/
def bind : Scan α → (α → Scan β) → Scan β
  | found value, next => next value
  | refused, _ => refused
  | overrun, _ => overrun

instance : Monad Scan where
  pure := found
  bind := bind

/-- The ending of a reader. -/
def ofOption : Option α → Scan α
  | some value => found value
  | none => refused

theorem found_bind (value : α) (next : α → Scan β) : (found value >>= next) = next value := rfl

theorem overrun_bind (next : α → Scan β) : ((overrun : Scan α) >>= next) = overrun := rfl

theorem ofOption_bind (found? : Option α) (next : α → Option β) :
    ofOption (found?.bind next) = (ofOption found? >>= fun value => ofOption (next value)) := by
  cases found? <;> rfl

end Scan

/-- Takes a value off the front of a byte string, refuses it, or overruns it. -/
abbrev Scanner (α : Type) := StateT Bytes Scan α

namespace Scanner

variable {α β : Type}

/-! ### Unchecked steps -/

/-- Splits off `count` bytes. -/
def split (count : Nat) : Scanner Bytes := fun bytes =>
  if count ≤ bytes.length then .found (bytes.take count, bytes.drop count) else .overrun

/-- Passes over `count` bytes. -/
def advance (count : Nat) : Scanner PUnit := do
  let _ ← split count

/-- One byte. -/
def u8 : Scanner UInt8
  | byte :: rest => .found (byte, rest)
  | [] => .overrun

/-- A 16-bit word. -/
def u16 : Scanner UInt16 := do return UInt16.ofNat (Bytes.value (← split 2))

/-- A 32-bit word. -/
def u32 : Scanner UInt32 := do return UInt32.ofNat (Bytes.value (← split 4))

/-- A 64-bit word. -/
def u64 : Scanner UInt64 := do return UInt64.ofNat (Bytes.value (← split 8))

/-- The first `count` bytes of a string that was split off before. -/
def slice (bytes : Bytes) (count : Nat) : Scanner Bytes := fun rest =>
  if count ≤ bytes.length then .found (bytes.take count, rest) else .overrun

/-! ### Checks -/

/-- The number of bytes that are left. -/
def remaining : Scanner Nat := fun bytes => .found (bytes.length, bytes)

/-- Refuses the bytes unless a condition holds. -/
def require (condition : Prop) [Decidable condition] : Scanner PUnit := fun bytes =>
  if condition then .found (⟨⟩, bytes) else .refused

/-- Refuses the bytes unless `count` of them are left. -/
def need (count : Nat) : Scanner PUnit := do require (count ≤ (← remaining))

/-- Refuses bytes that are left. -/
def finish : Scanner PUnit := do require ((← remaining) = 0)

/-- Refuses the bytes where there is no value. -/
def ofOption (value : Option α) : Scanner α := fun bytes => Scan.ofOption (value.map (·, bytes))

/-- Goes on without a value where a scanner refuses the bytes. -/
def attempt (scanner : Scanner α) : Scanner (Option α) := fun bytes =>
  match scanner bytes with
  | .found (value, rest) => .found (some value, rest)
  | .refused => .found (none, bytes)
  | .overrun => .overrun

/-- What a scanner finds in a byte string, whatever is left. -/
def parse (scanner : Scanner α) (bytes : Bytes) : Scan α := do return (← scanner bytes).1

theorem bind_apply (scanner : Scanner α) (next : α → Scanner β) (bytes : Bytes) :
    (scanner >>= next) bytes = (scanner bytes >>= fun found => next found.1 found.2) := rfl

theorem remaining_bind (next : Nat → Scanner α) (bytes : Bytes) :
    (remaining >>= next) bytes = next bytes.length bytes := rfl

theorem get_bind (next : Bytes → Scanner α) (bytes : Bytes) : (get >>= next) bytes = next bytes bytes := rfl

theorem split_bind {count : Nat} {bytes : Bytes} (h : count ≤ bytes.length) (next : Bytes → Scanner α) :
    (split count >>= next) bytes = next (bytes.take count) (bytes.drop count) := by
  rw [bind_apply, split, if_pos h]
  rfl

theorem require_of {condition : Prop} [Decidable condition] (h : condition) (bytes : Bytes) :
    require condition bytes = .found (⟨⟩, bytes) := if_pos h

theorem require_of_not {condition : Prop} [Decidable condition] (h : ¬ condition) (bytes : Bytes) :
    require condition bytes = .refused := if_neg h

theorem need_of_le {count : Nat} {bytes : Bytes} (h : count ≤ bytes.length) :
    need count bytes = .found (⟨⟩, bytes) := require_of h bytes

theorem need_of_lt {count : Nat} {bytes : Bytes} (h : bytes.length < count) : need count bytes = .refused :=
  require_of_not (Nat.not_le_of_lt h) bytes

/-! ### Steps of a fixed size -/

/-- A step that asks for `count` bytes: it finds what the reader finds, and overruns where there are fewer. -/
structure Fixed (count : Nat) (scanner : Scanner α) (reader : Reader α) : Prop where
  takes : Reader.Takes count reader
  covered : ∀ bytes : Bytes, count ≤ bytes.length → scanner bytes = .ofOption (reader bytes)
  overruns : ∀ bytes : Bytes, bytes.length < count → scanner bytes = .overrun

theorem fixed_split (count : Nat) : Fixed count (split count) (Reader.take count) where
  takes := Reader.takes_take count
  covered bytes h := by
    rw [split, if_pos h, Reader.take_eq, if_pos h]
    rfl
  overruns bytes h := by rw [split, if_neg (Nat.not_le_of_lt h)]

theorem fixed_u8 : Fixed 1 u8 Reader.u8 where
  takes := Reader.takes_u8
  covered bytes h := by
    cases bytes with
    | nil => cases h
    | cons byte rest => rfl
  overruns bytes h := by
    rw [List.eq_nil_of_length_eq_zero (Nat.lt_one_iff.mp h)]
    rfl

/-- What is made of the bytes of a step makes no difference. -/
theorem Fixed.map {count : Nat} {scanner : Scanner α} {reader : Reader α} (h : Fixed count scanner reader)
    (change : α → β) :
    Fixed count (scanner >>= fun value => pure (change value)) (reader >>= fun value => pure (change value)) where
  takes := h.takes.bind fun _ => Reader.takes_pure _
  covered bytes hlength := by
    rw [bind_apply, Reader.bind_apply, h.covered bytes hlength, Scan.ofOption_bind]
    rfl
  overruns bytes hlength := by rw [bind_apply, h.overruns bytes hlength, Scan.overrun_bind]

theorem fixed_advance (count : Nat) : Fixed count (advance count) (Reader.skip count) := (fixed_split count).map _

theorem fixed_u16 : Fixed 2 u16 Reader.u16 := (fixed_split 2).map _

theorem fixed_u32 : Fixed 4 u32 Reader.u32 := (fixed_split 4).map _

theorem fixed_u64 : Fixed 8 u64 Reader.u64 := (fixed_split 8).map _

/-! ### Scanners that are put together -/

/-- With `count` bytes the scanner does what the reader does, and with fewer the reader fails. -/
structure Guards (count : Nat) (scanner : Scanner α) (reader : Reader α) : Prop where
  covered : ∀ bytes : Bytes, count ≤ bytes.length → scanner bytes = .ofOption (reader bytes)
  fails : ∀ bytes : Bytes, bytes.length < count → reader bytes = none

theorem Fixed.guards {count : Nat} {scanner : Scanner α} {reader : Reader α} (h : Fixed count scanner reader) :
    Guards count scanner reader := ⟨h.covered, h.takes.fails⟩

/-- Nothing needs to be there for a scanner that does on all bytes what the reader does. -/
theorem guards_of_eq {scanner : Scanner α} {reader : Reader α}
    (h : ∀ bytes, scanner bytes = .ofOption (reader bytes)) : Guards 0 scanner reader :=
  ⟨fun bytes _ => h bytes, fun _ hlength => absurd hlength (Nat.not_lt_zero _)⟩

theorem guards_pure (value : α) : Guards 0 (pure value : Scanner α) (pure value : Reader α) := guards_of_eq fun _ => rfl

/-- A scanner that needs no bytes to be there never overruns. -/
theorem Guards.eq {scanner : Scanner α} {reader : Reader α} (h : Guards 0 scanner reader) (bytes : Bytes) :
    scanner bytes = .ofOption (reader bytes) := h.covered bytes (Nat.zero_le _)

/-- The bytes of a step come on top of those that are needed after it. -/
theorem Fixed.bind {first second : Nat} {scanner : Scanner α} {reader : Reader α} {next : α → Scanner β}
    {follow : α → Reader β} (h : Fixed first scanner reader)
    (hnext : ∀ value, Guards second (next value) (follow value)) :
    Guards (first + second) (scanner >>= next) (reader >>= follow) where
  covered bytes hlength := by
    obtain ⟨value, hvalue⟩ := h.takes.succeeds bytes (by omega)
    rw [bind_apply, Reader.bind_apply, h.covered bytes (by omega), hvalue]
    exact (hnext value).covered _ (by rw [List.length_drop]; omega)
  fails bytes hlength := by
    rw [Reader.bind_apply]
    by_cases hfirst : bytes.length < first
    · rw [h.takes.fails bytes hfirst]
      rfl
    · obtain ⟨value, hvalue⟩ := h.takes.succeeds bytes (by omega)
      rw [hvalue]
      exact (hnext value).fails _ (by rw [List.length_drop]; omega)

/-- A scanner may be followed by one that needs no bytes to be there. -/
theorem Guards.bind {count : Nat} {scanner : Scanner α} {reader : Reader α} {next : α → Scanner β}
    {follow : α → Reader β} (h : Guards count scanner reader) (hnext : ∀ value, Guards 0 (next value) (follow value)) :
    Guards count (scanner >>= next) (reader >>= follow) where
  covered bytes hlength := by
    rw [bind_apply, Reader.bind_apply, h.covered bytes hlength, Scan.ofOption_bind]
    cases reader bytes with
    | none => rfl
    | some found => exact (hnext found.1).eq found.2
  fails bytes hlength := by rw [Reader.bind_apply, h.fails bytes hlength]; rfl

/-- One check covers all the bytes that are needed after it. -/
theorem Guards.need {count : Nat} {scanner : Scanner α} {reader : Reader α} (h : Guards count scanner reader) :
    Guards 0 (Scanner.need count >>= fun _ => scanner) reader := by
  refine guards_of_eq fun bytes => ?_
  rw [bind_apply]
  by_cases hlength : bytes.length < count
  · rw [need_of_lt hlength, h.fails bytes hlength]
    rfl
  · rw [need_of_le (Nat.le_of_not_lt hlength)]
    exact h.covered bytes (Nat.le_of_not_lt hlength)

theorem Guards.ofOption {count : Nat} {value? : Option α} {next : α → Scanner β} {follow : α → Reader β}
    (hnext : ∀ value, Guards count (next value) (follow value)) :
    Guards count (Scanner.ofOption value? >>= next) ((liftM value? : Reader α) >>= follow) where
  covered bytes hlength := by
    cases value? with
    | none => rfl
    | some value => exact (hnext value).covered bytes hlength
  fails bytes hlength := by
    cases value? with
    | none => rfl
    | some value => exact (hnext value).fails bytes hlength

theorem Guards.attempt_of_some {scanner : Scanner α} {reader : Reader α} (h : Guards 0 scanner reader) {value : α}
    {bytes rest : Bytes} (hread : reader bytes = some (value, rest)) :
    attempt scanner bytes = .found (some value, rest) := by
  rw [attempt, h.eq, hread]
  rfl

theorem Guards.attempt_of_none {scanner : Scanner α} {reader : Reader α} (h : Guards 0 scanner reader) {bytes : Bytes}
    (hread : reader bytes = none) : attempt scanner bytes = .found (none, bytes) := by
  rw [attempt, h.eq, hread]
  rfl

theorem guards_finish : Guards 0 finish Reader.finish := guards_of_eq fun bytes => by cases bytes <;> rfl

/-- What is made of the value of a layout makes no difference. -/
theorem Guards.parse_map {scanner : Scanner α} {reader : Reader α} (h : Guards 0 scanner reader) (make : α → β)
    (bytes : Bytes) :
    (scanner.parse bytes >>= fun value => pure (make value)) = Scan.ofOption ((reader.parse bytes).map make) := by
  rw [parse, Reader.parse, h.eq]
  cases reader bytes <;> rfl

end Scanner

/-! ### The layouts -/

open Scanner

namespace Block

/-- Scans a block of bytes. -/
def scanData : Scanner Bytes := do
  need 2
  let length ← u16
  need length.toNat
  split length.toNat

/-- The number of bytes up to the last that is not zero. -/
def textEnd (bytes : Bytes) : Nat := bytes.length - bytes.reverse.findIdx (· != 0)

/-- Scans a block of text. -/
def scanText : Scanner String := do
  let bytes ← scanData
  let text ← slice bytes (textEnd bytes)
  return Utf8.decodeLossy text

theorem guards_scanData : Guards 0 scanData readData :=
  (fixed_u16.bind fun length => (fixed_split length.toNat).guards.need).need

theorem take_textEnd (bytes : Bytes) : bytes.take (textEnd bytes) = trimZeros bytes := by
  have hdrop : bytes.reverse.dropWhile (· == 0) = bytes.reverse.drop (bytes.reverse.findIdx (· != 0)) := by
    rw [List.dropWhile_eq_drop_findIdx_not]
    rfl
  rw [trimZeros, hdrop, List.drop_reverse, List.reverse_reverse, textEnd]

theorem guards_scanText : Guards 0 scanText readText := by
  refine guards_scanData.bind fun bytes => guards_of_eq fun rest => ?_
  have hend : textEnd bytes ≤ bytes.length := Nat.sub_le _ _
  rw [bind_apply, slice, if_pos hend, take_textEnd]
  rfl

end Block

/-- Scans a bus frame: one check of the length for the header, one for the data. -/
def CanFrame.scan (limit : Nat) : Scanner CanFrame := do
  need headerSize
  let flags ← u16
  advance 2
  let id ← u32
  let crc ← u32
  let errorPosition ← u16
  advance 1
  let length ← u8
  require (length.toNat ≤ limit ∧ length.toNat = (← remaining))
  let data ← split length.toNat
  return { flags, id, crc, errorPosition, data }

/-- Data of an announced length must be all that is left. -/
theorem guards_announced (length limit : Nat) (make : Bytes → CanFrame) :
    Guards 0 (do
      require (length ≤ limit ∧ length = (← remaining))
      let data ← split length
      return make data)
    (do
      guard (length ≤ limit)
      let data ← Reader.take length
      Reader.finish
      return make data) := by
  refine guards_of_eq fun bytes => ?_
  rw [remaining_bind, bind_apply]
  by_cases hlimit : length ≤ limit
  · rw [Reader.bind_of_eq_some _ (Reader.guard_apply hlimit bytes), Reader.bind_apply, Reader.take_eq]
    -- the reader takes the data before it sees what is left, the scanner compares first
    rcases Nat.lt_trichotomy length bytes.length with hlong | hall | hshort
    · have hrest : (bytes.drop length).isEmpty = false := by simpa using hlong
      rw [require_of_not fun h => hlong.ne h.2, if_pos hlong.le, Option.bind_some, Reader.bind_apply, Reader.finish,
        hrest]
      rfl
    · have hrest : (bytes.drop length).isEmpty = true := by simp [hall]
      rw [require_of ⟨hlimit, hall⟩, if_pos hall.le, Option.bind_some, Reader.bind_apply, Reader.finish, hrest,
        Scan.found_bind, split_bind hall.le]
      rfl
    · rw [require_of_not fun h => hshort.ne' h.2, if_neg (Nat.not_le_of_lt hshort)]
      rfl
  · rw [require_of_not fun h => hlimit h.1, Reader.bind_apply, guard, if_neg hlimit]
    rfl

theorem CanFrame.guards_scan (limit : Nat) : Guards 0 (scan limit) (read limit) :=
  (fixed_u16.bind fun _ => (fixed_advance 2).bind fun _ => fixed_u32.bind fun _ => fixed_u32.bind fun _ =>
    fixed_u16.bind fun _ => (fixed_advance 1).bind fun _ => fixed_u8.bind fun length =>
    guards_announced length.toNat limit _).need

namespace SampleWidth

/-- Scans a sample. -/
def scanSample : SampleWidth → Scanner Int32
  | int16 => do return (← u16).toInt16.toInt32
  | int32 => do return (← u32).toInt32

theorem bytes_pos (width : SampleWidth) : 0 < width.bytes := by cases width <;> decide

theorem samplesAfter_nil (width : SampleWidth) (found : List Int32) :
    width.samplesAfter found [] = some found.reverse := by cases width <;> rfl

/-- Where a sample fits, it is scanned as the first of those that are read.  Elsewhere the scanner overruns, and a part
of a sample that is left over is not read. -/
theorem scanSample_cases (width : SampleWidth) (bytes : Bytes) :
    (∃ sample rest, width.scanSample bytes = .found (sample, rest) ∧ bytes.length = width.bytes + rest.length
      ∧ ∀ found, width.samplesAfter found bytes = width.samplesAfter (sample :: found) rest)
    ∨ width.scanSample bytes = .overrun ∧ bytes.length < width.bytes
      ∧ (bytes ≠ [] → ∀ found, width.samplesAfter found bytes = none) := by
  cases width with
  | int16 =>
    rcases bytes with _ | ⟨b1, _ | ⟨b0, rest⟩⟩
    · exact .inr ⟨rfl, by simp [SampleWidth.bytes], fun h => absurd rfl h⟩
    · exact .inr ⟨rfl, by simp [SampleWidth.bytes], fun _ _ => rfl⟩
    · exact .inl ⟨_, rest, rfl, Nat.add_comm rest.length 2, fun found => by rw [samplesAfter]; rfl⟩
  | int32 =>
    rcases bytes with _ | ⟨b3, _ | ⟨b2, _ | ⟨b1, _ | ⟨b0, rest⟩⟩⟩⟩
    · exact .inr ⟨rfl, by simp [SampleWidth.bytes], fun h => absurd rfl h⟩
    · exact .inr ⟨rfl, by simp [SampleWidth.bytes], fun _ _ => rfl⟩
    · exact .inr ⟨rfl, by simp [SampleWidth.bytes], fun _ _ => rfl⟩
    · exact .inr ⟨rfl, by simp [SampleWidth.bytes], fun _ _ => rfl⟩
    · exact .inl ⟨_, rest, rfl, Nat.add_comm rest.length 4, fun found => by rw [samplesAfter]; rfl⟩

theorem of_scanSample {width : SampleWidth} {bytes rest : Bytes} {sample : Int32}
    (h : width.scanSample bytes = .found (sample, rest)) :
    bytes.length = width.bytes + rest.length
      ∧ ∀ found, width.samplesAfter found bytes = width.samplesAfter (sample :: found) rest := by
  obtain ⟨_, _, hscan, hlength, hsame⟩ | ⟨hscan, -⟩ := width.scanSample_cases bytes
  · rw [hscan] at h
    cases h
    exact ⟨hlength, hsame⟩
  · rw [hscan] at h
    cases h

theorem length_lt_of_scanSample {width : SampleWidth} {bytes rest : Bytes} {sample : Int32}
    (h : width.scanSample bytes = .found (sample, rest)) : rest.length < bytes.length := by
  have hpos := width.bytes_pos
  have hlength := (of_scanSample h).1
  omega

/-- Scans samples while bytes are left, after those found before, latest first. -/
def scanSamplesAfter (width : SampleWidth) (found : List Int32) (bytes : Bytes) : Scan (List Int32) :=
  if bytes.isEmpty then .found found.reverse
  else
    match _hscan : width.scanSample bytes with
    | .found (sample, rest) => scanSamplesAfter width (sample :: found) rest
    | .refused => .refused
    | .overrun => .overrun
termination_by bytes.length
decreasing_by exact length_lt_of_scanSample _hscan

/-- Scans the samples that fill the rest of the bytes. -/
def scanSamples (width : SampleWidth) : Scanner (List Int32) := fun bytes => do
  return (← width.scanSamplesAfter [] bytes, [])

/-- Bytes that are divided into samples are scanned to their end; from no others samples are read. -/
theorem scanSamplesAfter_cases (width : SampleWidth) (found : List Int32) (bytes : Bytes) :
    (width.bytes ∣ bytes.length ∧ width.scanSamplesAfter found bytes = .ofOption (width.samplesAfter found bytes))
    ∨ ¬ width.bytes ∣ bytes.length ∧ width.samplesAfter found bytes = none := by
  -- a sample is taken off on both sides alike, until no bytes are left or too few for one more
  fun_induction scanSamplesAfter width found bytes with
  | case1 found bytes hempty =>
    rw [List.isEmpty_iff.mp hempty, samplesAfter_nil]
    exact .inl ⟨Nat.dvd_zero _, rfl⟩
  | case2 found bytes hempty sample rest hscan ih =>
    obtain ⟨hlength, hsame⟩ := of_scanSample hscan
    rwa [hlength, Nat.dvd_add_right (Nat.dvd_refl _), hsame]
  | case3 found bytes hempty hscan =>
    obtain ⟨_, _, hscan', -⟩ | ⟨hscan', -⟩ := width.scanSample_cases bytes
    all_goals
      rw [hscan] at hscan'
      cases hscan'
  | case4 found bytes hempty hscan =>
    obtain ⟨_, _, hscan', -⟩ | ⟨-, hshort, hnone⟩ := width.scanSample_cases bytes
    · rw [hscan] at hscan'
      cases hscan'
    · have hne : bytes ≠ [] := fun h => hempty (List.isEmpty_iff.mpr h)
      exact .inr ⟨Nat.not_dvd_of_pos_of_lt (List.length_pos_of_ne_nil hne) hshort, hnone hne found⟩

/-- One check makes sure that no part of a sample is left over. -/
theorem guards_scanSamples {width : SampleWidth} {α : Type} {next : List Int32 → Scanner α}
    {follow : List Int32 → Reader α} (hnext : ∀ samples, Guards 0 (next samples) (follow samples)) :
    Guards 0 (do
      require ((← remaining) % width.bytes = 0)
      next (← width.scanSamples))
    (do
      follow (← width.samples? (← Reader.remaining))) := by
  refine guards_of_eq fun bytes => ?_
  rw [remaining_bind, bind_apply, Reader.bind_of_eq_some _ (Reader.remaining_apply bytes),
    SampleWidth.samples?]
  obtain ⟨hdvd, hscan⟩ | ⟨hdvd, hnone⟩ := width.scanSamplesAfter_cases [] bytes
  · rw [require_of (Nat.mod_eq_zero_of_dvd hdvd), Scan.found_bind, bind_apply, scanSamples, hscan]
    cases width.samplesAfter [] bytes with
    | none => rfl
    | some samples => exact (hnext samples).eq []
  · rw [require_of_not (fun h => hdvd (Nat.dvd_of_mod_eq_zero h)), hnone]
    rfl

end SampleWidth

/-- Scans a block of samples: one check of the length for the header, one for the samples. -/
def AnalogBlock.scan : Scanner AnalogBlock := do
  need headerSize
  let flags ← u16
  advance 1
  let width ← Scanner.ofOption (SampleWidth.ofRaw? (← u8))
  let unit ← u8
  let sampleInterval ← u32
  let offset ← u32
  let scale ← u32
  require ((← remaining) % width.bytes = 0)
  let samples ← width.scanSamples
  return { flags, width, unit, sampleInterval := ⟨sampleInterval⟩, offset := ⟨offset⟩, scale := ⟨scale⟩, samples }

theorem AnalogBlock.guards_scan : Guards 0 scan read :=
  (fixed_u16.bind fun _ => (fixed_advance 1).bind fun _ => fixed_u8.bind fun _ => Guards.ofOption fun _ =>
    fixed_u8.bind fun _ => fixed_u32.bind fun _ => fixed_u32.bind fun _ => fixed_u32.bind fun _ =>
    SampleWidth.guards_scanSamples fun _ => guards_pure _).need

/-- Scans the status of a capture module: one check of the length for the header, one for each block. -/
def ModuleStatus.scan : Scanner ModuleStatus := do
  need headerSize
  let uptime ← u64
  let grandmasterIdentity ← u64
  let grandmasterClockQuality ← u32
  let utcOffset ← u16
  let timeSource ← u8
  let domainNumber ← u8
  advance 1
  let timeFlags ← u8
  let description ← Block.scanText
  let serialNumber ← Block.scanText
  let hardwareVersion ← Block.scanText
  let softwareVersion ← Block.scanText
  let vendorData ← Block.scanData
  finish
  return { uptime, grandmasterIdentity, grandmasterClockQuality, utcOffset, timeSource, domainNumber, timeFlags,
           description, serialNumber, hardwareVersion, softwareVersion, vendorData }

theorem ModuleStatus.guards_scan : Guards 0 scan read :=
  (fixed_u64.bind fun _ => fixed_u64.bind fun _ => fixed_u32.bind fun _ => fixed_u16.bind fun _ =>
    fixed_u8.bind fun _ => fixed_u8.bind fun _ => (fixed_advance 1).bind fun _ => fixed_u8.bind fun _ =>
    Block.guards_scanText.bind fun _ => Block.guards_scanText.bind fun _ => Block.guards_scanText.bind fun _ =>
    Block.guards_scanText.bind fun _ => Block.guards_scanData.bind fun _ => guards_finish.bind fun _ =>
    guards_pure _).need

/-- Scans the status of an interface.  One check covers the stream list and the byte that pads it. -/
def InterfaceStatus.scan : Scanner InterfaceStatus := do
  need headerSize
  let interfaceId ← u32
  let receivedTotal ← u32
  let sentTotal ← u32
  let receivedDropped ← u32
  let sentDropped ← u32
  let errorsTotal ← u32
  let interfaceType ← u8
  let linkStatus ← u8
  advance 2
  let featureSupport ← u32
  let count ← u16
  need (Bytes.evenLength count.toNat)
  let streamIds ← split count.toNat
  advance (count.toNat % 2)
  let vendorData ← Block.scanData
  finish
  return { interfaceId, receivedTotal, sentTotal, receivedDropped, sentDropped, errorsTotal, interfaceType,
           linkStatus := .ofRaw linkStatus, featureSupport, streamIds, vendorData }

theorem InterfaceStatus.guards_scan : Guards 0 scan read :=
  (fixed_u32.bind fun _ => fixed_u32.bind fun _ => fixed_u32.bind fun _ => fixed_u32.bind fun _ =>
    fixed_u32.bind fun _ => fixed_u32.bind fun _ => fixed_u8.bind fun _ => fixed_u8.bind fun _ =>
    (fixed_advance 2).bind fun _ => fixed_u32.bind fun _ => fixed_u16.bind fun count =>
    ((fixed_split count.toNat).bind fun _ => (fixed_advance (count.toNat % 2)).guards.bind fun _ =>
      Block.guards_scanData.bind fun _ => guards_finish.bind fun _ => guards_pure _).need).need

namespace Payload

/-- Scans the layout of a payload type, if it has one. -/
def scanKnown (type : PayloadType) (body : Bytes) : Scan Payload :=
  match type with
  | .can => (CanFrame.scan CanFrame.classicLimit).parse body >>= fun frame => pure (can frame)
  | .canFd => (CanFrame.scan CanFrame.flexibleLimit).parse body >>= fun frame => pure (canFd frame)
  | .analog => AnalogBlock.scan.parse body >>= fun block => pure (analog block)
  | .captureModuleStatus => ModuleStatus.scan.parse body >>= fun status => pure (captureModuleStatus status)
  | .interfaceStatus => InterfaceStatus.scan.parse body >>= fun status => pure (interfaceStatus status)
  | .invalid | .other _ => .refused

/-- Scans the payload of a body.  Bytes that are refused are kept as they are. -/
def scan (kind : MessageType) (raw : UInt8) (body : Bytes) : Scan Payload :=
  match scanKnown (.ofRaw kind raw) body with
  | .found payload => .found payload
  | .refused => .found (undefined raw body)
  | .overrun => .overrun

theorem scanKnown_eq (type : PayloadType) (body : Bytes) : scanKnown type body = .ofOption (parseKnown? type body) := by
  cases type with
  | can => exact (CanFrame.guards_scan _).parse_map can body
  | canFd => exact (CanFrame.guards_scan _).parse_map canFd body
  | analog => exact AnalogBlock.guards_scan.parse_map analog body
  | captureModuleStatus => exact ModuleStatus.guards_scan.parse_map captureModuleStatus body
  | interfaceStatus => exact InterfaceStatus.guards_scan.parse_map interfaceStatus body
  | invalid | other => rfl

/-- No body makes the scanner of a payload overrun: it finds the payload of the body. -/
theorem scan_eq_parse (kind : MessageType) (raw : UInt8) (body : Bytes) :
    scan kind raw body = .found (parse kind raw body) := by
  rw [scan, scanKnown_eq, parse]
  cases parseKnown? (.ofRaw kind raw) body <;> rfl

end Payload

end CaptureProtocol
