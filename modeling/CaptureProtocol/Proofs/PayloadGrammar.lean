import CaptureProtocol.Proofs.UncheckedReading
import Mathlib

/-!
# The grammar of payloads

Which byte strings are payloads is said here without any reader: as languages that are built from strings of a fixed
length and from counts that announce how much follows.  A reader accepts exactly its language, in both directions, and
what is written of a valid payload lies in it.

* `Bytes.exactly`, `Bytes.multiples`, `Bytes.headed`, `Bytes.announced` — the languages that the layouts are made of;
* `Reader.Accepts` — a reader succeeds exactly on the strings of a language; `Takes.accepts`, `accepts_u8`,
  `accepts_u16`, `accepts_readData` put readers and languages together in the same order;
* `CanFrame.language`, `AnalogBlock.language`, `ModuleStatus.language`, `InterfaceStatus.language` — the layouts, and
  `accepts_read` for each of them;
* `PayloadType.language` — the layout of a type; `Payload.parseKnown?_isSome_iff`;
* `Payload.parse_grammar` — what becomes of any body under any message kind and type byte.
-/

namespace CaptureProtocol

/-! ### Languages of byte strings -/

namespace Bytes

/-- The strings of a length. -/
def exactly (count : Nat) : Language UInt8 := {bytes : Bytes | bytes.length = count}

/-- The strings that are divided into pieces of a length. -/
def multiples (size : Nat) : Language UInt8 := {bytes : Bytes | size ∣ bytes.length}

/-- A byte, then what it asks for. -/
def headed (rest : UInt8 → Language UInt8) : Language UInt8 :=
  {bytes : Bytes | ∃ head tail, bytes = head :: tail ∧ tail ∈ rest head}

/-- A number in two bytes, the high one first, then what it asks for. -/
def announced (rest : Nat → Language UInt8) : Language UInt8 :=
  headed fun high => headed fun low => rest (256 * high.toNat + low.toNat)

variable {language : Language UInt8}

theorem mem_exactly_mul {count : Nat} {bytes : Bytes} :
    bytes ∈ exactly count * language ↔ count ≤ bytes.length ∧ bytes.drop count ∈ language := by
  rw [Language.mem_mul]
  constructor
  · rintro ⟨front, hfront, rest, hrest, rfl⟩
    have hcount : front.length = count := hfront
    rw [← hcount, List.drop_left, List.length_append]
    exact ⟨Nat.le_add_right _ _, hrest⟩
  · rintro ⟨hcount, hrest⟩
    exact ⟨bytes.take count, List.length_take_of_le hcount, bytes.drop count, hrest, List.take_append_drop _ _⟩

theorem mem_headed {rest : UInt8 → Language UInt8} {bytes : Bytes} :
    bytes ∈ headed rest ↔ ∃ head tail, bytes = head :: tail ∧ tail ∈ rest head := Iff.rfl

theorem exactly_zero : exactly 0 = 1 := by
  ext bytes
  show bytes.length = 0 ↔ bytes = []
  exact List.length_eq_zero_iff

theorem exactly_mul_exactly (first second : Nat) : exactly first * exactly second = exactly (first + second) := by
  ext bytes
  rw [mem_exactly_mul]
  show first ≤ bytes.length ∧ (bytes.drop first).length = second ↔ bytes.length = first + second
  rw [List.length_drop]
  omega

theorem headed_mul (rest : UInt8 → Language UInt8) :
    headed rest * language = headed fun head => rest head * language := by
  ext bytes
  rw [Language.mem_mul]
  constructor
  · rintro ⟨_, ⟨head, tail, rfl, htail⟩, later, hlater, rfl⟩
    exact ⟨head, tail ++ later, rfl, Language.append_mem_mul htail hlater⟩
  · rintro ⟨head, _, rfl, hrest⟩
    obtain ⟨tail, htail, later, hlater, rfl⟩ := Language.mem_mul.mp hrest
    exact ⟨head :: tail, ⟨head, tail, rfl, htail⟩, later, hlater, rfl⟩

theorem announced_mul (rest : Nat → Language UInt8) :
    announced rest * language = announced fun count => rest count * language := by
  simp only [announced, headed_mul]

end Bytes

/-! ### Readers and their languages -/

namespace Reader

open Bytes

variable {α β : Type} {language : Language UInt8}

/-- The reader succeeds exactly on the strings of a language. -/
def Accepts (reader : Reader α) (language : Language UInt8) : Prop :=
  ∀ bytes : Bytes, (reader bytes).isSome = true ↔ bytes ∈ language

theorem Accepts.of_eq {other : Language UInt8} {reader : Reader α} (h : reader.Accepts language)
    (hlanguage : language = other) : reader.Accepts other := hlanguage ▸ h

theorem Accepts.parse_isSome_iff {reader : Reader α} (h : reader.Accepts language) (make : α → β) (bytes : Bytes) :
    ((reader.parse bytes).map make).isSome = true ↔ bytes ∈ language := by
  rw [parse, Option.isSome_map, Option.isSome_map]
  exact h bytes

/-- Bytes that are only counted come in front of what is accepted after them. -/
theorem Takes.accepts {first second : Nat} {reader : Reader α} {next : α → Reader β} (h : Takes first reader)
    (hnext : ∀ value, (next value).Accepts (exactly second * language)) :
    (reader >>= next).Accepts (exactly (first + second) * language) := by
  intro bytes
  rw [← exactly_mul_exactly, mul_assoc, mem_exactly_mul, bind_apply]
  by_cases hlong : first ≤ bytes.length
  · obtain ⟨value, hvalue⟩ := h.succeeds bytes hlong
    rw [hvalue, Option.bind_some, and_iff_right hlong]
    exact hnext value (bytes.drop first)
  · rw [h.fails bytes (Nat.lt_of_not_le hlong)]
    simp [hlong]

/-- The end of the bytes that are only counted. -/
theorem Accepts.counted {reader : Reader α} (h : reader.Accepts language) : reader.Accepts (exactly 0 * language) := by
  rwa [exactly_zero, one_mul]

theorem accepts_u8 {next : UInt8 → Reader α} {rest : UInt8 → Language UInt8}
    (hnext : ∀ byte, (next byte).Accepts (rest byte)) : (u8 >>= next).Accepts (headed rest) := by
  intro bytes
  rw [mem_headed]
  cases bytes with
  | nil =>
    show false = true ↔ _
    simp
  | cons head tail =>
    show (next head tail).isSome = true ↔ _
    simp [hnext head tail]

theorem u16_cons (high low : UInt8) (rest : Bytes) :
    ∃ word, u16 (high :: low :: rest) = some (word, rest) ∧ word.toNat = 256 * high.toNat + low.toNat := by
  have hhigh := high.toNat_lt
  have hlow := low.toNat_lt
  refine ⟨UInt16.ofNat (Bytes.value [high, low]), ?_, ?_⟩
  · rw [u16, bind_apply, take_eq, if_pos (by simp)]
    rfl
  · show Bytes.value [high, low] % 65536 = _
    simp only [Bytes.value, List.foldl_cons, List.foldl_nil]
    omega

theorem accepts_u16 {next : UInt16 → Reader α} {rest : Nat → Language UInt8}
    (hnext : ∀ word, (next word).Accepts (rest word.toNat)) : (u16 >>= next).Accepts (announced rest) := by
  intro bytes
  simp only [announced, mem_headed]
  rcases bytes with _ | ⟨high, _ | ⟨low, tail⟩⟩
  · show false = true ↔ _
    simp
  · show false = true ↔ _
    simp
  · obtain ⟨word, hword, hnumber⟩ := u16_cons high low tail
    rw [bind_of_eq_some _ hword, hnext word, hnumber]
    simp

theorem accepts_guard {condition : Prop} [Decidable condition] {next : Reader α} (hnext : next.Accepts language) :
    ((guard condition : Reader Unit) >>= fun _ => next).Accepts {bytes : Bytes | condition ∧ bytes ∈ language} := by
  intro bytes
  by_cases h : condition
  · rw [bind_of_eq_some _ (guard_apply h bytes), hnext bytes]
    exact (and_iff_right h).symm
  · rw [bind_apply, guard, if_neg h]
    exact iff_of_false Bool.false_ne_true fun hmem => h hmem.1

theorem accepts_lift {found : Option α} {value : α} (h : found = some value) {next : α → Reader β}
    (hnext : (next value).Accepts language) : ((liftM found : Reader α) >>= next).Accepts language := by
  intro bytes
  rw [bind_of_eq_some _ (lift_apply h bytes)]
  exact hnext bytes

theorem accepts_lift_none {found : Option α} (h : found = none) {next : α → Reader β} :
    ((liftM found : Reader α) >>= next).Accepts 0 := by
  subst h
  exact fun bytes => iff_of_false Bool.false_ne_true (Language.notMem_zero bytes)

/-- A reader that asks for the end of the string, and then for nothing. -/
theorem accepts_finish (value : α) : (finish >>= fun _ => pure value : Reader α).Accepts 1 := by
  intro bytes
  rw [Language.mem_one]
  cases bytes with
  | nil => exact iff_of_true rfl rfl
  | cons head tail => exact iff_of_false Bool.false_ne_true (List.cons_ne_nil _ _)

end Reader

open Bytes Reader

/-! ### The layouts -/

/-- A block: its length in two bytes, then as many bytes. -/
def Block.language : Language UInt8 := announced exactly

/-- A bus frame: 15 bytes, a byte with the number of data bytes, which has a limit, and the data. -/
def CanFrame.language (limit : Nat) : Language UInt8 :=
  exactly 15 * headed fun count => {data : Bytes | count.toNat ≤ limit ∧ data ∈ exactly count.toNat}

/-- A block of samples: three bytes, a byte with the format, 13 bytes, and the samples. -/
def AnalogBlock.language : Language UInt8 :=
  exactly 3 * headed fun format =>
    if format = 0 then exactly 13 * multiples 2 else if format = 1 then exactly 13 * multiples 4 else 0

/-- A report of a module: 26 bytes and five blocks. -/
def ModuleStatus.language : Language UInt8 := exactly 26 * Block.language ^ 5

/-- A report of an interface: 32 bytes, a list of streams behind its length and brought to an even length, and a
block. -/
def InterfaceStatus.language : Language UInt8 :=
  exactly 32 * announced fun count => exactly (evenLength count) * Block.language

namespace Block

variable {α : Type} {language : Language UInt8}

theorem accepts_readData {next : Bytes → Reader α} (hnext : ∀ data, (next data).Accepts language) :
    (readData >>= next).Accepts (Block.language * language) := by
  rw [Block.language, announced_mul, readData, bind_assoc]
  exact accepts_u16 fun length => (takes_take length.toNat).accepts fun data => (hnext data).counted

theorem accepts_readText {next : String → Reader α} (hnext : ∀ text, (next text).Accepts language) :
    (readText >>= next).Accepts (Block.language * language) := by
  rw [readText, bind_assoc]
  exact accepts_readData fun bytes => hnext _

end Block

namespace CanFrame

/-- Data of an announced length, within the limit, must be all that is left. -/
theorem accepts_data (length limit : Nat) (make : Bytes → CanFrame) :
    (do
      guard (length ≤ limit)
      let data ← Reader.take length
      Reader.finish
      return make data : Reader CanFrame).Accepts {data : Bytes | length ≤ limit ∧ data ∈ exactly length} := by
  have hdata := (takes_take length).accepts fun data => (accepts_finish (make data)).counted
  rw [mul_one] at hdata
  exact accepts_guard hdata

theorem accepts_read (limit : Nat) : (read limit).Accepts (language limit) :=
  (takes_u16.accepts fun _ => (takes_skip 2).accepts fun _ => takes_u32.accepts fun _ => takes_u32.accepts fun _ =>
    takes_u16.accepts fun _ => (takes_skip 1).accepts fun _ => Accepts.counted <| accepts_u8 fun length =>
    accepts_data length.toNat limit _).of_eq rfl

end CanFrame

namespace SampleWidth

/-- Bytes are read as samples exactly when no part of a sample is left over. -/
theorem samplesAfter_isSome_iff (width : SampleWidth) (found : List Int32) (bytes : Bytes) :
    (width.samplesAfter found bytes).isSome = true ↔ bytes ∈ multiples width.bytes := by
  show _ ↔ width.bytes ∣ bytes.length
  obtain ⟨sample, rest, -, hlength, hsame⟩ | ⟨-, hshort, hnone⟩ := width.scanSample_cases bytes
  · have hrest : (width.samplesAfter (sample :: found) rest).isSome = true ↔ width.bytes ∣ rest.length :=
      samplesAfter_isSome_iff width (sample :: found) rest
    rw [hsame, hrest, hlength, Nat.dvd_add_right (Nat.dvd_refl _)]
  · by_cases hempty : bytes = []
    · rw [hempty, samplesAfter_nil]
      exact iff_of_true rfl (Nat.dvd_zero _)
    · rw [hnone hempty]
      exact iff_of_false Bool.false_ne_true
        (Nat.not_dvd_of_pos_of_lt (List.length_pos_of_ne_nil hempty) hshort)
termination_by bytes.length
decreasing_by
  have hpos := width.bytes_pos
  omega

/-- The samples of a block fill the rest of the string. -/
theorem accepts_samples {α : Type} (width : SampleWidth) (make : List Int32 → α) :
    (do
      let samples ← width.samples? (← Reader.remaining)
      return make samples : Reader α).Accepts (multiples width.bytes) := by
  intro bytes
  rw [bind_of_eq_some _ (remaining_apply bytes), ← width.samplesAfter_isSome_iff []]
  show _ ↔ (width.samples? bytes).isSome = true
  cases width.samples? bytes <;> rfl

end SampleWidth

namespace AnalogBlock

/-- What comes after the byte with the format, where it names one. -/
theorem accepts_body {format : UInt8} {width : SampleWidth} (h : SampleWidth.ofRaw? format = some width)
    (make : SampleWidth → UInt8 → UInt32 → UInt32 → UInt32 → List Int32 → AnalogBlock) :
    (do
      let width ← SampleWidth.ofRaw? format
      let unit ← Reader.u8
      let sampleInterval ← Reader.u32
      let offset ← Reader.u32
      let scale ← Reader.u32
      let samples ← width.samples? (← Reader.remaining)
      return make width unit sampleInterval offset scale samples : Reader AnalogBlock).Accepts
      (exactly 13 * multiples width.bytes) :=
  accepts_lift h <| Accepts.of_eq (takes_u8.accepts fun unit => takes_u32.accepts fun sampleInterval =>
    takes_u32.accepts fun offset => takes_u32.accepts fun scale =>
    (width.accepts_samples (make width unit sampleInterval offset scale)).counted) rfl

theorem accepts_read : read.Accepts language := by
  refine (takes_u16.accepts fun flags => (takes_skip 1).accepts fun _ => Accepts.counted <|
    accepts_u8 fun format => ?_).of_eq rfl
  by_cases h16 : format = 0
  · subst h16
    exact accepts_body (show SampleWidth.ofRaw? 0 = some .int16 from rfl) _
  · rw [if_neg h16]
    by_cases h32 : format = 1
    · subst h32
      exact accepts_body (show SampleWidth.ofRaw? 1 = some .int32 from rfl) _
    · rw [if_neg h32]
      exact accepts_lift_none (by rw [SampleWidth.ofRaw?, if_neg h16, if_neg h32])

end AnalogBlock

theorem ModuleStatus.accepts_read : read.Accepts language := by
  have hblocks : Block.language ^ 5
      = Block.language * (Block.language * (Block.language * (Block.language * (Block.language * 1)))) := by
    rw [pow_succ', pow_succ', pow_succ', pow_succ', pow_succ', pow_zero]
  rw [language, hblocks]
  exact (takes_u64.accepts fun _ => takes_u64.accepts fun _ => takes_u32.accepts fun _ => takes_u16.accepts fun _ =>
    takes_u8.accepts fun _ => takes_u8.accepts fun _ => (takes_skip 1).accepts fun _ => takes_u8.accepts fun _ =>
    Accepts.counted <| Block.accepts_readText fun _ => Block.accepts_readText fun _ => Block.accepts_readText fun _ =>
    Block.accepts_readText fun _ => Block.accepts_readData fun _ => accepts_finish _).of_eq rfl

theorem InterfaceStatus.accepts_read : read.Accepts language := by
  refine (takes_u32.accepts fun _ => takes_u32.accepts fun _ => takes_u32.accepts fun _ => takes_u32.accepts fun _ =>
    takes_u32.accepts fun _ => takes_u32.accepts fun _ => takes_u8.accepts fun _ => takes_u8.accepts fun _ =>
    (takes_skip 2).accepts fun _ => takes_u32.accepts fun _ => Accepts.counted <| accepts_u16 fun count => ?_).of_eq rfl
  refine Accepts.of_eq ((takes_take count.toNat).accepts fun _ => (takes_skip (count.toNat % 2)).accepts fun _ =>
    Accepts.counted <| Block.accepts_readData fun _ => accepts_finish _) ?_
  rw [mul_one]
  rfl

/-! ### Payloads -/

/-- The bodies of a payload type. -/
def PayloadType.language : PayloadType → Language UInt8
  | .can => CanFrame.language CanFrame.classicLimit
  | .canFd => CanFrame.language CanFrame.flexibleLimit
  | .analog => AnalogBlock.language
  | .captureModuleStatus => ModuleStatus.language
  | .interfaceStatus => InterfaceStatus.language
  | .invalid | .other _ => 0

/-- Under a message kind, a byte names a type that the kind carries exactly if it is the byte of that type. -/
theorem PayloadType.ofRaw_eq_iff {type : PayloadType} {carrier kind : MessageType} {raw : UInt8}
    (h : type.messageType? = some carrier) : ofRaw kind raw = type ↔ kind = carrier ∧ raw = type.toRaw := by
  constructor
  · rintro rfl
    obtain ⟨hkind, hraw⟩ := eq_of_ofRaw h
    exact ⟨hkind.symm, hraw.symm⟩
  · rintro ⟨rfl, rfl⟩
    exact ofRaw_toRaw h

/-- Only the types that a message kind carries have a layout. -/
theorem PayloadType.exists_carrier {type : PayloadType} {body : Bytes} (h : body ∈ type.language) :
    ∃ carrier, type.messageType? = some carrier := by
  cases type with
  | invalid | other => exact absurd h (Language.notMem_zero body)
  | _ => exact ⟨_, rfl⟩

namespace Payload

theorem parseKnown?_isSome_iff (type : PayloadType) (body : Bytes) :
    (parseKnown? type body).isSome = true ↔ body ∈ type.language := by
  cases type with
  | can => exact (CanFrame.accepts_read _).parse_isSome_iff can body
  | canFd => exact (CanFrame.accepts_read _).parse_isSome_iff canFd body
  | analog => exact AnalogBlock.accepts_read.parse_isSome_iff analog body
  | captureModuleStatus => exact ModuleStatus.accepts_read.parse_isSome_iff captureModuleStatus body
  | interfaceStatus => exact InterfaceStatus.accepts_read.parse_isSome_iff interfaceStatus body
  | invalid | other => exact iff_of_false Bool.false_ne_true (Language.notMem_zero body)

/-- A body in the language of the type that its byte names gives a payload of that type. -/
theorem payloadType_parse {kind : MessageType} {raw : UInt8} {body : Bytes}
    (h : body ∈ (PayloadType.ofRaw kind raw).language) :
    (parse kind raw body).payloadType = PayloadType.ofRaw kind raw := by
  obtain ⟨payload, hpayload⟩ := Option.isSome_iff_exists.mp ((parseKnown?_isSome_iff _ body).mpr h)
  rw [parse, hpayload]
  exact (parseKnown?_eq_some hpayload).1

/-- Any other body is kept as it is. -/
theorem parse_of_notMem {kind : MessageType} {raw : UInt8} {body : Bytes}
    (h : body ∉ (PayloadType.ofRaw kind raw).language) : parse kind raw body = undefined raw body := by
  rw [parse, Option.not_isSome_iff_eq_none.mp fun hsome => h ((parseKnown?_isSome_iff _ body).mp hsome)]
  rfl

/-- A payload of a type that a message kind carries comes from that kind, the byte of the type, and a body in its
language. -/
theorem payloadType_parse_iff {type : PayloadType} {carrier kind : MessageType} {raw : UInt8} {body : Bytes}
    (h : type.messageType? = some carrier) :
    (parse kind raw body).payloadType = type ↔ kind = carrier ∧ raw = type.toRaw ∧ body ∈ type.language := by
  rw [← and_assoc, ← PayloadType.ofRaw_eq_iff h]
  constructor
  · intro htype
    by_cases hbody : body ∈ (PayloadType.ofRaw kind raw).language
    · have hnamed := (payloadType_parse hbody).symm.trans htype
      exact ⟨hnamed, hnamed ▸ hbody⟩
    · rw [parse_of_notMem hbody, payloadType] at htype
      split at htype <;> subst htype <;> cases h
  · rintro ⟨rfl, hbody⟩
    exact payloadType_parse hbody

/-- What is written of a valid payload lies in the language of its type. -/
theorem toBytes_mem_language {payload : Payload} (h : payload.isValid = true) :
    payload.toBytes ∈ payload.payloadType.language := by
  obtain ⟨carrier, hcarrier⟩ : ∃ carrier, payload.payloadType.messageType? = some carrier := by
    cases payload with
    | undefined => cases h
    | _ => exact ⟨_, rfl⟩
  have htype : (parse carrier payload.rawType payload.toBytes).payloadType = payload.payloadType := by
    rw [parse_toBytes h hcarrier]
    cases payload <;> rfl
  exact ((payloadType_parse_iff hcarrier).mp htype).2.2

/-- The five types with a message kind are those of the five known contents. -/
theorem payloadType_eq_iff (payload : Payload) :
    (payload.payloadType = .can ↔ ∃ frame, payload = can frame)
      ∧ (payload.payloadType = .canFd ↔ ∃ frame, payload = canFd frame)
      ∧ (payload.payloadType = .analog ↔ ∃ block, payload = analog block)
      ∧ (payload.payloadType = .captureModuleStatus ↔ ∃ status, payload = captureModuleStatus status)
      ∧ (payload.payloadType = .interfaceStatus ↔ ∃ status, payload = interfaceStatus status) := by
  cases payload with
  | undefined rawType data =>
    by_cases hzero : rawType = 0 <;> simp [payloadType, hzero]
  | _ => simp [payloadType]

/-- A body becomes a payload of one of the five types exactly if the message kind and the type byte name the type and
the body lies in its language.  Any other body is kept as it is, with its byte, and is never valid.  Every payload
takes as many bytes as it says, and the bytes of a valid one lie in the language of its type. -/
theorem parse_grammar (kind : MessageType) (raw : UInt8) (body : Bytes) :
    ((∃ frame, parse kind raw body = can frame) ↔ kind = .data ∧ raw = 0x01 ∧ body ∈ CanFrame.language 8)
      ∧ ((∃ frame, parse kind raw body = canFd frame) ↔ kind = .data ∧ raw = 0x02 ∧ body ∈ CanFrame.language 64)
      ∧ ((∃ block, parse kind raw body = analog block) ↔ kind = .data ∧ raw = 0x07 ∧ body ∈ AnalogBlock.language)
      ∧ ((∃ status, parse kind raw body = captureModuleStatus status)
        ↔ kind = .status ∧ raw = 0x01 ∧ body ∈ ModuleStatus.language)
      ∧ ((∃ status, parse kind raw body = interfaceStatus status)
        ↔ kind = .status ∧ raw = 0x02 ∧ body ∈ InterfaceStatus.language)
      ∧ ((∀ type : PayloadType, type.messageType? = some kind → raw = type.toRaw → body ∉ type.language) →
        parse kind raw body = undefined raw body)
      ∧ (undefined raw body).toBytes = body ∧ (undefined raw body).isValid = false
      ∧ (∀ payload : Payload, payload.toBytes.length = payload.encodedLength)
      ∧ ∀ payload : Payload, payload.isValid = true → payload.toBytes ∈ payload.payloadType.language := by
  obtain ⟨hcan, hcanFd, hanalog, hmodule, hinterface⟩ := payloadType_eq_iff (parse kind raw body)
  refine ⟨?_, ?_, ?_, ?_, ?_, fun hother => ?_, rfl, rfl, toBytes_length, fun payload => toBytes_mem_language⟩
  · rw [← hcan]
    exact payloadType_parse_iff rfl
  · rw [← hcanFd]
    exact payloadType_parse_iff rfl
  · rw [← hanalog]
    exact payloadType_parse_iff rfl
  · rw [← hmodule]
    exact payloadType_parse_iff rfl
  · rw [← hinterface]
    exact payloadType_parse_iff rfl
  · refine parse_of_notMem fun hbody => ?_
    obtain ⟨carrier, hcarrier⟩ := PayloadType.exists_carrier hbody
    obtain ⟨rfl, hraw⟩ := PayloadType.eq_of_ofRaw hcarrier
    exact hother _ hcarrier hraw.symm hbody

end Payload

end CaptureProtocol
