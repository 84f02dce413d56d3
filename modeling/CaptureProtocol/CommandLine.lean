import CaptureProtocol.Demonstration
import CaptureProtocol.Text.Quoted

/-!
# The command line

The program shows a capture module and a sink joined by a loopback queue.

* `Request`, `UsageError` — what the arguments ask for, or what is wrong with them;
* `number?` — numbers in arguments: an optional plus sign and decimal digits, up to a bound;
* `parse` — reads the arguments from left to right; the first problem or call for help ends the reading;
* `Outcome`, `execute` — exit code and texts of a run.
-/

namespace CaptureProtocol.CommandLine

/-- What is wrong with the arguments. -/
inductive UsageError where
  | missingValue (option : String)
  /-- The value of an option is not a number in its range. -/
  | invalidNumber (option : String)
  /-- There is no such option. -/
  | unknownOption (argument : String)
deriving DecidableEq, Inhabited, Repr

/-- The text of an error. -/
def UsageError.message : UsageError → String
  | missingValue option => option ++ " 값 필요"
  | invalidNumber option => option ++ ": 유효한 숫자 필요"
  | unknownOption argument => "알 수 없는 옵션: " ++ argument

/-- What the arguments ask for. -/
inductive Request where
  | help
  | run (options : DemonstrationOptions)
deriving Inhabited, Repr

/-- The help text. -/
def helpText : String :=
  "CMP Loopback - ASAM CMP 캡처/싱크 루프백 데모

사용법:
  cargo run --release --bin cmp-loopback -- [OPTIONS]

옵션:
  -d, --device <ID>           장치 ID (기본: 1)
  -n, --frames <N>            보낼 CAN 프레임 수 (기본: 200)
  --batches <N>               아날로그 묶음 수 (기본: 20)
  --batch-size <N>            아날로그 묶음당 샘플 수 (기본: 1000)
  --status-interval <MS>      상태 전송 주기 (기본: 1000)
  --jumbo                     점보 프레임 (최대 9000 바이트)
  -v, --verbose               디버그 로그 (RUST_LOG 미설정 시)
  -h, --help                  이 도움말 출력
"

/-! ### Arguments -/

/-- The number that decimal digits denote, after those read before. -/
def digitsValue? (value : Nat) : List Char → Option Nat
  | [] => some value
  | c :: rest => if c.isDigit then digitsValue? (value * 10 + (c.toNat - 48)) rest else none

/-- A number below `bound`: an optional plus sign, then at least one decimal digit. -/
def number? (bound : Nat) (text : String) : Option Nat := do
  let digits := match text.toList with
    | '+' :: digits => digits
    | digits => digits
  if digits.isEmpty then none
  let value ← digitsValue? 0 digits
  if value < bound then some value else none

/-- The options that take a number. -/
inductive NumberOption where
  | device
  /-- The number of CAN frames. -/
  | frames
  /-- The number of analog batches. -/
  | batches
  /-- The samples of an analog batch. -/
  | batchSize
  | statusInterval
deriving DecidableEq, Inhabited, Repr

namespace NumberOption

/-- The option that an argument names. -/
def ofArgument? (argument : String) : Option NumberOption :=
  if argument = "--device" || argument = "-d" then some device
  else if argument = "--frames" || argument = "-n" then some frames
  else if argument = "--batches" then some batches
  else if argument = "--batch-size" then some batchSize
  else if argument = "--status-interval" then some statusInterval
  else none

/-- The name of an option in errors. -/
def name : NumberOption → String
  | device => "--device"
  | frames => "--frames"
  | batches => "--batches"
  | batchSize => "--batch-size"
  | statusInterval => "--status-interval"

/-- The values of an option lie below its bound. -/
def bound : NumberOption → Nat
  | device => 0x10000
  | _ => 0x10000000000000000

/-- Sets an option. -/
def set (options : DemonstrationOptions) (value : Nat) : NumberOption → DemonstrationOptions
  | device => { options with deviceId := UInt16.ofNat value }
  | frames => { options with canFrames := value }
  | batches => { options with analogBatches := value }
  | batchSize => { options with batchSize := value }
  | statusInterval => { options with config := { options.config with statusInterval := value } }

end NumberOption

/-- Reads arguments, starting from options read before. -/
def parseFrom (options : DemonstrationOptions) (arguments : List String) : Except UsageError Request :=
  match arguments with
  | [] => .ok (.run options)
  | argument :: rest =>
    match NumberOption.ofArgument? argument with
    | some option =>
      match rest with
      | [] => .error (.missingValue option.name)
      | text :: rest =>
        match number? option.bound text with
        | none => .error (.invalidNumber option.name)
        | some value => parseFrom (option.set options value) rest
    | none =>
      if argument = "--jumbo" then
        parseFrom
          { options with config := { LinkConfig.jumbo with statusInterval := options.config.statusInterval } } rest
      else if argument = "--verbose" || argument = "-v" then parseFrom { options with verbose := true } rest
      else if argument = "--help" || argument = "-h" then .ok .help
      else .error (.unknownOption argument)

/-- Reads the arguments. -/
def parse (arguments : List String) : Except UsageError Request := parseFrom {} arguments

/-! ### Runs -/

/-- Exit code and texts of a run. -/
structure Outcome where
  code : Nat := 0
  /-- The text on the standard output. -/
  output : String := ""
  /-- The text on the standard error output. -/
  errors : String := ""
deriving DecidableEq, Inhabited, Repr

/-- A run that ends with an error. -/
def failure (shown : String) : Outcome := { code := 1, errors := "Error: " ++ shown ++ "\n" }

/-- How an error of the link is shown at the end of a run. -/
def showError : LinkError → String
  | .zeroSetting setting => (LinkError.zeroSetting setting).name ++ "(" ++ Text.quote setting.complaint ++ ")"
  | error => error.message

/-- Runs the program. -/
def execute (arguments : List String) : Outcome :=
  match parse arguments with
  | .error error => failure (Text.quote error.message)
  | .ok .help => { output := helpText ++ "\n" }
  | .ok (.run options) =>
    match demonstrate options with
    | .error error => failure (showError error)
    | .ok lines => { output := String.join (lines.map (· ++ "\n")) }

end CaptureProtocol.CommandLine
