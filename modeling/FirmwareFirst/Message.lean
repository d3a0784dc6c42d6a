import FirmwareFirst.Bytes.Hex
import FirmwareFirst.CallError
import FirmwareFirst.Record.Severity

/-!
# Log messages

Everything the library logs, one constructor for each message with what it reports, its level and
its text. Numbers are logged in hexadecimal.
-/

namespace FirmwareFirst

/-- How much a log message matters. -/
inductive LogLevel
  | error
  | warning
  | info
  | debug
  | trace
deriving DecidableEq

/-- The name of a level. -/
def LogLevel.name : LogLevel → String
  | error => "ERROR"
  | warning => "WARN"
  | info => "INFO"
  | debug => "DEBUG"
  | trace => "TRACE"

/-- A log message. -/
inductive Message
  /-- Memory for a region is too short. -/
  | memoryTooShort (size maxSection : Nat)
  /-- Reserved memory for a region is too short. -/
  | reservedMemoryTooShort (base : UInt64) (size : Nat)
  /-- The region of an error source is laid out for sections shorter than its own. -/
  | sectionsTooLong (sourceId : UInt16) (available needed : Nat)
  /-- A region was prepared. -/
  | regionPrepared (base : UInt64) (blockLength : Nat)
  /-- A report was written. -/
  | reportWritten (severity : Severity) (length : Nat) (address : UInt64)
  /-- A descriptor was handed out. -/
  | descriptorPublished (sourceId : UInt16) (event : UInt32)
  /-- The interface could not return descriptors. -/
  | descriptorsNotReturned (error : CallError)
  /-- An event is too short. -/
  | eventTooShort (size expected : Nat)
  /-- An event came before the descriptor was published. -/
  | eventTooEarly (sourceId : UInt16)
  /-- The handler of an error source failed. -/
  | handlerFailed (sourceId : UInt16) (status : Status)
  /-- A processor error was encoded. -/
  | processorErrorEncoded (severity : Severity) (errorType : UInt8) (nonSecure : Bool)
  /-- A RAM error record was read. -/
  | ramRecordRead (base : UInt64) (status code address : UInt32)
  /-- A memory error was encoded. -/
  | memoryErrorEncoded (severity : Severity) (address : UInt32)
  /-- The handler of an error source could not be registered. -/
  | handlerNotRegistered (sourceId : UInt16) (status : Status)
  /-- The interface of an error source could not be installed. -/
  | interfaceNotInstalled (sourceId : UInt16) (status : Status)
  /-- The handler of an error source could not be taken back. -/
  | handlerNotUnregistered (sourceId : UInt16) (status : Status)
  /-- An error source was installed. -/
  | sourceInstalled (sourceId : UInt16) (event : UInt32) (base : UInt64)
deriving DecidableEq

namespace Message

/-- How much a message matters. -/
def level : Message → LogLevel
  | memoryTooShort .. => .error
  | reservedMemoryTooShort .. => .error
  | sectionsTooLong .. => .error
  | regionPrepared .. => .info
  | reportWritten .. => .debug
  | descriptorPublished .. => .info
  | descriptorsNotReturned .. => .error
  | eventTooShort .. => .debug
  | eventTooEarly .. => .warning
  | handlerFailed .. => .debug
  | processorErrorEncoded .. => .trace
  | ramRecordRead .. => .debug
  | memoryErrorEncoded .. => .trace
  | handlerNotRegistered .. => .error
  | interfaceNotInstalled .. => .error
  | handlerNotUnregistered .. => .warning
  | sourceInstalled .. => .info

/-- The text of a message. -/
def text : Message → String
  | memoryTooShort size maxSection =>
    "Error status region of " ++ hex size ++ " bytes cannot hold a " ++ hex maxSection ++
      " byte section"
  | reservedMemoryTooShort base size =>
    "Error status region at " ++ hex base.toNat ++ " is only " ++ hex size ++ " bytes"
  | sectionsTooLong sourceId available needed =>
    "Error source " ++ hex sourceId.toNat ++ ": region holds " ++ hex available ++
      " byte sections, source needs " ++ hex needed
  | regionPrepared base blockLength =>
    "Initialized error status region at " ++ hex base.toNat ++ ", status block length " ++
      hex blockLength
  | reportWritten severity length address =>
    "Wrote " ++ severity.name ++ " report of " ++ hex length ++ " bytes at " ++ hex address.toNat
  | descriptorPublished sourceId event =>
    "Published GHESv2 error source " ++ hex sourceId.toNat ++ " notified through SDEI event " ++
      hex event.toNat
  | descriptorsNotReturned error =>
    "Failed to return error source descriptors: " ++ error.text
  | eventTooShort size expected =>
    "Error event of " ++ hex size ++ " bytes, expected " ++ hex expected
  | eventTooEarly sourceId =>
    "Error source " ++ hex sourceId.toNat ++
      " received an event before its descriptor was published"
  | handlerFailed sourceId status =>
    "Error source " ++ hex sourceId.toNat ++ " handler returned " ++ status.text
  | processorErrorEncoded severity errorType nonSecure =>
    "Encoded processor error: severity=" ++ severity.name ++ ", type=" ++
      toString errorType.toNat ++ ", non_secure=" ++ (if nonSecure then "true" else "false")
  | ramRecordRead base status code address =>
    "RAM error record at " ++ hex base.toNat ++ ": status=" ++ hex status.toNat ++ " code=" ++
      hex code.toNat ++ " address=" ++ hex address.toNat
  | memoryErrorEncoded severity address =>
    "Encoded memory error: " ++ severity.name ++ " at " ++ hex address.toNat
  | handlerNotRegistered sourceId status =>
    "Failed to register MMI handler for error source " ++ hex sourceId.toNat ++ ": " ++ status.text
  | interfaceNotInstalled sourceId status =>
    "Failed to install descriptor protocol for error source " ++ hex sourceId.toNat ++ ": " ++
      status.text
  | handlerNotUnregistered sourceId status =>
    "Failed to unregister MMI handler for error source " ++ hex sourceId.toNat ++ ": " ++
      status.text
  | sourceInstalled sourceId event base =>
    "Installed error source " ++ hex sourceId.toNat ++ ": SDEI event " ++ hex event.toNat ++
      ", region at " ++ hex base.toNat

/-- The line a message is logged as: its level, the name of the log, and its text. -/
def line (m : Message) : String :=
  m.level.name ++ " ras " ++ m.text

end Message

/-- A call is refused with an error, and some messages are logged. -/
structure Rejection where
  error : CallError
  log : List Message := []
deriving DecidableEq

end FirmwareFirst
