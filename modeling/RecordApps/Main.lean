import RecordApps.Config
import RecordApps.Engine.Bundle
import RecordApps.Engine.Request
import RecordApps.Value.Parser
import Std.Time

/-! # The command line

Reads a bundle and a request from the files that the environment names, carries out the
request and prints its answer. A refusal is told on the error stream.
-/

namespace RecordApps

/-- A random id in the form of an app id. -/
def randomId : IO String := do
  let digits ← (List.range 32).mapM fun place => do
    let n ← IO.rand 0 15
    let digit := if place = 12 then 4 else if place = 16 then 8 + n % 4 else n
    return Nat.digitChar digit
  return ((AppId.ofDigits? digits).map AppId.text).getD ""

/-- The time, in seconds, with its distance from universal time. -/
def currentTime : IO String := do
  let stamp := (Std.Time.DateTime.ofTimestamp (← Std.Time.Timestamp.now) .UTC).toISO8601String
  return String.ofList stamp.toList.dropLast ++ "+00:00"

def readText (path : String) : IO (Outcome String) := do
  try
    return .ok (← IO.FS.readFile path)
  catch reason =>
    return .error (.invalid (.unreadableFile path (toString reason)))

def readStored {α : Type} (path : String) (decode : Decoder α) : ExceptT Fault IO α := do
  let raw ← ExceptT.mk (readText path)
  match (Value.ofText? raw).bind decode with
  | some stored => return stored
  | none => throw (.invalid (.badFile path))

def readConfig : ExceptT Fault IO Config := do
  let given ← Config.names.mapM fun name => return (name, ← IO.getEnv name)
  Config.load fun name => (given.lookup name).join

def answerRequest : ExceptT Fault IO Value := do
  let config ← readConfig
  let id ← randomId
  let settings : Settings :=
    { now := ← currentTime
      currencySymbol := config.currencySymbol
      numberLead := config.numberLead
      rulesReachable := true
      newRecordId := fun _ => id }
  let bundle ← readStored config.bundlePath Bundle.ofValue?
  let (seeded, ws) := bundle.seed.run settings .empty
  seeded
  let request ← readStored config.requestPath Request.ofValue?
  (request.execute.run settings ws).1

end RecordApps

def main : IO UInt32 := do
  match ← RecordApps.answerRequest.run with
  | .ok answer =>
      IO.println answer.toIndentedText
      return 0
  | .error fault =>
      IO.eprintln fault.message
      return 1
