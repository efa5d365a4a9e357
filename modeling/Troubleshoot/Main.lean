import Std.Time
import Troubleshoot.Console.Invocation

namespace Troubleshoot

-- The variables that count.
def variableNames : List String :=
  ["ALLOW_UNDEFINED_FACTS", "FACT_PRIORITY_START", "SESSION_FACT_PRIORITY", "LOG_LEVEL", "LOG_FORMAT",
    "KNOWLEDGE_BASE_PATH"]

-- The variables that count, and those that a file of assignments refers to.
def readEnvironment (assignments : Option String) : IO Environment :=
  let mentioned := Assignment.mentioned (assignments.getD "").toList
  (variableNames ++ mentioned).foldlM (fun env name => do
    match ← IO.getEnv name with
    | some value => return env.insert name value
    | none => return env) ∅

def readFile (path : String) : IO KnowledgeBase.File := do
  try
    return .bytes (← IO.FS.readBinFile path).toList
  catch
    | .noFileOrDirectory .. => return .absent
    | _ => return .directory

def readAssignments : IO (Option String) := do
  return (← readFile ".env").text.toOption

-- A random identifier, in the usual five groups of hexadecimal digits.
def sessionId : IO String := do
  let bytes := (← IO.getRandomBytes 16).toList.map UInt8.toNat
  let fixed := bytes.mapIdx fun i b =>
    if i = 6 then b % 16 + 64 else if i = 8 then b % 64 + 128 else b
  let digits := fixed.flatMap fun b => [Text.hexDigit (b / 16), Text.hexDigit (b % 16)]
  let group (start count : Nat) : String := .ofList ((digits.drop start).take count)
  return "-".intercalate [group 0 8, group 8 4, group 12 4, group 16 4, group 20 12]

-- Runs the session again with each further line, until none is missing any more. What was shown
-- before is not shown again.
partial def converse (stdin stdout : IO.FS.Stream)
    (run : Terminal → Except Invocation.Error (Diagnosis × Terminal))
    (lines : List (Except Text.Utf8Error String)) (ended : Bool) (shown : Nat) :
    IO (Except Invocation.Error Diagnosis) := do
  match run (.start lines ended) with
  | .error e => return .error e
  | .ok (diagnosis, terminal) =>
    stdout.putStr (.ofList (terminal.shown.toList.drop shown))
    stdout.flush
    if terminal.starved then
      let bytes := (← readLine .empty).toList
      let (lines, ended) := if bytes = [] then (lines, true) else (lines ++ [Terminal.line bytes], false)
      converse stdin stdout run lines ended terminal.shown.length
    else
      return .ok diagnosis
where
  readLine (sofar : ByteArray) : IO ByteArray := do
    let byte ← stdin.read 1
    let sofar := sofar ++ byte
    if byte.isEmpty || byte.toList = [10] then return sofar else readLine sofar

def print (diagnosis : Diagnosis) (startedAt : Std.Time.Timestamp) (duration : Nat) : IO Unit := do
  let startedAt := (Std.Time.DateTime.ofTimestamp startedAt .UTC).toISO8601String
  let outcome := Json.ofMembers <|
    [("sessionId", .string (← sessionId)), ("startedAt", .string startedAt),
      ("durationMs", .int duration)] ++ diagnosis.members
  IO.println (outcome.pretty "")

def fail (e : Invocation.Error) : IO UInt32 := do
  match e with
  | .arguments .displayHelp | .arguments .displayVersion =>
    IO.println "usage: [-k FILE] -s SYMPTOM... [-t TYPE]... [-a ID=VALUE]..."
  | .arguments _ => IO.eprintln "usage: [-k FILE] -s SYMPTOM... [-t TYPE]... [-a ID=VALUE]..."
  | e => e.complaint.forM IO.eprintln
  return e.exitCode

end Troubleshoot

open Troubleshoot in
def main (words : List String) : IO UInt32 := do
  let assignments ← readAssignments
  match Invocation.request ⟨words, ← readEnvironment assignments, assignments⟩ with
  | .error e => fail e
  | .ok request =>
    let file ← readFile request.path
    let startedAt ← Std.Time.Timestamp.now
    let start ← IO.monoMsNow
    match ← converse (← IO.getStdin) (← IO.getStdout) (request.run file) [] false 0 with
    | .error e => fail e
    | .ok diagnosis =>
      print diagnosis startedAt ((← IO.monoMsNow) - start)
      return 0
