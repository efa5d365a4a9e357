import Troubleshoot.Console.Arguments
import Troubleshoot.Console.Configuration
import Troubleshoot.Console.Terminal
import Troubleshoot.Rule.Format
import Troubleshoot.Session.Advisor

namespace Troubleshoot

inductive Invocation.Error where
  | arguments (cause : ArgumentError)
  | configuration (cause : Failure)
  | noKnowledgeBase
  | knowledgeBase (cause : KnowledgeBase.Error)
  | session (cause : Failure)
  | overflow (cause : Overflow)

namespace Invocation.Error

-- The exit code of the program. Asking for help is no failure.
def exitCode : Error → UInt32
  | arguments .displayHelp | arguments .displayVersion => 0
  | arguments _ | noKnowledgeBase => 2
  | configuration _ | knowledgeBase _ | session _ => 1
  | overflow _ => 101

-- What the program complains of, its usage aside.
def complaint : Error → Option String
  | arguments _ | overflow _ => none
  | configuration cause => some s!"Configuration error: {cause.message}"
  | noKnowledgeBase =>
    some "No knowledge base given: pass --knowledge-base or set KNOWLEDGE_BASE_PATH"
  | knowledgeBase cause => some s!"Error: {cause.message}"
  | session cause => some s!"Error: {cause.message}"

end Invocation.Error

structure Invocation where
  words : List String
  -- The variables that the process has.
  environment : Environment
  -- The text of the file of assignments, if there is one.
  assignments : Option String

namespace Invocation

-- What a call asks for, and the path of its knowledge base.
structure Request where
  arguments : Arguments
  configuration : Configuration
  path : String

def request (i : Invocation) : Except Error Request := do
  let arguments ← (Arguments.ofList i.words).mapError .arguments
  let environment := match i.assignments with
    | some text => i.environment.withFile text
    | none => i.environment
  let configuration ← (Configuration.ofEnvironment environment).mapError fun message =>
    .configuration (.configuration message)
  match arguments.knowledgeBase <|> configuration.knowledgeBasePath with
  | some path => return ⟨arguments, configuration, path⟩
  | none => throw .noKnowledgeBase

-- An advisor on the knowledge base of a file, with the preset answers.
def Request.advisor {υ : Type} (r : Request) (file : KnowledgeBase.File) (respondent : Respondent υ) :
    Except Error (Advisor υ) := do
  let kb ← (KnowledgeBase.ofFile file).mapError .knowledgeBase
  let presets := r.arguments.answers.map fun (id, answer) => (id, answer.toJson)
  let advisor := Advisor.new r.configuration.settings
  let (result, advisor) ← (advisor.take (Advisor.brief kb respondent presets)).mapError .overflow
  result.mapError .session
  return advisor

-- Runs the session of a call at a terminal.
def Request.run (r : Request) (file : KnowledgeBase.File) (terminal : Terminal) :
    Except Error (Diagnosis × Terminal) := do
  let advisor ← r.advisor file Terminal.respondent
  let (diagnosis, world) ← (advisor.run r.arguments.symptoms r.arguments.systemTypes terminal).mapError
    fun e => .session (.lifecycle e)
  return (diagnosis, world.user)

end Invocation

-- The members of a printed diagnosis.
def Diagnosis.members (d : Diagnosis) : List (String × Json) :=
  [("events", .array (d.firings.map Firing.format.write)),
    ("ruleResults", .array (d.verdicts.map Verdict.format.write)),
    ("facts", .object d.facts),
    ("activeSymptoms", .ofStrings d.activeSymptoms)]

end Troubleshoot
