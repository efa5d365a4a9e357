import Troubleshoot.Catalogue.KnowledgeBase
import Troubleshoot.Rule.RuleSet

namespace Troubleshoot

inductive LifecycleError where
  | notInitialized | alreadyInitialized
deriving DecidableEq, Repr

def LifecycleError.message : LifecycleError → String
  | notInitialized => "Diagnostic engine has not been initialized"
  | alreadyInitialized => "Diagnostic engine is already initialized"

inductive Failure where
  | configuration (message : String)
  | knowledgeBase (cause : KnowledgeBase.Error)
  | lifecycle (cause : LifecycleError)
  | rule (cause : RuleError)
  | internal (message : String)

def Failure.message : Failure → String
  | configuration message => s!"Configuration error: {message}"
  | knowledgeBase cause => s!"Knowledge base error: {cause.message}"
  | lifecycle cause => s!"Engine error: {cause.message}"
  | rule cause => s!"Rules error: {cause.message}"
  | internal message => s!"Internal error: {message}"

end Troubleshoot
