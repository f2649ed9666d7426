import SasMigration.Model.Chat
import SasMigration.Model.Prompt
import SasMigration.Model.Settings

namespace SasMigration

/-- A question to a model: how it is set up, what it is sent, and what is made of its reply. -/
structure Consultation where
  settings : Fields
  messages : Prompt.Messages
  advice : Value

namespace Consultation

variable (env : Environment) (key : Text) (name : Value) (model : ChatModel) (code : Text)
  (findings : Fields)

def onDependencies : Except Fault (Option Consultation) := do
  model.setUp
  if model.isReady then
    let messages ← Prompt.dependencies code findings
    return some { settings := ChatSettings.forDependencies env key name, messages,
                  advice := model.dependencyAdvice }
  else return none

/-- Nobody is asked about schemas where the model could not be set up. -/
def onSchemas : Except Fault (Option Consultation) := do
  if model.isReady then
    let messages ← Prompt.schemas code findings
    return some { settings := ChatSettings.forSchemas env key name, messages,
                  advice := model.schemaAdvice }
  else return none

end Consultation

end SasMigration
