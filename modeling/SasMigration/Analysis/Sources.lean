import SasMigration.Model.Chat
import SasMigration.Program.DataSet

namespace SasMigration.SourceAnalysis

def notice : ChatModel → Text
  | .refused reason => "Error initializing AI model: " ++ reason ++ "\n"
  | .notInstalled _ => "LangChain or OpenAI packages not installed. AI enhancement unavailable.\n"
  | _ => []

def basic (code : Text) : Except Fault Fields := do
  let dataSets := DataSet.names code
  let schemas ← DataSet.schemas code dataSets
  return [("datasets", .texts dataSets), ("schemas", Schema.toValue schemas)]

def ofCode (model : ChatModel) (code : Text) : Except Fault Fields := do
  let fields ← basic code
  return if model.isReady then fields.put "enhanced_schemas" model.schemaAdvice else fields

end SasMigration.SourceAnalysis
