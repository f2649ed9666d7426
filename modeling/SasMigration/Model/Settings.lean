import SasMigration.Value.Basic

namespace SasMigration

abbrev Environment := List (Text × Text)

namespace Environment

def get? (env : Environment) (name : Text) : Option Text :=
  (env.find? fun e ↦ e.1 == name).map (·.2)

end Environment

namespace ChatSettings

def defaultModel : Text := "gpt-4-turbo"

def forDependencies (env : Environment) (key : Text) (model : Value) : Fields :=
  let chosen :=
    if model.isTrue then model else .text ((env.get? "OPENAI_MODEL").getD defaultModel)
  [("model", chosen), ("openai_api_key", .text key), ("temperature", .int 0)]

/-- The model that is asked about schemas, a deployment with an address of its own. -/
def forSchemas (env : Environment) (key : Text) (model : Value) : Fields :=
  [("openai_api_key", .text key),
    ("azure_endpoint", ((env.get? "AZURE_OPENAI_ENDPOINT").map .text).getD .null),
    ("api_version", .text ((env.get? "AZURE_OPENAI_API_VERSION").getD "2023-05-15")),
    ("deployment_name", ((env.get? "AZURE_OPENAI_DEPLOYMENT_NAME").map .text).getD model),
    ("temperature", .number (.ofInt 0))]

end ChatSettings

end SasMigration
