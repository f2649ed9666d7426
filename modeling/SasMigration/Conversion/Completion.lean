import SasMigration.Conversion.Instruction
import SasMigration.Fault
import SasMigration.Text.Blank

namespace SasMigration

inductive Reply
  | content (v : Value)
  | failing (reason : Text)
deriving Repr

structure CompletionClient where
  apiKey : Value
  apiBase : Value
  apiVersion : Value
  deployment : Value
deriving Repr

structure CompletionRequest where
  deployment : Value
  system : Text
  user : Text
  maxTokens : Value
  temperature : Value
deriving Repr

/-- The replies that are still to come, the requests made, and what was printed. -/
structure Exchange where
  replies : List Reply
  requests : List CompletionRequest
  printed : Text
deriving Repr

namespace Reply

def text : Reply → Except Text Text
  | content (.text t) => .ok (Text.strip t)
  | content v => .error (Fault.noOperation v.kindName "strip").message
  | failing reason => .error reason

end Reply

namespace Exchange

def start (replies : List Reply) : Exchange := { replies, requests := [], printed := [] }

/-- The next reply; there is an empty one after the last. -/
def next (x : Exchange) : Reply := x.replies.headD (.content (.text []))

end Exchange

abbrev Conversing := StateM Exchange

namespace CompletionClient

def setting (given : Option Value) (otherwise : Text) : Value :=
  match given with
  | some v => if v.isTrue then v else .text otherwise
  | none => .text otherwise

/-- A client; settings that are not given, or empty, have their defaults. -/
def create (apiKey apiBase apiVersion deployment : Option Value) : CompletionClient :=
  { apiKey := setting apiKey []
    apiBase := setting apiBase []
    apiVersion := setting apiVersion ConversionSettings.apiVersion
    deployment := setting deployment ConversionSettings.deployment }

def standard : CompletionClient := create none none none none

def ask (client : CompletionClient) (system user : Text) (maxTokens temperature : Value) :
    Conversing Text := do
  let x ← get
  let request := { deployment := client.deployment, system, user, maxTokens, temperature }
  let x := { x with replies := x.replies.tail, requests := x.requests ++ [request] }
  match (← get).next.text with
  | .ok t =>
    set x
    return t
  | .error reason =>
    set { x with printed := x.printed ++ "OpenAI API调用失败: " ++ reason ++ "\n" }
    return []

def instruct (client : CompletionClient) (instruction : Instruction) (user : Text) :
    Conversing Text :=
  client.ask instruction.text user ConversionSettings.maxTokens ConversionSettings.temperature

end CompletionClient

end SasMigration
