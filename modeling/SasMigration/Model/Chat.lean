import SasMigration.Pattern.Matching
import SasMigration.Value.Document

namespace SasMigration

inductive ChatModel
  | absent
  | refused (reason : Text)
  | notInstalled (reason : Text)
  | failing (reason : Text)
  | replying (content : Value)
deriving Repr

namespace ChatModel

def failure (reason : Text) : Value := .object [("ai_analysis_error", .text reason)]

def unread (content : Text) : Value := .object [("ai_analysis", .text content)]

/-- The value of a JSON text; a text that is none is left to `otherwise`. -/
def readJson (t : Text) (otherwise : Value) : Value :=
  match Value.ofJson t with
  | .ok v => v
  | .error .malformed => otherwise
  | .error fault => failure fault.toFault.message

def readReply (content : Value) (otherwise : Text → Value) : Value :=
  match content with
  | .text t => readJson t (otherwise t)
  | v => failure (Fault.notDocument v.kindName).message

def dependencyAdvice : ChatModel → Value
  | .failing reason => failure reason
  | .replying content => readReply content unread
  | _ => .object []

def fencedJson : Pattern :=
  .inOrder [.literal "```json", .blanks, .group 1 .anything, .blanks, .literal "```"]

def readFenced (t : Text) : Value :=
  match fencedJson.find? t with
  | some m => readJson ((m.group 1).getD []) (unread t)
  | none => unread t

def schemaAdvice : ChatModel → Value
  | .failing reason => failure reason
  | .replying content => readReply content readFenced
  | _ => .object []

def isReady : ChatModel → Bool
  | .failing _ | .replying _ => true
  | _ => false

/-- A model that cannot be set up is a fault where nobody looks after it. -/
def setUp : ChatModel → Except Fault Unit
  | .refused reason => .error (.raised reason)
  | .notInstalled reason => .error (.importRaised reason)
  | _ => .ok ()

end ChatModel

/-- The models of an analysis, which are set up and asked apart from each other. -/
structure AnalysisModels where
  dependencies : ChatModel
  sources : ChatModel

end SasMigration
