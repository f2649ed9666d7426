import SasMigration.Text.Blank

namespace SasMigration

/-- A line as it comes from a process, empty if there is none yet, or a failure to read. -/
inductive StreamRead
  | line (t : Text)
  | failing (reason : Text)
deriving DecidableEq, Repr

/-- What a process says of itself when asked. -/
inductive Poll
  | running
  | ended (code : Int)
  | failing (reason : Text)
deriving DecidableEq, Repr

inductive StreamKind
  | output
  | error
deriving DecidableEq, Repr

/-- The lines that a reader hands on, how often it had to wait, and whether it came to its end and
closed the stream. -/
structure StreamResult where
  lines : List Text
  waits : Nat
  closed : Bool
deriving DecidableEq, Repr

namespace StreamKind

def name : StreamKind → Text
  | output => "stdout"
  | error => "stderr"

def mark : StreamKind → Text
  | output => []
  | error => "ERROR: "

def ending : StreamKind → Text
  | output => "DEBUG: Process ended with return code: "
  | error => "DEBUG: Process stderr ended with return code: "

def failure : StreamKind → Text
  | output => "Error reading output: "
  | error => "Error reading error stream: "

end StreamKind

namespace Poll

def codeText : Poll → Text
  | ended code => Text.ofInt code
  | _ => "None"

/-- The answers after the next one; the last one is repeated. -/
def later : List Poll → List Poll
  | [] => []
  | [p] => [p]
  | _ :: ps => ps

end Poll

namespace StreamResult

def stop (lines : List Text) : StreamResult := ⟨lines, 0, true⟩

def unending : StreamResult := ⟨[], 0, false⟩

def after (lines : List Text) (r : StreamResult) : StreamResult :=
  { r with lines := lines ++ r.lines }

def wait (r : StreamResult) : StreamResult := { r with waits := r.waits + 1 }

end StreamResult

namespace StreamKind

def finished (kind : StreamKind) : Text := "DEBUG: Finished reading " ++ kind.name

def close (kind : StreamKind) (again : Poll) : StreamResult :=
  match again with
  | .failing reason => .stop [kind.failure ++ reason]
  | p => .stop [kind.ending ++ p.codeText, kind.finished]

/-- Waits for the end of a process that writes nothing more. The last answer holds for good. -/
def drain (kind : StreamKind) : List Poll → StreamResult
  | [] => .unending
  | .failing reason :: _ => .stop [kind.failure ++ reason]
  | .ended code :: rest => kind.close (rest.headD (.ended code))
  | .running :: rest => (kind.drain rest).wait

def handOn (kind : StreamKind) (t : Text) : List Text :=
  let line := Text.strip t
  if line.isEmpty then [] else [kind.mark ++ line]

/-- Reads line after line. Where there is none, the process is asked whether it has ended. -/
def readFrom (kind : StreamKind) : List StreamRead → List Poll → StreamResult
  | [], polls => kind.drain polls
  | .failing reason :: _, _ => .stop [kind.failure ++ reason]
  | .line [] :: reads, polls =>
    match polls.head? with
    | none => .unending
    | some (.failing reason) => .stop [kind.failure ++ reason]
    | some (.ended code) => kind.close ((Poll.later polls).headD (.ended code))
    | some .running => (kind.readFrom reads (Poll.later polls)).wait
  | .line t :: reads, polls => .after (kind.handOn t) (kind.readFrom reads polls)

def read (kind : StreamKind) (reads : List StreamRead) (polls : List Poll) : StreamResult :=
  .after ["DEBUG: Starting to read " ++ kind.name] (kind.readFrom reads polls)

end StreamKind

end SasMigration
