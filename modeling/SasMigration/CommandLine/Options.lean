import SasMigration.Number.Numeral
import SasMigration.Pattern.Matching
import SasMigration.Text.Quoted
import SasMigration.Value.Basic

namespace SasMigration

inductive OptionKind
  | help
  | flag
  | text
  | integer
deriving DecidableEq, Repr

/-- An option with all its names and the field that it sets. -/
structure OptionSpec where
  names : List Text
  field : Text
  kind : OptionKind
  absent : Value
  help : Text

inductive Operand
  | nothing
  | required (field help : Text)
  | optional (field help : Text)
  | command (field help : Text) (choices : List (Text × Text))
deriving DecidableEq, Repr

structure CommandSpec where
  description : Text
  options : List OptionSpec
  operand : Operand

/-- A command and those that its operand may name. -/
structure ProgramSpec where
  main : CommandSpec
  commands : List (Text × CommandSpec)

inductive ArgumentFault
  | ambiguous (written : Text) (names : List Text)
  | expectedOne (argument : Text)
  | ignored (argument written : Text)
  | notInteger (argument written : Text)
  | badChoice (argument written : Text) (choices : List Text)
  | missing (arguments : List Text)
  | unrecognized (arguments : List Text)
deriving DecidableEq, Repr

inductive HaltReason
  | help
  | fault (f : ArgumentFault)
deriving DecidableEq, Repr

/-- Why a command does not start: help was asked for, or its arguments cannot be read. -/
structure Halt where
  name : Text
  spec : CommandSpec
  reason : HaltReason

/-- How an option is given: under which name, and with what text attached, after a sign or not. -/
structure OptionUse where
  option : Option OptionSpec
  name : Text
  signed : Bool
  attached : Option Text

inductive Mark
  | operand
  | dashes
  | option (u : OptionUse)

abbrev Argument := Text × Mark

structure Setting where
  option : OptionSpec
  value : Option Text

/-- What one argument holds: options with what they are set to, an option whose value would be the
next argument, and what is not understood. -/
structure Cluster where
  settings : List Setting
  last : Option OptionSpec
  extra : List Text

structure ArgumentState where
  values : Fields
  extra : List Text
  operandOpen : Bool

namespace ArgumentFault

def about (argument message : Text) : Text := "argument " ++ argument ++ ": " ++ message

def message : ArgumentFault → Text
  | ambiguous written names =>
    "ambiguous option: " ++ written ++ " could match " ++ Text.join ", " names
  | expectedOne argument => about argument "expected one argument"
  | ignored argument written => about argument ("ignored explicit argument " ++ Text.quoted written)
  | notInteger argument written => about argument ("invalid int value: " ++ Text.quoted written)
  | badChoice argument written choices =>
    about argument ("invalid choice: " ++ Text.quoted written ++ " (choose from " ++
      Text.join ", " (choices.map Text.quoted) ++ ")")
  | missing arguments => "the following arguments are required: " ++ Text.join ", " arguments
  | unrecognized arguments => "unrecognized arguments: " ++ Text.join [' '] arguments

end ArgumentFault

namespace OptionSpec

def helpOption : OptionSpec :=
  ⟨["-h", "--help"], "help", .help, .null, "show this help message and exit"⟩

def ofFlag (names : List Text) (field help : Text) : OptionSpec :=
  ⟨names, field, .flag, .bool false, help⟩

def ofText (names : List Text) (field : Text) (absent : Value) (help : Text) : OptionSpec :=
  ⟨names, field, .text, absent, help⟩

def ofInteger (names : List Text) (field : Text) (absent : Int) (help : Text) : OptionSpec :=
  ⟨names, field, .integer, .int absent, help⟩

def takesValue (o : OptionSpec) : Bool := o.kind == .text || o.kind == .integer

def title (o : OptionSpec) : Text := Text.join ['/'] o.names

end OptionSpec

namespace Operand

def field? : Operand → Option Text
  | nothing => none
  | required field _ | optional field _ | command field _ _ => some field

def width? : Operand → List Mark → Option Nat
  | nothing, _ => none
  | required .., .operand :: .dashes :: _ => some 2
  | required .., .operand :: _ => some 1
  | required .., .dashes :: .operand :: _ => some 2
  | required .., _ => none
  | optional .., .operand :: .dashes :: _ => some 2
  | optional .., .operand :: _ => some 1
  | optional .., .dashes :: .operand :: _ => some 2
  | optional .., .dashes :: _ => some 1
  | optional .., _ => none
  | command .., .operand :: rest => some (rest.length + 1)
  | command .., .dashes :: .operand :: rest => some (rest.length + 2)
  | command .., _ => none

end Operand

namespace CommandSpec

def namedOptions (spec : CommandSpec) : List (Text × OptionSpec) :=
  spec.options.flatMap fun o ↦ o.names.map fun name ↦ (name, o)

def option? (spec : CommandSpec) (name : Text) : Option OptionSpec :=
  (spec.namedOptions.find? fun o ↦ o.1 == name).map (·.2)

def splitSign (arg : Text) : Text × Option Text :=
  match arg.dropWhile (· != '=') with
  | [] => (arg, none)
  | _ :: attached => (arg.takeWhile (· != '='), some attached)

/-- The options that a long name may be the start of, or whose letter begins a cluster. -/
def candidates (spec : CommandSpec) (arg : Text) : List OptionUse :=
  if Text.startsWith "--" arg then
    let (start, attached) := splitSign arg
    (spec.namedOptions.filter fun o ↦ Text.startsWith start o.1).map fun o ↦
      ⟨some o.2, o.1, attached.isSome, attached⟩
  else
    (spec.namedOptions.filter fun o ↦ o.1 == arg.take 2).map fun o ↦
      ⟨some o.2, o.1, false, some (arg.drop 2)⟩

def digits (low : Nat) : Pattern :=
  .span .longest low none (.ofItems false .distinguished [.kind .digit false false])

def negativeNumber : Pattern :=
  .inOrder [.literal "-", .either (digits 1) (.inOrder [digits 0, .literal ".", digits 1]),
    .anchor .finalLineEnd]

/-- An argument that begins like an option and is none: a negative number and what has a space are
operands. -/
def markUnknown (arg : Text) : Mark :=
  if (negativeNumber.matchStart? arg).isSome || arg.contains ' ' then .operand
  else .option ⟨none, arg, false, none⟩

def markCandidates (spec : CommandSpec) (arg : Text) : Except ArgumentFault Mark :=
  match spec.candidates arg with
  | [] => .ok (markUnknown arg)
  | [u] => .ok (.option u)
  | us => .error (.ambiguous arg (us.map (·.name)))

def markSigned (spec : CommandSpec) (arg : Text) : Except ArgumentFault Mark :=
  match splitSign arg with
  | (_, none) => spec.markCandidates arg
  | (name, some attached) =>
    match spec.option? name with
    | some o => .ok (.option ⟨some o, name, true, some attached⟩)
    | none => spec.markCandidates arg

def mark (spec : CommandSpec) (arg : Text) : Except ArgumentFault Mark :=
  match arg with
  | '-' :: _ :: _ =>
    match spec.option? arg with
    | some o => .ok (.option ⟨some o, arg, false, none⟩)
    | none => spec.markSigned arg
  | _ => .ok .operand

def marks (spec : CommandSpec) : List Text → Except ArgumentFault (List Argument)
  | [] => .ok []
  | arg :: rest =>
    if arg = ['-', '-'] then .ok ((arg, .dashes) :: rest.map fun a ↦ (a, .operand))
    else do
      let first ← spec.mark arg
      let more ← spec.marks rest
      return (arg, first) :: more

end CommandSpec

namespace Cluster

def after (o : OptionSpec) (c : Cluster) : Cluster := { c with settings := ⟨o, none⟩ :: c.settings }

/-- The options in one argument, of which `o` has the text that follows attached to it. An option
that takes no value leaves the text to further single letters. -/
def read (spec : CommandSpec) : OptionSpec → Bool → Bool → Text → Except ArgumentFault Cluster
  | o, _, _, [] =>
    if o.takesValue then .ok ⟨[⟨o, some []⟩], none, []⟩ else .error (.ignored o.title [])
  | o, single, signed, c :: rest =>
    if o.takesValue then .ok ⟨[⟨o, some (c :: rest)⟩], none, []⟩
    else if single && !signed && c != '-' then
      match spec.option? ['-', c] with
      | none => .ok ⟨[⟨o, none⟩], none, ['-' :: c :: rest]⟩
      | some next =>
        match rest with
        | [] => .ok ⟨[⟨o, none⟩], some next, []⟩
        | '=' :: attached => (read spec next true true attached).map (after o)
        | d :: more => (read spec next true false (d :: more)).map (after o)
    else .error (.ignored o.title (c :: rest))

def ofUse (spec : CommandSpec) (arg : Text) (u : OptionUse) : Except ArgumentFault Cluster :=
  match u.option, u.attached with
  | none, _ => .ok ⟨[], none, [arg]⟩
  | some o, none => .ok ⟨[], some o, []⟩
  | some o, some attached =>
    read spec o (u.name.drop 1 |>.head? |> (· != some '-')) u.signed attached

def complete (c : Cluster) (rest : List Argument) :
    Except ArgumentFault (List Setting × List Argument) :=
  match c.last with
  | none => .ok (c.settings, rest)
  | some o =>
    if o.takesValue then
      match rest with
      | (arg, .operand) :: rest => .ok (c.settings ++ [⟨o, some arg⟩], rest)
      | _ => .error (.expectedOne o.title)
    else .ok (c.settings ++ [⟨o, none⟩], rest)

end Cluster

namespace ArgumentState

def set (s : ArgumentState) (o : OptionSpec) (v : Value) : ArgumentState :=
  { s with values := s.values.put o.field v }

def apply (s : ArgumentState) (setting : Setting) : Except HaltReason ArgumentState :=
  let o := setting.option
  let written := setting.value.getD []
  match o.kind with
  | .help => .error .help
  | .flag => .ok (s.set o (.bool true))
  | .text => .ok (s.set o (.text written))
  | .integer =>
    match Text.readInt? written with
    | some n => .ok (s.set o (.int n))
    | none => .error (.fault (.notInteger o.title written))

def applyAll (s : ArgumentState) : List Setting → Except HaltReason ArgumentState
  | [] => .ok s
  | setting :: rest => do
    let s ← s.apply setting
    s.applyAll rest

end ArgumentState

abbrev CommandReader := Text → List Text → Except Halt (Fields × List Text)

namespace CommandSpec

def faulty {α : Type} (r : Except ArgumentFault α) : Except HaltReason α := r.mapError .fault

def halting {α : Type} (spec : CommandSpec) (name : Text) (r : Except HaltReason α) :
    Except Halt α :=
  r.mapError fun reason ↦ ⟨name, spec, reason⟩

def readOption (spec : CommandSpec) (arg : Text) (u : OptionUse) (rest : List Argument)
    (s : ArgumentState) : Except HaltReason (ArgumentState × List Argument) := do
  let c ← faulty (Cluster.ofUse spec arg u)
  let (settings, rest) ← faulty (c.complete rest)
  let s ← ArgumentState.applyAll { s with extra := s.extra ++ c.extra } settings
  return (s, rest)

def readOperand (spec : CommandSpec) (name : Text) (sub : CommandReader) (args : List Text)
    (s : ArgumentState) : Except Halt ArgumentState :=
  let s := { s with operandOpen := false }
  match spec.operand with
  | .nothing => .ok s
  | .required field _ | .optional field _ =>
    match args.erase ['-', '-'] with
    | [] => .ok s
    | arg :: _ => .ok { s with values := s.values.put field (.text arg) }
  | .command field _ choices =>
    match args with
    | [] => .ok s
    | command :: rest =>
      let known := choices.map (·.1)
      if known.contains command then do
        let (values, extra) ← sub command rest
        return { s with
          values := (s.values.put field (.text command)).putAll values
          extra := s.extra ++ extra }
      else spec.halting name (.error (.fault (.badChoice field command known)))

def isOption : Argument → Bool
  | (_, .option _) => true
  | _ => false

/-- Reads options and the operand by turns; each turn takes an argument at least. -/
def readFrom (spec : CommandSpec) (name : Text) (sub : CommandReader) :
    Nat → List Argument → ArgumentState → Except Halt ArgumentState
  | 0, _, s => .ok s
  | _, [], s => .ok s
  | turns + 1, (arg, .option u) :: rest, s => do
    let (s, rest) ← spec.halting name (spec.readOption arg u rest s)
    spec.readFrom name sub turns rest s
  | turns + 1, args, s =>
    match if s.operandOpen then spec.operand.width? (args.map (·.2)) else none with
    | some width => do
      let s ← spec.readOperand name sub ((args.take width).map (·.1)) s
      spec.readFrom name sub turns (args.drop width) s
    | none =>
      let skipped := (args.takeWhile fun a ↦ !isOption a).map (·.1)
      spec.readFrom name sub turns (args.dropWhile fun a ↦ !isOption a)
        { s with extra := s.extra ++ skipped }

def absentValues (spec : CommandSpec) : Fields :=
  let ofOptions := (spec.options.filter fun o ↦ o.kind != .help).map fun o ↦ (o.field, o.absent)
  let ofOperand := spec.operand.field?.toList.map fun field ↦ (field, Value.null)
  ofOperand ++ ofOptions

def missing (spec : CommandSpec) (s : ArgumentState) : List Text :=
  match spec.operand with
  | .required field _ => if s.operandOpen then [field] else []
  | _ => []

def read (spec : CommandSpec) (name : Text) (sub : CommandReader) (args : List Text) :
    Except Halt (Fields × List Text) := do
  let marked ← spec.halting name (faulty (spec.marks args))
  let s ← spec.readFrom name sub (args.length + 1) marked ⟨spec.absentValues, [], true⟩
  match spec.missing s with
  | [] => return (s.values, s.extra)
  | names => spec.halting name (.error (.fault (.missing names)))

end CommandSpec

namespace ProgramSpec

def noCommand : CommandReader := fun _ _ ↦ .ok ([], [])

def readCommand (p : ProgramSpec) (name : Text) : CommandReader := fun command args ↦
  match p.commands.find? fun c ↦ c.1 == command with
  | some (_, spec) => spec.read (name ++ " " ++ command) noCommand args
  | none => .ok ([], [])

def read (p : ProgramSpec) (name : Text) (args : List Text) : Except Halt Fields := do
  let (values, extra) ← p.main.read name (p.readCommand name) args
  match extra with
  | [] => return values
  | _ => p.main.halting name (.error (.fault (.unrecognized extra)))

end ProgramSpec

end SasMigration
