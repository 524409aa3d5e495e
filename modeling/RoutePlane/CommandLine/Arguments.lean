import RoutePlane.Address.Basic
import RoutePlane.CommandLine.Help
import RoutePlane.Flow.Basic

/-!
The arguments of the command line. Options and the name of the snapshot come in any order before the
command, and an option of a command after it. An option is given once, with its value behind an
equals sign or as the next argument, which must not look like an option. After a double dash nothing
is an option or a command.

Arguments are read from the first to the last. A mistake ends the reading, and so does a flag that
asks for the version or for help: what comes after it does not matter.
-/
namespace RoutePlane.CommandLine

inductive Command where
  | routes
  | forwarding
  | statistics
  | trace (flow : Flow)

structure Request where
  snapshot : String
  maxOuter : Nat
  threads : Option Nat
  command : Command

inductive Stop where
  | mistake
  | version
  | help (topic : Topic)
  deriving DecidableEq

def orMistake {α : Type} : Option α → Except Stop α
  | some a => .ok a
  | none => .error .mistake

/-- An argument as it looks. -/
inductive Shape where
  | escape
  | long (name : String) (value : Option String)
  | short (letters : List Char)
  | plain (text : String)

def shape (argument : String) : Shape :=
  match argument.toList with
  | ['-', '-'] => .escape
  | '-' :: '-' :: rest =>
    match rest.span (· ≠ '=') with
    | (name, _ :: value) => .long (String.ofList name) (some (String.ofList value))
    | (name, []) => .long (String.ofList name) none
  | '-' :: c :: rest => .short (c :: rest)
  | _ => .plain argument

/-- The value of an option, and the arguments after it. -/
def takeValue? (attached : Option String) (rest : List String) : Option (String × List String) :=
  match attached, rest with
  | some value, rest => some (value, rest)
  | none, [] => none
  | none, next :: rest =>
    match shape next with
    | .plain value => some (value, rest)
    | _ => none

/-- Fill a place that is still empty with a value that could be read. -/
def fill? {α : Type} : Option α → Option α → Option (Option α)
  | none, some value => some (some value)
  | _, _ => none

def count? (text : String) : Option Nat := Numeral.unsigned? UInt64.size text

/-- A number of 16 bits may have a sign, also a minus sign if it is zero. -/
def signedWord16? (text : String) : Option UInt16 :=
  match text.toList with
  | '-' :: digits => (Numeral.below? 1 digits).map UInt16.ofNat
  | _ => Numeral.word16? text

/-- What has been said about the flow to trace. -/
structure TraceOptions where
  node : Option String := none
  vrf : Option String := none
  destination : Option Address := none
  source : Option Address := none
  protocol : Option IpProtocol := none
  destinationPort : Option UInt16 := none

namespace TraceOptions

def set? (o : TraceOptions) (name value : String) : Option TraceOptions :=
  match name with
  | "node" => do pure { o with node := ← fill? o.node (some value) }
  | "vrf" => do pure { o with vrf := ← fill? o.vrf (some value) }
  | "dst" => do pure { o with destination := ← fill? o.destination (Address.ofText? value) }
  | "src" => do pure { o with source := ← fill? o.source (Address.ofText? value) }
  | "protocol" => do pure { o with protocol := ← fill? o.protocol (IpProtocol.ofText? value) }
  | "dst-port" => do
    pure { o with destinationPort := ← fill? o.destinationPort (signedWord16? value) }
  | _ => none

def flow? (o : TraceOptions) : Option Flow := do
  pure {
    ingressNode := ← o.node
    ingressVrf := o.vrf.getD defaultVrf
    source := o.source.getD .unspecified
    destination := ← o.destination
    protocol := o.protocol.getD .tcp
    destinationPort := o.destinationPort.getD 80 }

end TraceOptions

/-- Read the arguments after a command, which are its options only. Every step uses up one. -/
def readOptions {δ : Type} (topic : Topic) (set? : δ → String → String → Option δ) :
    Nat → δ → List String → Except Stop δ
  | _, options, [] => .ok options
  | 0, _, _ => .error .mistake
  | steps + 1, options, argument :: rest =>
    match shape argument with
    | .escape => if rest.isEmpty then .ok options else .error .mistake
    | .long "help" none => .error (.help topic)
    | .long name attached => do
      let (value, rest) ← orMistake (takeValue? attached rest)
      readOptions topic set? steps (← orMistake (set? options name value)) rest
    | .short ('h' :: _) => .error (.help topic)
    | _ => .error .mistake

/-- Read the arguments after a command that has no options. -/
def readNoOptions (topic : Topic) (arguments : List String) : Except Stop Unit :=
  readOptions topic (fun _ _ _ => none) arguments.length () arguments

def helpOn : List String → Stop
  | [] => .help .program
  | [name] => ((Topic.ofCommand? name).map Stop.help).getD .mistake
  | _ => .mistake

def readCommand (arguments : List String) : Topic → Except Stop Command
  | .routes => (fun _ => .routes) <$> readNoOptions .routes arguments
  | .forwarding => (fun _ => .forwarding) <$> readNoOptions .forwarding arguments
  | .statistics => (fun _ => .statistics) <$> readNoOptions .statistics arguments
  | .trace => do
    let options ← readOptions .trace TraceOptions.set? arguments.length {} arguments
    pure (.trace (← orMistake options.flow?))
  | .help | .program => .error (helpOn arguments)

/-- What has been said before the command. -/
structure Preamble where
  snapshot : Option String := none
  maxOuter : Option Nat := none
  threads : Option Nat := none

namespace Preamble

def set? (p : Preamble) (name value : String) : Option Preamble :=
  match name with
  | "max-iterations" => do pure { p with maxOuter := ← fill? p.maxOuter (count? value) }
  | "threads" => do pure { p with threads := ← fill? p.threads (count? value) }
  | _ => none

def setSnapshot? (p : Preamble) (name : String) : Option Preamble := do
  pure { p with snapshot := ← fill? p.snapshot (if name.isEmpty then none else some name) }

def request? (p : Preamble) (command : Command) : Option Request := do
  pure {
    snapshot := ← p.snapshot
    maxOuter := p.maxOuter.getD 100
    threads := p.threads
    command := command }

end Preamble

def readFlags : List Char → Except Stop Unit
  | [] => .ok ()
  | 'v' :: rest => readFlags rest
  | 'h' :: _ => .error (.help .program)
  | 'V' :: _ => .error .version
  | _ => .error .mistake

example : readFlags ['v', 'V', 'x'] = .error .version := rfl

/-- Read arguments up to the command and those of the command. Every step uses up an argument. -/
def readFrom : Nat → Preamble → List String → Except Stop Request
  | 0, _, _ | _, _, [] => .error .mistake
  | steps + 1, p, argument :: rest =>
    match shape argument with
    | .plain text =>
      match Topic.ofCommand? text with
      | some topic => do
        let command ← readCommand rest topic
        orMistake (p.request? command)
      | none => do readFrom steps (← orMistake (p.setSnapshot? text)) rest
    | .long "verbose" none => readFrom steps p rest
    | .long "help" none => .error (.help .program)
    | .long "version" none => .error .version
    | .long name attached => do
      let (value, rest) ← orMistake (takeValue? attached rest)
      readFrom steps (← orMistake (p.set? name value)) rest
    | .short letters => do
      readFlags letters
      readFrom steps p rest
    | .escape => .error .mistake

/-- The request that the arguments make, or why they make none. -/
def read (arguments : List String) : Except Stop Request :=
  readFrom arguments.length {} arguments

end RoutePlane.CommandLine
