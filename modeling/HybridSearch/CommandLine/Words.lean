/-!
# The words of a command line

Switches begin with two hyphens and may take a value, in the next word or after an equals sign; a
value in a word of its own does not begin with a hyphen. All other words are operands, and so is
every word after a lone pair of hyphens.

## Main definitions

* `Switch`, `Grammar` — what a command understands.
* `Given` — what a command line gives.
* `Grammar.read` — reads words, up to a command if one follows.
-/

namespace HybridSearch.CommandLine

/-- Why a command line is not run. -/
inductive Stop where
  | version
  | help
  | usage
  deriving DecidableEq, Repr

inductive Takes where
  | nothing
  | one
  | several
  deriving DecidableEq, Repr

structure Switch where
  name : String
  takes : Takes
  accepts : String → Bool

structure Grammar where
  switches : List Switch
  /-- The number of operands, if it is bounded. -/
  operands : Option Nat
  /-- Whether an operand is accepted at all. -/
  accepts : String → Bool
  /-- Whether the first operand is a command, which reads the words after it. -/
  hasCommands : Bool

structure Given where
  switches : List (String × String)
  operands : List String
  deriving Repr

namespace Given

def nothing : Given := ⟨[], []⟩

def values (given : Given) (name : String) : List String :=
  (given.switches.filter fun entry => entry.1 == name).map Prod.snd

def value? (given : Given) (name : String) : Option String := (given.values name).head?

def has (given : Given) (name : String) : Bool := (given.value? name).isSome

end Given

/-- A word that begins with a hyphen and is more than that. -/
def isHyphenated (word : String) : Bool := word.startsWith "-" && word != "-"

/-- The name of a switch, and its value after an equals sign. -/
def splitSwitch (word : List Char) : String × Option String :=
  match word.span (· != '=') with
  | (name, _ :: value) => (String.ofList name, some (String.ofList value))
  | (name, []) => (String.ofList name, none)

namespace Grammar

variable (grammar : Grammar)

def find? (name : String) : Option Switch := grammar.switches.find? fun s => s.name == name

/-- Switches that take one value or none are given once. -/
def record (given : Given) (switch : Switch) (value : String) : Except Stop Given :=
  if (switch.takes != .several && given.has switch.name) || !switch.accepts value then .error .usage
  else .ok { given with switches := given.switches ++ [(switch.name, value)] }

def addOperand (given : Given) (word : String) : Except Stop Given :=
  if grammar.operands.any (· ≤ given.operands.length) || !grammar.accepts word then .error .usage
  else .ok { given with operands := given.operands ++ [word] }

/-- Words that are operands whatever they look like. Before a command there are none. -/
def addOperands (given : Given) (words : List String) : Except Stop Given :=
  if grammar.hasCommands && !words.isEmpty then .error .usage
  else words.foldlM grammar.addOperand given

/-- Switches that stop the command line. -/
def stop? (name : String) : Option Stop :=
  if name = "help" then some .help
  else if name = "version" && grammar.hasCommands then some .version
  else none

/-- A switch of one hyphen and letters, the first of which decides. -/
def shortStop (word : String) : Stop :=
  match word.toList with
  | _ :: 'h' :: _ => .help
  | _ :: 'V' :: _ => if grammar.hasCommands then .version else .usage
  | _ => .usage

/-- What is left of a command line after its switches and operands, from a command on. -/
def read (given : Given) : List String → Except Stop (Given × List String)
  | [] => .ok (given, [])
  | word :: rest =>
    if word = "--" then (grammar.addOperands given rest).map fun given => (given, [])
    else
      match word.toList with
      | '-' :: '-' :: name =>
        let (name, attached) := splitSwitch name
        match grammar.stop? name, attached with
        | some stop, none => .error stop
        | some _, some _ => .error .usage
        | none, _ =>
          match grammar.find? name with
          | none => .error .usage
          | some switch =>
            match switch.takes, attached, rest with
            | .nothing, some _, _ => .error .usage
            | .nothing, none, rest =>
              match record given switch "" with
              | .ok given => read given rest
              | .error stop => .error stop
            | _, some value, rest =>
              match record given switch value with
              | .ok given => read given rest
              | .error stop => .error stop
            | _, none, [] => .error .usage
            | _, none, value :: rest =>
              if isHyphenated value then .error .usage
              else
                match record given switch value with
                | .ok given => read given rest
                | .error stop => .error stop
      | _ =>
        if isHyphenated word then .error (grammar.shortStop word)
        else if grammar.hasCommands then .ok (given, word :: rest)
        else
          match grammar.addOperand given word with
          | .ok given => read given rest
          | .error stop => .error stop

end Grammar

end HybridSearch.CommandLine
