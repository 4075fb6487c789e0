import HybridSearch.Text.Lowercase
import HybridSearch.Text.Split

/-!
# Error lines of a server

A server answers a refused command with a line of a code word and a rest. Code words that belong to
the protocol have a name of their own in messages; any other word is shown as it stands.

## Main definitions

* `ErrorLine`, `ErrorLine.ofText`.
* `ErrorLine.message` — the line as a message shows it.
* `ErrorLine.mentions` — whether the line speaks of something, in any letter case.
-/

namespace HybridSearch

structure ErrorLine where
  code : String
  rest : Option String
  deriving DecidableEq, Repr

namespace ErrorLine

/-- The code word ends at the first space. -/
def ofText (line : String) : ErrorLine :=
  match Text.cut ' ' line with
  | some (code, rest) => ⟨code, some rest⟩
  | none => ⟨line, none⟩

/-- The names of the code words of the protocol. -/
def kinds : List (String × String) :=
  [("ERR", "ResponseError"), ("EXECABORT", "ExecAbortError"), ("LOADING", "BusyLoadingError"),
   ("NOSCRIPT", "NoScriptError"), ("MOVED", "Moved"), ("ASK", "Ask"), ("TRYAGAIN", "TryAgain"),
   ("CLUSTERDOWN", "ClusterDown"), ("CROSSSLOT", "CrossSlot"), ("MASTERDOWN", "MasterDown"),
   ("READONLY", "ReadOnly"), ("NOTBUSY", "NotBusy"), ("NOSUB", "NoSub")]

def kind? (line : ErrorLine) : Option String := kinds.lookup line.code

def message (line : ErrorLine) : String :=
  match line.kind?, line.rest with
  | some kind, some rest => "An error was signalled by the server - " ++ kind ++ ": " ++ rest
  | some kind, none => "An error was signalled by the server- " ++ kind
  | none, rest => line.code ++ ": " ++ rest.getD "Unknown extension error encountered"

/-- The line does not keep its code word if that only reports a missing subscription. -/
def code? (line : ErrorLine) : Option String := if line.code = "NOSUB" then none else some line.code

/-- All that is known of the line, in lowercase. -/
def lowered (line : ErrorLine) : String :=
  match line.code?, line.rest with
  | some code, some rest => Text.lowercase (code ++ " " ++ rest ++ " " ++ line.message)
  | _, _ => Text.lowercase line.message

/-- Whether the words stand somewhere in the line; they must be in lowercase. -/
def mentions (line : ErrorLine) (words : String) : Bool := Text.contains words line.lowered

end ErrorLine

end HybridSearch
