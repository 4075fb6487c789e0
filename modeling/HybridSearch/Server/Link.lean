import HybridSearch.Attempt
import HybridSearch.Decimal.Reader
import HybridSearch.Error
import HybridSearch.Server.Command
import HybridSearch.Server.Reply

/-!
# Links to a server

A link takes commands and gives a reply to each, until it breaks.

## Main definitions

* `Link` — sending a command.
* `Script` — a link whose replies are given beforehand.
* `Reply.value`, `Reply.texts`, `Reply.bytesOrNil`, `Reply.integer`, `Reply.cursorAndKeys` — what a
  command expects of its reply.
-/

namespace HybridSearch

class Link (κ : Type) where
  send : Command → Attempt SearchError κ Reply
  /-- A number of replies that the link does not exceed before it fails or refuses. -/
  replyBound : κ → Nat

/-- What a scripted server does with a command. -/
inductive ScriptEvent where
  | reply (reply : Reply)
  | close

structure Script where
  events : List ScriptEvent
  closed : Bool
  /-- The commands that were sent, the last first. -/
  sent : List Command

namespace Script

def ofEvents (events : List ScriptEvent) : Script := ⟨events, false, []⟩

def connectionLost : SearchError := .storeUnavailable "connection closed"

/-- The reply after the last scripted one. -/
def ended : Reply := .error (.ofText "ERR script is over")

def send (command : Command) : Attempt SearchError Script Reply :=
  ExceptT.mk fun script =>
    if script.closed then (.error connectionLost, script)
    else
      let script := { script with sent := command :: script.sent }
      match script.events with
      | [] => (.ok ended, script)
      | .reply reply :: events => (.ok reply, { script with events := events })
      | .close :: events =>
        (.error connectionLost, { script with events := events, closed := true })

instance : Link Script where
  send := send
  replyBound script := script.events.length + 1

end Script

namespace Reply

def mismatch {α : Type} (wanted : String) : Except SearchError α :=
  .error (.unexpectedReply ("response was of incompatible type, wanted " ++ wanted))

/-- A reply that is no error. -/
def value : Reply → Except SearchError Reply
  | error line => .error (.ofErrorLine line)
  | reply => .ok reply

/-- The items of an array or a set, none of which may be an error. -/
def items? : Reply → Except SearchError (Option (List Reply))
  | array items => (items.mapM value).map some
  | set items => (items.mapM value).map some
  | error line => .error (.ofErrorLine line)
  | _ => .ok none

/-- A single value as text. -/
def word : Reply → Except SearchError String
  | bulk bytes =>
    match Text.decode? bytes with
    | some text => .ok text
    | none => mismatch "text"
  | simple text => .ok text
  | okay => .ok "OK"
  | int value => .ok (toString value)
  | double value => .ok (Layout.plain.render value)
  | verbatim text => .ok text
  | _ => mismatch "text"

def texts (reply : Reply) : Except SearchError (List String) := do
  match ← reply.items? with
  | some items => items.mapM word
  | none =>
    match reply with
    | nil => return []
    | map [] => return []
    | other => return [← other.word]

def bytesOrNil (reply : Reply) : Except SearchError (Option Bytes) := do
  match ← reply.value with
  | nil => return none
  | bulk bytes => return some bytes
  | _ => mismatch "bytes"

/-- The integer that a text of a reply spells. -/
def spelled? : Reply → Option Int
  | bulk bytes => (Text.decode? bytes).bind fun text => Decimal.integer? text.toList
  | simple text => Decimal.integer? text.toList
  | _ => none

/-- A number without its fraction, the nearest of 64 bits. -/
def truncated (x : Float) : Int :=
  if x < 0.0 then max (-0x8000000000000000) (-((-x).toUInt64.toNat : Int))
  else min 0x7FFFFFFFFFFFFFFF (x.toUInt64.toNat : Int)

/-- An integer of 64 bits, or a text that spells one. A number with a fraction loses it. -/
def integer (reply : Reply) : Except SearchError Int := do
  match ← reply.value with
  | int value => return value
  | double value => return truncated value
  | other =>
    match other.spelled? with
    | some value =>
      if -0x8000000000000000 ≤ value ∧ value < 0x8000000000000000 then return value
      else mismatch "an integer"
    | none => mismatch "an integer"

/-- A count of 64 bits; the numbers below zero are read as the upper half. -/
def natural (reply : Reply) : Except SearchError Nat := do
  match ← reply.value with
  | int value => return (value % 0x10000000000000000).toNat
  | double value => return value.toUInt64.toNat
  | other =>
    match other.spelled? with
    | some value =>
      if 0 ≤ value ∧ value < 0x10000000000000000 then return value.toNat else mismatch "a count"
    | none => mismatch "a count"

/-- The next cursor and the keys of a page. -/
def cursorAndKeys (reply : Reply) : Except SearchError (Nat × List String) := do
  match ← reply.value with
  | array [cursor, keys] => return (← cursor.natural, ← keys.texts)
  | array items =>
    let _ ← items.mapM value
    mismatch "a cursor and keys"
  | _ => mismatch "a cursor and keys"

end Reply

end HybridSearch
