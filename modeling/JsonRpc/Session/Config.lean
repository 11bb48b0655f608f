/-!
# Configuration of a session

Three things can be set: how long a call waits for its reply, whether
connecting to a service asks for its description, and whether requests carry
the version of the protocol.  Settings are applied one after the other, and
each touches one field only.

Times are exact to the nanosecond.  A clock that counts milliseconds is late for
a time between two of its ticks, never early.
-/

namespace JsonRpc

structure Duration where
  nanos : Nat
  deriving DecidableEq, Repr

namespace Duration

def milliseconds (ms : Nat) : Duration := ⟨ms * 1000000⟩

/-- The milliseconds of a time, without what is left of the last one. -/
def wholeMilliseconds (d : Duration) : Nat := d.nanos / 1000000

/-- The first tick of a clock that counts milliseconds at which a time has passed. -/
def ticks (d : Duration) : Nat := (d.nanos + 999999) / 1000000

/-- Where a time is wanted, a number counts milliseconds. -/
instance : Coe Nat Duration := ⟨milliseconds⟩

/-- Where an integer is wanted, a time is its milliseconds. -/
instance : Coe Duration Int := ⟨fun d => d.wholeMilliseconds⟩

/-- A time in a unit of so many nanoseconds, which are a power of ten. -/
def inUnit (d : Duration) (nanos : Nat) (unit : String) : String :=
  let digits := (nanos + d.nanos % nanos |> Nat.toDigits 10).drop 1
  let kept := (digits.reverse.dropWhile (· = '0')).reverse
  let fraction := if kept.isEmpty then "" else "." ++ String.ofList kept
  toString (d.nanos / nanos) ++ fraction ++ unit

/-- A time in the largest unit in which it is one or more. -/
def text (d : Duration) : String :=
  if 1000000000 ≤ d.nanos then d.inUnit 1000000000 "s"
  else if 1000000 ≤ d.nanos then d.inUnit 1000000 "ms"
  else if 1000 ≤ d.nanos then d.inUnit 1000 "µs"
  else d.inUnit 1 "ns"

end Duration

/-- How a session behaves.  Without a timeout a call waits for ever. -/
structure Session.Config where
  timeout : Option Duration := none
  describeOnConnect : Bool := true
  versionTagging : Bool := true
  deriving DecidableEq, Repr

namespace Session

inductive Setting where
  | timeout (d : Duration)
  | withoutTimeout
  | describeOnConnect (on : Bool)
  | versionTagging (on : Bool)
  deriving DecidableEq, Repr

namespace Config

def set (config : Config) : Setting → Config
  | .timeout d => { config with timeout := some d }
  | .withoutTimeout => { config with timeout := none }
  | .describeOnConnect on => { config with describeOnConnect := on }
  | .versionTagging on => { config with versionTagging := on }

def setAll (config : Config) (settings : List Setting) : Config :=
  settings.foldl set config

/-- The ticks after which a clock ends the wait for a reply. -/
def limit? (config : Config) : Option Nat := config.timeout.map Duration.ticks

def flagText (b : Bool) : String := if b then "true" else "false"

def logText (config : Config) : String :=
  let timeout := match config.timeout with
    | none => "None"
    | some d => "Some(" ++ d.text ++ ")"
  "SessionConfig \x7b timeout: " ++ timeout ++
    ", describe_on_connect: " ++ flagText config.describeOnConnect ++
    ", version_tagging: " ++ flagText config.versionTagging ++ " \x7d"

end Config

end Session

end JsonRpc
