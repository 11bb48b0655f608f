import JsonRpc.Session.Basic
/-!
# Opening a session

A session is opened in two ways.  Building it takes its settings and nothing
else.  Connecting it also starts the reports that were asked for, and asks the
service for its description unless that was turned off.

Settings may come in any order and more than once.  A whole configuration
replaces all that was set before it.  The name of the service counts for the
reports wherever it was set.
-/

namespace JsonRpc.Session

structure Builder where
  destination : String
  config : Config := {}
  observability : Option Observability.Config := none
  serviceName : Option String := none

inductive Choice where
  | setting (s : Setting)
  | config (c : Config)
  | serviceName (name : String)
  | observability (c : Observability.Config)
  | defaultObservability

/-- How a program starts its reports.  Where it cannot, the message says why. -/
abbrev Starter := Observability.Config → Except String Unit

/-- Starts reports in an environment, in a program that has a subscriber already or none yet. -/
def Starter.ofEnvironment (subscribed : Bool) (env : Observability.Environment) : Starter :=
  fun c =>
    (discard (Observability.startFrom subscribed env c)).mapError
      Observability.StartFault.message

namespace Builder

/-- Makes one setting; what is not said of reports comes from the environment. -/
def set (env : Observability.Environment) (b : Builder) : Choice → Builder
  | .setting s => { b with config := b.config.set s }
  | .config c => { b with config := c }
  | .serviceName name => { b with serviceName := some name }
  | .observability c => { b with observability := some c }
  | .defaultObservability => { b with observability := some (.ofEnvironment env) }

def setAll (env : Observability.Environment) (b : Builder) (choices : List Choice) : Builder :=
  choices.foldl (set env) b

/-- The session, neither connected nor observed. -/
def build (b : Builder) : Session := .new b.destination b.config none

def observed? (b : Builder) : Option Observability.Config :=
  b.observability.map fun c => match b.serviceName with
    | some name => { c with serviceName := name }
    | none => c

/-- The session about to be connected, and what was reported up to there, in a program that starts
its reports like this. -/
def prepareBy (start : Starter) (b : Builder) : Except RpcError (Session × List Event) := do
  let opening := Event.opening b.destination b.config.describeOnConnect
  match b.observed? with
  | none => return (.new b.destination b.config none, [opening])
  | some c =>
    match start c with
    | .ok _ => return (.new b.destination b.config (some c.serviceName), [.observing c, opening])
    | .error message => throw (.internal ("Failed to initialize observability: " ++ message))

end Builder

end JsonRpc.Session
