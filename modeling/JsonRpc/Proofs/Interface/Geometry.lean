import JsonRpc.Geometry
import JsonRpc.Interface.Invocation

/-!
# The proxy of the service for geometry

The invocations of the service for geometry are what the stubs of a proxy do.
Here the interface is declared as a trait, and each invocation is found again
as a call of the stub that the trait's expansion has for it, with the same
operation and the same reading of what comes back.
-/

namespace JsonRpc.Geometry

open Declaration (Argument Attribute Item Method Token Trait)

def argument (name type : String) : Argument := .typed [.word name] [.word type]

def applied (type : String) (parameters : List Token) : List Token :=
  [.word type, .sign "<"] ++ parameters ++ [.sign ">"]

def named (name : String) : Attribute :=
  ⟨[.word "rpc"], .enclosed [.word "name", .sign "=", .literal (Text.quoted name) (some name)]⟩

def tagsType : List Token := applied "BTreeMap" [.word "String", .sign ",", .word "i64"]

def method (name : String) (arguments : List Argument) (returns : Option (List Token))
    (attributes : List Attribute) : Item :=
  .method ⟨name, [], .receiver :: arguments, returns, attributes⟩

def declaration : Trait where
  name := "Geometry"
  isPublic := true
  generics := []
  items := [
    method "add" [argument "a" "i64", argument "b" "i64"] (some [.word "i64"]) [],
    method "translate" [argument "point" "Point", argument "dx" "i64", argument "dy" "i64"]
      (some [.word "Point"]) [],
    method "log" [argument "line" "String"] none [named "system.log"],
    method "reset" [] none [],
    method "scale" [.typed [.word "points"] (applied "Vec" [.word "Point"]),
      argument "factor" "f64"] (some (applied "Vec" [.word "Point"])) [],
    method "find" [.typed [.word "name"] (applied "Option" [.word "String"])]
      (some (applied "Option" [.word "Point"])) [],
    method "byte" [argument "b" "u8"] (some [.word "u8"]) [],
    method "all_tags" [] (some tagsType) [named "tags"],
    method "tags_of" [argument "prefix" "String"] (some tagsType) [named "tags"]]

def Invocation.place : Invocation → Nat
  | add .. => 0
  | translate .. => 1
  | log _ => 2
  | reset => 3
  | scale .. => 4
  | find _ => 5
  | byte _ => 6
  | allTags => 7
  | tagsOf _ => 8

theorem Invocation.result_eq (i : Invocation) (outcome : Outcome) :
    i.result outcome = Reading.ofResult i.reading outcome.value? := by
  cases outcome <;> rfl

/-- Each invocation is a call of the stub for its method. -/
theorem stub_of_invocation :
    ∃ p, declaration.expand = .ok p ∧ p.interface = interface ∧ ∀ i : Invocation, ∃ stub,
      p.stubs[i.place]? = some stub ∧ p.operation? stub i.arguments = some i.operation ∧
      ∀ outcome, (stub.returned i.reading outcome).map (·.getD .nothing) = i.result outcome := by
  refine ⟨_, rfl, rfl, fun i => ?_⟩
  have hread : ∀ outcome,
      ((Reading.ofResult i.reading outcome.value?).map some).map (·.getD .nothing) =
        i.result outcome := by
    intro outcome
    rw [i.result_eq]
    cases Reading.ofResult i.reading outcome.value? <;> rfl
  cases i with
  | find name => exact ⟨_, rfl, by cases name <;> rfl, hread⟩
  | log line => exact ⟨_, rfl, rfl, fun outcome => by cases outcome <;> rfl⟩
  | reset => exact ⟨_, rfl, rfl, fun outcome => by cases outcome <;> rfl⟩
  | _ => exact ⟨_, rfl, rfl, hread⟩

end JsonRpc.Geometry
