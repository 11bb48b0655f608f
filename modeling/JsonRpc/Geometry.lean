import JsonRpc.Conversion
import JsonRpc.Session.Basic
/-!
# A service for geometry

An interface of a plane with integer points, and its proxy.  Each invocation
converts its arguments, is invoked under its signature, and reads the result
as the type that the method promises.  Methods that promise nothing are
notifications.
-/

namespace JsonRpc.Geometry

structure Point where
  x : Int
  y : Int
  deriving DecidableEq, Repr

namespace Point

open Json in
def record : Record Point where
  name := "Point"
  blank := ⟨0, 0⟩
  fields := [
    .of "x" true (.integer "i64" fun n => FitsSigned n) fun x p => { p with x },
    .of "y" true (.integer "i64" fun n => FitsSigned n) fun y p => { p with y }]

def reading : Reading Point := record.ofTree

def datum (p : Point) : Datum := .map [(.text "x", .int p.x), (.text "y", .int p.y)]

end Point

inductive Invocation where
  | add (a b : Int)
  | translate (point : Point) (dx dy : Int)
  | log (line : String)
  | reset
  | scale (points : List Point) (factor : Float)
  | find (name : Option String)
  | byte (b : Int)
  | allTags
  | tagsOf (start : String)

inductive Result where
  | integer (n : Int)
  | point (p : Point)
  | points (ps : List Point)
  | maybePoint (p : Option Point)
  | tags (entries : List (String × Int))
  | nothing

namespace Result

def datum : Result → Datum
  | integer n => .int n
  | point p => p.datum
  | points ps => .list (ps.map Point.datum)
  | maybePoint none => .unit
  | maybePoint (some p) => p.datum
  | tags entries => .map (entries.map fun (k, n) => (.text k, .int n))
  | nothing => .unit

end Result

namespace Invocation

def signature : Invocation → Signature
  | add .. => ⟨"add", 2, .value⟩
  | translate .. => ⟨"translate", 3, .value⟩
  | log _ => ⟨"system.log", 1, .unit⟩
  | reset => ⟨"reset", 0, .unit⟩
  | scale .. => ⟨"scale", 2, .value⟩
  | find _ => ⟨"find", 1, .value⟩
  | byte _ => ⟨"byte", 1, .value⟩
  | allTags => ⟨"tags", 0, .value⟩
  | tagsOf _ => ⟨"tags", 1, .value⟩

def arguments : Invocation → List Datum
  | add a b => [.int a, .int b]
  | translate point dx dy => [point.datum, .int dx, .int dy]
  | log line => [.text line]
  | reset => []
  | scale points factor => [.list (points.map Point.datum), .float factor]
  | find none => [.unit]
  | find (some name) => [.text name]
  | byte b => [.int b]
  | allTags => []
  | tagsOf start => [.text start]

def operation (i : Invocation) : Except RpcError Operation := do
  return .invoke i.signature (← i.arguments.mapM Datum.toParam)

/-- The type as which the result of a method is read. -/
def reading : Invocation → Reading Result
  | add .. => fun v => (Reading.signed v).map .integer
  | translate .. => fun v => (Point.reading v).map .point
  | scale .. => fun v => (Reading.list Point.reading v).map .points
  | find _ => fun v => (Reading.optional Point.reading v).map .maybePoint
  | byte _ => fun v => (Reading.octet v).map .integer
  | allTags | tagsOf _ => fun v => (Reading.map Reading.signed v).map .tags
  | log _ | reset => fun _ => .ok .nothing

def result (i : Invocation) : Outcome → Except RpcError Result
  | .value v => Reading.ofResult i.reading (some v)
  | _ => Reading.ofResult i.reading none

end Invocation

def interface : Interface where
  name := "Geometry"
  methods := [
    ⟨"add", 2, .value⟩, ⟨"translate", 3, .value⟩, ⟨"system.log", 1, .unit⟩, ⟨"reset", 0, .unit⟩,
    ⟨"scale", 2, .value⟩, ⟨"find", 1, .value⟩, ⟨"byte", 1, .value⟩, ⟨"tags", 0, .value⟩,
    ⟨"tags", 1, .value⟩]

end JsonRpc.Geometry
