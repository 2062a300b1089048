import GatewayEvents.Settings
import GatewayEvents.SystemError

/-! The environment of a process: names with values, both of them bytes without a zero among
them. Assignments are made in the order given, and the first that the system refuses stops
the rest. -/
namespace GatewayEvents.Environment

structure Assignment where
  name : String
  value : List UInt8
  deriving DecidableEq, Repr

inductive Fault where
  | zeroByte
  | invalidName
  deriving DecidableEq, Repr

/-- The number by which the system refuses a name. -/
def invalidArgument : Nat := 22

def Fault.message : Fault → String
  | .zeroByte => "file name contained an unexpected NUL byte"
  | .invalidName =>
    SystemError.text invalidArgument ++ " (os error " ++ toString invalidArgument ++ ")"

/-- A name is not empty and does not hold the sign that ends it in the environment. -/
def Assignment.fault? (a : Assignment) : Option Fault :=
  if a.name.toList.contains '\x00' || a.value.contains 0 then some .zeroByte
  else if a.name.isEmpty || a.name.toList.contains '=' then some .invalidName
  else none

structure Refusal where
  assignment : Assignment
  fault : Fault
  deriving DecidableEq, Repr

def Refusal.message (r : Refusal) : String :=
  "failed to set environment variable `" ++ Text.quoted r.assignment.name ++ "` to `"
    ++ Text.quotedBytes r.assignment.value ++ "`: " ++ r.fault.message

/-- The environment after the assignments, as a way to look up variables. -/
def ofAssignments : List Assignment → Except Refusal (String → Settings.Variable)
  | [] => .ok fun _ => .unset
  | a :: rest =>
    match a.fault? with
    | some fault => .error ⟨a, fault⟩
    | none => (ofAssignments rest).map fun later name =>
      match later name with
      | .unset => if name = a.name then .ofBytes a.value else .unset
      | found => found

end GatewayEvents.Environment
