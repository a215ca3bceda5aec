import RuntimeMux.Text.Split

/-!
# Protocol revisions

The runtime interface exists in three revisions, told apart by the package that qualifies their
services. Two of them share one message schema. A method is called by a path made of package,
service and method, and `splitPath?` undoes `Revision.methodPath`.
-/

namespace RuntimeMux

/-- The layout of messages, which several revisions may share. -/
inductive Schema where
  /-- Host namespaces are flags, and there are no runtime handlers. -/
  | legacy
  /-- The layout of the later revisions. -/
  | current
  deriving DecidableEq, Repr

/-- A revision of the protocol, from the oldest to the newest. -/
inductive Revision where
  | v1alpha1
  | v1alpha2
  | v1
  deriving DecidableEq, Repr

/-- How a request of one revision reaches a runtime that speaks another. -/
inductive Conversion where
  /-- As it is. -/
  | native
  /-- Converted to the current schema, and its response back. -/
  | upgrade
  /-- Not at all. -/
  | incompatible
  deriving DecidableEq, Repr

namespace Revision

/-- Every revision. -/
def all : List Revision := [.v1alpha1, .v1alpha2, .v1]

/-- The order in which a runtime is asked which revisions it speaks: the newest first. -/
def probeOrder : List Revision := [.v1, .v1alpha2, .v1alpha1]

/-- The name of a revision in messages. -/
def name : Revision → String
  | .v1alpha1 => "v1alpha1"
  | .v1alpha2 => "v1alpha2"
  | .v1 => "v1"

/-- The package that qualifies the services of a revision. -/
def package : Revision → String
  | .v1alpha1 => "runtime"
  | .v1alpha2 => "runtime.v1alpha2"
  | .v1 => "runtime.v1"

/-- The schema of a revision's messages. -/
def schema : Revision → Schema
  | .v1alpha1 => .legacy
  | .v1alpha2 | .v1 => .current

/-- The revision of a package. -/
def ofPackage? (package : String) : Option Revision :=
  all.find? fun r => r.package == package

/-- The revision of a name. -/
def ofName? (name : String) : Option Revision :=
  all.find? fun r => r.name == name

/-- The path of a method: `/{package}.{service}/{method}`. -/
def methodPath (r : Revision) (service method : String) : String :=
  "/" ++ r.package ++ "." ++ service ++ "/" ++ method

/-- How a request of revision `r` reaches a runtime that speaks `backend`. -/
def conversionTo (r backend : Revision) : Conversion :=
  match r.schema, backend.schema with
  | .legacy, .legacy | .current, .current => .native
  | .legacy, .current => .upgrade
  | .current, .legacy => .incompatible

@[simp] theorem ofPackage?_package (r : Revision) : ofPackage? r.package = some r := by
  cases r <;> decide

theorem package_of_ofPackage? {p : String} {r : Revision} (h : ofPackage? p = some r) :
    r.package = p := by
  simpa using List.find?_some h

theorem conversionTo_self (r : Revision) : r.conversionTo r = .native := by
  cases r <;> rfl

end Revision

/-- The revision, service and method that a path names. -/
def splitPath? (path : String) : Option (Revision × String × String) := do
  let (qualified, method) ← (Text.after? "/" path).bind (Text.splitFirst? '/')
  let (package, service) ← Text.splitLast? '.' qualified
  let revision ← Revision.ofPackage? package
  return (revision, service, method)

end RuntimeMux
