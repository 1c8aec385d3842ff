import HeaderBindings.Binding.Item
import HeaderBindings.Renaming
import HeaderBindings.Resolution.Signature

/-!
# The progress of an export

What an export has done so far. An export that fails keeps what it did before the failure,
so the state is carried beside the outcome and not inside it.
-/

namespace HeaderBindings

/-- What an export is given. -/
structure Job where
  header : Header
  names : Renaming
  deriving Repr

/-- What an export has done. -/
structure Progress where
  /-- The source names of type declarations that were exported, the latest first. -/
  exported : List String := []
  given : GivenNames := {}
  classes : Table DeclId String := {}
  /-- The source names of functions that were bound or begun, the latest first. -/
  bound : List String := []
  /-- The functions, under their names in the library class. -/
  calls : List (String × Binding) := []
  callbacks : List (String × Binding) := []
  items : List Item := []
  log : List Log.Record := []
  deriving Repr

/-- A part of an export: it may fail, and in any case it leaves its progress. -/
abbrev Exporter := ExceptT Failure (StateM Progress)

namespace Exporter

def reportAll (records : List Log.Record) : Exporter Unit :=
  modify fun s => { s with log := s.log ++ records }

def report (level : Log.Level) (message : String) : Exporter Unit :=
  reportAll [⟨level, .declarations, message⟩]

def emit (item : Item) : Exporter Unit :=
  modify fun s => { s with items := s.items ++ [item] }

/-- Gives a name to the type declarations with a source name. -/
def give (name newName : String) : Exporter Unit :=
  modify fun s => { s with given := s.given.set name newName }

def setClass (id : DeclId) (newName : String) : Exporter Unit :=
  modify fun s => { s with classes := s.classes.set id newName }

def addCall (name : String) (binding : Binding) : Exporter Unit :=
  modify fun s => { s with calls := s.calls ++ [(name, binding)] }

def addCallback (name : String) (binding : Binding) : Exporter Unit :=
  modify fun s => { s with callbacks := s.callbacks ++ [(name, binding)] }

/-- Marks a source name as exported, and tells whether it was not before. -/
def exportOnce (name : String) : Exporter Bool := do
  let s ← get
  if s.exported.contains name then return false
  else
    set { s with exported := name :: s.exported }
    return true

/-- Marks a function as bound, and tells whether it was not before. -/
def bindOnce (name : String) : Exporter Bool := do
  let s ← get
  if s.bound.contains name then return false
  else
    set { s with bound := name :: s.bound }
    return true

def asText (what name newName : String) : String :=
  what ++ ": `" ++ name ++ "` as `" ++ newName ++ "`"

end Exporter

end HeaderBindings
