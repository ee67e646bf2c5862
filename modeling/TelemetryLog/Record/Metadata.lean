import TelemetryLog.Record.Conversion

/-! Metadata records: what the fields of a table mean. Each field has a list of definitions, of
which the first one counts. -/

namespace TelemetryLog

structure Definitions where
  keys : List String
  entries : List (String × List Value)
  deriving Repr, Inhabited

structure Metadata where
  definitions : Definitions
  deriving Repr, Inhabited

namespace Definitions

/-- The definitions of a field, which may be any values. -/
def listOfValue : Value → Checked (List Value)
  | .array items => .ok items
  | _ => .refuse .notList

def nameOfKey : Scalar → Checked String
  | .text name => .ok name
  | _ => .within .keyItself (.refuse .notText)

/-- A field and its definitions; both are checked, the name first. -/
def entryOfMember : Scalar × Value → Checked (String × List Value)
  | (key, value) => .within (.member key) (.both (nameOfKey key) (listOfValue value))

def entriesOfValue : Value → Checked (List (String × List Value))
  | .object members => .all (members.map entryOfMember)
  | _ => .refuse .notObject

def ofValue (value : Value) : Checked Definitions := do
  let members ← value.toMembers .definitions
  let read := Checked.both (optionalField "key" [] (Value.toList Value.toText) members)
    (requiredField "definitions" entriesOfValue members)
  read.map fun (keys, entries) => ⟨keys, entries⟩

end Definitions

namespace Metadata

def ofValue (value : Value) : Checked Metadata := do
  let members ← value.toMembers .metadata
  (requiredField "fields" Definitions.ofValue members).map Metadata.mk

def keys (metadata : Metadata) : List String := metadata.definitions.keys

/-- The first definition of each field, and null where there is none. -/
def firstDefinitions (metadata : Metadata) : List (String × Value) :=
  metadata.definitions.entries.map fun (name, values) =>
    (name, values.headD (.scalar .null))

end Metadata

end TelemetryLog
