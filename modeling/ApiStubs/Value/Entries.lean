import ApiStubs.Progress
import ApiStubs.Value.Access

/-!
# Values read as entries

A value can be written over a table when it is a record, or a list whose members are pairs of a key
and a value.
-/

namespace ApiStubs.Value

/-- A pair of a key and a value. -/
def asPair (value : Value) : Outcome (String × Value) :=
  match value.items with
  | .ok [key, content] => key.asText.map fun name => (name, content)
  | .ok _ => .error .unusableValue
  | .error fault => .error fault

/-- The entries a value holds, up to the first unusable one. -/
def entries : Value → Progress (String × Value)
  | .record fields => .complete fields
  | value =>
      .ofOutcome value.items fun member =>
        match member.asPair with
        | .ok entry => .complete [entry]
        | .error fault => .failed fault

/-- The table a value holds. -/
def toTable (value : Value) : Outcome (Table Value) :=
  value.entries.toOutcome.map (Table.update [])

end ApiStubs.Value
