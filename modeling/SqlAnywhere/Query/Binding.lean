import SqlAnywhere.Query.Error
import SqlAnywhere.Sql.Segment

/-!
# Binding parameters

The catalog queries name their parameters, and a connection takes them by
position.  Binding writes a question mark for every placeholder and lists the
values of the placeholders in the order of the text; all other segments of the
statement are copied.
-/

namespace SqlAnywhere

/--
A parameter of a query: its name, with or without a colon before it, and its
value.
-/
abbrev Parameter := Text × Text

/-- A statement whose parameters are positions, with their values in order. -/
structure BoundStatement where
  text : Text
  values : List Text
deriving DecidableEq

namespace Parameter

/-- The name of a parameter without the colons before it. -/
def name (parameter : Parameter) : Text :=
  parameter.1.dropWhile (· = ':')

/-- The value of the first parameter with a name. -/
def value? (parameters : List Parameter) (wanted : Text) : Option Text :=
  (parameters.find? (·.name = wanted)).map Prod.snd

end Parameter

namespace BoundStatement

/--
Segments with a value for each placeholder; the first one that has none is
reported.
-/
def ofSegments (parameters : List Parameter) :
    List Segment → Except QueryError BoundStatement
  | [] => .ok ⟨[], []⟩
  | segment :: segments =>
      match segment.parameter? with
      | none => do
          let bound ← ofSegments parameters segments
          return ⟨segment.text ++ bound.text, bound.values⟩
      | some wanted =>
          match Parameter.value? parameters wanted with
          | none => .error (.unboundParameter wanted)
          | some value => do
              let bound ← ofSegments parameters segments
              return ⟨'?' :: bound.text, value :: bound.values⟩

/-- A statement with a value for each of its placeholders. -/
def bind (statement : Text) (parameters : List Parameter) :
    Except QueryError BoundStatement :=
  ofSegments parameters (Segment.scan statement)

end BoundStatement

end SqlAnywhere
