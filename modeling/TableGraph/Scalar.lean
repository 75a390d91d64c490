import TableGraph.Text.Blank
import TableGraph.Text.Case

/-!
GraphQL scalars for the types of SQL columns. Only the base name of a type counts: its spelling in upper
case, without a length or precision in parentheses and without blanks around it. A type that nothing is
known about is a `String`.
-/

namespace TableGraph

def baseName (sqlType : String) : String :=
  String.ofList (Text.trim ((Text.upper sqlType.toList).takeWhile (· != '(')))

namespace Scalar

def serviceNames : List String :=
  ["AWSDate", "AWSTime", "AWSDateTime", "AWSTimestamp", "AWSJSON"]

def known : List (String × String) := [
  ("BOOL", "Boolean"), ("JSON", "AWSJSON"), ("TIME", "AWSTime"), ("DATE", "AWSDate"),
  ("DATETIME", "AWSDateTime"), ("TIMESTAMP", "AWSTimestamp"),
  ("INTEGER", "Int"), ("INT", "Int"), ("SMALLINT", "Int"), ("TINYINT", "Int"), ("MEDIUMINT", "Int"),
  ("BIGINT", "Int"), ("BIT", "Int"),
  ("FLOAT", "Float"), ("DOUBLE", "Float"), ("REAL", "Float"), ("REAL_AS_FLOAT", "Float"),
  ("DOUBLE PRECISION", "Float"), ("DEC", "Float"), ("DECIMAL", "Float"), ("FIXED", "Float"),
  ("NUMERIC", "Float")]

end Scalar

/-- Scalars by type name that go before the known ones; of entries with one name the last one counts. -/
abbrev Overrides := List (String × String)

namespace Overrides

def scalar? (overrides : Overrides) (name : String) : Option String :=
  (overrides.reverse.find? (·.1 == name)).map (·.2)

def byBaseName (overrides : Overrides) : Overrides :=
  overrides.map fun (name, scalar) => (baseName name, scalar)

end Overrides

def Scalar.ofSqlType (overrides : Overrides) (sqlType : String) : String :=
  let base := baseName sqlType
  match overrides.scalar? base with
  | some scalar => scalar
  | none => (Scalar.known.lookup base).getD "String"

end TableGraph
