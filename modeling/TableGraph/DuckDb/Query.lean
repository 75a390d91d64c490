import TableGraph.Fault.Failure

/-!
The questions that are put to a DuckDB database about its tables, their SQL text, and the rows that come
back.
-/

namespace TableGraph.DuckDb

abbrev Cell := Json

namespace Cell

/-- What a flag means: everything but nothing, no, zero, an empty text and an empty list is yes. -/
def isSet : Cell → Bool
  | .null => false
  | .bool value => value
  | .int value => value != 0
  | .decimal (.finite _ 0 _) => false
  | .decimal _ => true
  | .text value => !value.isEmpty
  | .list items => !items.isEmpty
  | .record members => !members.isEmpty

def textIn? : Cell → Option String
  | .text value => some value
  | _ => none

def className : Cell → String
  | .null => "NoneType"
  | .bool _ => "bool"
  | .int _ => "int"
  | .decimal _ => "float"
  | .text _ => "str"
  | .list _ => "list"
  | .record _ => "dict"

end Cell

abbrev Row := List Cell

inductive Query where
  | currentDatabase
  | use (database : String)
  | tableNames (schema : String)
  | columns (table : String)
  | foreignKeys (table schema : String)
  | referencing (schema table : String)
  deriving DecidableEq, Repr

/-- A text with every occurrence of a quote written twice, in quotes. -/
def enclose (quote : Char) (s : String) : String :=
  String.ofList
    (quote :: s.toList.flatMap (fun c => if c == quote then [c, c] else [c]) ++ [quote])

namespace Query

def sql : Query → String
  | .currentDatabase => "SELECT current_database()"
  | .use database => "USE " ++ enclose '"' database
  | .tableNames _ =>
    "SELECT table_name FROM information_schema.tables WHERE table_catalog = current_database() " ++
      "AND table_schema = ? AND table_type = 'BASE TABLE' ORDER BY table_name"
  | .columns table => "PRAGMA table_info(" ++ enclose '\x27' table ++ ")"
  | .foreignKeys _ _ =>
    "SELECT constraint_column_names FROM duckdb_constraints() " ++
      "WHERE database_name = current_database() AND table_name = ? AND schema_name = ? " ++
      "AND constraint_type = 'FOREIGN KEY'"
  | .referencing _ _ =>
    "SELECT DISTINCT table_name FROM duckdb_constraints() " ++
      "WHERE database_name = current_database() AND constraint_type = 'FOREIGN KEY' " ++
      "AND schema_name = ? AND referenced_table = ? ORDER BY table_name"

def params? : Query → Option (List String)
  | .currentDatabase | .use _ | .columns _ => none
  | .tableNames schema => some [schema]
  | .foreignKeys table schema => some [table, schema]
  | .referencing schema table => some [schema, table]

def asksForRows : Query → Bool
  | .use _ => false
  | _ => true

end Query

structure Connection (κ : Type) where
  execute : Query → κ → Except Failure (List Row) × κ

inductive Malformed where
  | noRow
  | noCell
  | tooManyCells (expected : Nat)
  | tooFewCells (expected found : Nat)
  | noTable (name : String)
  | lacks (className method : String)
  | noText (className : String)
  | noNames (className : String)
  | unhashable (className : String)
  deriving DecidableEq, Repr

def Malformed.failure : Malformed → Failure
  | .noRow => .other "IndexError" "list index out of range"
  | .noCell => .other "IndexError" "tuple index out of range"
  | .tooManyCells expected =>
    .other "ValueError" ("too many values to unpack (expected " ++ toString expected ++ ")")
  | .tooFewCells expected found =>
    .other "ValueError"
      ("not enough values to unpack (expected " ++ toString expected ++ ", got " ++
        toString found ++ ")")
  | .noTable name => .other "LookupError" ("Table '" ++ name ++ "' does not exist")
  | .lacks className method =>
    .other "AttributeError" ("'" ++ className ++ "' object has no attribute '" ++ method ++ "'")
  | .noText className =>
    .other "TypeError" ("expected string or bytes-like object, got '" ++ className ++ "'")
  | .noNames className => .other "TypeError" ("'" ++ className ++ "' object is not iterable")
  | .unhashable className => .other "TypeError" ("unhashable type: '" ++ className ++ "'")

end TableGraph.DuckDb
