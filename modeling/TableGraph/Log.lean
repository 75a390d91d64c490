/-!
Log lines: what is said, how loud, and which part of the program says it.
-/

namespace TableGraph

inductive LogLevel where
  | debug
  | info
  | warning
  | error
  deriving DecidableEq, Repr

namespace LogLevel

def name : LogLevel → String
  | .debug => "DEBUG"
  | .info => "INFO"
  | .warning => "WARNING"
  | .error => "ERROR"

def rank : LogLevel → Nat
  | .debug => 0
  | .info => 1
  | .warning => 2
  | .error => 3

end LogLevel

inductive LogSource where
  | build
  | tables
  | document
  | introspection
  | resolvers
  | artifacts
  deriving DecidableEq, Repr

def LogSource.name : LogSource → String
  | .build => "relql.core"
  | .tables => "relql.schema.context"
  | .document => "relql.schema.assembler"
  | .introspection => "relql.schema.introspection"
  | .resolvers => "relql.resolvers.generator"
  | .artifacts => "relql.emitter"

structure LogLine where
  level : LogLevel
  source : LogSource
  message : String
  deriving DecidableEq, Repr

abbrev Log := List LogLine

def LogLine.render (line : LogLine) (time : String) : String :=
  time ++ " - " ++ line.source.name ++ " - " ++ line.level.name ++ " - " ++ line.message

end TableGraph
