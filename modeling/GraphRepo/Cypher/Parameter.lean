import GraphRepo.Table
import GraphRepo.Cypher.Token

/-!
# Parameters of a query

The names a query text refers to with `$`. Scanning always succeeds: a text that ends inside a
literal is still a list of tokens.
-/

namespace GraphRepo.Cypher

/-- The names a text binds, in the order of their tokens. -/
def boundNames (text : List Char) : List String :=
  (scan text).filterMap fun t => t.binds.map String.ofList

/-- The names of the parameters of a query, ascending, each once. -/
def parameters (text : String) : List String := nameSet (boundNames text.toList)

end GraphRepo.Cypher
