/-!
# Built-in functions

The names of the built-in functions and how many arguments each accepts. What they do is told where
calls are evaluated.
-/

namespace Vimscript

/-- A built-in function. -/
inductive Builtin where
  | abs
  | add
  | call
  | col
  | copy
  | count
  | deepcopy
  | empty
  | existsName
  | extend
  | filter
  | float2nr
  | funcrefOf
  | functionOf
  | get
  | hasKey
  | index
  | input
  | insert
  | islocked
  | items
  | join
  | keys
  | len
  | line
  | map
  | maximum
  | minimum
  | range
  | remove
  | replicate
  | reverse
  | sort
  | split
  | str2float
  | str2nr
  | stringOf
  | tolower
  | toupper
  | trim
  | typeOf
  | values
deriving Repr, DecidableEq

namespace Builtin

/-- The name a script calls a built-in function by. -/
def name : Builtin → String
  | abs => "abs"
  | add => "add"
  | call => "call"
  | col => "col"
  | copy => "copy"
  | count => "count"
  | deepcopy => "deepcopy"
  | empty => "empty"
  | existsName => "exists"
  | extend => "extend"
  | filter => "filter"
  | float2nr => "float2nr"
  | funcrefOf => "funcref"
  | functionOf => "function"
  | get => "get"
  | hasKey => "has_key"
  | index => "index"
  | input => "input"
  | insert => "insert"
  | islocked => "islocked"
  | items => "items"
  | join => "join"
  | keys => "keys"
  | len => "len"
  | line => "line"
  | map => "map"
  | maximum => "max"
  | minimum => "min"
  | range => "range"
  | remove => "remove"
  | replicate => "repeat"
  | reverse => "reverse"
  | sort => "sort"
  | split => "split"
  | str2float => "str2float"
  | str2nr => "str2nr"
  | stringOf => "string"
  | tolower => "tolower"
  | toupper => "toupper"
  | trim => "trim"
  | typeOf => "type"
  | values => "values"

/-- The least and greatest number of arguments. -/
def arity : Builtin → Nat × Nat
  | input => (0, 2)
  | abs | col | copy | empty | existsName | float2nr | islocked | items | keys | len | line
  | maximum | minimum | reverse | str2float | stringOf | tolower | toupper | typeOf
  | values => (1, 1)
  | deepcopy | join | str2nr => (1, 2)
  | funcrefOf | functionOf | range | sort | split | trim => (1, 3)
  | add | filter | hasKey | map | replicate => (2, 2)
  | call | extend | get | insert | remove => (2, 3)
  | count | index => (2, 4)

/-- Every built-in function, by name. -/
def all : List Builtin :=
  [abs, add, call, col, copy, count, deepcopy, empty, existsName, extend, filter, float2nr,
   funcrefOf, functionOf, get, hasKey, index, input, insert, islocked, items, join, keys, len,
   line, map, maximum, minimum, range, remove, replicate, reverse, sort, split, str2float,
   str2nr, stringOf, tolower, toupper, trim, typeOf, values]

/-- The built-in function with a name. -/
def ofName? (s : String) : Option Builtin :=
  all.find? fun b => b.name == s

end Builtin

end Vimscript
