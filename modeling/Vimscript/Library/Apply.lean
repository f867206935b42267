import Vimscript.Library.Container
import Vimscript.Library.Editor
import Vimscript.Library.Function
import Vimscript.Library.Number

/-!
# The library of built-in functions

Which computation belongs to which name. The number of arguments has been checked before, so that
the last case is never reached.
-/

namespace Vimscript

/-- Applies a built-in function to its arguments. -/
def Builtin.apply (M : Machine) (b : Builtin) (args : List Ref) (c : Context) : Run Ref :=
  match b, args with
  | input, _ => Library.input args[0]? args[1]?
  | abs, x :: _ => Library.abs x
  | add, x :: y :: _ => Library.add x y
  | call, x :: y :: rest => Library.call M x y rest[0]? c
  | col, x :: _ => Library.col x
  | copy, x :: _ => Op.copy 1 x
  | count, x :: y :: rest => Library.count x y rest[0]? rest[1]?
  | deepcopy, x :: _ => Op.copy deepLevel x
  | empty, x :: _ => Library.empty x
  | existsName, x :: _ => Library.existsName x c
  | extend, x :: y :: rest => Library.extend x y rest[0]?
  | filter, x :: y :: _ => Library.filter M x y c
  | float2nr, x :: _ => Library.float2nr x
  | funcrefOf, x :: rest => Library.newFuncref .funcref x rest[0]? rest[1]? c
  | functionOf, x :: rest => Library.newFuncref .function x rest[0]? rest[1]? c
  | get, x :: y :: rest => Library.getItem x y rest[0]?
  | hasKey, x :: y :: _ => Library.hasKey x y
  | index, x :: y :: rest => Library.index x y rest[0]? rest[1]?
  | insert, x :: y :: rest => Library.insert x y rest[0]?
  | islocked, x :: _ => Library.islocked x c
  | items, x :: _ => Library.items x
  | join, x :: rest => Library.join x rest[0]?
  | keys, x :: _ => Library.keys x
  | len, x :: _ => Library.len x
  | line, x :: _ => Library.line x
  | map, x :: y :: _ => Library.map M x y c
  | maximum, x :: _ => Library.maximum x
  | minimum, x :: _ => Library.minimum x
  | range, x :: rest => Library.range x rest[0]? rest[1]?
  | remove, x :: y :: rest => Library.remove x y rest[0]?
  | replicate, x :: y :: _ => Library.replicate x y
  | reverse, x :: _ => Library.reverse x
  | sort, x :: rest => Library.sort M x rest[0]? rest[1]? c
  | split, x :: rest => Library.split x rest[0]? rest[1]?
  | str2float, x :: _ => Library.str2float x
  | str2nr, x :: rest => Library.str2nr x rest[0]?
  | stringOf, x :: _ => Library.stringOf x
  | tolower, x :: _ => Library.tolower x
  | toupper, x :: _ => Library.toupper x
  | trim, x :: rest => Library.trim x rest[0]? rest[1]?
  | typeOf, x :: _ => Library.typeOf x
  | values, x :: _ => Library.values x
  | _, _ => Op.number 0

end Vimscript
