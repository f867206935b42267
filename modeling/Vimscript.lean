import Vimscript.Console
import Vimscript.Data.Basic
import Vimscript.Data.Document
import Vimscript.Data.Json
import Vimscript.Data.Yaml.Node
import Vimscript.Data.Yaml.Scalar
import Vimscript.Data.Yaml.Token
import Vimscript.Decimal.Dyadic
import Vimscript.Decimal.Fixed
import Vimscript.Decimal.Reader
import Vimscript.Decimal.Shortest
import Vimscript.Entries
import Vimscript.Error
import Vimscript.Eval.Assign
import Vimscript.Eval.Call
import Vimscript.Eval.Control
import Vimscript.Eval.Expr
import Vimscript.Eval.Machine
import Vimscript.Eval.Stmt
import Vimscript.Eval.Unlet
import Vimscript.Fault
import Vimscript.Function.Builtin
import Vimscript.Function.Name
import Vimscript.Function.Registry
import Vimscript.Heap.Basic
import Vimscript.Heap.Coerce
import Vimscript.Heap.Copy
import Vimscript.Heap.Equal
import Vimscript.Heap.Exchange
import Vimscript.Heap.Lock
import Vimscript.Heap.Print
import Vimscript.Host.Basic
import Vimscript.Library.Apply
import Vimscript.Library.Container
import Vimscript.Library.Editor
import Vimscript.Library.Function
import Vimscript.Library.MergeSort
import Vimscript.Library.Number
import Vimscript.Library.RunSort
import Vimscript.Library.Text
import Vimscript.Main
import Vimscript.Number.Limit
import Vimscript.Number.Literal
import Vimscript.Number.Word
import Vimscript.Operator.Apply
import Vimscript.Operator.Arithmetic
import Vimscript.Operator.Comparison
import Vimscript.Operator.Subscript
import Vimscript.Pattern.Atom
import Vimscript.Pattern.Basic
import Vimscript.Pattern.Charset
import Vimscript.Pattern.Parser
import Vimscript.Pattern.Regex
import Vimscript.Pattern.Regular
import Vimscript.Proofs.Eval.CallStack
import Vimscript.Proofs.Eval.Calling
import Vimscript.Proofs.Eval.Compound
import Vimscript.Proofs.Eval.Containment
import Vimscript.Proofs.Eval.Finally
import Vimscript.Proofs.Eval.Handler
import Vimscript.Proofs.Eval.Keeping
import Vimscript.Proofs.Eval.LockedContainer
import Vimscript.Proofs.Eval.Regime
import Vimscript.Proofs.Eval.RegimeCall
import Vimscript.Proofs.Eval.Signal
import Vimscript.Proofs.Eval.Try
import Vimscript.Proofs.Function.History
import Vimscript.Proofs.Function.Operation
import Vimscript.Proofs.Function.Registry
import Vimscript.Proofs.Heap.Copy
import Vimscript.Proofs.Heap.Edit
import Vimscript.Proofs.Heap.Keeping
import Vimscript.Proofs.Heap.Policy
import Vimscript.Proofs.Library.Keeping
import Vimscript.Proofs.Library.Policy
import Vimscript.Proofs.Report
import Vimscript.Proofs.Run.Keeping
import Vimscript.Proofs.Run.Log
import Vimscript.Proofs.Run.Policy
import Vimscript.Proofs.Run.Result
import Vimscript.Proofs.Session
import Vimscript.Proofs.Syntax.Code
import Vimscript.Proofs.Telling
import Vimscript.Proofs.Variables.Locking
import Vimscript.Proofs.Variables.LockedEntry
import Vimscript.Proofs.Variables.Lockvar
import Vimscript.Proofs.Variables.ReadOnly
import Vimscript.Proofs.Variables.Seclusion
import Vimscript.Run.Basic
import Vimscript.Session
import Vimscript.Stop
import Vimscript.Syntax.Operator
import Vimscript.Syntax.Reader
import Vimscript.Syntax.Same
import Vimscript.Syntax.Scope
import Vimscript.Syntax.Shown
import Vimscript.Syntax.Tree
import Vimscript.Text.Case
import Vimscript.Text.CaseTable
import Vimscript.Text.Class
import Vimscript.Text.ClassTable
import Vimscript.Text.Name
import Vimscript.Text.NameTable
import Vimscript.Text.Quoted
import Vimscript.Text.Run
import Vimscript.Text.Utf8
import Vimscript.Variables.Context
import Vimscript.Variables.Store
import Vimscript.Proofs.Function.Dispatch
import Vimscript.Proofs.Heap.Acyclic
import Vimscript.Proofs.Heap.Print
import Vimscript.Proofs.Data.Json
import Vimscript.Proofs.Data.Document
import Vimscript.Proofs.Syntax.Written
import Vimscript.Proofs.Syntax.Reading
import Vimscript.Proofs.Syntax.Places
import Vimscript.Proofs.Syntax.Kept
import Vimscript.Proofs.Decimal.Overflow
import Vimscript.Proofs.Heap.Exchange
import Vimscript.Proofs.Operator.Making
import Vimscript.Proofs.Syntax.CallFree
import Vimscript.Proofs.Eval.CallFree
import Vimscript.Proofs.Syntax.Naming
import Vimscript.Proofs.Eval.Escaping
import Vimscript.Proofs.Eval.Range
import Vimscript.Proofs.Heap.CopyLevel
import Vimscript.Proofs.Eval.UnletSlice
import Vimscript.Proofs.Eval.ItemAssignment
import Vimscript.Proofs.Eval.SliceAssignment
import Vimscript.Proofs.Heap.Parts
import Vimscript.Proofs.Heap.Agreement
import Vimscript.Proofs.Heap.Equality
import Vimscript.Proofs.Operator.Comparison
import Vimscript.Proofs.Variables.Texts
import Vimscript.Proofs.Variables.Exception
import Vimscript.Proofs.Heap.LockBall
import Vimscript.Proofs.Variables.Binding
import Vimscript.Proofs.Library.Callback
import Vimscript.Proofs.Eval.Loop
import Vimscript.Proofs.Eval.Arguments
import Vimscript.Proofs.Library.MergeSort
import Vimscript.Proofs.Library.Sorting
import Vimscript.Proofs.Library.Atomicity
import Vimscript.Proofs.Operator.Arithmetic
import Vimscript.Proofs.Operator.Subscript
import Vimscript.Proofs.Heap.Outline
import Vimscript.Proofs.Heap.Conversion
import Vimscript.Proofs.Number.Positional
import Vimscript.Proofs.Number.Leading
import Vimscript.Proofs.Pattern.Literal
import Vimscript.Proofs.Operator.Matching
import Vimscript.Proofs.Pattern.Split
import Vimscript.Proofs.Library.Splitting
import Vimscript.Proofs.Decimal.Rounding
import Vimscript.Proofs.Library.Numeral
