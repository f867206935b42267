import Vimscript.Syntax.Tree

/-!
# Errors of a script

A failing operation names its cause; `Cause.describe` is the one table of codes and texts. An error
also carries where it happened: the function it left first and the statement that was running
when it was reported.
-/

namespace Vimscript

/-- Why an operation of a script failed. -/
inductive Cause where
  | invalidRange
  | readOnly (name : String)
  | noSuchVariable (name : String)
  | unknownFunction (name : String)
  | tooManyArguments (name : String)
  | notEnoughArguments (name : String)
  | undefinedVariable (name : String)
  | functionExists (name : String)
  | functionNameCase (name : String)
  | functionNameRequired
  | noSuchFunction (name : String)
  | callDepth
  | returnOutside
  | invalidRegister (name : String)
  | invalidPattern (pattern : String)
  | illegalName (name : String)
  | invalidArgument
  | invalidArgumentValue (value : String)
  | notEditorCommand (command : String)
  | unknownOption (name : String)
  | strayContinue
  | strayBreak
  | throwVim
  | listIndex (index : String)
  | listArgument (function : String)
  | tooManyTargets
  | notIndexable
  | compareList
  | listOperation
  | funcrefOperation
  | indexFuncref
  | unknownCallee (name : String)
  | noLength
  | funcrefAsNumber
  | sliceNeedsList
  | listTooLong
  | listTooShort
  | containerArgument (function : String)
  | listRequired
  | dictRequired
  | noSuchKey (key : String)
  | entryExists
  | funcrefRequired
  | sliceDict
  | duplicateKey (key : String)
  | selfRequired (name : String)
  | strideZero
  | startPastEnd
  | dictAsNumber
  | funcrefAsString
  | listAsString
  | dictAsString
  | compareDict
  | dictOperation
  | keyExists (key : String)
  | locked (what : String)
  | listAsNumber
  | floatModulo
  | floatAsNumber
  | floatAsString
  | numberRequired
  | functionNameColon (name : String)
  | indexableArgument (function : String)
  | listOrBlobRequired
  | functionDeleted (name : String)
  | blobAsNumber
  | blobAsString
  | blobIndex (index : String)
  | notIterable
  | tooFewTargets
  /-- An exception the script or the host raised itself; it has no code. -/
  | thrown (text : String)
deriving Repr, DecidableEq

namespace Cause

/-- The code of a cause, if it has one, and its text. -/
def describe : Cause → Option String × String
  | invalidRange => (some "E16", "Invalid range")
  | readOnly name => (some "E46", "Cannot change read-only variable " ++ name)
  | noSuchVariable name => (some "E108", "No such variable: \"" ++ name ++ "\"")
  | unknownFunction name => (some "E117", "Unknown function: " ++ name)
  | tooManyArguments name => (some "E118", "Too many arguments for function: " ++ name)
  | notEnoughArguments name => (some "E119", "Not enough arguments for function: " ++ name)
  | undefinedVariable name => (some "E121", "Undefined variable: " ++ name)
  | functionExists name =>
    (some "E122", "Function " ++ name ++ " already exists, add ! to replace it")
  | functionNameCase name =>
    (some "E128", "Function name must start with a capital or \"s:\": " ++ name)
  | functionNameRequired => (some "E129", "Function name required")
  | noSuchFunction name => (some "E130", "Unknown function: " ++ name)
  | callDepth => (some "E132", "Function call depth is higher than 'maxfuncdepth'")
  | returnOutside => (some "E133", ":return not inside a function")
  | invalidRegister name => (some "E354", "Invalid register name: '" ++ name ++ "'")
  | invalidPattern pattern => (some "E383", "Invalid search string: " ++ pattern)
  | illegalName name => (some "E461", "Illegal variable name: " ++ name)
  | invalidArgument => (some "E474", "Invalid argument")
  | invalidArgumentValue value => (some "E475", "Invalid argument: " ++ value)
  | notEditorCommand command => (some "E492", "Not an editor command: " ++ command)
  | unknownOption name => (some "E518", "Unknown option: " ++ name)
  | strayContinue => (some "E586", ":continue without :while or :for: continue")
  | strayBreak => (some "E587", ":break without :while or :for: break")
  | throwVim => (some "E608", "Cannot :throw exceptions with 'Vim' prefix")
  | listIndex index => (some "E684", "list index out of range: " ++ index)
  | listArgument function => (some "E686", "Argument of " ++ function ++ " must be a List")
  | tooManyTargets => (some "E688", "More targets than List items")
  | notIndexable => (some "E689", "Can only index a List, Dictionary or Blob")
  | compareList => (some "E691", "Can only compare List with List")
  | listOperation => (some "E692", "Invalid operation for List")
  | funcrefOperation => (some "E694", "Invalid operation for Funcrefs")
  | indexFuncref => (some "E695", "Cannot index a Funcref")
  | unknownCallee name => (some "E700", "Unknown function: " ++ name)
  | noLength => (some "E701", "Invalid type for len()")
  | funcrefAsNumber => (some "E703", "Using a Funcref as a Number")
  | sliceNeedsList => (some "E709", "[:] requires a List or Blob value")
  | listTooLong => (some "E710", "List value has more items than targets")
  | listTooShort => (some "E711", "List value does not have enough items")
  | containerArgument function =>
    (some "E712", "Argument of " ++ function ++ " must be a List or Dictionary")
  | listRequired => (some "E714", "List required")
  | dictRequired => (some "E715", "Dictionary required")
  | noSuchKey key => (some "E716", "Key not present in Dictionary: \"" ++ key ++ "\"")
  | entryExists => (some "E717", "Dictionary entry already exists")
  | funcrefRequired => (some "E718", "Funcref required")
  | sliceDict => (some "E719", "Cannot slice a Dictionary")
  | duplicateKey key => (some "E721", "Duplicate key in Dictionary: \"" ++ key ++ "\"")
  | selfRequired name => (some "E725", "Calling dict function without Dictionary: " ++ name)
  | strideZero => (some "E726", "Stride is zero")
  | startPastEnd => (some "E727", "Start past end")
  | dictAsNumber => (some "E728", "Using a Dictionary as a Number")
  | funcrefAsString => (some "E729", "Using a Funcref as a String")
  | listAsString => (some "E730", "Using a List as a String")
  | dictAsString => (some "E731", "Using a Dictionary as a String")
  | compareDict => (some "E735", "Can only compare Dictionary with Dictionary")
  | dictOperation => (some "E736", "Invalid operation for Dictionary")
  | keyExists key => (some "E737", "Key already exists: " ++ key)
  | locked what => (some "E741", "Value is locked: " ++ what)
  | listAsNumber => (some "E745", "Using a List as a Number")
  | floatModulo => (some "E804", "Cannot use '%' with Float")
  | floatAsNumber => (some "E805", "Using a Float as a Number")
  | floatAsString => (some "E806", "Using a Float as a String")
  | numberRequired => (some "E808", "Number or Float required")
  | functionNameColon name => (some "E884", "Function name cannot contain a colon: " ++ name)
  | indexableArgument function =>
    (some "E896", "Argument of " ++ function ++ " must be a List, Dictionary or Blob")
  | listOrBlobRequired => (some "E897", "List or Blob required")
  | functionDeleted name => (some "E933", "Function was deleted: " ++ name)
  | blobAsNumber => (some "E974", "Using a Blob as a Number")
  | blobAsString => (some "E976", "Using a Blob as a String")
  | blobIndex index => (some "E979", "Blob index out of range: " ++ index)
  | notIterable => (some "E1098", "String, List or Blob required")
  | tooFewTargets => (some "E684", "Less targets than List items")
  | thrown text => (none, text)

/-- The code of a cause. -/
def code (c : Cause) : Option String := c.describe.1

/-- The text of a cause without its code. -/
def text (c : Cause) : String := c.describe.2

/-- What a script sees of an error: the code, where there is one, and the text. -/
def message (c : Cause) : String :=
  match c.describe with
  | (some code, text) => code ++ ": " ++ text
  | (none, text) => text

/-- The numbered causes, each about `detail` where it is about something. -/
def numbered (detail : String) : List Cause :=
  [.invalidRange, .readOnly detail, .noSuchVariable detail, .unknownFunction detail,
   .tooManyArguments detail, .notEnoughArguments detail, .undefinedVariable detail,
   .functionExists detail, .functionNameCase detail, .functionNameRequired,
   .noSuchFunction detail, .callDepth, .returnOutside, .invalidRegister detail,
   .invalidPattern detail, .illegalName detail, .invalidArgument,
   .invalidArgumentValue detail, .notEditorCommand detail, .unknownOption detail,
   .strayContinue, .strayBreak, .throwVim, .listIndex detail, .listArgument detail,
   .tooManyTargets, .notIndexable, .compareList, .listOperation, .funcrefOperation,
   .indexFuncref, .unknownCallee detail, .noLength, .funcrefAsNumber, .sliceNeedsList,
   .listTooLong, .listTooShort, .containerArgument detail, .listRequired, .dictRequired,
   .noSuchKey detail, .entryExists, .funcrefRequired, .sliceDict, .duplicateKey detail,
   .selfRequired detail, .strideZero, .startPastEnd, .dictAsNumber, .funcrefAsString,
   .listAsString, .dictAsString, .compareDict, .dictOperation, .keyExists detail,
   .locked detail, .listAsNumber, .floatModulo, .floatAsNumber, .floatAsString,
   .numberRequired, .functionNameColon detail, .indexableArgument detail, .listOrBlobRequired,
   .functionDeleted detail, .blobAsNumber, .blobAsString, .blobIndex detail, .notIterable]

/-- The numbered cause with a code. -/
def ofCode? (code detail : String) : Option Cause :=
  (numbered detail).find? fun c => c.code == some code

/-- A cause with a code is the one that its code stands for. Only `tooFewTargets` shares the code of
another cause. -/
theorem ofCode?_code {c : Cause} {code : String} (hcode : c.code = some code)
    (hc : c ≠ .tooFewTargets) : ∃ detail, ofCode? code detail = some c := by
  cases c with
  | thrown text => cases hcode
  | tooFewTargets => exact absurd rfl hc
  | _ =>
    cases hcode
    apply Exists.intro
    · rfl
    -- a cause that is about nothing is found with any detail
    all_goals exact ""

end Cause

/-- An error on its way through a script. -/
structure ScriptError where
  cause : Cause
  /-- The innermost function the error left, and the line there. -/
  throwpoint : Option String := none
  /-- What was running when the error was reported. -/
  site : Option Site := none
deriving Repr

/-- What a script sees of an error. -/
def ScriptError.message (e : ScriptError) : String := e.cause.message

end Vimscript
