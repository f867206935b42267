import Vimscript.Text.Quoted
import Vimscript.Text.Utf8

/-!
# Faults

What a script cannot catch: a malformed tree, a value the host cannot exchange, an operation the
language leaves open. A fault ends the whole run and is reported by its text.
-/

namespace Vimscript

/-- What is wrong with a document that cannot be read. -/
inductive DocumentFlaw where
  /-- It holds characters that no document may hold. -/
  | characters
  /-- It cannot be cut into tokens. -/
  | tokens
  /-- Its tokens are not in order. -/
  | order
  /-- It refers to what is not there, or holds more than one document. -/
  | references
  /-- Some part of it stands for nothing. -/
  | values
deriving Repr, DecidableEq

/-- The family a fault belongs to. -/
inductive FaultKind where
  | value
  | type
  | key
  | index
  | member
  | notImplemented
  | overflow
  | memory
  | encoding
  | isDirectory
  | notDirectory
  | document (flaw : DocumentFlaw)
deriving Repr, DecidableEq

/-- The word for a family in diagnostics. -/
def FaultKind.word : FaultKind → String
  | value => "ValueError"
  | type => "TypeError"
  | key => "KeyError"
  | index => "IndexError"
  | member => "AttributeError"
  | notImplemented => "NotImplementedError"
  | overflow => "OverflowError"
  | memory => "MemoryError"
  | encoding => "UnicodeDecodeError"
  | isDirectory => "IsADirectoryError"
  | notDirectory => "NotADirectoryError"
  | document .characters => "ReaderError"
  | document .tokens => "ScannerError"
  | document .order => "ParserError"
  | document .references => "ComposerError"
  | document .values => "ConstructorError"

/-- Why a run ended without an error of the script. -/
inductive Fault where
  -- Trees
  | missingField (tag field : String)
  | absentField (field : String)
  | unknownTag (tag : String)
  | unknownScope (scope : String)
  | unknownFlag (flag : String)
  | unknownBinary (op : String)
  | unknownUnary (op : String)
  | unknownAssignment (op : String)
  | notExpression (shown : String)
  | notStatement (shown : String)
  | notScript (kind : String)
  | notPairs
  | notRange
  | noBranch
  | notLambda
  | notIterable (kind : String)
  | notUnpackable (kind : String)
  | noLength (kind : String)
  | notSubscriptable (kind : String)
  | unhashable (kind : String)
  | absentIndex (index : Nat)
  | wrongCount (expected found : Nat)
  | noMember (kind member : String)
  | notDecimal (shown : String)
  | notInteger (shown : String)
  | notNumeric (kind : String)
  | notIntegral (kind : String)
  | notWhole (isNaN : Bool)
  -- Values
  | doubleOverflow
  | sizeOverflow
  | placeOverflow
  | textTooLong
  | noMemory
  /-- A number is read from too many digits, as many as told, or cannot be written with so many. -/
  | tooManyDigits (found : Option Nat)
  | recursiveList
  | recursiveDict
  | foreignValue (kind : String)
  | keyNotText (kind : String)
  | notSerializable (kind : String)
  -- Execution
  | notAssignable (form : String)
  | notRemovable (form : String)
  | loopOverBlob
  | noMatcher
  | countTooLarge
  | mixedCharsets
  | noEvaluator (kind : String)
  | lostEntry (name : String)
  | lostItem
  | unparsable (text : String)
  | notGlobal (name : String)
  -- Documents
  | notDocument
  | notText (flaw : Text.Utf8Flaw)
  | unreadable (flaw : DocumentFlaw)
  | isDirectory (shown : String)
  | notDirectory (shown : String)
  | unknownFormat (shown : String)
  | unknownCode (shown : String)
deriving Repr, DecidableEq

namespace Fault

/-- The family of a fault. -/
def kind : Fault → FaultKind
  | absentField _ | absentIndex _ | lostEntry _ | unknownCode _ => .key
  | unknownTag _ | loopOverBlob | noEvaluator _ => .notImplemented
  | notIterable _ | notUnpackable _ | noLength _ | notSubscriptable _ | unhashable _ | notNumeric _
  | notIntegral _ | foreignValue _ | keyNotText _ | notSerializable _ => .type
  | noMember _ _ => .member
  | lostItem => .index
  | doubleOverflow | sizeOverflow | placeOverflow | textTooLong | countTooLarge
  | notWhole false => .overflow
  | noMemory => .memory
  | notText _ => .encoding
  | isDirectory _ => .isDirectory
  | notDirectory _ => .notDirectory
  | unreadable flaw => .document flaw
  | _ => .value

/-- The words for why bytes form no character. -/
def reasonText : Text.Utf8Reason → String
  | .badStart => "invalid start byte"
  | .badContinuation => "invalid continuation byte"
  | .endOfData => "unexpected end of data"

/-- The text of a fault. -/
def message : Fault → String
  | missingField tag field => "'" ++ tag ++ "' node is missing '" ++ field ++ "'"
  | absentField field => Text.quoted field
  | unknownTag tag => "No transformer for tag '" ++ tag ++ "'"
  | unknownScope scope => "Unknown scope '" ++ scope ++ ":'"
  | unknownFlag flag => "Unknown function flag '" ++ flag ++ "'"
  | unknownBinary op => "Unknown binary operator '" ++ op ++ "'"
  | unknownUnary op => "Unknown unary operator '" ++ op ++ "'"
  | unknownAssignment op => "Unknown assignment operator '" ++ op ++ "'"
  | notExpression shown => "Expected an expression node, got " ++ shown
  | notStatement shown => "Expected a statement node, got " ++ shown
  | notScript kind => "Cannot transform a " ++ kind ++ " into a script"
  | notPairs => "Dictionary entries must be [key, value] pairs"
  | notRange => "A call range must be a [first, last] pair"
  | noBranch => "'if' needs at least one branch"
  | notLambda => "'lambda_call' requires a 'lambda' node"
  | notIterable kind => "'" ++ kind ++ "' object is not iterable"
  | notUnpackable kind => "cannot unpack non-iterable " ++ kind ++ " object"
  | noLength kind => "object of type '" ++ kind ++ "' has no len()"
  | notSubscriptable kind => "'" ++ kind ++ "' object is not subscriptable"
  | unhashable kind => "unhashable type: '" ++ kind ++ "'"
  | absentIndex index => toString index
  | wrongCount expected found =>
    if found < expected then
      "not enough values to unpack (expected " ++ toString expected ++ ", got " ++ toString found
        ++ ")"
    else "too many values to unpack (expected " ++ toString expected ++ ")"
  | noMember kind member => "'" ++ kind ++ "' object has no attribute '" ++ member ++ "'"
  | notDecimal shown => "could not convert string to float: " ++ shown
  | notInteger shown => "invalid literal for int() with base 10: " ++ shown
  | notNumeric kind => "float() argument must be a string or a real number, not '" ++ kind ++ "'"
  | notIntegral kind =>
    "int() argument must be a string, a bytes-like object or a real number, not '" ++ kind ++ "'"
  | notWhole true => "cannot convert float NaN to integer"
  | notWhole false => "cannot convert float infinity to integer"
  | doubleOverflow => "int too large to convert to float"
  | sizeOverflow => "cannot fit 'int' into an index-sized integer"
  | placeOverflow => "Python int too large to convert to C ssize_t"
  | textTooLong => "repeated string is too long"
  | noMemory => ""
  | tooManyDigits found =>
    let counted := match found with
      | some n => ": value has " ++ toString n ++ " digits"
      | none => ""
    "Exceeds the limit (4300 digits) for integer string conversion" ++ counted
      ++ "; use sys.set_int_max_str_digits() to increase the limit"
  | recursiveList => "Cannot convert a recursive List"
  | recursiveDict => "Cannot convert a recursive Dictionary"
  | foreignValue kind => "Cannot convert " ++ kind ++ " to a Vim value"
  | keyNotText kind => "Dictionary keys must be strings, got " ++ kind
  | notSerializable kind => "Object of type " ++ kind ++ " is not JSON serializable"
  | notAssignable form => "Cannot assign to " ++ form
  | notRemovable form => "Cannot unlet " ++ form
  | loopOverBlob => "for over a Blob"
  | noMatcher => "Pattern matching requires a matcher"
  | countTooLarge => "the repetition number is too large"
  | mixedCharsets => "ASCII and UNICODE flags are incompatible"
  | noEvaluator kind => "No evaluator for " ++ kind
  | lostEntry name => Text.quoted name
  | lostItem => "list index out of range"
  | unparsable text => "cannot parse: " ++ text
  | notGlobal name => "Only global variables can be set from Python: " ++ name
  | notDocument => "Expected a statement tree document"
  | notText flaw =>
    let place :=
      if flaw.count = 1 then
        "byte 0x" ++ String.ofList (Text.hex 2 flaw.first.toNat) ++ " in position "
          ++ toString flaw.position
      else
        "bytes in position " ++ toString flaw.position ++ "-"
          ++ toString (flaw.position + flaw.count - 1)
    "'utf-8' codec can't decode " ++ place ++ ": " ++ reasonText flaw.reason
  | unreadable _ => "could not read the document"
  | isDirectory shown => "[Errno 21] Is a directory: " ++ shown
  | notDirectory shown => "[Errno 20] Not a directory: " ++ shown
  | unknownFormat shown => "Unsupported serialization format: " ++ shown
  | unknownCode shown => "unknown Vim error code " ++ shown

end Fault

end Vimscript
