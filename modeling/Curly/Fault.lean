import Curly.Fault.Field
import Curly.Number.Reading
import Curly.Text.Encoding
import Curly.Text.Quoted

/-!
Faults: what can go wrong while a template is rendered, each with its class and with what is said
of it.
-/

namespace Curly

/-- The classes of faults. -/
inductive FaultClass
  | typeError
  | valueError
  | zeroDivision
  | index
  | key
  | attribute
  | name
  | unboundLocal
  | overflow
  | lookup
  | unicode
  | decoding
  | encoding
  | recursion
  | memory
  | system
  | permission
  deriving DecidableEq, Inhabited

/-- Why the system does not open a file, or does not look at it. -/
inductive FileProblem
  | missing
  | blocked
  | directory
  | denied
  | nameTooLong
  deriving DecidableEq, Inhabited

/-- What is said of a path that cannot be opened. -/
def FileProblem.message (p : FileProblem) (path : String) : String :=
  let shown := Text.Quoted.ofString path
  match p with
  | .missing => s!"[Errno 2] No such file or directory: {shown}"
  | .blocked => s!"[Errno 20] Not a directory: {shown}"
  | .directory => s!"[Errno 21] Is a directory: {shown}"
  | .denied => s!"[Errno 13] Permission denied: {shown}"
  | .nameTooLong => s!"[Errno 36] File name too long: {shown}"

/-- Why an argument list does not fit. -/
inductive ArityCause
  /-- A built-in that takes exactly so many arguments. -/
  | exactly (expected given : Nat)
  | none (given : Nat)
  | atLeast (expected given : Nat)
  | atMost (expected given : Nat)
  | expected (expected given : Nat)
  | expectedAtLeast (expected given : Nat)
  | expectedAtMost (expected given : Nat)
  | atLeastPositional (expected given : Nat)
  | atMostPositional (expected given : Nat)
  /-- Too many arguments, all of them named. -/
  | atMostKeywords (expected given : Nat)
  | noKeywords
  | unknownKeyword (keyword : String)
  | missingArgument (name : String) (position : Option Nat)
  /-- A function with named parameters: those that got no value. -/
  | missing (keywordOnly : Bool) (names : List String)
  | tooMany (least most given keywordsGiven : Nat)
  | unexpectedKeyword (keyword : String)
  | multipleValues (name : String)
  | namedAndPlaced (name : String) (position : Nat)
  | noReceiver
  | positionalOnly (names : List String)
  deriving DecidableEq, Inhabited

/-- Faults. Types are given by their names. -/
inductive Fault
  | operands (op left right : String)
  | operand (op operand : String)
  | unordered (op left right : String)
  | concatenation (left right : String)
  | bytesConcatenation (right : String)
  | repetition (count : String)
  | notIterable (type : String)
  | notContainer (type : String)
  | notText (given : String)
  | notBytes (given : String)
  | byteRange
  | notCallable (type : String)
  | notSubscriptable (type : String)
  | typeNotSubscriptable (type : String)
  | indices (container index : String)
  | indexRange (container : String)
  | sliceIndices
  | sliceIndicesStrict
  | zeroStep
  | missingKey (key : String)
  | unhashable (type : String)
  | noAttribute (type name : String)
  | noTypeAttribute (type name : String)
  | wrongReceiver (name expected given : String)
  | memberOfNone (name : String)
  | noAssignment (type : String)
  | noLength (type : String)
  | notReversible (type : String)
  | notInteger (type : String)
  | notMapping (type : String)
  | starValue (type : String)
  | starArgument (function type : String)
  | spreadArgument (function type : String)
  | keywordTwice (function keyword : String)
  | keywordsNotText
  | notUnpackable (type : String)
  | tooFew (expected : Nat) (atLeast : Bool) (given : Nat)
  | tooManyValues (expected : Nat)
  | arity (function : String) (cause : ArityCause)
  | divisionByZero
  | floatDivisionByZero
  | integerDivisionByZero
  | integerModuloByZero
  | floatFloorDivisionByZero
  | floatModuloByZero
  | zeroToNegative
  | resultRange
  | integerTooLarge
  | quotientTooLarge
  | roundedTooLarge
  | indexTooLarge (type : String)
  | subscriptTooLarge (type : String)
  | lengthTooLarge
  | countTooLarge
  | infinityToInteger
  | nanToInteger
  | infinityToRatio
  | nanToRatio
  | negativeShift
  | numberTooLong (digits : Option Nat)
  | invalidInteger (base : Int) (written : String)
  | invalidFloat (written : String)
  | integerArgument (type : String)
  | integerOrBytes (type : String)
  | floatArgument (type : String)
  | baseRange
  | baseWithoutText
  | textArgumentMissing
  | decodingNeedsBytes (type : String)
  | decodingText
  | noRound (type : String)
  | noPair (position : Nat)
  | pairLength (position given : Nat)
  | badAbsolute (type : String)
  | emptySequence (function : String)
  | defaultWithSeveral (function : String)
  | sumOfTexts
  | sumOfBytes
  | zeroRangeStep
  | zipLength (position : Nat) (longer : Bool)
  | notInList (written : String)
  | notInTuple
  | notInRange (written : String)
  | notInSequence
  | noSubstring
  | noSubsection
  | emptySeparator
  | mustBeText (type : String)
  | mustBeTextOrNone (type : String)
  | stripArgument (function : String)
  /-- An argument that is no text. What is given is `None` or a type. -/
  | argumentText (function : String) (position : Nat) (given : String)
  | argumentIsText (function : String) (given : String)
  | parameterText (function parameter given : String)
  | firstArgument (kind function type : String)
  | tupleItem (function type : String)
  | fillLength
  | fillType (type : String)
  | fillByte (function type : String)
  | separatorLength
  | separatorType
  | separatorRange
  | negativeToUnsigned
  | tooManyBits
  | negativeLength
  | byteOrder
  | notByteSource (type : String)
  | byteItemRange
  | characterMapping
  | characterRange
  | tableNeeded
  | tableFirst
  | tableLengths
  | tableKeyLength
  | tableKey
  | notJoinable
  | sequenceItem (position : Nat) (type : String)
  | bytesItem (position : Nat) (type : String)
  | unconverted (kind : String)
  | field (cause : FieldFault)
  | unknownEncoding (name : String)
  | unknownMending (name : String)
  | decodingMending
  /-- An encoding that is not of texts; `reader` is what takes those. -/
  | otherEncoding (name reader : String)
  | noByteOrder
  | undecodable (cause : Text.Undecodable)
  | unencodable (cause : Text.Unencodable)
  /-- A path with a null in it. -/
  | nullByte
  /-- A name with a null in it. -/
  | nullCharacter
  /-- A path that the system does not look at. -/
  | unreachable (problem : FileProblem) (path : String)
  | undefinedName (name : String)
  | unboundLocal (name : String)
  | unboundFree (name : String)
  | tooDeep
  | outOfMemory
  /-- What this library does not evaluate. -/
  | unsupported (what : String)
  deriving DecidableEq, Inhabited

/-- What is said of a number with too many digits. -/
def digitsMessage (digits : Option Nat) : String :=
  let count := match digits with
    | some n => s!": value has {n} digits"
    | none => ""
  s!"Exceeds the limit ({Reading.digitLimit} digits) for integer string conversion{count}" ++
    "; use sys.set_int_max_str_digits() to increase the limit"

/-- A name between single quotes. -/
def quoted (name : String) : String := "'" ++ name ++ "'"

/-- An ending for more than one. -/
def plural (n : Nat) : String := if n = 1 then "" else "s"

/-- Names in quotes, with commas and a last `and`. -/
def enumeration : List String → String
  | [] => ""
  | [a] => quoted a
  | [a, b] => quoted a ++ " and " ++ quoted b
  | names =>
    let qs := names.map quoted
    String.intercalate ", " (qs.dropLast ++ ["and " ++ qs.getLast?.getD ""])

/-- What is said of an argument list that does not fit. -/
def ArityCause.message (function : String) : ArityCause → String
  | .exactly n k =>
    let many := if n = 1 then "one argument" else s!"{n} arguments"
    s!"{function}() takes exactly {many} ({k} given)"
  | .none k => s!"{function}() takes no arguments ({k} given)"
  | .atLeast n k =>
    s!"{function}() takes at least {n} argument{plural n} ({k} given)"
  | .atMost n k =>
    s!"{function}() takes at most {n} argument{plural n} ({k} given)"
  | .expected n k =>
    s!"{function} expected {n} argument{plural n}, got {k}"
  | .expectedAtLeast n k =>
    s!"{function} expected at least {n} argument{plural n}, got {k}"
  | .expectedAtMost n k =>
    s!"{function} expected at most {n} argument{plural n}, got {k}"
  | .atLeastPositional n k =>
    s!"{function}() takes at least {n} positional argument{plural n} ({k} given)"
  | .atMostPositional n k =>
    s!"{function}() takes at most {n} positional argument{plural n} ({k} given)"
  | .atMostKeywords n k =>
    s!"{function}() takes at most {n} keyword argument{plural n} ({k} given)"
  | .noKeywords => s!"{function}() takes no keyword arguments"
  | .unknownKeyword keyword =>
    s!"{quoted keyword} is an invalid keyword argument for {function}()"
  | .missingArgument name position =>
    let place := match position with
      | some n => s!" (pos {n})"
      | Option.none => ""
    s!"{function}() missing required argument {quoted name}{place}"
  | .missing keywordOnly names =>
    let kind := if keywordOnly then "keyword-only" else "positional"
    let n := names.length
    s!"{function}() missing {n} required {kind} argument{plural n}: {enumeration names}"
  | .tooMany least most given keywords =>
    let takes := if least = most then s!"{most}" else s!"from {least} to {most}"
    let ending := if least = most then plural most else "s"
    let named := if keywords = 0 then "" else
      s!" positional argument{plural given} (and {keywords} keyword-only argument{plural keywords})"
    let verb := if given = 1 && keywords = 0 then "was" else "were"
    s!"{function}() takes {takes} positional argument{ending} but {given}{named} {verb} given"
  | .unexpectedKeyword keyword =>
    s!"{function}() got an unexpected keyword argument {quoted keyword}"
  | .multipleValues name => s!"{function}() got multiple values for argument {quoted name}"
  | .namedAndPlaced name position =>
    s!"argument for {function}() given by name ({quoted name}) and position ({position})"
  | .noReceiver => s!"unbound method {function}() needs an argument"
  | .positionalOnly names =>
    s!"{function}() got some positional-only arguments passed as keyword arguments: " ++
      quoted (String.intercalate ", " names)

namespace Fault

/-- The class of what is wrong with a field. -/
def fieldClass : FieldFault → FaultClass
  | .missingPlace _ => .index
  | .characterRange | .characterSize => .overflow
  | .noStyles _ => .typeError
  | _ => .valueError

/-- The class of a fault. -/
def faultClass : Fault → FaultClass
  | .field cause => fieldClass cause
  | .indexRange _ | .subscriptTooLarge _ => .index
  | .missingKey _ => .key
  | .noAttribute .. | .noTypeAttribute .. => .attribute
  | .divisionByZero | .floatDivisionByZero | .integerDivisionByZero | .integerModuloByZero
  | .floatFloorDivisionByZero | .floatModuloByZero | .zeroToNegative => .zeroDivision
  | .resultRange | .integerTooLarge | .quotientTooLarge | .roundedTooLarge | .indexTooLarge _
  | .lengthTooLarge | .countTooLarge | .negativeToUnsigned | .tooManyBits | .infinityToInteger | .infinityToRatio => .overflow
  | .byteRange | .zeroStep | .tooFew .. | .tooManyValues _ | .nanToInteger | .nanToRatio
  | .negativeShift | .numberTooLong _ | .invalidInteger .. | .invalidFloat _ | .baseRange
  | .pairLength .. | .emptySequence _ | .zeroRangeStep | .zipLength .. | .notInList _ | .notInTuple
  | .notInRange _ | .notInSequence | .noSubstring | .noSubsection | .emptySeparator
  | .separatorLength | .separatorRange | .negativeLength | .byteOrder | .byteItemRange
  | .characterRange | .tableLengths | .tableKeyLength | .nullByte | .nullCharacter => .valueError
  | .unknownEncoding _ | .otherEncoding .. | .unknownMending _ => .lookup
  | .noByteOrder => .unicode
  | .undecodable .. => .decoding
  | .unencodable .. => .encoding
  | .undefinedName _ | .unboundFree _ => .name
  | .unboundLocal _ => .unboundLocal
  | .tooDeep => .recursion
  | .outOfMemory => .memory
  | .unreachable .denied _ => .permission
  | .unreachable .. => .system
  | _ => .typeError

/-- The word for the indices of a container. -/
def indexWord : String → String
  | "str" => "string"
  | "bytes" => "byte"
  | t => t

/-- What is said of a fault. -/
def message : Fault → String
  | .operands op l r => s!"unsupported operand type(s) for {op}: {quoted l} and {quoted r}"
  | .operand op t => s!"bad operand type for unary {op}: {quoted t}"
  | .unordered op l r =>
    s!"{quoted op} not supported between instances of {quoted l} and {quoted r}"
  | .concatenation l r => s!"can only concatenate {l} (not \"{r}\") to {l}"
  | .bytesConcatenation r => s!"can't concat {r} to bytes"
  | .repetition t => s!"can't multiply sequence by non-int of type {quoted t}"
  | .notIterable t => s!"{quoted t} object is not iterable"
  | .notContainer t => s!"argument of type {quoted t} is not iterable"
  | .notText t => s!"'in <string>' requires string as left operand, not {t}"
  | .notBytes t => s!"a bytes-like object is required, not {quoted t}"
  | .byteRange => "byte must be in range(0, 256)"
  | .notCallable t => s!"{quoted t} object is not callable"
  | .notSubscriptable t => s!"{quoted t} object is not subscriptable"
  | .typeNotSubscriptable t => s!"type {quoted t} is not subscriptable"
  | .indices container t =>
    if container = "str" then s!"string indices must be integers, not {quoted t}"
    else s!"{indexWord container} indices must be integers or slices, not {t}"
  | .indexRange container =>
    match container with
    | "bytes" => "index out of range"
    | "range" => "range object index out of range"
    | t => s!"{indexWord t} index out of range"
  | .sliceIndices => "slice indices must be integers or None or have an __index__ method"
  | .sliceIndicesStrict => "slice indices must be integers or have an __index__ method"
  | .zeroStep => "slice step cannot be zero"
  | .missingKey key => key
  | .unhashable t => s!"unhashable type: {quoted t}"
  | .noAttribute t name => s!"{quoted t} object has no attribute {quoted name}"
  | .noTypeAttribute t name => s!"type object {quoted t} has no attribute {quoted name}"
  | .wrongReceiver name expected given =>
    s!"descriptor {quoted name} for {quoted expected} objects doesn't apply to a {quoted given} object"
  | .memberOfNone name => s!"Cannot read property {quoted name} of None"
  | .noAssignment t => s!"{quoted t} object does not support item assignment"
  | .noLength t => s!"object of type {quoted t} has no len()"
  | .notReversible t => s!"{quoted t} object is not reversible"
  | .notInteger t => s!"{quoted t} object cannot be interpreted as an integer"
  | .notMapping t => s!"{quoted t} object is not a mapping"
  | .starValue t => s!"Value after * must be an iterable, not {t}"
  | .starArgument f t => s!"{f} argument after * must be an iterable, not {t}"
  | .spreadArgument f t => s!"{f} argument after ** must be a mapping, not {t}"
  | .keywordTwice f keyword => s!"{f} got multiple values for keyword argument {quoted keyword}"
  | .keywordsNotText => "keywords must be strings"
  | .notUnpackable t => s!"cannot unpack non-iterable {t} object"
  | .tooFew expected atLeast given =>
    let least := if atLeast then "at least " else ""
    s!"not enough values to unpack (expected {least}{expected}, got {given})"
  | .tooManyValues expected => s!"too many values to unpack (expected {expected})"
  | .arity f cause => cause.message f
  | .divisionByZero => "division by zero"
  | .floatDivisionByZero => "float division by zero"
  | .integerDivisionByZero => "integer division or modulo by zero"
  | .integerModuloByZero => "integer modulo by zero"
  | .floatFloorDivisionByZero => "float floor division by zero"
  | .floatModuloByZero => "float modulo"
  | .zeroToNegative => "0.0 cannot be raised to a negative power"
  | .resultRange => "(34, 'Numerical result out of range')"
  | .integerTooLarge => "int too large to convert to float"
  | .quotientTooLarge => "integer division result too large for a float"
  | .roundedTooLarge => "rounded value too large to represent"
  | .indexTooLarge t | .subscriptTooLarge t =>
    s!"cannot fit {quoted t} into an index-sized integer"
  | .lengthTooLarge => "Python int too large to convert to C ssize_t"
  | .countTooLarge => "Python int too large to convert to C int"
  | .infinityToInteger => "cannot convert float infinity to integer"
  | .nanToInteger => "cannot convert float NaN to integer"
  | .infinityToRatio => "cannot convert Infinity to integer ratio"
  | .nanToRatio => "cannot convert NaN to integer ratio"
  | .negativeShift => "negative shift count"
  | .numberTooLong digits => digitsMessage digits
  | .invalidInteger base written => s!"invalid literal for int() with base {base}: {written}"
  | .invalidFloat written => s!"could not convert string to float: {written}"
  | .integerArgument t =>
    s!"int() argument must be a string, a bytes-like object or a real number, not {quoted t}"
  | .integerOrBytes t =>
    s!"argument should be integer or bytes-like object, not {quoted t}"
  | .floatArgument t => s!"float() argument must be a string or a real number, not {quoted t}"
  | .baseRange => "int() base must be >= 2 and <= 36, or 0"
  | .baseWithoutText => "int() can't convert non-string with explicit base"
  | .textArgumentMissing => "int() missing string argument"
  | .decodingNeedsBytes t => s!"decoding to str: need a bytes-like object, {t} found"
  | .decodingText => "decoding str is not supported"
  | .noPair position =>
    s!"cannot convert dictionary update sequence element #{position} to a sequence"
  | .pairLength position given =>
    s!"dictionary update sequence element #{position} has length {given}; 2 is required"
  | .noRound t => s!"type {t} doesn't define __round__ method"
  | .badAbsolute t => s!"bad operand type for abs(): {quoted t}"
  | .emptySequence f => s!"{f}() arg is an empty sequence"
  | .defaultWithSeveral f =>
    s!"Cannot specify a default for {f}() with multiple positional arguments"
  | .sumOfTexts => "sum() can't sum strings [use ''.join(seq) instead]"
  | .sumOfBytes => "sum() can't sum bytes [use b''.join(seq) instead]"
  | .zeroRangeStep => "range() arg 3 must not be zero"
  | .zipLength position longer =>
    let relation := if longer then "longer" else "shorter"
    let others := if position = 2 then "argument 1" else s!"arguments 1-{position - 1}"
    s!"zip() argument {position} is {relation} than {others}"
  | .notInList written => s!"{written} is not in list"
  | .notInTuple => "tuple.index(x): x not in tuple"
  | .notInRange written => s!"{written} is not in range"
  | .notInSequence => "sequence.index(x): x not in sequence"
  | .noSubstring => "substring not found"
  | .noSubsection => "subsection not found"
  | .emptySeparator => "empty separator"
  | .mustBeText t => s!"must be str, not {t}"
  | .mustBeTextOrNone t => s!"must be str or None, not {t}"
  | .stripArgument f => s!"{f} arg must be None or str"
  | .argumentText f position t => s!"{f}() argument {position} must be str, not {t}"
  | .argumentIsText f t => s!"{f}() argument must be str, not {t}"
  | .parameterText f parameter t => s!"{f}() argument {quoted parameter} must be str, not {t}"
  | .firstArgument kind f t => s!"{f} first arg must be {kind} or a tuple of {kind}, not {t}"
  | .tupleItem f t => s!"tuple for {f} must only contain str, not {t}"
  | .fillLength => "The fill character must be exactly one character long"
  | .fillType t => s!"The fill character must be a unicode character, not {t}"
  | .fillByte f t => s!"{f}() argument 2 must be a byte string of length 1, not {t}"
  | .separatorLength => "sep must be length 1."
  | .separatorType => "sep must be str or bytes."
  | .separatorRange => "sep must be ASCII."
  | .negativeToUnsigned => "can't convert negative int to unsigned"
  | .tooManyBits => "int too big to convert"
  | .negativeLength => "length argument must be non-negative"
  | .byteOrder => "byteorder must be either 'little' or 'big'"
  | .notByteSource t => s!"cannot convert {quoted t} object to bytes"
  | .byteItemRange => "bytes must be in range(0, 256)"
  | .characterMapping => "character mapping must return integer, None or str"
  | .characterRange => "character mapping must be in range(0x110000)"
  | .tableNeeded => "if you give only one argument to maketrans it must be a dict"
  | .tableFirst => "first maketrans argument must be a string if there is a second argument"
  | .tableLengths => "the first two maketrans arguments must have equal length"
  | .tableKeyLength => "string keys in translate table must be of length 1"
  | .tableKey => "keys in translate table must be strings or integers"
  | .notJoinable => "can only join an iterable"
  | .sequenceItem position t => s!"sequence item {position}: expected str instance, {t} found"
  | .bytesItem position t => s!"sequence item {position}: expected a bytes-like object, {t} found"
  | .unconverted kind => s!"not all arguments converted during {kind} formatting"
  | .unknownEncoding name => s!"unknown encoding: {name}"
  | .field cause => cause.message
  | .unknownMending name => s!"unknown error handler name {quoted name}"
  | .decodingMending => "don't know how to handle UnicodeDecodeError in error callback"
  | .otherEncoding name reader =>
    s!"{quoted name} is not a text encoding; use codecs.{reader}() to handle arbitrary codecs"
  | .noByteOrder => "UTF-16 stream does not start with BOM"
  | .undecodable u =>
    let place :=
      if u.first = u.last then
        s!"byte 0x{String.ofList (Text.Quoted.hex 2 u.byte)} in position {u.first}"
      else s!"bytes in position {u.first}-{u.last}"
    s!"{quoted u.encoding} codec can't decode {place}: {u.reason}"
  | .unencodable u =>
    let place :=
      if u.first = u.last then
        s!"character {quoted (String.ofList (Text.Quoted.byCode u.char))} in position {u.first}"
      else s!"characters in position {u.first}-{u.last}"
    s!"{quoted u.encoding} codec can't encode {place}: {u.reason}"
  | .nullByte => "embedded null byte"
  | .nullCharacter => "embedded null character"
  | .unreachable problem path => problem.message path
  | .undefinedName name => s!"name {quoted name} is not defined"
  | .unboundLocal name =>
    s!"cannot access local variable {quoted name} where it is not associated with a value"
  | .unboundFree name =>
    s!"cannot access free variable {quoted name} where it is not associated with a value " ++
      "in enclosing scope"
  | .tooDeep => "maximum recursion depth exceeded"
  | .outOfMemory => ""
  | .unsupported what => s!"not supported: {what}"

end Fault

/-- The encoding with a name, for a reader or a writer of texts. -/
def encodingNamed (reader name : String) : Except Fault Text.Encoding :=
  if Text.Encoding.isOther name then .error (.otherEncoding name reader)
  else match Text.Encoding.ofName? name with
    | some e => .ok e
    | none => .error (.unknownEncoding name)

end Curly
