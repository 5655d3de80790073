import TreeAssembly.Location

/-!
# Build errors

A build fails for one of two reasons.  A *structural* fault means that the events or
their order are inconsistent: a stack is empty when something must be taken from it, a
list asks for more items than there are, something is left over at the end.  A parser
that drives the builder correctly never causes one.  A *source* fault means that the
program uses something this layer does not accept, such as a malformed number or an
unknown operator.

Each fault is a constructor with the data its message needs, and `message` holds all the
wording in one place.  A source fault always has a location; a structural fault has one
when it arose from an event.
-/

namespace TreeAssembly

/-- The working piles of the builder, named as messages name them. -/
inductive Pile where
  | expression
  | expressionList
  | keyValue
  | keyValueList
  | annotationFrame
  | annotationList
  | block
  | ifElse
  | type
  | packageName
  | symbolName
  deriving DecidableEq, Repr

/-- How messages name a stack. -/
def Pile.word : Pile → String
  | .expression => "expression"
  | .expressionList => "expression list"
  | .keyValue => "key-value"
  | .keyValueList => "key-value list"
  | .annotationFrame => "annotation"
  | .annotationList => "annotation list"
  | .block => "block"
  | .ifElse => "if/else"
  | .type => "type"
  | .packageName => "package name"
  | .symbolName => "symbol name"

/-- The constructs that an event may close in the wrong place. -/
inductive Placement where
  | parameter
  | returnTypes
  | returnParameter
  | variableDecl
  | connectorDecl
  | unitBody
  | groupedUnit
  | structField
  deriving DecidableEq, Repr

/-- The construct's name and the container it must be in. -/
def Placement.words : Placement → String × String
  | .parameter => ("parameter", "a callable unit or group")
  | .returnTypes => ("return types", "a callable unit")
  | .returnParameter => ("return parameter", "a callable unit")
  | .variableDecl => ("variable declaration", "a callable unit or group")
  | .connectorDecl => ("connector declaration", "a callable unit or group")
  | .unitBody => ("callable unit body", "a callable unit")
  | .groupedUnit => ("resource or action", "a service or connector")
  | .structField => ("struct field", "a struct")

/-- The open slots that must be closed at the end of a build, in the order checked. -/
inductive Slot where
  | unit
  | group
  | struct
  deriving DecidableEq, Repr

/-- How messages name an open slot. -/
def Slot.word : Slot → String
  | .unit => "callable unit"
  | .group => "service or connector"
  | .struct => "struct"

/-- Inconsistent events or builder use. -/
inductive StructuralFault where
  | emptyStack (pile : Pile)
  | noOpen (pile : Pile)
  | emptyTypeQueue
  | listTooLong (count : Nat) (pile : Pile) (available : Nat)
  | unbalanced (pending : List (Nat × Pile))
  | unfinished (slot : Slot)
  | aborted
  | secondElse
  | misplaced (what : Placement)
  | reopened (slot : Slot)
  | noOpenUnit (name : String)
  | noOpenGroup (name : String)
  | noOpenStruct (name : String)
  | unitStillOpen (name : String)
  | connectorNames (varName : String)
  | fieldOfNonReference
  deriving DecidableEq, Repr

/-- The literal kinds whose text is read as a number. -/
inductive NumberKind where
  | int
  | long
  | float
  | double
  deriving DecidableEq, Repr

/-- How messages name a number kind. -/
def NumberKind.word : NumberKind → String
  | .int => "integer"
  | .long => "long"
  | .float => "float"
  | .double => "double"

/-- Constructs of the program that this layer rejects. -/
inductive SourceFault where
  | malformedNumber (kind : NumberKind) (text : String)
  | nullValue
  | unsupportedOperator (op : String)
  | malformedTemplate (token : String)
  | annotationValue
  deriving DecidableEq, Repr

/-- The message of a structural fault. -/
def StructuralFault.message : StructuralFault → String
  | .emptyStack p => p.word ++ " stack is empty"
  | .noOpen p => "no open " ++ p.word
  | .emptyTypeQueue => "type queue is empty"
  | .listTooLong count p available =>
    "list of " ++ toString count ++ " " ++ p.word ++ "(s) requested but only " ++
      toString available ++ " available"
  | .unbalanced pending =>
    "unbalanced build, still pending: " ++
      ", ".intercalate (pending.map fun (n, p) => toString n ++ " " ++ p.word)
  | .unfinished s => "unfinished " ++ s.word ++ " at end of build"
  | .aborted => "builder aborted by an earlier error"
  | .secondElse => "if/else already has an else clause"
  | .misplaced what => what.words.1 ++ " outside " ++ what.words.2
  | .reopened s => s.word ++ " started while another is open"
  | .noOpenUnit name => "no open callable unit for " ++ name
  | .noOpenGroup name => "no open service or connector for " ++ name
  | .noOpenStruct name => "no open struct for " ++ name
  | .unitStillOpen name => name ++ " finalized while one of its callable units is still open"
  | .connectorNames v => "connector declaration " ++ v ++ " needs two symbol names"
  | .fieldOfNonReference => "struct field access on a non-reference expression"

/-- The message of a source fault. -/
def SourceFault.message : SourceFault → String
  | .malformedNumber kind text => "malformed " ++ kind.word ++ " literal '" ++ text ++ "'"
  | .nullValue => "null values are not supported"
  | .unsupportedOperator op => "unsupported operator '" ++ op ++ "'"
  | .malformedTemplate token => "malformed template literal " ++ token
  | .annotationValue => "annotation values other than string literals are not supported"

/-- Why a build failed, and where. -/
inductive BuildError where
  | structural (fault : StructuralFault) (loc : Option Location)
  | source (fault : SourceFault) (loc : Location)
  deriving DecidableEq, Repr

namespace BuildError

/-- The error that every event after a failed one, and the final build, report. -/
def aborted : BuildError := .structural .aborted none

/-- Whether the events, rather than the program, are at fault. -/
def isStructural : BuildError → Bool
  | .structural .. => true
  | .source .. => false

/-- Where the error arose, when known. -/
def location : BuildError → Option Location
  | .structural _ loc => loc
  | .source _ loc => some loc

/-- The fault's message without its location. -/
def message : BuildError → String
  | .structural f _ => f.message
  | .source f _ => f.message

/-- The full text: `structural error: …` with ` at file:line` when the location is
known, or `… in file:line` for a source fault. -/
def display : BuildError → String
  | .structural f none => "structural error: " ++ f.message
  | .structural f (some loc) => "structural error: " ++ f.message ++ " at " ++ loc.display
  | .source f loc => f.message ++ " in " ++ loc.display

end BuildError

end TreeAssembly
