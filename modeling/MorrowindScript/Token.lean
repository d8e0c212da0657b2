import MorrowindScript.Variable

/-!
# Operators and line kinds

The words of the script language. Every statement takes one line, and the keyword it starts with
says what kind of line it is; lines without a keyword are calls.

* `Arithmetic`, `Relation`: the operators of expressions and conditions.
* `LineKind`: the kinds of lines.
* `Token`: all of them under their numbers.
-/

namespace MorrowindScript

/-- The arithmetic operators. -/
inductive Arithmetic where
  /-- Addition. -/
  | add
  /-- Subtraction. -/
  | sub
  /-- Multiplication. -/
  | mul
  /-- Division. -/
  | div
  deriving DecidableEq, Repr

namespace Arithmetic

/-- The byte that spells the operator, in source and in compiled scripts alike. -/
def byte : Arithmetic → UInt8
  | add => 0x2B
  | sub => 0x2D
  | mul => 0x2A
  | div => 0x2F

/-- The operator a byte spells. -/
def ofByte? (c : UInt8) : Option Arithmetic :=
  if c == 0x2B then some add
  else if c == 0x2D then some sub
  else if c == 0x2A then some mul
  else if c == 0x2F then some div
  else none

/-- Addition and subtraction. -/
def isAdditive : Arithmetic → Bool
  | add | sub => true
  | mul | div => false

/-- Multiplication and division. -/
def isMultiplicative (op : Arithmetic) : Bool :=
  !op.isAdditive

/-- An operator found after `earlier` in an expression binds no tighter than it. -/
def bindsNoTighter (later earlier : Arithmetic) : Bool :=
  later.isAdditive || earlier.isMultiplicative

end Arithmetic

/-- The operators of a comparison. -/
inductive Relation where
  /-- Equal. -/
  | eq
  /-- Not equal. -/
  | ne
  /-- Less. -/
  | lt
  /-- Less or equal. -/
  | le
  /-- Greater. -/
  | gt
  /-- Greater or equal. -/
  | ge
  deriving DecidableEq, Repr

/-- The spelling of a relation, in source and in compiled scripts alike. -/
def Relation.name : Relation → String
  | eq => "=="
  | ne => "!="
  | lt => "<"
  | le => "<="
  | gt => ">"
  | ge => ">="

/-- The bytes that spell a relation. -/
def Relation.bytes (r : Relation) : Bytes :=
  ascii r.name

/-- The kinds of lines after the first. -/
inductive LineKind where
  /-- Declares a local variable. -/
  | declaration (kind : LocalKind)
  /-- Assigns a variable. -/
  | assignment
  /-- Offers choices in a dialogue. -/
  | choice
  /-- Leaves the script for this frame. -/
  | returning
  /-- Opens a conditional. -/
  | ifBranch
  /-- Continues a conditional with a further condition. -/
  | elseIfBranch
  /-- Continues a conditional without a condition. -/
  | elseBranch
  /-- Closes a conditional. -/
  | ifEnd
  /-- Opens a loop. -/
  | whileLoop
  /-- Closes a loop. -/
  | whileEnd
  /-- Ends the script. -/
  | scriptEnd
  /-- Calls a command on a named object. -/
  | qualifiedCall
  /-- Calls a command. -/
  | call
  deriving DecidableEq, Repr

namespace LineKind

/-- The keyword of the line, or a description of a line without one. -/
def name : LineKind → String
  | declaration kind => kind.name
  | assignment => "set"
  | choice => "choice"
  | returning => "return"
  | ifBranch => "if"
  | elseIfBranch => "elseif"
  | elseBranch => "else"
  | ifEnd => "endif"
  | whileLoop => "while"
  | whileEnd => "endwhile"
  | scriptEnd => "end"
  | qualifiedCall => "<qualified call>"
  | call => "<call>"

/-- The line starts with a keyword. -/
def hasKeyword : LineKind → Bool
  | qualifiedCall | call => false
  | _ => true

/-- Where the operand of the line starts: after the keyword and one separator. Lines without an
operand have offset zero. -/
def operandOffset : LineKind → Nat
  | declaration .short | declaration .float | whileLoop => 6
  | declaration .long => 5
  | assignment => 4
  | ifBranch => 3
  | elseIfBranch | choice => 7
  | _ => 0

end LineKind

/-- The words of the language under their numbers. -/
inductive Token where
  /-- No word at all. -/
  | illegal
  /-- An arithmetic operator. -/
  | arithmetic (op : Arithmetic)
  /-- The operator of a comparison. -/
  | relation (r : Relation)
  /-- The keyword of the first line. -/
  | scriptBegin
  /-- A line after the first. -/
  | line (kind : LineKind)
  /-- A number that names no word. -/
  | unassigned (number : UInt8)
  deriving DecidableEq, Repr

namespace Token

/-- The tokens in order of their numbers; the gaps separate the groups. -/
def numbered : List (Option Token) :=
  [some illegal,
    none, some (arithmetic .add), some (arithmetic .sub), some (arithmetic .mul),
    some (arithmetic .div), some (relation .eq), some (relation .ne), some (relation .lt),
    some (relation .le), some (relation .gt), some (relation .ge), none,
    none, some scriptBegin, some (line (.declaration .short)), some (line (.declaration .long)),
    some (line (.declaration .float)), some (line .assignment), some (line .choice),
    some (line .returning), some (line .ifBranch), some (line .elseIfBranch),
    some (line .elseBranch), some (line .ifEnd), some (line .whileLoop), some (line .whileEnd),
    some (line .scriptEnd), none,
    some (line .qualifiedCall), some (line .call)]

/-- The token with the given number. -/
def ofNumber (number : UInt8) : Token :=
  (numbered[number.toNat]?.join).getD (unassigned number)

/-- The spelling of the token. -/
def name : Token → String
  | illegal => "<illegal>"
  | arithmetic .add => "+"
  | arithmetic .sub => "-"
  | arithmetic .mul => "*"
  | arithmetic .div => "/"
  | relation r => r.name
  | scriptBegin => "begin"
  | line kind => kind.name
  | unassigned _ => "<unknown>"

/-- Arithmetic and relational operators. -/
def isOperator : Token → Bool
  | arithmetic _ | relation _ => true
  | _ => false

/-- The words that start a line. -/
def isKeyword : Token → Bool
  | scriptBegin => true
  | line kind => kind.hasKeyword
  | _ => false

/-- The words that start a declaration. -/
def isDeclaration : Token → Bool
  | line (.declaration _) => true
  | _ => false

/-- The operators of comparisons. -/
def isRelational : Token → Bool
  | relation _ => true
  | _ => false

/-- Addition and subtraction. -/
def isAdditive : Token → Bool
  | arithmetic op => op.isAdditive
  | _ => false

/-- Multiplication and division. -/
def isMultiplicative : Token → Bool
  | arithmetic op => op.isMultiplicative
  | _ => false

/-- The bytes that spell an operator; other tokens have none. -/
def bytes (token : Token) : Bytes :=
  if token.isOperator then ascii token.name else []

/-- Where the operand of a line that starts with the token begins. -/
def operandOffset : Token → Nat
  | scriptBegin => 6
  | line kind => kind.operandOffset
  | _ => 0

/-- The arithmetic operator a byte spells, or no word. -/
def ofByte (c : UInt8) : Token :=
  match Arithmetic.ofByte? c with
  | some op => arithmetic op
  | none => illegal

/-- The precedence test on arbitrary tokens: equal tokens and additive ones bind no tighter than an
earlier token, any other only if the earlier one is multiplicative. -/
def bindsNoTighter (later earlier : Token) : Bool :=
  later == earlier || later.isAdditive || earlier.isMultiplicative

end Token

end MorrowindScript
