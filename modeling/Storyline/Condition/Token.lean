import Storyline.Failing
import Storyline.Number.Reading

namespace Storyline.Condition
open Text

inductive Operator where
  | or | and
  | strictEqual | strictUnequal | looseEqual | looseUnequal
  | less | lessEqual | greater | greaterEqual
  | add | subtract
  | multiply | divide | remainder
  deriving DecidableEq

def Operator.level : Operator → Nat
  | or => 0
  | and => 1
  | strictEqual | strictUnequal | looseEqual | looseUnequal => 2
  | less | lessEqual | greater | greaterEqual => 3
  | add | subtract => 4
  | multiply | divide | remainder => 5

inductive Symbol where
  | operator (o : Operator)
  | not
  | openParen | closeParen
  | openBracket | closeBracket
  | dot
  | comma
  deriving DecidableEq

def Operator.text : Operator → String
  | or => "||" | and => "&&"
  | strictEqual => "===" | strictUnequal => "!==" | looseEqual => "==" | looseUnequal => "!="
  | less => "<" | lessEqual => "<=" | greater => ">" | greaterEqual => ">="
  | add => "+" | subtract => "-"
  | multiply => "*" | divide => "/" | remainder => "%"

def Symbol.text : Symbol → String
  | operator o => o.text
  | not => "!"
  | openParen => "(" | closeParen => ")"
  | openBracket => "[" | closeBracket => "]"
  | dot => "." | comma => ","

def symbols : List Symbol :=
  [.operator .strictEqual, .operator .strictUnequal, .operator .looseEqual, .operator .looseUnequal,
   .operator .lessEqual, .operator .greaterEqual, .operator .and, .operator .or,
   .operator .subtract, .operator .add, .operator .multiply, .operator .divide,
   .operator .remainder, .operator .less, .operator .greater, .not, .openParen, .closeParen, .dot,
   .openBracket, .closeBracket, .comma]

inductive Lexeme where
  | number (n : Number)
  | text (s : String)
  | name (s : String)
  | symbol (s : Symbol)
  deriving DecidableEq

structure Token where
  lexeme : Lexeme
  position : Nat
  deriving DecidableEq

def Lexeme.display : Lexeme → String
  | number n => n.toText.toOption.getD ""
  | text s | name s => quoted s
  | symbol s => quoted s.text

inductive SyntaxFault where
  | unexpectedCharacter (c : Char) (position : Nat)
  | unexpectedToken (found : Lexeme) (position : Nat)
  | unexpectedEnd
  | expected (wanted : Symbol) (found : Option Lexeme)
  | expectedName (position : Nat)
  | expectedSeparator (position : Nat)
  | reservedName (name : String)
  | forbiddenMethod (name : String)
  | forbiddenCall
  | tooDeep
  | number (fault : NumberFault)
  deriving DecidableEq

namespace SyntaxFault

def message : SyntaxFault → String
  | unexpectedCharacter c position =>
    "Unexpected character " ++ quoted c.toString ++ " at position " ++ toString position
  | unexpectedToken found position =>
    "Unexpected token " ++ found.display ++ " at position " ++ toString position
  | unexpectedEnd => "Unexpected end of expression"
  | expected wanted found =>
    "Expected '" ++ wanted.text ++ "' but found " ++
      match found with
      | some l => l.display
      | none => "end of expression"
  | expectedName position => "Expected property name at position " ++ toString position
  | expectedSeparator position => "Expected ',' or ')' at position " ++ toString position
  | reservedName name => "Identifier '" ++ name ++ "' is not allowed"
  | forbiddenMethod name => "Calling '" ++ name ++ "' is not allowed"
  | forbiddenCall => "Function calls are not allowed in conditions"
  | tooDeep => "maximum recursion depth exceeded"
  | number fault => fault.message

def isForbidden : SyntaxFault → Bool
  | reservedName _ | forbiddenMethod _ | forbiddenCall => true
  | _ => false

end SyntaxFault

instance : Failing SyntaxFault :=
  .sorted (fun
    | .tooDeep => .tooDeep
    | .number f => Failing.sort f
    | f => if f.isForbidden then .forbidden else .malformed) SyntaxFault.message

def isNameStart (c : Char) : Bool := c.isAlpha || c == '_' || c == '$'

def isNameCharacter (c : Char) : Bool := isNameStart c || c.isDigit

/-- Two underscores lead to the inner workings of objects, so no name starts with them. -/
def isReserved (name : String) : Bool := "__".toList.isPrefixOf name.toList

/-- The character that an escape stands for; most stand for themselves. -/
def unescaped : Char → Char
  | 'n' => '\n'
  | 't' => '\t'
  | 'r' => '\r'
  | '0' => Char.ofNat 0
  | c => c

/-- The characters of a string up to its closing quote, and how many of the text they take with
the quote. A backslash at the end of a line closes nothing. -/
def stringBody (quote : Char) : List Char → Option (List Char × Nat)
  | [] => none
  | c :: rest =>
    if c == quote then some ([], 1)
    else if c == '\\' then
      match rest with
      | [] => none
      | e :: more =>
        if e == '\n' then none
        else (stringBody quote more).map fun (cs, n) => (unescaped e :: cs, n + 2)
    else (stringBody quote rest).map fun (cs, n) => (c :: cs, n + 1)

def powerLength : List Char → Nat
  | e :: rest =>
    if e == 'e' || e == 'E' then
      let signed : Nat := if rest.head?.any (fun c => c == '-' || c == '+') then 1 else 0
      let digits := ((rest.drop signed).takeWhile isDecimal).length
      if digits = 0 then 0 else 1 + signed + digits
    else 0
  | [] => 0

/-- How many characters a number takes: digits, then a point and digits, then a power of ten. -/
def numberLength (cs : List Char) : Nat :=
  let whole := (cs.takeWhile isDecimal).length
  let fraction := match cs.drop whole with
    | '.' :: rest => 1 + (rest.takeWhile isDecimal).length
    | _ => 0
  whole + fraction + powerLength (cs.drop (whole + fraction))

/-- Digits alone are an integer; a point or a power of ten makes a double. -/
def numberOf (cs : List Char) : Except NumberFault Number :=
  if cs.all isDecimal then (Reading.integer (String.ofList cs)).map .int
  else .ok (.double (((Reading.decimal? cs).map (Double.ofDecimal false)).getD .nan))

def startsNumber (c : Char) (rest : List Char) : Bool :=
  isDecimal c || (c == '.' && rest.head?.any isDecimal)

/-- The lexeme at the front of a text, if it is not a blank, and how many characters belong to it
behind the first. -/
def scan (position : Nat) (c : Char) (rest : List Char) :
    Except SyntaxFault (Option Lexeme × Nat) :=
  if isBlank c then .ok (none, 0)
  else if startsNumber c rest then
    let length := numberLength (c :: rest)
    match numberOf ((c :: rest).take length) with
    | .ok n => .ok (some (.number n), length - 1)
    | .error fault => .error (.number fault)
  else if c == '"' || c == '\'' then
    match stringBody c rest with
    | some (cs, length) => .ok (some (.text (String.ofList cs)), length)
    | none => .error (.unexpectedCharacter c position)
  else if isNameStart c then
    let more := rest.takeWhile isNameCharacter
    let name := String.ofList (c :: more)
    if isReserved name then .error (.reservedName name) else .ok (some (.name name), more.length)
  else
    match symbols.find? fun s => s.text.toList.isPrefixOf (c :: rest) with
    | some s => .ok (some (.symbol s), s.text.length - 1)
    | none => .error (.unexpectedCharacter c position)

/-- The tokens of a text whose first character has the given position. The next characters to be
skipped belong to the token before them. -/
def tokensFrom (position skipped : Nat) : List Char → Except SyntaxFault (List Token)
  | [] => .ok []
  | c :: rest =>
    match skipped with
    | skipped + 1 => tokensFrom (position + 1) skipped rest
    | 0 =>
      match scan position c rest with
      | .error fault => .error fault
      | .ok (none, further) => tokensFrom (position + 1) further rest
      | .ok (some lexeme, further) =>
        (tokensFrom (position + 1) further rest).map (⟨lexeme, position⟩ :: ·)

def tokens (expression : String) : Except SyntaxFault (List Token) :=
  tokensFrom 0 0 expression.toList

end Storyline.Condition
