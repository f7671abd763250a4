import Storyline.Condition.Expression

namespace Storyline.Condition

def unexpected : List Token → SyntaxFault
  | [] => .unexpectedEnd
  | t :: _ => .unexpectedToken t.lexeme t.position

def expect (wanted : Symbol) : List Token → Except SyntaxFault (List Token)
  | [] => .error (.expected wanted none)
  | t :: rest =>
    if t.lexeme = .symbol wanted then .ok rest else .error (.expected wanted (some t.lexeme))

def literalName? : String → Option Literal
  | "true" => some (.bool true)
  | "false" => some (.bool false)
  | "null" => some .null
  | "undefined" => some .undefined
  | _ => none

def ofName (s : String) : Expression :=
  match literalName? s with
  | some l => .literal l
  | none => .name s

def signOf? : Lexeme → Option Sign
  | .symbol .not => some .not
  | .symbol (.operator .subtract) => some .minus
  | .symbol (.operator .add) => some .plus
  | _ => none

def operatorOf? : Lexeme → Option Operator
  | .symbol (.operator o) => some o
  | _ => none

def methodName : String := "includes"

/-- How much a pair of brackets adds to the depth of an expression; a sign adds one. -/
def bracketDepth : Nat := 10

/-- Expressions deeper than this are refused. It stands for the stack that is left to the parser,
and is the same for every caller. -/
def maxDepth : Nat := 950

section
variable (endAt : Nat)

mutual

/-- An expression at the front of the tokens, no deeper than `depth`. Each step uses up one unit
of fuel. -/
def parseExpression : Nat → (depth : Nat) → List Token → Except SyntaxFault (Expression × List Token)
  | 0, _, _ => .error .tooDeep
  | fuel + 1, depth, ts => do
    let (first, rest) ← parseOperand fuel depth ts
    let (tail, rest) ← parseTail fuel depth rest
    return (group first tail, rest)

def parseTail : Nat → (depth : Nat) → List Token → Except SyntaxFault (Tail × List Token)
  | 0, _, _ => .error .tooDeep
  | _, _, [] => .ok ([], [])
  | fuel + 1, depth, t :: rest =>
    match operatorOf? t.lexeme with
    | none => .ok ([], t :: rest)
    | some o => do
      let (operand, rest) ← parseOperand fuel depth rest
      let (tail, rest) ← parseTail fuel depth rest
      return ((o, operand) :: tail, rest)

def parseOperand : Nat → (depth : Nat) → List Token → Except SyntaxFault (Expression × List Token)
  | 0, _, _ => .error .tooDeep
  | fuel + 1, depth, ts =>
    match ts with
    | [] => .error .unexpectedEnd
    | t :: rest =>
      match signOf? t.lexeme with
      | some s =>
        if depth = 0 then .error .tooDeep
        else do
          let (operand, rest) ← parseOperand fuel (depth - 1) rest
          return (.sign s operand, rest)
      | none => do
        let (primary, rest) ← parsePrimary fuel depth ts
        parseAccess fuel depth primary rest

def parsePrimary : Nat → (depth : Nat) → List Token → Except SyntaxFault (Expression × List Token)
  | 0, _, _ => .error .tooDeep
  | fuel + 1, depth, ts =>
    match ts with
    | ⟨.number n, _⟩ :: rest => .ok (.literal (.number n), rest)
    | ⟨.text s, _⟩ :: rest => .ok (.literal (.text s), rest)
    | ⟨.name s, _⟩ :: rest => .ok (ofName s, rest)
    | ⟨.symbol .openParen, _⟩ :: rest =>
      if depth < bracketDepth then .error .tooDeep
      else do
        let (inner, rest) ← parseExpression fuel (depth - bracketDepth) rest
        return (inner, ← expect .closeParen rest)
    | ts => .error (unexpected ts)

def parseAccess : Nat → (depth : Nat) → Expression → List Token →
    Except SyntaxFault (Expression × List Token)
  | 0, _, _, _ => .error .tooDeep
  | fuel + 1, depth, target, ts =>
    match ts with
    | ⟨.symbol .dot, _⟩ :: rest =>
      match rest with
      | [] => .error (.expectedName endAt)
      | ⟨.name s, _⟩ :: ⟨.symbol .openParen, _⟩ :: rest =>
        if s != methodName then .error (.forbiddenMethod s)
        else if depth < bracketDepth then .error .tooDeep
        else do
          let (arguments, rest) ← parseArguments fuel (depth - bracketDepth) rest
          parseAccess fuel depth (.includes target arguments) rest
      | ⟨.name s, _⟩ :: rest => parseAccess fuel depth (.member target (.literal (.text s))) rest
      | t :: _ => .error (.expectedName t.position)
    | ⟨.symbol .openBracket, _⟩ :: rest =>
      if depth < bracketDepth then .error .tooDeep
      else do
        let (key, rest) ← parseExpression fuel (depth - bracketDepth) rest
        let rest ← expect .closeBracket rest
        parseAccess fuel depth (.member target key) rest
    | ⟨.symbol .openParen, _⟩ :: _ => .error .forbiddenCall
    | ts => .ok (target, ts)

def parseArguments : Nat → (depth : Nat) → List Token →
    Except SyntaxFault (List Expression × List Token)
  | 0, _, _ => .error .tooDeep
  | fuel + 1, depth, ts =>
    match ts with
    | ⟨.symbol .closeParen, _⟩ :: rest => .ok ([], rest)
    | ts => parseArgumentList fuel depth ts

def parseArgumentList : Nat → (depth : Nat) → List Token →
    Except SyntaxFault (List Expression × List Token)
  | 0, _, _ => .error .tooDeep
  | fuel + 1, depth, ts => do
    let (argument, rest) ← parseExpression fuel depth ts
    match rest with
    | [] => .error (.expectedSeparator endAt)
    | ⟨.symbol .closeParen, _⟩ :: rest => return ([argument], rest)
    | ⟨.symbol .comma, _⟩ :: rest =>
      let (arguments, rest) ← parseArgumentList fuel depth rest
      return (argument :: arguments, rest)
    | t :: _ => .error (.expectedSeparator t.position)

end
end

def parseFuel (tokens : Nat) : Nat := 4 * tokens + 4

/-- The expression that all the tokens of a text make up; `endAt` is where the text ends. -/
def parse (endAt : Nat) (ts : List Token) : Except SyntaxFault Expression := do
  let (e, rest) ← parseExpression endAt (parseFuel ts.length) maxDepth ts
  match rest with
  | [] => return e
  | rest => .error (unexpected rest)

def compile (text : String) : Except SyntaxFault Expression := do
  parse text.length (← tokens text)

end Storyline.Condition
