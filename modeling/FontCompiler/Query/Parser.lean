import FontCompiler.Query.Term
import FontCompiler.Query.Token

/-!
# Reading terms

Operands and the operators between them are read as a chain first, and the
chain is then grouped by precedence.  Pipes and bindings bind least, then
commas, assignments, alternatives, `or`, `and`, equality, order, sums, products
and remainders.  Pipes, bindings and assignments are grouped to the right, all
other operators to the left.
-/

namespace FontCompiler.Query

/-- What stands between two operands. -/
inductive Link
  | operator (operator : Operator)
  /-- Binds the outputs of the left operand in the right one. -/
  | binding (pattern : Pattern)

namespace Operator

/-- How strongly an operator binds. -/
def precedence : Operator → Nat
  | .pipe => 0
  | .comma => 1
  | .assignment _ => 2
  | .alternative => 3
  | .or => 4
  | .and => 5
  | .comparison .equal => 6
  | .comparison .unequal => 6
  | .comparison _ => 7
  | .arithmetic .add => 8
  | .arithmetic .subtract => 8
  | .arithmetic .multiply => 9
  | .arithmetic .divide => 9
  | .arithmetic .remainder => 10

/-- Whether operators of the same strength are grouped to the right. -/
def groupsRight : Operator → Bool
  | .pipe => true
  | .assignment _ => true
  | _ => false

/-- The operator that a symbol denotes. -/
def ofSymbol? : String → Option Operator
  | "|" => some .pipe
  | "," => some .comma
  | "=" => some (.assignment .assign)
  | "|=" => some (.assignment .update)
  | "+=" => some (.assignment (.arithmetic .add))
  | "-=" => some (.assignment (.arithmetic .subtract))
  | "*=" => some (.assignment (.arithmetic .multiply))
  | "/=" => some (.assignment (.arithmetic .divide))
  | "%=" => some (.assignment (.arithmetic .remainder))
  | "//=" => some (.assignment .alternative)
  | "//" => some .alternative
  | "==" => some (.comparison .equal)
  | "!=" => some (.comparison .unequal)
  | "<" => some (.comparison .less)
  | "<=" => some (.comparison .notGreater)
  | ">" => some (.comparison .greater)
  | ">=" => some (.comparison .notLess)
  | "+" => some (.arithmetic .add)
  | "-" => some (.arithmetic .subtract)
  | "*" => some (.arithmetic .multiply)
  | "/" => some (.arithmetic .divide)
  | "%" => some (.arithmetic .remainder)
  | _ => none

/-- The operator that a token denotes. -/
def ofToken? : Token → Option Operator
  | .symbol text => ofSymbol? text
  | .word "or" => some .or
  | .word "and" => some .and
  | _ => none

end Operator

namespace Link

/-- How strongly a link binds. -/
def precedence : Link → Nat
  | .operator sign => sign.precedence
  | .binding _ => 0

/-- Whether links of the same strength are grouped to the right. -/
def groupsRight : Link → Bool
  | .operator sign => sign.groupsRight
  | .binding _ => true

/-- The term of a link and its operands. -/
def join (left : Term) (link : Link) (right : Term) : Term :=
  match link with
  | .operator sign => .binary sign left right
  | .binding pattern => .binding left pattern right

end Link

/-- Groups a chain from its first operand on, as far as its links bind at least as strongly
as required. -/
def group : (fuel : Nat) → (least : Nat) → Term → List (Link × Term) →
    Term × List (Link × Term)
  | 0, _, left, chain => (left, chain)
  | _, _, left, [] => (left, [])
  | fuel + 1, least, left, (link, right) :: chain =>
    if link.precedence < least then (left, (link, right) :: chain)
    else
      let inner := if link.groupsRight then link.precedence else link.precedence + 1
      let (right, chain) := group fuel inner right chain
      group fuel least (link.join left right) chain

/-- The term of a whole chain. -/
def groupAll (left : Term) (chain : List (Link × Term)) : Term :=
  (group (chain.length + 1) 0 left chain).1

namespace Parser

/-- The words that start a construct.  All other words can name a filter; those inside a
construct are told from names by their place. -/
def leadingWords : List String :=
  ["def", "if", "try", "label", "break", "reduce", "foreach"]

/-- The words that ask for another file when a filter starts with them. -/
def fileWords : List String :=
  ["module", "import", "include"]

/-- Skips a symbol. -/
def expectSymbol (text : String) : List Token → Option (List Token)
  | .symbol other :: tokens => if other = text then some tokens else none
  | _ => none

/-- Skips a word. -/
def expectWord (name : String) : List Token → Option (List Token)
  | .word other :: tokens => if other = name then some tokens else none
  | _ => none

/-- Skips a question mark if there is one, and tells whether there was. -/
def optionalMark (tokens : List Token) : Bool × List Token :=
  match expectSymbol "?" tokens with
  | some rest => (true, rest)
  | none => (false, tokens)

/-- The name behind a dot, if the symbol has one. -/
def dottedName? (text : String) : Option String :=
  match text.toList with
  | '.' :: char :: chars =>
    if Token.startsName char then some (String.ofList (char :: chars)) else none
  | _ => none

/-- The parameters of a definition. -/
def parameters : List Token → Option (List Parameter)
  | [.word name] => some [.filter name]
  | [.variable name] => some [.variable name]
  | .word name :: .symbol ";" :: tokens => do return .filter name :: (← parameters tokens)
  | .variable name :: .symbol ";" :: tokens => do return .variable name :: (← parameters tokens)
  | _ => none

mutual

/-- Reads a term; commas are left alone where they separate the entries of an object. -/
def term : (fuel : Nat) → (commas : Bool) → List Token → Option (Term × List Token)
  | 0, _, _ => none
  | fuel + 1, commas, tokens => do
    let (left, tokens) ← operand fuel tokens
    let (chain, tokens) ← links fuel commas tokens
    return (groupAll left chain, tokens)

/-- Reads the links of a chain with their right operands. -/
def links : (fuel : Nat) → (commas : Bool) → List Token →
    Option (List (Link × Term) × List Token)
  | 0, _, _ => none
  | fuel + 1, commas, tokens =>
    let proceed (link : Link) (tokens : List Token) :
        Option (List (Link × Term) × List Token) := do
      let (right, tokens) ← operand fuel tokens
      let (chain, tokens) ← links fuel commas tokens
      return ((link, right) :: chain, tokens)
    match tokens with
    | [] => some ([], [])
    | .word "as" :: rest => do
      let (pattern, rest) ← pattern fuel rest
      proceed (.binding pattern) (← expectSymbol "|" rest)
    | token :: rest =>
      match Operator.ofToken? token with
      | none => some ([], tokens)
      | some operator =>
        if operator = .comma ∧ !commas then some ([], tokens)
        else proceed (.operator operator) rest

/-- Reads a term that takes up all tokens. -/
def whole : (fuel : Nat) → List Token → Option Term
  | 0, _ => none
  | fuel + 1, tokens =>
    match term fuel true tokens with
    | some (term, []) => some term
    | _ => none

/-- Reads terms between semicolons that take up all tokens. -/
def arguments : (fuel : Nat) → List Token → Option (List Term)
  | 0, _ => none
  | fuel + 1, tokens =>
    match term fuel true tokens with
    | some (argument, []) => some [argument]
    | some (argument, .symbol ";" :: rest) => do return argument :: (← arguments fuel rest)
    | _ => none

/-- Reads the pieces of a text. -/
def pieces : (fuel : Nat) → List TextToken → Option (List Piece)
  | 0, _ => none
  | _, [] => some []
  | fuel + 1, .chars text :: tokens => do return .chars text :: (← pieces fuel tokens)
  | fuel + 1, .insertion inner :: tokens => do
    return .term (← whole fuel inner) :: (← pieces fuel tokens)

/-- Reads what stands in the square brackets of a path. -/
def bracketPart : (fuel : Nat) → List Token → Option Part
  | 0, _ => none
  | _, [] => some (.items false)
  | fuel + 1, .symbol ":" :: rest => do return .slice none (some (← whole fuel rest)) false
  | fuel + 1, tokens =>
    match term fuel true tokens with
    | some (key, []) => some (.key key false)
    | some (first, [.symbol ":"]) => some (.slice (some first) none false)
    | some (first, .symbol ":" :: rest) => do
      return .slice (some first) (some (← whole fuel rest)) false
    | _ => none

/-- Reads the steps of a path. -/
def parts : (fuel : Nat) → List Token → Option (List Part × List Token)
  | 0, _ => none
  | fuel + 1, tokens =>
    let proceed (part : Part) (tokens : List Token) : Option (List Part × List Token) := do
      let (mark, tokens) := optionalMark tokens
      let (others, tokens) ← parts fuel tokens
      return ((if mark then part.forgiving else part) :: others, tokens)
    match tokens with
    | .symbol "." :: .text inner :: rest => do
      proceed (.key (.text (← pieces fuel inner)) false) rest
    | .block .square inner :: rest => do proceed (← bracketPart fuel inner) rest
    | .symbol text :: rest =>
      match dottedName? text with
      | some name => proceed (.key (.ofText name) false) rest
      | none => some ([], tokens)
    | _ => some ([], tokens)

/-- Reads what may stand behind an operand: steps and question marks. -/
def suffix : (fuel : Nat) → Term → List Token → Option (Term × List Token)
  | 0, _, _ => none
  | fuel + 1, source, tokens => do
    let (steps, tokens) ← parts fuel tokens
    let source := if steps.isEmpty then source else .path source steps
    match optionalMark tokens with
    | (true, tokens) => suffix fuel (.attempt source .nothing) tokens
    | (false, tokens) => return (source, tokens)

/-- Reads the entries of an object; a comma may follow the last one. -/
def entries : (fuel : Nat) → List Token → Option (List (Term × Option Term))
  | 0, _ => none
  | fuel + 1, tokens =>
    let proceed (key : Term) (value : Option Term) (tokens : List Token) :
        Option (List (Term × Option Term)) :=
      match tokens with
      | [] => some [(key, value)]
      | [.symbol ","] => some [(key, value)]
      | .symbol "," :: tokens => do return (key, value) :: (← entries fuel tokens)
      | _ => none
    let withValue (key : Term) (tokens : List Token) : Option (List (Term × Option Term)) := do
      let (value, tokens) ← term fuel false tokens
      proceed key (some value) tokens
    match tokens with
    | .word name :: .symbol ":" :: rest => withValue (.ofText name) rest
    | .word name :: rest => proceed (.ofText name) none rest
    | .text inner :: .symbol ":" :: rest => do withValue (.text (← pieces fuel inner)) rest
    | .text inner :: rest => do proceed (.text (← pieces fuel inner)) none rest
    | .variable name :: .symbol ":" :: rest => withValue (.variable name) rest
    | .variable name :: rest => proceed (.ofText name) (some (.variable name)) rest
    | .block .round inner :: .symbol ":" :: rest => do withValue (← whole fuel inner) rest
    | _ => none

/-- Reads a pattern. -/
def pattern : (fuel : Nat) → List Token → Option (Pattern × List Token)
  | 0, _ => none
  | _, .variable name :: rest => some (.variable name, rest)
  | fuel + 1, .block .square inner :: rest => do return (.array (← patterns fuel inner), rest)
  | fuel + 1, .block .curly inner :: rest => do
    return (.object (← patternEntries fuel inner), rest)
  | _, _ => none

/-- Reads the patterns of the items of an array. -/
def patterns : (fuel : Nat) → List Token → Option (List Pattern)
  | 0, _ => none
  | fuel + 1, tokens =>
    match pattern fuel tokens with
    | some (item, []) => some [item]
    | some (item, .symbol "," :: rest) => do return item :: (← patterns fuel rest)
    | _ => none

/-- Reads the patterns of the entries of an object; a comma may follow the last one. -/
def patternEntries : (fuel : Nat) → List Token → Option (List (Term × Pattern))
  | 0, _ => none
  | fuel + 1, tokens =>
    let proceed (key : Term) (value : Pattern) (tokens : List Token) :
        Option (List (Term × Pattern)) :=
      match tokens with
      | [] => some [(key, value)]
      | [.symbol ","] => some [(key, value)]
      | .symbol "," :: tokens => do return (key, value) :: (← patternEntries fuel tokens)
      | _ => none
    let withValue (key : Term) (tokens : List Token) : Option (List (Term × Pattern)) := do
      let (value, tokens) ← pattern fuel (← expectSymbol ":" tokens)
      proceed key value tokens
    match tokens with
    | .variable name :: rest => proceed (.ofText name) (.variable name) rest
    | .word name :: rest => withValue (.ofText name) rest
    | .text inner :: rest => do withValue (.text (← pieces fuel inner)) rest
    | .block .round inner :: rest => do withValue (← whole fuel inner) rest
    | _ => none

/-- Reads a condition and what depends on it, from behind the first word on. -/
def conditional : (fuel : Nat) → List Token → Option (Term × List Token)
  | 0, _ => none
  | fuel + 1, tokens => do
    let (condition, tokens) ← term fuel true tokens
    let (yes, tokens) ← term fuel true (← expectWord "then" tokens)
    match tokens with
    | .word "end" :: rest => return (.conditional condition yes .identity, rest)
    | .word "else" :: rest =>
      let (no, rest) ← term fuel true rest
      return (.conditional condition yes no, ← expectWord "end" rest)
    | .word "elif" :: rest =>
      let (no, rest) ← conditional fuel rest
      return (.conditional condition yes no, rest)
    | _ => none

/-- Reads a definition, from behind its first word on. -/
def definition : (fuel : Nat) → List Token → Option (Definition × List Token)
  | 0, _ => none
  | fuel + 1, .word name :: .block .round inner :: rest => do
    let (body, rest) ← term fuel true (← expectSymbol ":" rest)
    return (.define name (← parameters inner) body, ← expectSymbol ";" rest)
  | fuel + 1, .word name :: rest => do
    let (body, rest) ← term fuel true (← expectSymbol ":" rest)
    return (.define name [] body, ← expectSymbol ";" rest)
  | _, _ => none

/-- Reads the source, the pattern and the arguments of a fold, which may be missing. -/
def fold : (fuel : Nat) → List Token → Option ((Term × Pattern × List Term) × List Token)
  | 0, _ => none
  | fuel + 1, tokens => do
    let (source, tokens) ← operand fuel tokens
    let (pattern, tokens) ← pattern fuel (← expectWord "as" tokens)
    match tokens with
    | .block .round inner :: rest => return ((source, pattern, ← arguments fuel inner), rest)
    | tokens => return ((source, pattern, []), tokens)

/-- Reads an operand. -/
def operand : (fuel : Nat) → List Token → Option (Term × List Token)
  | 0, _ => none
  | fuel + 1, tokens =>
    match tokens with
    | .symbol "-" :: rest => do
      let (negated, rest) ← operand fuel rest
      return (.negation negated, rest)
    | .symbol ".." :: rest => suffix fuel .descendants rest
    | .symbol "." :: .text _ :: _ => suffix fuel .identity tokens
    | .symbol "." :: rest => suffix fuel .identity rest
    | .symbol dotted :: _ => do
      let _ ← dottedName? dotted
      suffix fuel .identity tokens
    | .variable name :: rest => suffix fuel (.variable name) rest
    | .numeral digits :: rest => suffix fuel (.numeral digits) rest
    | .text inner :: rest => do suffix fuel (.text (← pieces fuel inner)) rest
    | .block .square [] :: rest => suffix fuel .emptyArray rest
    | .block .square inner :: rest => do suffix fuel (.array (← whole fuel inner)) rest
    | .block .curly [] :: rest => suffix fuel (.object []) rest
    | .block .curly inner :: rest => do suffix fuel (.object (← entries fuel inner)) rest
    | .block .round inner :: rest => do suffix fuel (← whole fuel inner) rest
    | .word "def" :: rest => do
      let (definition, rest) ← definition fuel rest
      let (body, rest) ← term fuel true rest
      return (.definition definition body, rest)
    | .word "if" :: rest => do
      let (conditional, rest) ← conditional fuel rest
      suffix fuel conditional rest
    | .word "try" :: rest => do
      let (body, rest) ← operand fuel rest
      match rest with
      | .word "catch" :: rest =>
        let (handler, rest) ← operand fuel rest
        return (.attempt body handler, rest)
      | rest => return (.attempt body .nothing, rest)
    | .word "label" :: .variable name :: rest => do
      let (body, rest) ← term fuel true (← expectSymbol "|" rest)
      return (.label name body, rest)
    | .word "break" :: .variable name :: rest => suffix fuel (.leave name) rest
    | .word "reduce" :: rest => do
      match ← fold fuel rest with
      | ((source, pattern, [start, update]), rest) =>
        suffix fuel (.reduce source pattern start update) rest
      | ((_, _, arguments), rest) => suffix fuel (.missing "reduce" arguments.length) rest
    | .word "foreach" :: rest => do
      match ← fold fuel rest with
      | ((source, pattern, [start, update]), rest) =>
        suffix fuel (.foreach source pattern start update .identity) rest
      | ((source, pattern, [start, update, extract]), rest) =>
        suffix fuel (.foreach source pattern start update extract) rest
      | ((_, _, arguments), rest) => suffix fuel (.missing "foreach" arguments.length) rest
    | .word name :: rest =>
      if leadingWords.contains name then none
      else
        match rest with
        | .block .round inner :: rest => do suffix fuel (.call name (← arguments fuel inner)) rest
        | rest => suffix fuel (.call name []) rest
    | _ => none

/-- Reads definitions that take up all tokens. -/
def definitions : (fuel : Nat) → List Token → Option (List Definition)
  | 0, _ => none
  | _, [] => some []
  | fuel + 1, .word "def" :: rest => do
    let (definition, rest) ← definition fuel rest
    return definition :: (← definitions fuel rest)
  | _, _ => none

end

/-- More steps than the reading of a text can take. -/
def fuelFor (text : String) : Nat :=
  8 * text.length + 16

end Parser

/-- The term that a text denotes; there are no other files that it could ask for. -/
def Term.ofSource? (source : String) : Option Term := do
  let tokens ← Token.ofText? source
  match tokens with
  | .word name :: _ =>
    if Parser.fileWords.contains name then none
    else Parser.whole (Parser.fuelFor source) tokens
  | _ => Parser.whole (Parser.fuelFor source) tokens

/-- The definitions that a text consists of. -/
def Definition.ofSource? (source : String) : Option (List Definition) := do
  Parser.definitions (Parser.fuelFor source) (← Token.ofText? source)

end FontCompiler.Query
