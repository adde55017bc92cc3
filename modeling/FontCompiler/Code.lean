import FontCompiler.Text.Lowercase

/-!
# Generated code

Generated members are placed into the body of a class, so they start at the
member indent of two levels and their statements stand one level deeper.  The
module holds the text under construction and the rule for identifiers.
-/

namespace FontCompiler

/-- Code under construction; text is only ever added at its end. -/
structure Code where
  text : String
  deriving DecidableEq, Repr, Inhabited

namespace Code

/-- The comment that opens every generated member. -/
def header : String :=
  "// Generated code. Do not modify. See the associated PDFFonts projects."

/-- The indent of members. -/
def memberIndent : Nat := 8

/-- The indent of statements in a member. -/
def statementIndent : Nat := memberIndent + 4

/-- No code. -/
def empty : Code := ⟨""⟩

/-- Blanks of a given number. -/
def blanks (count : Nat) : String :=
  String.ofList (List.replicate count ' ')

/-- Adds a text as it is. -/
def push (code : Code) (text : String) : Code :=
  ⟨code.text ++ text⟩

/-- Adds an indent. -/
def indent (code : Code) (count : Nat) : Code :=
  code.push (blanks count)

/-- Adds an empty line. -/
def blank (code : Code) : Code :=
  code.push "\n"

/-- Adds an indented line. -/
def line (code : Code) (count : Nat) (text : String) : Code :=
  ((code.indent count).push text).blank

/-- Adds other code. -/
def append (code other : Code) : Code :=
  code.push other.text

/-- Whether a character may open an identifier. -/
def isIdentifierStart (char : Char) : Bool :=
  ('A' ≤ char && char ≤ 'Z') || ('a' ≤ char && char ≤ 'z') || char == '_'

/-- Whether a character may stand in an identifier. -/
def isIdentifierPart (char : Char) : Bool :=
  isIdentifierStart char || ('0' ≤ char && char ≤ '9')

/-- Whether a text is an identifier: ASCII letters, digits and underscores, no digit first. -/
def isIdentifier (text : String) : Bool :=
  match text.toList with
  | [] => false
  | first :: others => isIdentifierStart first && others.all isIdentifierPart

end Code

end FontCompiler
