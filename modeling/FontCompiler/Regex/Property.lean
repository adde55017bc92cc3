import FontCompiler.Text.Blank
import FontCompiler.Text.Letters
import FontCompiler.Text.Script

/-!
# Properties of characters

The properties that a pattern can name.  Names are compared without regard to
case, blanks, hyphens, underscores and a leading `is`.  The general categories
go by a short and a long name, alone or in groups.
-/

namespace FontCompiler.Regex

/-- A property of characters. -/
inductive Property
  | any
  | ascii
  | alphabetic
  | uppercase
  | lowercase
  | blank
  | wordPart
  | category (members : List Text.Category)
  | script (script : Text.Script)
  deriving DecidableEq, Repr

namespace Property

/-- Whether a character has a property. -/
def holds (property : Property) (char : Char) : Bool :=
  match property with
  | .any => true
  | .ascii => char.toNat < 0x80
  | .alphabetic => Text.isAlphabetic char
  | .uppercase => Text.isUppercase char
  | .lowercase => Text.isLowercase char
  | .blank => Text.isBlank char
  | .wordPart => Text.isWordPart char
  | .category members => members.contains (Text.category char)
  | .script system => Text.liesIn system.intervals char

/-- A name without the differences that do not count. -/
def normalize (name : String) : String :=
  let isKept (char : Char) : Bool :=
    char.toNat < 0x80 && !Text.isBlank char && char ≠ '-' && char ≠ '_'
  let chars := (name.toList.filter isKept).map Char.toLower
  match chars with
  | 'i' :: 's' :: rest => if rest = ['c'] then "isc" else String.ofList rest
  | _ => String.ofList chars

/-- The categories that are letters whose case can be told. -/
def casedLetters : List Text.Category :=
  [.lu, .ll, .lt]

/-- The categories of letters. -/
def letters : List Text.Category :=
  casedLetters ++ [.lm, .lo]

/-- The categories of control codes, format characters, and code points that are no characters. -/
def others : List Text.Category :=
  [.cc, .cf, .cs, .co, .cn]

/-- All categories of assigned characters. -/
def assigned : List Text.Category :=
  letters ++ [.mn, .mc, .me, .nd, .nl, .no, .pc, .pd, .ps, .pe, .pi, .pf, .po, .sm, .sc, .sk, .so,
    .zs, .zl, .zp, .cc, .cf, .cs, .co]

/-- The categories that a normalized name stands for. -/
def categories? : String → Option (List Text.Category)
  | "lu" | "uppercaseletter" => some [.lu]
  | "ll" | "lowercaseletter" => some [.ll]
  | "lt" | "titlecaseletter" => some [.lt]
  | "lm" | "modifierletter" => some [.lm]
  | "lo" | "otherletter" => some [.lo]
  | "lc" | "casedletter" => some casedLetters
  | "l" | "letter" => some letters
  | "mn" | "nonspacingmark" => some [.mn]
  | "mc" | "spacingmark" => some [.mc]
  | "me" | "enclosingmark" => some [.me]
  | "m" | "mark" | "combiningmark" => some [.mn, .mc, .me]
  | "nd" | "decimalnumber" | "digit" => some [.nd]
  | "nl" | "letternumber" => some [.nl]
  | "no" | "othernumber" => some [.no]
  | "n" | "number" => some [.nd, .nl, .no]
  | "pc" | "connectorpunctuation" => some [.pc]
  | "pd" | "dashpunctuation" => some [.pd]
  | "ps" | "openpunctuation" => some [.ps]
  | "pe" | "closepunctuation" => some [.pe]
  | "pi" | "initialpunctuation" => some [.pi]
  | "pf" | "finalpunctuation" => some [.pf]
  | "po" | "otherpunctuation" => some [.po]
  | "p" | "punctuation" | "punct" => some [.pc, .pd, .ps, .pe, .pi, .pf, .po]
  | "sm" | "mathsymbol" => some [.sm]
  | "sc" | "currencysymbol" => some [.sc]
  | "sk" | "modifiersymbol" => some [.sk]
  | "so" | "othersymbol" => some [.so]
  | "s" | "symbol" => some [.sm, .sc, .sk, .so]
  | "zs" | "spaceseparator" => some [.zs]
  | "zl" | "lineseparator" => some [.zl]
  | "zp" | "paragraphseparator" => some [.zp]
  | "z" | "separator" => some [.zs, .zl, .zp]
  | "cc" | "control" | "cntrl" => some [.cc]
  | "cf" | "format" => some [.cf]
  | "cs" | "surrogate" => some [.cs]
  | "co" | "privateuse" => some [.co]
  | "cn" | "unassigned" => some [.cn]
  | "c" | "other" => some others
  | "assigned" => some assigned
  | _ => none

/-- The property of a normalized name that is no general category and no script. -/
def plain? : String → Option Property
  | "alphabetic" | "alpha" => some .alphabetic
  | "uppercase" | "upper" => some .uppercase
  | "lowercase" | "lower" => some .lowercase
  | "whitespace" | "wspace" | "space" => some .blank
  | _ => none

/-- The property that a normalized name stands for as a general category. -/
def categoryProperty? : String → Option Property
  | "any" => some .any
  | "ascii" => some .ascii
  | name => (categories? name).map .category

/-- The property that a normalized name stands for as a script. -/
def scriptProperty? (name : String) : Option Property :=
  (Text.scripts.find? (·.names.contains name)).map .script

/-- The property of a name without a value. -/
def ofName? (name : String) : Option Property :=
  let name := normalize name
  plain? name <|> categoryProperty? name <|> scriptProperty? name

/-- Whether a normalized name calls for the value of the general category. -/
def asksCategory (name : String) : Bool :=
  name = "gc" || name = "generalcategory" || name = "category"

/-- Whether a normalized name calls for the value of the script. -/
def asksScript (name : String) : Bool :=
  name = "sc" || name = "script"

end Property

end FontCompiler.Regex
