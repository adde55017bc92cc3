import FontCompiler.Regex.Expression
import FontCompiler.Regex.Reading

/-!
# The meaning of patterns

A pattern gets its meaning from left to right under the modes that hold at every
part.  Outside the Unicode mode a pattern must not match a byte that is only a
part of a character, and nothing in it may be about more than ASCII.
-/

namespace FontCompiler.Regex

/-- The modes that hold at some part of a pattern, as far as they bear on its meaning. -/
structure Modes where
  caseless : Bool
  multiline : Bool
  dotAll : Bool
  unicode : Bool
  carriageReturn : Bool
  deriving DecidableEq, Repr

namespace Modes

/-- The modes at the start of a pattern. -/
def initial : Modes :=
  ⟨false, false, false, true, false⟩

/-- The modes behind some switches. -/
def after (modes : Modes) (switches : Switches) : Modes :=
  ⟨switches.apply .caseless modes.caseless, switches.apply .multiline modes.multiline,
    switches.apply .dotAll modes.dotAll, switches.apply .unicode modes.unicode,
    switches.apply .carriageReturn modes.carriageReturn⟩

/-- A set with the variants in case if case does not count. -/
def adapt (modes : Modes) (set : CharSet) : CharSet :=
  if !modes.caseless then set
  else if modes.unicode then .caseless set
  else .asciiCaseless set

end Modes

/-- Says what keeps a part of a pattern from having a meaning. -/
def meaningless {α : Type} (kind : FaultKind) (span : Span) : Except Fault α :=
  .error ⟨kind, span, none⟩

namespace NamedClass

/-- The ranges of a class of ASCII characters. -/
def ranges : NamedClass → List (Char × Char)
  | .alnum => [('0', '9'), ('A', 'Z'), ('a', 'z')]
  | .alpha => [('A', 'Z'), ('a', 'z')]
  | .ascii => [(Char.ofNat 0, Char.ofNat 0x7F)]
  | .blank => [('\t', '\t'), (' ', ' ')]
  | .cntrl => [(Char.ofNat 0, Char.ofNat 0x1F), (Char.ofNat 0x7F, Char.ofNat 0x7F)]
  | .digit => [('0', '9')]
  | .graph => [('!', '~')]
  | .lower => [('a', 'z')]
  | .print => [(' ', '~')]
  | .punct => [('!', '/'), (':', '@'), ('[', Char.ofNat 0x60), (Char.ofNat 0x7B, '~')]
  | .space => [('\t', '\r'), (' ', ' ')]
  | .upper => [('A', 'Z')]
  | .word => [('0', '9'), ('A', 'Z'), ('_', '_'), ('a', 'z')]
  | .xdigit => [('0', '9'), ('A', 'F'), ('a', 'f')]

/-- The set of a class. -/
def set (kind : NamedClass) : CharSet :=
  .ofRanges kind.ranges

end NamedClass

namespace LetterClass

/-- The set of a class. -/
def set (kind : LetterClass) (unicode : Bool) : CharSet :=
  match kind, unicode with
  | .digit, true => .property (.category [.nd])
  | .space, true => .property .blank
  | .word, true => .property .wordPart
  | .digit, false => NamedClass.digit.set
  | .space, false => NamedClass.space.set
  | .word, false => NamedClass.word.set

end LetterClass

namespace PropertyName

/-- The set of a property. -/
def resolve (property : PropertyName) (span : Span) : Except Fault CharSet :=
  match property.value with
  | none =>
    match Property.ofName? property.name with
    | some property => .ok (.property property)
    | none => meaningless .propertyUnknown span
  | some value =>
    let name := Property.normalize property.name
    let value := Property.normalize value
    let lookUp (found : Option Property) : Except Fault CharSet :=
      match found with
      | some property => .ok (.property property)
      | none => meaningless .propertyValueUnknown span
    if Property.asksCategory name then lookUp (Property.categoryProperty? value)
    else if Property.asksScript name then lookUp (Property.scriptProperty? value)
    else meaningless .propertyUnknown span

end PropertyName

namespace Literal

/-- The character of a literal outside a class. -/
def resolve (literal : Literal) (modes : Modes) : Except Fault Char :=
  if !modes.unicode && literal.isByte && 0x80 ≤ literal.char.toNat then
    meaningless .notUtf8 literal.span
  else .ok literal.char

/-- The character of a literal inside a class. -/
def resolveMember (literal : Literal) (modes : Modes) : Except Fault Char := do
  let char ← literal.resolve modes
  if !modes.unicode && 0x80 ≤ char.toNat then meaningless .unicodeNotAllowed literal.span
  else return char

end Literal

namespace Combination

/-- The combination of two sets. -/
def apply : Combination → CharSet → CharSet → CharSet
  | .intersection => .intersection
  | .difference => .difference
  | .symmetricDifference => .symmetricDifference

end Combination

namespace ClassPattern

/-- A set with its variants in case, or the complement of both.  Outside the Unicode mode every set
lies within ASCII, and so its complement holds bytes that are no characters. -/
def finish (modes : Modes) (set : CharSet) (negated : Bool) (span : Span) : Except Fault CharSet :=
  if negated && !modes.unicode then meaningless .notUtf8 span
  else .ok (.negatedIf negated (modes.adapt set))

/-- The set of a class. -/
def resolve (modes : Modes) : ClassPattern → Except Fault CharSet
  | .nothing => .ok .nothing
  | .literal written => do return .single (← written.resolveMember modes)
  | .range first last => do
    let first ← first.resolveMember modes
    let last ← last.resolveMember modes
    return .range first last
  | .letter kind negated span =>
    if negated && !modes.unicode then meaningless .notUtf8 span
    else .ok (.negatedIf negated (kind.set modes.unicode))
  | .named kind negated span => finish modes kind.set negated span
  | .property name negated span => do
    if !modes.unicode then meaningless .unicodeNotAllowed span
    else finish modes (← name.resolve span) negated span
  | .bracketed inner negated span => do finish modes (← inner.resolve modes) negated span
  | .union left right => do
    let left ← left.resolve modes
    let right ← right.resolve modes
    return .union left right
  | .combined how left right => do
    let left ← left.resolve modes
    let right ← right.resolve modes
    return how.apply (modes.adapt left) (modes.adapt right)

end ClassPattern

namespace Modes

/-- The characters that the dot matches. -/
def dot (modes : Modes) : CharSet :=
  if modes.dotAll then .complement .nothing
  else if modes.carriageReturn then .complement (.union (.single '\n') (.single '\r'))
  else .complement (.single '\n')

/-- The condition of an anchor. -/
def condition (modes : Modes) (anchor : Anchor) : Condition :=
  let word := LetterClass.word.set modes.unicode
  match anchor with
  | .caret =>
    if !modes.multiline then .textStart
    else if modes.carriageReturn then .anyLineStart
    else .lineStart
  | .dollar =>
    if !modes.multiline then .textEnd
    else if modes.carriageReturn then .anyLineEnd
    else .lineEnd
  | .textStart => .textStart
  | .textEnd => .textEnd
  | .boundary => .boundary word
  | .notBoundary => .notBoundary word
  | .wordStart => .wordStart word
  | .wordEnd => .wordEnd word
  | .wordStartHalf => .wordStartHalf word
  | .wordEndHalf => .wordEndHalf word

end Modes

namespace Pattern

/-- The meaning of a pattern, and the modes behind it. -/
def resolve : Pattern → Modes → Except Fault (Expression × Modes)
  | .empty, modes => .ok (.empty, modes)
  | .directive switches, modes => .ok (.empty, modes.after switches)
  | .literal written, modes => do
    let char ← written.resolve modes
    return (.set (modes.adapt (.single char)), modes)
  | .dot span, modes =>
    if modes.unicode then .ok (.set modes.dot, modes) else meaningless .notUtf8 span
  | .anchor kind, modes => .ok (.condition (modes.condition kind), modes)
  | .set members, modes => do return (.set (← members.resolve modes), modes)
  | .group switches body, modes => do
    let (body, _) ← body.resolve (modes.after switches)
    return (body, modes)
  | .repetition least most body, modes => do
    let (body, modes) ← body.resolve modes
    return (.repetition least most body, modes)
  | .sequence first second, modes => do
    let (first, modes) ← first.resolve modes
    let (second, modes) ← second.resolve modes
    return (.sequence first second, modes)
  | .choice first second, modes => do
    let (first, modes) ← first.resolve modes
    let (second, modes) ← second.resolve modes
    return (.choice first second, modes)

end Pattern

/-- The expression that a text is, or the fault that it has. -/
def Expression.ofText (text : String) : Except Fault Expression := do
  let pattern ← Pattern.ofText text
  let (expression, _) ← pattern.resolve .initial
  return expression

end FontCompiler.Regex
