import FontCompiler.Proofs.Json.Keys
import FontCompiler.Proofs.Manifest.Breaches
import FontCompiler.Proofs.Text.Digits

/-!
# Reading pointers

The text of a pointer is split at its slashes, and in every segment `~1` becomes
a slash and then `~0` a tilde.  This gives the segments back from which the text
was written, whatever characters they have.

A pointer is resolved by following the keys of objects and the indices of arrays.
In a graph without repeated keys the pointer of a breach leads to its culprit.
-/

namespace FontCompiler.Manifest

open Json

/-! ## Texts of pointers -/

/-- Puts a character wherever a tilde stands with a mark behind it. -/
def unescape (mark char : Char) : List Char → List Char
  | [] => []
  | [last] => [last]
  | first :: second :: chars =>
    if first = '~' ∧ second = mark then char :: unescape mark char chars
    else first :: unescape mark char (second :: chars)

/-- A segment as it is read from the text of a pointer. -/
def readSegment (chars : List Char) : String :=
  String.ofList (unescape '0' '~' (unescape '1' '/' chars))

/-- The pointer that a text denotes, if it begins with a slash or is empty. -/
def Pointer.ofText? (text : String) : Option Pointer :=
  match text.toList.splitOn '/' with
  | [] :: segments => some (segments.map readSegment)
  | _ => none

/-- The characters of a segment in the text of a pointer. -/
def escapeSegment (segment : String) : List Char :=
  segment.toList.flatMap escapePointerChar

theorem unescape_cons {mark char first : Char} (plain : first ≠ '~') (chars : List Char) :
    unescape mark char (first :: chars) = first :: unescape mark char chars := by
  cases chars with
  | nil => rfl
  | cons second chars => rw [unescape, if_neg fun escaped => plain escaped.1]

theorem unescape_tilde {mark char second : Char} (plain : second ≠ '~') (chars : List Char) :
    unescape mark char ('~' :: second :: chars) =
      if second = mark then char :: unescape mark char chars
      else '~' :: second :: unescape mark char chars := by
  rw [unescape, unescape_cons plain]
  simp

/-- Unescaping goes through what is escaped character by character. -/
theorem unescape_flatMap {mark char : Char} {escaped read : Char → List Char}
    (own : ∀ first chars,
      unescape mark char (escaped first ++ chars) = read first ++ unescape mark char chars)
    (chars : List Char) :
    unescape mark char (chars.flatMap escaped) = chars.flatMap read := by
  induction chars with
  | nil => rfl
  | cons first chars ih => rw [List.flatMap_cons, own, ih, List.flatMap_cons]

/-- A tilde with a zero behind it, or else the character itself. -/
def escapeTilde (char : Char) : List Char :=
  if char = '~' then ['~', '0'] else [char]

theorem unescape_escapePointerChar (first : Char) (chars : List Char) :
    unescape '1' '/' (escapePointerChar first ++ chars) =
      escapeTilde first ++ unescape '1' '/' chars := by
  rw [escapePointerChar, escapeTilde]
  by_cases tilde : first = '~'
  · rw [if_pos tilde, if_pos tilde]
    exact unescape_tilde (by decide) chars
  · rw [if_neg tilde, if_neg tilde]
    by_cases slash : first = '/'
    · rw [if_pos slash, slash]
      exact unescape_tilde (by decide) chars
    · rw [if_neg slash]
      exact unescape_cons tilde chars

theorem unescape_escapeTilde (first : Char) (chars : List Char) :
    unescape '0' '~' (escapeTilde first ++ chars) = [first] ++ unescape '0' '~' chars := by
  rw [escapeTilde]
  by_cases tilde : first = '~'
  · rw [if_pos tilde, tilde]
    exact unescape_tilde (by decide) chars
  · rw [if_neg tilde]
    exact unescape_cons tilde chars

theorem readSegment_escapeSegment (segment : String) :
    readSegment (escapeSegment segment) = segment := by
  rw [readSegment, escapeSegment, unescape_flatMap unescape_escapePointerChar,
    unescape_flatMap unescape_escapeTilde, List.flatMap_singleton', String.ofList_toList]

theorem slash_notMem_escapeSegment (segment : String) : '/' ∉ escapeSegment segment := by
  intro member
  rcases List.mem_flatMap.mp member with ⟨char, -, escaped⟩
  rw [escapePointerChar] at escaped
  split at escaped
  · simp at escaped
  · split at escaped
    · simp at escaped
    · rename_i plain
      exact plain (List.mem_singleton.mp escaped).symm

theorem intercalate_slash (first : List Char) (parts : List (List Char)) :
    ['/'].intercalate (first :: parts) = first ++ parts.flatMap ('/' :: ·) := by
  induction parts generalizing first with
  | nil => simp
  | cons second parts ih => rw [List.intercalate_cons_cons, ih, List.flatMap_cons]; simp

theorem toList_pointerText (pointer : Pointer) :
    (pointerText pointer).toList = ['/'].intercalate ([] :: pointer.map escapeSegment) := by
  rw [intercalate_slash, List.nil_append, List.flatMap_map, pointerText, String.toList_join,
    List.flatMap_map]
  simp [escapeSegment]

/-- The text of a pointer denotes this pointer, whatever its segments are. -/
theorem ofText?_pointerText (pointer : Pointer) :
    Pointer.ofText? (pointerText pointer) = some pointer := by
  have apart : ∀ part ∈ [] :: pointer.map escapeSegment, '/' ∉ part := by
    intro part member
    rcases List.mem_cons.mp member with rfl | member
    · exact List.not_mem_nil
    · rcases List.mem_map.mp member with ⟨segment, -, rfl⟩
      exact slash_notMem_escapeSegment segment
  rw [Pointer.ofText?, toList_pointerText,
    List.splitOn_intercalate '/' apart (List.cons_ne_nil _ _)]
  simp [Function.comp_def, readSegment_escapeSegment]

/-! ## Resolution -/

/-- The index that a segment writes, without zeros in front. -/
def index? (segment : String) : Option Nat :=
  match Text.decimalValue? segment.toList with
  | some index => if Numeric.decimalDigits index = segment then some index else none
  | none => none

/-- The value that a segment leads to. -/
def child? (segment : String) : Value → Option Value
  | .object entries => Ordered.get? segment entries
  | .array items => (index? segment).bind fun index => items[index]?
  | _ => none

/-- The value that a pointer leads to. -/
def resolve? : Pointer → Value → Option Value
  | [], value => some value
  | segment :: pointer, value => (child? segment value).bind (resolve? pointer)

theorem index?_decimalDigits (index : Nat) : index? (Numeric.decimalDigits index) = some index := by
  rw [index?, Numeric.decimalDigits, String.toList_ofList,
    Text.decimalValue?_eq_some_iff.mpr (Text.denotes_decimal index)]
  exact if_pos rfl

theorem resolve?_append (front pointer : Pointer) (value : Value) :
    resolve? (front ++ pointer) value = (resolve? front value).bind (resolve? pointer) := by
  induction front generalizing value with
  | nil => rfl
  | cons segment front ih =>
      rw [List.cons_append, resolve?, resolve?, Option.bind_assoc]
      simp only [ih]

theorem resolve?_of_child? {segment : String} {pointer : Pointer} {value child : Value}
    (led : child? segment value = some child) :
    resolve? (segment :: pointer) value = resolve? pointer child := by
  rw [resolve?, led, Option.bind_some]

theorem child?_entry {entries : List (String × Value)} {key : String} {value : Value}
    (held : Ordered.get? key entries = some value) :
    child? key (.object entries) = some value := held

theorem child?_item {items : List Value} {index : Nat} {item : Value}
    (listed : items[index]? = some item) :
    child? (Numeric.decimalDigits index) (.array items) = some item := by
  rw [child?, index?_decimalDigits, Option.bind_some, listed]

mutual

theorem NodeAt.resolve? :
    ∀ {value found : Value} {pointer : Pointer}, NodeAt value pointer found →
      value.KeysDistinct → resolve? pointer value = some found
  | _, _, _, .self _, _ => rfl
  | _, _, _, .item listed below, distinct => by
      rw [Value.KeysDistinct, Value.itemsKeysDistinct_iff] at distinct
      rw [resolve?_of_child? (child?_item listed)]
      exact below.resolve? (distinct _ (List.mem_of_getElem? listed))
  | _, _, _, .entry _ below, distinct => below.resolve? distinct
  | _, _, _, .stream held below, distinct => by
      rw [resolve?_of_child? (child?_entry held)]
      rw [Value.KeysDistinct, Value.entriesKeysDistinct_iff] at distinct
      exact below.resolve? (distinct.2 _ (Ordered.mem_of_get? held))

theorem EntryAt.resolve? :
    ∀ {entries : List (String × Value)} {found : Value} {pointer : Pointer},
      EntryAt entries pointer found → (Value.object entries).KeysDistinct →
        resolve? pointer (.object entries) = some found
  | _, _, _, .under member below, distinct => by
      rw [Value.KeysDistinct, Value.entriesKeysDistinct_iff] at distinct
      rw [resolve?_of_child? (child?_entry ((Ordered.get?_eq_some_iff distinct.1).mpr member))]
      exact below.resolve? (distinct.2 _ member)

end

theorem Violates.resolve? {contents : Contents} {base : String}
    {entries : List (String × Value)} {breach : Breach}
    (violates : Violates contents base entries breach) :
    resolve? breach.pointer (.object entries) = some breach.culprit := by
  cases violates with
  | form => rfl
  | payload held => exact resolve?_of_child? (child?_entry held)
  | byte held listed =>
      exact
        (resolve?_of_child? (child?_entry held)).trans (resolve?_of_child? (child?_item listed))
  | file held => exact resolve?_of_child? (child?_entry held)

/-- In a graph without repeated keys the pointer of a breach leads to its culprit. -/
theorem Breaks.resolve? {contents : Contents} {base : String} {graph : List (String × Value)}
    {breach : Breach} (breaks : Breaks contents base graph breach)
    (distinct : (Value.object graph).KeysDistinct) :
    resolve? breach.pointer (.object graph) = some breach.culprit := by
  rcases breaks with ⟨place, entries, own, at', -, violates, rfl⟩
  rw [Breach.under, resolve?_append, at'.resolve? distinct]
  exact violates.resolve?

end FontCompiler.Manifest
