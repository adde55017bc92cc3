import FontCompiler.Code
import FontCompiler.Text.Lowercase

/-!
# Texts that turn into identifiers

The lower case of a character hardly ever is a character of ASCII: only the
capital letters of ASCII are moved there, and the Kelvin sign, whose lower case
is the letter k.  So a text whose first character is put into lower case becomes
an identifier only if it is one, or starts with a Kelvin sign.
-/

namespace FontCompiler.Text

/-! ## Characters of identifiers -/

theorem ascii_of_isIdentifierPart {char : Char}
    (part : Code.isIdentifierPart char = true) :
    0x20 < char.toNat ∧ char.toNat < 0x7F := by
  simp only [Code.isIdentifierPart, Code.isIdentifierStart, Bool.or_eq_true,
    Bool.and_eq_true, decide_eq_true_eq, beq_iff_eq, Char.le_def,
    UInt32.le_iff_toNat_le] at part
  rcases part with ((upper | lower) | rfl) | digit
  · change 65 ≤ char.toNat ∧ char.toNat ≤ 90 at upper
    omega
  · change 97 ≤ char.toNat ∧ char.toNat ≤ 122 at lower
    omega
  · decide
  · change 48 ≤ char.toNat ∧ char.toNat ≤ 57 at digit
    omega

theorem isIdentifierPart_of_start {char : Char}
    (start : Code.isIdentifierStart char = true) :
    Code.isIdentifierPart char = true := by
  rw [Code.isIdentifierPart, start, Bool.true_or]

/-! ## Lower case in ASCII -/

/-- The Kelvin sign. -/
def kelvinSign : Char := Char.ofNat 0x212A

/-- The runs of the mapping that lead into ASCII. -/
def asciiRuns : List CaseRun :=
  [⟨0x0041, 0x005A, 1, 32⟩, ⟨0x212A, 0x212A, 1, -8383⟩]

theorem mem_asciiRuns_or_beyond :
    ∀ run ∈ caseRuns, run ∈ asciiRuns ∨ 0x80 ≤ run.first + run.offset := by
  decide +kernel

theorem toNat_ofNat_of_pos {number : Nat} (valid : 0 < (Char.ofNat number).toNat) :
    (Char.ofNat number).toNat = number := by
  by_cases isChar : number.isValidChar
  · rw [Char.ofNat, dif_pos isChar]
    rfl
  · rw [Char.ofNat, dif_neg isChar] at valid
    cases valid

theorem lowerChar_cases (char : Char) :
    lowerChar char = ['i', Char.ofNat 0x0307] ∨ ∃ lower, lowerChar char = [lower] := by
  unfold lowerChar
  split
  · exact .inl rfl
  · split <;> exact .inr ⟨_, rfl⟩

/-- Only a letter of ASCII, an underscore or the Kelvin sign has such a lower case. -/
theorem start_of_lowerChar {char lower : Char} (lowered : lowerChar char = [lower])
    (start : Code.isIdentifierStart lower = true) :
    Code.isIdentifierStart char = true ∨ char = kelvinSign := by
  have ascii := ascii_of_isIdentifierPart (isIdentifierPart_of_start start)
  unfold lowerChar at lowered
  split at lowered
  · cases lowered
  · split at lowered
    · rename_i run found
      have member : run ∈ caseRuns := List.mem_of_find?_eq_some found
      have contained : run.contains char.toNat = true := by
        simpa using List.find?_some found
      simp only [CaseRun.contains, Bool.and_eq_true, decide_eq_true_eq] at contained
      rcases contained with ⟨⟨above, below⟩, -⟩
      have image : lower.toNat = (char.toNat + run.offset).toNat := by
        cases lowered
        exact toNat_ofNat_of_pos (Nat.lt_of_le_of_lt (Nat.zero_le _) ascii.1)
      rcases mem_asciiRuns_or_beyond run member with ours | beyond
      · rcases List.mem_cons.mp ours with rfl | ours
        · left
          have capital : 'A' ≤ char ∧ char ≤ 'Z' := ⟨above, below⟩
          simp [Code.isIdentifierStart, capital]
        · cases List.mem_singleton.mp ours
          right
          exact Char.toNat_inj.mp (Nat.le_antisymm below above)
      · omega
    · cases lowered
      exact .inl start

theorem lowerChar_of_ascii :
    ∀ codepoint < 0x80,
      lowerChar (Char.ofNat codepoint) = [(Char.ofNat codepoint).toLower] := by
  decide +kernel

theorem eq_toLower_or_toUpper_of_ascii :
    ∀ codepoint < 0x80,
      Char.ofNat codepoint = (Char.ofNat codepoint).toLower ∨
        Char.ofNat codepoint = (Char.ofNat codepoint).toLower.toUpper := by
  decide +kernel

theorem toLower_of_small :
    ∀ codepoint < 0x80, 'a' ≤ Char.ofNat codepoint → Char.ofNat codepoint ≤ 'z' →
      (Char.ofNat codepoint).toLower = Char.ofNat codepoint ∧
        lowerChar (Char.ofNat codepoint).toUpper = [Char.ofNat codepoint] := by
  decide +kernel

/-- A small letter is the lower case of itself and of its capital; only k is that of a sign too. -/
theorem lowerChar_eq_singleton_iff {char lower : Char} (small : 'a' ≤ lower ∧ lower ≤ 'z')
    (notK : lower ≠ 'k') :
    lowerChar char = [lower] ↔ char = lower ∨ char = lower.toUpper := by
  have start : Code.isIdentifierStart lower = true := by
    simp [Code.isIdentifierStart, small]
  constructor
  · intro lowered
    rcases start_of_lowerChar lowered start with start | rfl
    · have ascii := ascii_of_isIdentifierPart (isIdentifierPart_of_start start)
      have below : char.toNat < 0x80 := Nat.lt_succ_of_lt ascii.2
      have image := lowerChar_of_ascii char.toNat below
      rw [Char.ofNat_toNat, lowered] at image
      cases image
      simpa using eq_toLower_or_toUpper_of_ascii char.toNat below
    · have letter : lowerChar kelvinSign = ['k'] := by decide +kernel
      rw [letter] at lowered
      cases lowered
      cases notK rfl
  · have below : lower.toNat < 0x80 :=
      Nat.lt_succ_of_lt (ascii_of_isIdentifierPart (isIdentifierPart_of_start start)).2
    have images := toLower_of_small lower.toNat below
    rw [Char.ofNat_toNat] at images
    rintro (rfl | rfl)
    · have image := lowerChar_of_ascii char.toNat below
      rwa [Char.ofNat_toNat, (images small.1 small.2).1] at image
    · exact (images small.1 small.2).2

/-! ## Texts -/

/-- A character that an identifier may turn out to start with. -/
def StartsIdentifier (char : Char) : Prop :=
  Code.isIdentifierStart char = true ∨ char = kelvinSign

/-- What becomes an identifier is one already, up to a Kelvin sign at its start. -/
theorem exists_of_lowerFirst {text : String}
    (identifier : Code.isIdentifier (lowerFirst text) = true) :
    ∃ first others, text.toList = first :: others ∧ StartsIdentifier first ∧
      ∀ char ∈ others, Code.isIdentifierPart char = true := by
  unfold lowerFirst at identifier
  split at identifier
  · cases identifier
  · rename_i first others shape
    refine ⟨first, others, shape, ?_⟩
    rw [Code.isIdentifier, String.toList_ofList] at identifier
    rcases lowerChar_cases first with dotted | ⟨lower, lowered⟩
    · -- the combining dot behind the i is no part of an identifier
      rw [dotted] at identifier
      cases identifier
    · rw [lowered] at identifier
      rcases Bool.and_eq_true_iff.mp identifier with ⟨start, parts⟩
      exact ⟨start_of_lowerChar lowered start, List.all_eq_true.mp parts⟩

theorem parts_of_lowerFirst {text : String}
    (identifier : Code.isIdentifier (lowerFirst text) = true) :
    ∀ char ∈ text.toList, Code.isIdentifierPart char = true ∨ char = kelvinSign := by
  rcases exists_of_lowerFirst identifier with ⟨first, others, shape, start, parts⟩
  rw [shape, List.forall_mem_cons]
  exact
    ⟨start.imp_left isIdentifierPart_of_start, fun char member => .inl (parts char member)⟩

/-- A text with a small letter of ASCII in front comes from itself and from its capitalized form. -/
theorem lowerFirst_eq_iff {text : String} {first : Char} {others : List Char}
    (small : 'a' ≤ first ∧ first ≤ 'z') (notK : first ≠ 'k')
    (parts : ∀ char ∈ others, Code.isIdentifierPart char = true) :
    lowerFirst text = String.ofList (first :: others) ↔
      text = String.ofList (first :: others) ∨
        text = String.ofList (first.toUpper :: others) := by
  have heads (head : Char) :
      lowerChar head = [first] ↔ head = first ∨ head = first.toUpper :=
    lowerChar_eq_singleton_iff small notK
  simp only [← String.toList_inj, String.toList_ofList, lowerFirst]
  cases text.toList with
  | nil => simp
  | cons head tail =>
      rw [String.toList_ofList]
      rcases lowerChar_cases head with dotted | ⟨lower, lowered⟩
      · have unlike : ¬ (head = first ∨ head = first.toUpper) := by
          rw [← heads head, dotted]
          simp
        rw [dotted]
        refine iff_of_false ?_ ?_
        · -- the combining dot is no part of an identifier
          intro same
          rcases List.cons.inj same with ⟨-, rfl⟩
          cases parts _ List.mem_cons_self
        · simpa only [List.cons.injEq, ← or_and_right, not_and'] using fun _ => unlike
      · rw [lowered, List.singleton_append, List.cons.injEq, List.cons.injEq, List.cons.injEq,
          ← or_and_right, ← heads head, lowered, List.singleton_inj]

end FontCompiler.Text
