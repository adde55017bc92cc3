import FontCompiler.Json.Draft
import FontCompiler.Proofs.Json.NumberText
import Mathlib.Data.List.Forall2

/-!
# Reading parts of a text

A text is put together from the texts of its parts, and so is what is read of
it.  A part is read to its end, or its reading breaks off; only a number can be
read in part, and whatever follows then breaks off at what is left of it.
-/

namespace FontCompiler.Json.Draft

open NumberText (IsNumeric Ends)

/-! ## What is read in front of other text -/

/-- The reading of a text in front of `rest`: either the text is read to its end, or only a
number in it is, and in part, or the reading breaks off.  What is read to the end of a `clear`
text `denotes` it, and only of a `deep` one the reading must break off. -/
inductive Reads {α : Type} (clear : Prop) (denotes : α → Prop) (deep : Prop)
    (rest : List Char) : α × Option (List Char) → Prop
  | whole {read : α} (known : clear → denotes read) (shallow : ¬ deep) :
      Reads clear denotes deep rest (read, some rest)
  | partly {read : α} {char : Char} {chars : List Char} (unclear : ¬ clear)
      (shallow : ¬ deep) (numeric : IsNumeric char) :
      Reads clear denotes deep rest (read, some (char :: chars))
  | broken {read : α} (reason : clear → deep) : Reads clear denotes deep rest (read, none)

/-- Goes on behind a text, if its reading does not break off. -/
def readBehind {α β : Type} (next : α → List Char → β × Option (List Char)) (stop : α → β) :
    α × Option (List Char) → β × Option (List Char)
  | (result, some left) => next result left
  | (result, none) => (stop result, none)

namespace Reads

variable {α β : Type} {clear clear' deep deep' : Prop} {denotes : α → Prop}
  {rest middle : List Char} {reading : α × Option (List Char)}

theorem imp {denotes' : α → Prop} (reads : Reads clear denotes deep rest reading)
    (stronger : clear' → clear) (sameDeep : deep' ↔ deep)
    (follows : clear' → ∀ read, denotes read → denotes' read) :
    Reads clear' denotes' deep' rest reading := by
  cases reads with
  | whole known shallow =>
      exact .whole (fun plain => follows plain _ (known (stronger plain)))
        fun nested => shallow (sameDeep.mp nested)
  | partly unclear shallow numeric =>
      exact .partly (fun plain => unclear (stronger plain))
        (fun nested => shallow (sameDeep.mp nested)) numeric
  | broken reason => exact .broken fun plain => sameDeep.mpr (reason (stronger plain))

/-- What follows a text is read behind it, and not where the text is read in part. -/
theorem behind {denotes' : α → β → Prop} {next : α → List Char → β × Option (List Char)}
    {stop : α → β} (reads : Reads clear denotes deep middle reading)
    (blocked : ∀ read char chars, IsNumeric char → (next read (char :: chars)).2 = none)
    (goes : ∀ read, Reads clear' (denotes' read) deep' rest (next read middle)) :
    Reads (clear ∧ clear') (fun result => ∃ read, denotes read ∧ denotes' read result)
      (deep ∨ deep') rest (readBehind next stop reading) := by
  cases reads with
  | broken reason =>
      rw [readBehind]
      exact .broken fun plain => .inl (reason plain.1)
  | @partly result char chars unclear shallow numeric =>
      rcases met : next result (char :: chars) with ⟨outcome, left⟩
      have left_eq := blocked result char chars numeric
      rw [met] at left_eq
      subst left_eq
      rw [readBehind, met]
      exact .broken fun plain => absurd plain.1 unclear
  | @whole result known shallow =>
      have further := goes result
      rw [readBehind]
      generalize next result middle = outcome at further ⊢
      cases further with
      | whole behind flat =>
          exact .whole (fun plain => ⟨result, known plain.1, behind plain.2⟩) (by tauto)
      | partly unclear flat numeric => exact .partly (by tauto) (by tauto) numeric
      | broken reason => exact .broken fun plain => .inr (reason plain.2)

theorem map {denotes' : β → Prop} {apply : α → β} (reads : Reads clear denotes deep rest reading)
    (follows : ∀ read, denotes read → denotes' (apply read)) :
    Reads clear denotes' deep rest (apply reading.1, reading.2) := by
  cases reads with
  | whole known shallow => exact .whole (fun plain => follows _ (known plain)) shallow
  | partly unclear shallow numeric => exact .partly unclear shallow numeric
  | broken reason => exact .broken reason

end Reads

/-! ## Rows of parts -/

section

variable {α δ : Type}

/-- The parts behind the first one, each behind a comma. -/
def followed (written : α → List Char) (parts : List α) : List Char :=
  parts.flatMap fun part => ',' :: written part

/-- Parts with commas between them. -/
def separated (written : α → List Char) : List α → List Char
  | [] => []
  | part :: parts => written part ++ followed written parts

theorem length_le_length_followed (written : α → List Char) (parts : List α) :
    parts.length ≤ (followed written parts).length := by
  induction parts with
  | nil => exact Nat.le_refl 0
  | cons part parts ih =>
      rw [followed, List.flatMap_cons, List.length_append, List.length_cons, List.length_cons]
      rw [followed] at ih
      omega

theorem length_le_length_separated (written : α → List Char) (parts : List α) :
    parts.length ≤ (separated written parts).length + 1 := by
  cases parts with
  | nil => exact Nat.zero_le _
  | cons part parts =>
      have others := length_le_length_followed written parts
      rw [separated, List.length_append, List.length_cons]
      omega

/-- What a loop does that reads parts up to a closing character. -/
structure ReadsParts (loop : Nat → List δ → List Char → Reading)
    (readPart : List Char → δ × Option (List Char)) (written : α → List Char)
    (build : List δ → Draft) (closing : Char) : Prop where
  foreign : ¬ IsNumeric closing
  closed : ∀ fuel read rest,
    loop (fuel + 1) read (closing :: rest) = (build read.reverse, some rest)
  first : ∀ fuel part rest,
    loop (fuel + 1) [] (written part ++ rest) =
      readBehind (fun draft => loop fuel [draft]) (fun draft => build [draft])
        (readPart (written part ++ rest))
  comma : ∀ fuel read part rest, read ≠ [] →
    loop (fuel + 1) read (',' :: written part ++ rest) =
      readBehind (fun draft => loop fuel (draft :: read))
        (fun draft => build (draft :: read).reverse) (readPart (written part ++ rest))
  numeric : ∀ fuel read char rest, read ≠ [] → IsNumeric char →
    (loop fuel read (char :: rest)).2 = none

namespace ReadsParts

variable {loop : Nat → List δ → List Char → Reading}
  {readPart : List Char → δ × Option (List Char)} {written : α → List Char}
  {build : List δ → Draft} {closing : Char} {clear deep : α → Prop}
  {denotes : δ → α → Prop} {rest : List Char}
  (parts : ReadsParts loop readPart written build closing)

include parts

theorem ends_followed (others : List α) :
    Ends (followed written others ++ closing :: rest) := by
  cases others with
  | nil => exact NumberText.ends_cons parts.foreign
  | cons other others => exact NumberText.ends_cons (by decide)

/-- A part is read, and then the others are. -/
theorem reads_cons {part : α} {others : List α} {fuel : Nat} (read : List δ)
    {middle : List Char} {reading : δ × Option (List Char)}
    (own : Reads (clear part) (denotes · part) (deep part) middle reading)
    (behind : ∀ draft : δ,
      Reads (∀ other ∈ others, clear other)
        (fun result => ∃ drafts, result = build ((draft :: read).reverse ++ drafts) ∧
          List.Forall₂ denotes drafts others)
        (∃ other ∈ others, deep other) rest (loop fuel (draft :: read) middle)) :
    Reads (∀ other ∈ part :: others, clear other)
      (fun result => ∃ drafts, result = build (read.reverse ++ drafts) ∧
        List.Forall₂ denotes drafts (part :: others))
      (∃ other ∈ part :: others, deep other) rest
      (readBehind (fun draft => loop fuel (draft :: read))
        (fun draft => build (draft :: read).reverse) reading) := by
  have blocked (draft : δ) (char : Char) (chars : List Char) (numeric : IsNumeric char) :
      (loop fuel (draft :: read) (char :: chars)).2 = none :=
    parts.numeric fuel _ char chars (List.cons_ne_nil _ _) numeric
  refine (own.behind blocked behind).imp List.forall_mem_cons.mp (by simp) ?_
  rintro - result ⟨draft, denoted, drafts, rfl, others⟩
  exact ⟨draft :: drafts, by simp, .cons denoted others⟩

theorem reads_followed (others : List α)
    (reads : ∀ part ∈ others, ∀ rest, Ends rest →
      Reads (clear part) (denotes · part) (deep part) rest (readPart (written part ++ rest))) :
    ∀ (fuel : Nat) (read : List δ), others.length < fuel → read ≠ [] →
      Reads (∀ part ∈ others, clear part)
        (fun result => ∃ drafts, result = build (read.reverse ++ drafts) ∧
          List.Forall₂ denotes drafts others)
        (∃ part ∈ others, deep part) rest
        (loop fuel read (followed written others ++ closing :: rest)) := by
  induction others with
  | nil =>
      intro fuel read enough nonempty
      cases fuel with
      | zero => cases enough
      | succ fuel =>
          rw [followed, List.flatMap_nil, List.nil_append, parts.closed]
          exact .whole (fun _ => ⟨[], by simp, .nil⟩) (by simp)
  | cons part others ih =>
      intro fuel read enough nonempty
      rw [List.forall_mem_cons] at reads
      cases fuel with
      | zero => cases enough
      | succ fuel =>
          have shape : followed written (part :: others) ++ closing :: rest =
              ',' :: written part ++ (followed written others ++ closing :: rest) := by
            simp [followed]
          rw [shape, parts.comma fuel read part _ nonempty]
          refine parts.reads_cons read (reads.1 _ (parts.ends_followed others)) fun draft => ?_
          exact ih reads.2 fuel (draft :: read) (Nat.lt_of_succ_lt_succ enough)
            (List.cons_ne_nil _ _)

/-- A row of parts is read if each of them is. -/
theorem reads_separated (row : List α) (rest : List Char)
    (reads : ∀ part ∈ row, ∀ rest, Ends rest →
      Reads (clear part) (denotes · part) (deep part) rest (readPart (written part ++ rest)))
    {fuel : Nat} (enough : row.length ≤ fuel) :
    Reads (∀ part ∈ row, clear part)
      (fun result => ∃ drafts, result = build drafts ∧ List.Forall₂ denotes drafts row)
      (∃ part ∈ row, deep part) rest
      (loop (fuel + 1) [] (separated written row ++ closing :: rest)) := by
  cases row with
  | nil =>
      rw [separated, List.nil_append, parts.closed]
      exact .whole (fun _ => ⟨[], rfl, .nil⟩) (by simp)
  | cons part others =>
      rw [List.forall_mem_cons] at reads
      rw [separated, List.append_assoc, parts.first]
      refine parts.reads_cons [] (reads.1 _ (parts.ends_followed others)) fun draft => ?_
      exact parts.reads_followed others reads.2 fuel [draft] (Nat.lt_of_succ_le enough)
        (List.cons_ne_nil _ _)

end ReadsParts

end

/-! ## Numbers -/

theorem isBlank_of_isNumeric {char : Char} (numeric : IsNumeric char) :
    isBlank char = false := by
  rw [isBlank]
  by_contra blank
  simp only [Bool.or_eq_false_iff, decide_eq_false_iff_not, not_and_or, not_not] at blank
  rcases blank with ((rfl | rfl) | rfl) | rfl <;> exact absurd numeric (by decide)

theorem skipBlanks_cons {char : Char} {chars : List Char} (visible : isBlank char = false) :
    skipBlanks (char :: chars) = char :: chars := by
  rw [skipBlanks, List.dropWhile_cons_of_neg (by simp [visible])]

theorem readWith_number {readArray readObject : List Char → Reading} {char : Char}
    {chars : List Char} (numeric : IsNumeric char) :
    readWith readArray readObject (char :: chars) =
      if char = '-' ∨ (Text.decimalDigit? char).isSome then
        match NumberText.read (char :: chars) with
        | .ok (numeral, rest) => (.number numeral, some rest)
        | .error cause => (.fault cause, none)
      else (.fault .expectedValue, none) := by
  unfold readWith
  rw [skipBlanks_cons (isBlank_of_isNumeric numeric)]
  split <;> rename_i shape
  case h_8 =>
    cases shape
    rfl
  case h_1 => cases shape
  all_goals exact absurd (List.cons.inj shape).1 (NumberText.ne_of_isNumeric numeric (by decide))

theorem opens_of_read {chars rest : List Char} {numeral : Number}
    (found : NumberText.read chars = .ok (numeral, rest)) :
    ∃ char others, chars = char :: others ∧
      (char = '-' ∨ (Text.decimalDigit? char).isSome) := by
  unfold NumberText.read at found
  split at found
  · exact ⟨_, _, rfl, .inl rfl⟩
  · unfold NumberText.readUnsigned at found
    cases chars with
    | nil => cases found
    | cons char others =>
        refine ⟨char, others, rfl, .inr ?_⟩
        rw [NumberText.spanDigits] at found
        cases digit : Text.decimalDigit? char with
        | some digit => rfl
        | none =>
            rw [digit] at found
            cases found

/-- Characters of numbers are read as a number, or in part, or not at all. -/
theorem reads_numeric {clear : Prop} {denotes : Draft → Prop} {chars rest : List Char}
    {readArray readObject : List Char → Reading}
    (numeric : ∀ char ∈ chars, IsNumeric char) (nonempty : chars ≠ []) (ends : Ends rest)
    (exactly : clear → ∃ numeral, NumberText.read (chars ++ rest) = .ok (numeral, rest) ∧
      denotes (.number numeral)) :
    Reads clear denotes False rest (readWith readArray readObject (chars ++ rest)) := by
  cases chars with
  | nil => exact absurd rfl nonempty
  | cons char chars =>
      have first := numeric char List.mem_cons_self
      by_cases plain : clear
      · rcases exactly plain with ⟨numeral, found, denoted⟩
        rcases opens_of_read found with ⟨_, _, ⟨⟩, opens⟩
        rw [List.cons_append] at found ⊢
        rw [readWith_number first, if_pos opens, found]
        exact .whole (fun _ => denoted) id
      · have continues := NumberText.read_continues ends (char :: chars)
        rw [List.cons_append] at continues ⊢
        rw [readWith_number first]
        split
        · generalize NumberText.read (char :: chars) = alone at continues
          generalize NumberText.read (char :: (chars ++ rest)) = outcome at continues ⊢
          cases continues with
          | fails => exact .broken fun clear => absurd clear plain
          | @reads numeral left inside =>
              cases left with
              | nil => exact .whole (fun clear => absurd clear plain) id
              | cons next left =>
                  exact .partly plain id (numeric next (inside List.mem_cons_self))
        · exact .broken fun clear => absurd clear plain

end FontCompiler.Json.Draft
