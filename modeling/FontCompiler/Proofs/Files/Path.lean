import FontCompiler.Files.Path

/-!
# Segments of joined paths

A name without slashes that is joined to a directory is the last segment of the
path.  The segments in front of it are those of the directory, except that an
empty segment at its end gives way to the name.
-/

namespace FontCompiler.Files

theorem splitSlashes_ne_nil (chars : List Char) :
    splitSlashes chars ≠ [] := by
  cases chars with
  | nil => simp [splitSlashes]
  | cons char chars =>
      rw [splitSlashes]
      split
      · simp
      · split <;> simp

theorem splitSlashes_cons {char : Char} (other : char ≠ '/') {chars : List Char}
    {piece : List Char} {pieces : List (List Char)}
    (split : splitSlashes chars = piece :: pieces) :
    splitSlashes (char :: chars) = (char :: piece) :: pieces := by
  simp [splitSlashes, split, other]

theorem splitSlashes_slash (chars : List Char) :
    splitSlashes ('/' :: chars) = [] :: splitSlashes chars := by
  rcases List.exists_cons_of_ne_nil (splitSlashes_ne_nil chars) with
    ⟨piece, pieces, split⟩
  simp [splitSlashes, split]

theorem splitSlashes_append (front back : List Char) :
    splitSlashes (front ++ '/' :: back) = splitSlashes front ++ splitSlashes back := by
  induction front with
  | nil => exact splitSlashes_slash back
  | cons char front ih =>
      by_cases slash : char = '/'
      · rw [slash, List.cons_append, splitSlashes_slash, splitSlashes_slash, ih,
          List.cons_append]
      · rcases List.exists_cons_of_ne_nil (splitSlashes_ne_nil front) with
          ⟨piece, pieces, split⟩
        rw [split, List.cons_append] at ih
        rw [List.cons_append, splitSlashes_cons slash ih,
          splitSlashes_cons slash split, List.cons_append]

theorem splitSlashes_eq_singleton {chars : List Char} (plain : '/' ∉ chars) :
    splitSlashes chars = [chars] := by
  induction chars with
  | nil => rfl
  | cons char chars ih =>
      rw [List.mem_cons, not_or] at plain
      exact splitSlashes_cons (Ne.symm plain.1) (ih plain.2)

/-- A name of an entry: it has no slashes, and is not one of those that mean a directory. -/
structure IsName (name : String) : Prop where
  noSlash : '/' ∉ name.toList
  nonempty : name ≠ ""
  notHere : name ≠ "."
  notUp : name ≠ ".."

variable {name : String}

theorem isAbsolute_iff {path : String} :
    isAbsolute path = true ↔ path.toList.head? = some '/' := by
  unfold isAbsolute
  split
  · rename_i chars shape
    simp [shape]
  · rename_i other
    refine ⟨nofun, fun slash => ?_⟩
    rcases List.head?_eq_some_iff.mp slash with ⟨chars, shape⟩
    exact absurd shape (other chars)

theorem IsName.isAbsolute_eq_false (isName : IsName name) :
    isAbsolute name = false := by
  rw [Bool.eq_false_iff, ne_eq, isAbsolute_iff]
  exact fun slash => isName.noSlash (List.mem_of_head? slash)

theorem segments_join (directory : String) (isName : IsName name) :
    ∃ base, segments (join directory name) = base ++ [name] ∧
      (segments directory = base ∨ segments directory = base ++ [""]) := by
  have own : splitSlashes name.toList = [name.toList] :=
    splitSlashes_eq_singleton isName.noSlash
  unfold join
  rw [if_neg (by simp [isName.isAbsolute_eq_false])]
  split
  · rename_i here
    refine ⟨[], ?_, .inr ?_⟩
    · simp [segments, own]
    · simp [segments, here, splitSlashes]
  · split
    · rename_i _ ended
      rcases List.getLast?_eq_some_iff.mp ended with ⟨front, shape⟩
      refine ⟨(splitSlashes front).map String.ofList, ?_, .inr ?_⟩
      · simp [segments, shape, splitSlashes_append, own]
      · simp [segments, shape, splitSlashes_append, splitSlashes]
    · refine ⟨segments directory, ?_, .inl rfl⟩
      simp [segments, splitSlashes_append, own]

theorem isAbsolute_join (directory : String) (isName : IsName name) :
    isAbsolute (join directory name) = isAbsolute directory := by
  unfold join
  rw [if_neg (by simp [isName.isAbsolute_eq_false])]
  split
  · rename_i here
    rw [here, isName.isAbsolute_eq_false]
    rfl
  · rename_i elsewhere
    have chars : directory.toList ≠ [] := by simpa using elsewhere
    rcases List.exists_cons_of_ne_nil chars with ⟨first, others, shape⟩
    rw [Bool.eq_iff_iff, isAbsolute_iff, isAbsolute_iff]
    split <;> simp [shape]

end FontCompiler.Files
