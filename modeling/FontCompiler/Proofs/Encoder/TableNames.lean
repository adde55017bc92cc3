import FontCompiler.Encoder.GlyphRange
import FontCompiler.Proofs.Text.Digits

/-!
# Names of tables

The name of a table is put together from a label and two bounds, with an
underscore in front of each bound.  A label may hold underscores and digits
itself, and a bound has as many digits as it needs, so the name is taken apart
from its end: no digit is an underscore, and digits with zeros in front of them
still tell their number.
-/

namespace FontCompiler.Encoder

theorem underscore_notMem_lowerHex (width number : Nat) :
    '_' ∉ (Text.lowerHex width number).toList := by
  have others :
      ∀ char ∈ (Text.lowerHex width number).toList, char ≠ '_' :=
    Text.forall_mem_lowerHex (by decide) width number
  intro member
  exact others '_' member rfl

theorem lowerHex_injective {width left right : Nat}
    (same : Text.lowerHex width left = Text.lowerHex width right) :
    left = right := by
  have leftRead := Text.hexValue?_lowerHex width left
  have rightRead := Text.hexValue?_lowerHex width right
  rw [same, rightRead] at leftRead
  exact (Option.some.inj leftRead).symm

theorem eq_nil_of_underscore_cons {between back back' : List Char}
    (none : '_' ∉ back) (split : '_' :: back = between ++ '_' :: back') :
    between = [] := by
  cases between with
  | nil => rfl
  | cons char between =>
      rw [List.cons_append] at split
      rw [(List.cons.inj split).2] at none
      exact absurd (List.mem_append_right between List.mem_cons_self) none

/-- What stands behind the last underscore can be told from what stands in front of it. -/
theorem eq_of_append_underscore {front front' back back' : List Char}
    (none : '_' ∉ back) (none' : '_' ∉ back')
    (same : front ++ '_' :: back = front' ++ '_' :: back') :
    front = front' ∧ back = back' := by
  -- one of the two texts reaches at least as far as the other
  rcases List.append_eq_append_iff.mp same with
    ⟨between, rfl, split⟩ | ⟨between, rfl, split⟩
  · cases eq_nil_of_underscore_cons none split
    exact ⟨(List.append_nil front).symm, (List.cons.inj split).2⟩
  · cases eq_nil_of_underscore_cons none' split
    exact ⟨List.append_nil front', ((List.cons.inj split).2).symm⟩

theorem tableName_eq (label : String) (range : GlyphRange) :
    range.tableName label =
      "GlyphIndexes" ++ label ++ "_" ++ Text.lowerHex 4 range.first ++ "_" ++
        Text.lowerHex 4 range.last :=
  rfl

theorem toList_tableName (label : String) (range : GlyphRange) :
    (range.tableName label).toList =
      (("GlyphIndexes" ++ label).toList ++
          '_' :: (Text.lowerHex 4 range.first).toList) ++
        '_' :: (Text.lowerHex 4 range.last).toList := by
  have underscore : "_".toList = ['_'] := rfl
  rw [tableName_eq]
  simp only [String.toList_append, underscore, List.append_assoc,
    List.singleton_append]

/-- The name of a table tells the label and the bounds that it was made of. -/
theorem eq_of_tableName {label other : String} {left right : GlyphRange}
    (same : left.tableName label = right.tableName other) :
    label = other ∧ left.first = right.first ∧ left.last = right.last := by
  have chars := congrArg String.toList same
  rw [toList_tableName, toList_tableName] at chars
  rcases
      eq_of_append_underscore (underscore_notMem_lowerHex 4 left.last)
        (underscore_notMem_lowerHex 4 right.last) chars with
    ⟨chars, lasts⟩
  rcases
      eq_of_append_underscore (underscore_notMem_lowerHex 4 left.first)
        (underscore_notMem_lowerHex 4 right.first) chars with
    ⟨labels, firsts⟩
  refine ⟨?_, ?_, ?_⟩
  · exact (String.append_right_inj "GlyphIndexes").mp (String.toList_inj.mp labels)
  · exact lowerHex_injective (String.toList_inj.mp firsts)
  · exact lowerHex_injective (String.toList_inj.mp lasts)

end FontCompiler.Encoder
