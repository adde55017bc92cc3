import FontCompiler.Json.Value
import FontCompiler.Proofs.Json.Integers

/-!
# Numbers in documents

The text of a number has only characters that belong to numbers, and one at the
least, unless the number is no finite double: then it is `null`.
-/

namespace FontCompiler.Json

open Numeric NumberText

/-! ## Rows of characters of numbers -/

/-- All characters of a text belong to numbers. -/
def AllNumeric (text : String) : Prop :=
  ∀ char ∈ text.toList, IsNumeric char

instance (text : String) : Decidable (AllNumeric text) :=
  List.decidableBAll (p := IsNumeric) text.toList

namespace AllNumeric

theorem append {first second : String} (front : AllNumeric first)
    (behind : AllNumeric second) : AllNumeric (first ++ second) := by
  rw [AllNumeric, String.toList_append]
  exact List.forall_mem_append.mpr ⟨front, behind⟩

theorem ite {condition : Prop} [Decidable condition] {first second : String}
    (one : AllNumeric first) (other : AllNumeric second) :
    AllNumeric (if condition then first else second) := by
  split
  · exact one
  · exact other

theorem ofList {chars : List Char} (numeric : ∀ char ∈ chars, IsNumeric char) :
    AllNumeric (String.ofList chars) := by
  rwa [AllNumeric, String.toList_ofList]

theorem zeros (count : Nat) : AllNumeric (DecimalStyle.zeros count) := by
  refine ofList fun char member => ?_
  rw [List.eq_of_mem_replicate member]
  decide

end AllNumeric

/-! ## Texts of numbers -/

theorem isNumeric_of_mem_toDigits (number : Nat) :
    ∀ char ∈ Nat.toDigits 10 number, IsNumeric char :=
  Text.forall_mem_toDigits (by decide) IsNumeric (by decide) number

theorem allNumeric_decimalInt (number : Int) : AllNumeric (decimalInt number) :=
  .append (.ite (by decide) (by decide)) (.ofList (isNumeric_of_mem_toDigits _))

theorem decimalInt_ne_nil (number : Int) : (decimalInt number).toList ≠ [] := by
  simp [decimalInt, decimalDigits, Nat.toDigits_ne_nil]

theorem allNumeric_layout {style : DecimalStyle} (plus : AllNumeric style.plus)
    (decimal : Decimal) : AllNumeric (style.layout decimal) := by
  have digits := isNumeric_of_mem_toDigits decimal.digits
  have taken (count : Nat) :
      AllNumeric (String.ofList ((Nat.toDigits 10 decimal.digits).take count)) :=
    .ofList fun char member => digits char (List.mem_of_mem_take member)
  have dropped (count : Nat) :
      AllNumeric (String.ofList ((Nat.toDigits 10 decimal.digits).drop count)) :=
    .ofList fun char member => digits char (List.mem_of_mem_drop member)
  refine .ite (.ite ?_ (.ite ?_ ?_)) ?_
  · exact ((AllNumeric.ofList digits).append (.zeros _)).append (by decide)
  · exact ((taken _).append (by decide)).append (dropped _)
  · exact (AllNumeric.append (by decide) (.zeros _)).append (.ofList digits)
  · exact
      ((((taken 1).append (.ite (by decide) (.append (by decide) (dropped 1)))).append
        (by decide)).append (.ite (by decide) plus)).append (allNumeric_decimalInt _)

theorem layout_ne_nil (style : DecimalStyle) (decimal : Decimal) :
    (style.layout decimal).toList ≠ [] := by
  dsimp only [DecimalStyle.layout]
  split
  · split
    · simp
    · split <;> simp
  · simp

theorem numericText_of_floatText (number : Binary64) :
    floatText number = "null" ∨
      AllNumeric (floatText number) ∧ (floatText number).toList ≠ [] := by
  rw [floatText]
  split
  · right
    constructor
    · exact .append (.ite (by decide) (by decide))
        (.ite (by decide) (allNumeric_layout (by decide) _))
    · rw [DecimalStyle.finite, String.toList_append]
      refine List.append_ne_nil_of_right_ne_nil _ ?_
      split
      · decide
      · exact layout_ne_nil _ _
  · exact .inl rfl

end FontCompiler.Json
