/-!
# Computations that may fail

What a step that depends on an earlier one does: it succeeds only if both do,
and what it gives, faults aside, comes from what the earlier one gives.
-/

namespace FontCompiler

variable {ε α β : Type}

theorem ok_bind (value : α) (next : α → Except ε β) :
    Except.ok value >>= next = next value := rfl

theorem exists_of_bind_ok {first : Except ε α} {next : α → Except ε β}
    {result : β} (succeeded : first >>= next = .ok result) :
    ∃ value, first = .ok value ∧ next value = .ok result := by
  cases first with
  | error fault => cases succeeded
  | ok value => exact ⟨value, rfl, succeeded⟩

theorem ok_of_mem_toOption {result : Except ε α} {value : α}
    (member : value ∈ result.toOption) : result = .ok value := by
  cases result with
  | error fault => cases member
  | ok found =>
      cases member
      rfl

theorem toOption_bind (first : Except ε α) (next : α → Except ε β) :
    (first >>= next).toOption =
      first.toOption.bind fun value => (next value).toOption := by
  cases first with
  | error fault => rfl
  | ok value => rfl

theorem eq_ok_iff_of_toOption_eq {ε' : Type} {first : Except ε α}
    {second : Except ε' α} (same : first.toOption = second.toOption)
    (value : α) :
    first = .ok value ↔ second = .ok value := by
  cases first <;> cases second <;>
    simp_all [Except.toOption]

/-! ## Success -/

/-- A computation gives something. -/
def Succeeds (result : Except ε α) : Prop :=
  ∃ value, result = .ok value

@[simp]
theorem succeeds_ok (value : α) : Succeeds (.ok value : Except ε α) :=
  ⟨value, rfl⟩

@[simp]
theorem not_succeeds_error (fault : ε) : ¬ Succeeds (.error fault : Except ε α) :=
  nofun

/-- A step succeeds behind another if both do, where the second does not look at what the
first one gives. -/
theorem succeeds_bind_iff {first : Except ε α} {next : α → Except ε β} {condition : Prop}
    (after : ∀ value, first = .ok value → (Succeeds (next value) ↔ condition)) :
    Succeeds (first >>= next) ↔ Succeeds first ∧ condition := by
  cases first with
  | error fault => exact ⟨nofun, fun both => absurd both.1 (not_succeeds_error fault)⟩
  | ok value =>
      rw [ok_bind, after value rfl]
      exact ⟨fun holds => ⟨succeeds_ok value, holds⟩, And.right⟩

/-- A step that cannot fail does not matter. -/
theorem succeeds_bind_ok_iff {first : Except ε α} {next : α → β} :
    Succeeds (first >>= fun value => .ok (next value)) ↔ Succeeds first :=
  (succeeds_bind_iff fun _ _ => iff_of_true (succeeds_ok _) trivial).trans (and_iff_left trivial)

/-! ## Properties of what is given -/

/-- What a computation gives has a property, if it gives anything. -/
def Ensures (result : Except ε α) (property : α → Prop) : Prop :=
  ∀ value, result = .ok value → property value

namespace Ensures

theorem ok {property : α → Prop} {value : α} (holds : property value) :
    Ensures (.ok value : Except ε α) property := by
  intro found same
  cases same
  exact holds

theorem error {property : α → Prop} (fault : ε) :
    Ensures (.error fault : Except ε α) property := nofun

theorem trivial (result : Except ε α) : Ensures result fun _ => True :=
  fun _ _ => True.intro

theorem bind {first : Except ε α} {next : α → Except ε β}
    {property : α → Prop} {after : β → Prop} (ensures : Ensures first property)
    (step : ∀ value, property value → Ensures (next value) after) :
    Ensures (first >>= next) after := by
  intro result succeeded
  rcases exists_of_bind_ok succeeded with ⟨value, found, follows⟩
  exact step value (ensures value found) result follows

end Ensures

end FontCompiler
