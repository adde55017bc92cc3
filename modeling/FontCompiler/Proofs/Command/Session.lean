import FontCompiler.Command.Session
import FontCompiler.Proofs.Files.System

/-!
# Endings of sessions

A session on a store always ends: with a result or a failure, with all that was
reported up to there, and with the store as it was left.  A failure skips what
would have come next and takes nothing back.
-/

namespace FontCompiler.Command

open Files

/-! ## Reports -/

namespace Transcript

/-- The transcript with more records at its end. -/
def logged (transcript : Transcript) (records : List Log.Record) : Transcript :=
  { transcript with events := transcript.events ++ records.map .record }

/-- The lines for the terminal, without the records between them. -/
def said (transcript : Transcript) : List String :=
  transcript.events.filterMap fun
    | .record _ => none
    | .line text => some text

@[simp]
theorem said_empty : empty.said = [] := rfl

@[simp]
theorem logged_nil (transcript : Transcript) : transcript.logged [] = transcript := by
  simp [logged]

@[simp]
theorem logged_logged (transcript : Transcript) (first second : List Log.Record) :
    (transcript.logged first).logged second = transcript.logged (first ++ second) := by
  simp [logged]

@[simp]
theorem said_logged (transcript : Transcript) (records : List Log.Record) :
    (transcript.logged records).said = transcript.said := by
  have silent :
      (records.map Event.record).filterMap
          (fun
            | .record _ => none
            | .line text => some text) = ([] : List String) := by
    simp [List.filterMap_map]
  rw [said, logged, List.filterMap_append, silent, List.append_nil, said]

/-- A transcript goes on with lines, among records, and with no output. -/
structure Tells (before : Transcript) (lines : List String) (after : Transcript) : Prop where
  output : after.output = before.output
  said : after.said = before.said ++ lines

namespace Tells

variable {before between after : Transcript} {lines more : List String}

theorem refl (transcript : Transcript) : transcript.Tells [] transcript :=
  ⟨rfl, (List.append_nil _).symm⟩

theorem logged (transcript : Transcript) (records : List Log.Record) :
    transcript.Tells [] (transcript.logged records) :=
  ⟨rfl, by rw [said_logged, List.append_nil]⟩

theorem line (transcript : Transcript) (text : String) :
    transcript.Tells [text]
      { transcript with events := transcript.events ++ [.line text] } :=
  ⟨rfl, List.filterMap_append⟩

theorem trans (first : before.Tells lines between) (second : between.Tells more after) :
    before.Tells (lines ++ more) after := by
  refine ⟨second.output.trans first.output, ?_⟩
  rw [second.said, first.said, List.append_assoc]

end Tells

end Transcript

/-! ## Endings -/

/-- How a session ends: its result, what it reported, and the store that it leaves. -/
structure Ending (α : Type) where
  result : Except Failure α
  transcript : Transcript
  store : Store

namespace Session

variable {α β : Type}

/-- How a session ends that goes on from a transcript and a store. -/
def ending (session : Session (StateM Store) α) (transcript : Transcript)
    (store : Store) : Ending α :=
  match (session.run.run transcript).run store with
  | ((result, transcript), store) => ⟨result, transcript, store⟩

variable {session : Session (StateM Store) α} {next : α → Session (StateM Store) β}
  {transcript later : Transcript} {store after : Store}

theorem ending_pure (value : α) :
    ending (pure value) transcript store = ⟨.ok value, transcript, store⟩ := rfl

theorem ending_throw (failure : Failure) :
    ending (throw failure : Session (StateM Store) α) transcript store =
      ⟨.error failure, transcript, store⟩ := rfl

theorem ending_bind :
    ending (session >>= next) transcript store =
      match ending session transcript store with
      | ⟨.ok value, later, after⟩ => ending (next value) later after
      | ⟨.error failure, later, after⟩ => ⟨.error failure, later, after⟩ := by
  unfold ending
  rw [ExceptT.run_bind, StateT.run_bind, StateT.run_bind]
  rcases (session.run.run transcript).run store with ⟨⟨result, later⟩, after⟩
  cases result <;> rfl

theorem ending_bind_of_ok {value : α}
    (ended : ending session transcript store = ⟨.ok value, later, after⟩) :
    ending (session >>= next) transcript store = ending (next value) later after := by
  rw [ending_bind, ended]

theorem ending_bind_of_error {failure : Failure}
    (ended : ending session transcript store = ⟨.error failure, later, after⟩) :
    ending (session >>= next) transcript store = ⟨.error failure, later, after⟩ := by
  rw [ending_bind, ended]

theorem exists_of_ending_bind_ok {value : β}
    (ended : ending (session >>= next) transcript store = ⟨.ok value, later, after⟩) :
    ∃ middle between left,
      ending session transcript store = ⟨.ok middle, between, left⟩ ∧
        ending (next middle) between left = ⟨.ok value, later, after⟩ := by
  rw [ending_bind] at ended
  split at ended
  · rename_i middle between left first
    exact ⟨middle, between, left, first, ended⟩
  · cases ended

theorem ending_log (records : List Log.Record) :
    ending (log records) transcript store =
      ⟨.ok (), transcript.logged records, store⟩ := rfl

theorem ending_line (text : String) :
    ending (line text) transcript store =
      ⟨.ok (), { transcript with events := transcript.events ++ [.line text] },
        store⟩ := rfl

theorem ending_perform (operation : StateM Store α) :
    ending (perform operation) transcript store =
      ⟨.ok (operation.run store).1, transcript, (operation.run store).2⟩ := rfl

theorem ending_require_of_ok {explain : Files.Failure → Failure}
    {operation : StateM Store (Except Files.Failure α)} {value : α}
    (ran : operation.run store = (.ok value, after)) :
    ending (require explain operation) transcript store =
      ⟨.ok value, transcript, after⟩ := by
  rw [require, ending_bind_of_ok (ending_perform operation), ran]
  rfl

theorem ending_require_of_error {explain : Files.Failure → Failure}
    {operation : StateM Store (Except Files.Failure α)} {cause : Files.Failure}
    (ran : operation.run store = (.error cause, after)) :
    ending (require explain operation) transcript store =
      ⟨.error (explain cause), transcript, after⟩ := by
  rw [require, ending_bind_of_ok (ending_perform operation), ran]
  rfl

theorem ending_settle (outcome : Outcome α) :
    ending (settle outcome) transcript store =
      ⟨outcome.result, transcript.logged outcome.records, store⟩ := by
  rw [settle, ending_bind_of_ok (ending_log outcome.records)]
  cases outcome.result with
  | ok value => rfl
  | error failure => rfl

/-! ## Sessions that only read -/

/-- The session only reads and logs, whatever was reported, and what it gives has a property. -/
def Reads (session : Session (StateM Store) α) (property : α → Prop) : Prop :=
  ∀ store, ∃ result records,
    (∀ transcript,
      ending session transcript store = ⟨result, transcript.logged records, store⟩) ∧
      ∀ value, result = .ok value → property value

/-- The session gives a value on a store, by reading and logging only. -/
def Gives (session : Session (StateM Store) α) (store : Store) (value : α) : Prop :=
  ∃ records, ∀ transcript,
    ending session transcript store = ⟨.ok value, transcript.logged records, store⟩

namespace Reads

variable {property : α → Prop} {propertyNext : β → Prop}

theorem pure {value : α} (has : property value) :
    Reads (Pure.pure value) property := by
  intro store
  refine ⟨.ok value, [], fun transcript => ?_, ?_⟩
  · rw [ending_pure, Transcript.logged_nil]
  · rintro _ ⟨⟩
    exact has

theorem throw (failure : Failure) : Reads (throw failure) property := by
  intro store
  refine ⟨.error failure, [], fun transcript => ?_, nofun⟩
  rw [ending_throw, Transcript.logged_nil]

theorem log (records : List Log.Record) :
    Reads (log records) fun _ => True :=
  fun _ => ⟨.ok (), records, fun _ => ending_log records, fun _ _ => trivial⟩

theorem perform {operation : StateM Store α} (quiet : Quiet operation)
    (has : ∀ store, property (operation.run store).1) :
    Reads (perform operation) property := by
  intro store
  refine ⟨.ok (operation.run store).1, [], fun transcript => ?_, ?_⟩
  · rw [ending_perform, quiet store, Transcript.logged_nil]
  · rintro _ ⟨⟩
    exact has store

theorem bind (first : Reads session property)
    (others : ∀ value, property value → Reads (next value) propertyNext) :
    Reads (session >>= next) propertyNext := by
  intro store
  rcases first store with ⟨result, records, ended, has⟩
  cases result with
  | error failure =>
      exact
        ⟨_, records, fun transcript => ending_bind_of_error (ended transcript), nofun⟩
  | ok value =>
      rcases others value (has value rfl) store with ⟨final, more, finished, hasNext⟩
      refine ⟨final, records ++ more, fun transcript => ?_, hasNext⟩
      rw [ending_bind_of_ok (ended transcript), finished, Transcript.logged_logged]

theorem require (explain : Files.Failure → Failure)
    {operation : StateM Store (Except Files.Failure α)} (quiet : Quiet operation) :
    Reads (require explain operation) fun _ => True := by
  have performed : Reads (Session.perform operation) fun _ => True :=
    .perform quiet fun _ => trivial
  refine performed.bind fun outcome _ => ?_
  cases outcome with
  | ok value => exact .pure trivial
  | error cause => exact .throw _

theorem gives (reads : Reads session property) {value : α}
    (ended : ending session transcript store = ⟨.ok value, later, after⟩) :
    after = store ∧ Gives session store value := by
  rcases reads store with ⟨result, records, ends, -⟩
  have same := (ends transcript).symm.trans ended
  cases same
  exact ⟨rfl, records, ends⟩

/-- Two sessions in a row give what the second one gives behind the first. -/
theorem exists_of_gives_bind (first : Reads session property)
    (others : ∀ value, Reads (next value) propertyNext) {value : β}
    (gives : Gives (session >>= next) store value) :
    ∃ middle, Gives session store middle ∧ Gives (next middle) store value := by
  rcases gives with ⟨records, ends⟩
  rcases exists_of_ending_bind_ok (ends .empty) with
    ⟨middle, between, left, ended, finished⟩
  rcases first.gives ended with ⟨rfl, givesFirst⟩
  exact ⟨middle, givesFirst, ((others middle).gives finished).2⟩

end Reads

namespace Gives

theorem pure (value : α) : Gives (Pure.pure value) store value := by
  refine ⟨[], fun transcript => ?_⟩
  rw [ending_pure, Transcript.logged_nil]

theorem bind {first : α} {second : β} (gives : Gives session store first)
    (others : Gives (next first) store second) : Gives (session >>= next) store second := by
  rcases gives with ⟨records, ends⟩
  rcases others with ⟨more, finishes⟩
  refine ⟨records ++ more, fun transcript => ?_⟩
  rw [ending_bind_of_ok (ends transcript), finishes, Transcript.logged_logged]

end Gives

end Session

end FontCompiler.Command
