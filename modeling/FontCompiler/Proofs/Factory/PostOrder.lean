import FontCompiler.Proofs.Except
import FontCompiler.Proofs.Factory.Declarations

/-!
# The walk writes declarations in post-order

The walk of a graph keeps a stack of unfinished declarations.  This module
shows that it computes the texts of `Declarations`: a successful walk of a node
adds the expression of the node to the innermost frame, the declarations at or
below the node to the output and their large payloads to the sidecars, and
leaves all other frames alone.

The invariant is `Extends`, the relation between the state before a piece of
the walk and the state after it.  It composes, so each step of the walk has one
lemma, and the walk has one induction over the graph.
-/

namespace FontCompiler.Factory

open FontCompiler.Graph

variable {label property : String} {before middle after : State}

/-! ## What a piece of the walk adds -/

/--
The second state is the first one with a text added to the innermost frame, a
text added to the output, and payloads stored aside.
-/
structure Extends (before after : State) (text out : String)
    (stored : List Sidecar) : Prop where
  text : after.current.text = before.current.text.push text
  binding : after.current.binding = before.current.binding
  suspended : after.suspended = before.suspended
  out : after.out = before.out.push out
  sidecars : after.sidecars = before.sidecars ++ stored

namespace Extends

theorem push (state : State) (text : String) :
    Extends state (state.push text) text "" [] := by
  constructor <;> simp [State.push, Code.push]

theorem refl (state : State) : Extends state state "" "" [] := by
  constructor <;> simp [Code.push]

theorem trans {text₁ text₂ out₁ out₂ : String}
    {stored₁ stored₂ : List Sidecar}
    (first : Extends before middle text₁ out₁ stored₁)
    (second : Extends middle after text₂ out₂ stored₂) :
    Extends before after (text₁ ++ text₂) (out₁ ++ out₂)
      (stored₁ ++ stored₂) where
  text := by
    rw [second.text, first.text]
    simp [Code.push, String.append_assoc]
  binding := second.binding.trans first.binding
  suspended := second.suspended.trans first.suspended
  out := by
    rw [second.out, first.out]
    simp [Code.push, String.append_assoc]
  sidecars := by
    rw [second.sidecars, first.sidecars, List.append_assoc]

theorem then_push {text out : String} {stored : List Sidecar}
    (piece : Extends before after text out stored) (more : String) :
    Extends before (after.push more) (text ++ more) out stored := by
  simpa using piece.trans (push after more)

theorem after_push {text out more : String} {stored : List Sidecar}
    (piece : Extends (before.push more) after text out stored) :
    Extends before after (more ++ text) out stored := by
  simpa using (push before more).trans piece

theorem then_line {text out : String} {stored : List Sidecar}
    (piece : Extends before after text out stored)
    (indent : Nat) (line : String) :
    Extends before (after.line indent line)
      (text ++ (Code.blanks indent ++ line ++ "\n")) out stored := by
  have pushed := piece.then_push (Code.blanks indent ++ line ++ "\n")
  have same :
      (after.line indent line).current =
        (after.push (Code.blanks indent ++ line ++ "\n")).current := by
    simp [State.line, State.push, Code.line, Code.indent, Code.blank,
      Code.push, String.append_assoc]
  exact
    { text := by rw [same]; exact pushed.text
      binding := by rw [same]; exact pushed.binding
      suspended := pushed.suspended
      out := pushed.out
      sidecars := pushed.sidecars }

end Extends

/-! ## Frames -/

/-- A frame was opened on top of a state, and nothing written to it yet. -/
structure Opens (property : String) (before after : State)
    (binding : String) : Prop where
  bound : binding = Text.lowerFirst property
  current : after.current = ⟨binding, .empty⟩
  suspended : after.suspended = before.current :: before.suspended
  out : after.out = before.out
  sidecars : after.sidecars = before.sidecars

theorem beginFrame_opens {binding : String}
    (opened : beginFrame label property before = .ok (binding, after)) :
    Opens property before after binding := by
  unfold beginFrame at opened
  simp only at opened
  split at opened
  · cases opened
  · obtain ⟨rfl, rfl⟩ := Prod.mk.inj (Except.ok.inj opened)
    -- a repeated name is only reported
    cases before.declared.contains (Text.lowerFirst property) <;>
      constructor <;> rfl

/-- A frame is ended by giving its text to the output and resuming the frame below it. -/
theorem closeDeclaration_extends
    {binding text out : String} {stored : List Sidecar}
    (opened : Opens property before middle binding)
    (body : Extends middle after text out stored) :
    Extends before (closeDeclaration binding after)
      (reference binding) (out ++ text) stored := by
  have stack : after.suspended = before.current :: before.suspended :=
    body.suspended.trans opened.suspended
  have written : after.current.text = ⟨text⟩ := by
    rw [body.text, opened.current]
    simp [Code.push, Code.empty]
  have finished : after.out = before.out.push out := by
    rw [body.out, opened.out]
  have aside : after.sidecars = before.sidecars ++ stored := by
    rw [body.sidecars, opened.sidecars]
  constructor <;>
    simp [closeDeclaration, endFrame, State.push, State.report, stack,
      written, finished, aside, Code.push, Code.append, String.append_assoc]

theorem openDeclaration_extends (type binding : String) (state : State) :
    Extends state (openDeclaration type binding state)
      (Declaration.openingText type binding) "" [] := by
  have lines :=
    ((Extends.refl state).then_line Code.statementIndent
      ("var " ++ binding ++ " = new " ++ type ++
        "(new Dictionary<string, object>")).then_line
      Code.statementIndent "\x7b"
  simpa [openDeclaration, Declaration.openingText, String.append_assoc]
    using lines

theorem writePayload_extends
    (label property binding : String) (payload : List UInt8)
    (entries : Dictionary) (state : State) :
    Extends state (writePayload label property binding payload state)
      (Declaration.payloadText label property payload) ""
      (sidecarsOf label [⟨property, entries, some payload⟩]) := by
  by_cases small : payload.length < inlineLimit
  · have pushed := Extends.push state (payloadLiteral payload)
    simpa [writePayload, Declaration.payloadText, sidecarsOf,
      Declaration.sidecar?, small] using pushed
  · constructor <;>
      simp [writePayload, Declaration.payloadText, sidecarsOf,
        Declaration.sidecar?, small, State.push, State.report, Code.push,
        String.append_assoc]

/-! ## The walk -/

mutual

/-- A successful walk of a node adds what the node contributes, and nothing else. -/
theorem writeNode_extends (property : String) (nesting : Nat) :
    ∀ (node : Node) (before after : State),
      writeNode label property nesting node before = .ok after →
      Extends before after (useSite property nesting node)
        (declarationsText label (declarations property node))
        (sidecarsOf label (declarations property node))
  | .dictionary entries, before, after, written => by
      rw [writeNode] at written
      rcases exists_of_bind_ok written with ⟨⟨binding, opened⟩, begun, written⟩
      rcases exists_of_bind_ok written with ⟨body, bodyWritten, finished⟩
      cases finished
      have opens := beginFrame_opens begun
      have inside :=
        (openDeclaration_extends "GeneralDict" binding opened).trans
          (writeEntries_extends entries _ _ bodyWritten)
      have finished :=
        (inside.then_line Code.statementIndent "\x7d);").then_push "\n"
      have closed := closeDeclaration_extends opens finished
      simpa [useSite, declarations, Declaration.text, Declaration.typeName,
        Declaration.binding, Declaration.closingText, sidecarsOf,
        Declaration.sidecar?, opens.bound, String.append_assoc] using closed
  | .stream entries payload, before, after, written => by
      rw [writeNode] at written
      rcases exists_of_bind_ok written with ⟨⟨binding, opened⟩, begun, written⟩
      rcases exists_of_bind_ok written with ⟨body, bodyWritten, finished⟩
      cases finished
      have opens := beginFrame_opens begun
      have inside :=
        (openDeclaration_extends "StreamData" binding opened).trans
          (writeEntries_extends entries _ _ bodyWritten)
      have ended :=
        (inside.then_push (Code.blanks Code.statementIndent)).then_push "\x7d, "
      have stored :=
        ended.trans
          (writePayload_extends label property binding payload entries _)
      have closed :=
        closeDeclaration_extends opens (stored.then_push ");\n\n\n")
      simpa [useSite, declarations, Declaration.text, Declaration.typeName,
        Declaration.binding, Declaration.closingText, opens.bound,
        String.append_assoc] using closed
  | .array items, before, after, written => by
      rw [writeNode] at written
      rcases exists_of_bind_ok written with ⟨body, bodyWritten, finished⟩
      cases finished
      have inside := writeItems_extends property nesting items _ _ bodyWritten
      by_cases outermost : nesting = 0
      · have whole :=
          (inside.after_push.then_push (Code.blanks entryIndent)).then_push
            "\x7d"
        simpa [useSite, declarations, outermost] using whole
      · have whole := inside.after_push.then_push "\x7d"
        simpa [useSite, declarations, outermost] using whole
  | .float value, before, after, written => by
      cases written
      simpa [useSite, declarations] using Extends.push before (floatLiteral value)
  | .integer value, before, after, written => by
      cases written
      simpa [useSite, declarations] using
        Extends.push before (Numeric.decimalInt value.toInt)
  | .name text, before, after, written => by
      cases written
      simpa [useSite, declarations] using
        Extends.push before ("new Name(\"" ++ text ++ "\")")
  | .string text, before, after, written => by
      cases written
      simpa [useSite, declarations] using
        Extends.push before ("\"" ++ text ++ "\"")
  | .boolean value, before, after, written => by cases written
  | .null, before, after, written => by cases written

theorem writeItems_extends (property : String) (nesting : Nat) :
    ∀ (items : List Node) (before after : State),
      writeItems label property nesting items before = .ok after →
      Extends before after (itemsText property nesting items)
        (declarationsText label (itemsDeclarations property items))
        (sidecarsOf label (itemsDeclarations property items))
  | [], before, after, written => by
      cases written
      simpa [itemsText, itemsDeclarations] using Extends.refl before
  | item :: items, before, after, written => by
      rw [writeItems] at written
      rcases exists_of_bind_ok written with ⟨middle, itemWritten, othersWritten⟩
      have first :=
        writeNode_extends property (nesting + 1) item _ _ itemWritten
      have others := writeItems_extends property nesting items _ _ othersWritten
      by_cases outermost : nesting = 0
      · simp only [outermost, beq_self_eq_true, if_true] at first others
        have whole := first.after_push.trans others.after_push
        simpa [itemsText, itemsDeclarations, outermost, String.append_assoc]
          using whole
      · have inner : (nesting == 0) = false := by simpa using outermost
        simp only [inner] at first others
        have whole := first.trans others.after_push
        simpa [itemsText, itemsDeclarations, outermost, String.append_assoc]
          using whole

theorem writeEntries_extends :
    ∀ (entries : List (String × Node)) (before after : State),
      writeEntries label entries before = .ok after →
      Extends before after (entriesText entries)
        (declarationsText label (entriesDeclarations entries))
        (sidecarsOf label (entriesDeclarations entries))
  | [], before, after, written => by
      cases written
      simpa [entriesText, entriesDeclarations] using Extends.refl before
  | (key, value) :: entries, before, after, written => by
      rw [writeEntries] at written
      rcases exists_of_bind_ok written with
        ⟨middle, valueWritten, othersWritten⟩
      have first := writeNode_extends key 0 value _ _ valueWritten
      have others := writeEntries_extends entries _ _ othersWritten
      have whole := first.after_push.after_push.trans others.after_push
      simpa [entriesText, entriesDeclarations, String.append_assoc] using whole

end

/-! ## The whole factory -/

theorem lowerFirst_rootProperty :
    Text.lowerFirst rootProperty = rootProperty := by
  decide

theorem prologue_out (label : String) :
    (prologue label .initial).out = ⟨prologueText label⟩ := by
  simp [prologue, State.outLine, State.initial, Code.line, Code.indent,
    Code.blank, Code.push, Code.empty, prologueText, String.append_assoc]

theorem epilogue_out (state : State) :
    (epilogue rootProperty state).out = state.out.push epilogueText := by
  simp [epilogue, State.outLine, Code.line, Code.indent, Code.blank,
    Code.push, epilogueText, String.append_assoc]

/-- A factory comes from one walk of the root, whose declarations it encloses in fixed lines. -/
theorem exists_walk_of_compile
    {root : Dictionary} {product : Product}
    (compiled : compile root label = .ok product) :
    ∃ final,
      writeNode label rootProperty 0 (.dictionary root)
          (prologue label .initial) = .ok final ∧
        product.source = (epilogue rootProperty final).out.text ∧
        product.sidecars = final.sidecars := by
  unfold compile at compiled
  rcases exists_of_bind_ok compiled with ⟨final, walked, finished⟩
  cases finished
  refine ⟨final, walked, ?_, rfl⟩
  rw [lowerFirst_rootProperty]
  rfl

theorem compile_source
    {root : Dictionary} {product : Product}
    (compiled : compile root label = .ok product) :
    product.source = factoryText root label := by
  rcases exists_walk_of_compile compiled with ⟨final, walked, source, -⟩
  have walk := writeNode_extends rootProperty 0 _ _ _ walked
  rw [source, epilogue_out, walk.out, prologue_out]
  rfl

theorem compile_sidecars
    {root : Dictionary} {product : Product}
    (compiled : compile root label = .ok product) :
    product.sidecars =
      sidecarsOf label (declarations rootProperty (.dictionary root)) := by
  rcases exists_walk_of_compile compiled with ⟨final, walked, -, sidecars⟩
  have walk := writeNode_extends rootProperty 0 _ _ _ walked
  rw [sidecars, walk.sidecars]
  rfl

/--
The states in which the walk ends the frame that it began on top of another
state: behind the last line of a dictionary, and behind that of a stream.
-/
inductive EndsFrame (label : String) (parent : State) : State → Prop
  | dictionary {property binding : String} {entries : Dictionary}
      {opened written : State} :
      beginFrame label property parent = .ok (binding, opened) →
      writeEntries label entries
        (openDeclaration "GeneralDict" binding opened) = .ok written →
      EndsFrame label parent
        ((written.line Code.statementIndent "\x7d);").push "\n")
  | stream {property binding : String} {entries : Dictionary}
      {payload : List UInt8} {opened written : State} :
      beginFrame label property parent = .ok (binding, opened) →
      writeEntries label entries
        (openDeclaration "StreamData" binding opened) = .ok written →
      EndsFrame label parent
        ((writePayload label property binding payload
          ((written.push (Code.blanks Code.statementIndent)).push
            "\x7d, ")).push ");\n\n\n")

/-- The frame that is resumed is the one that was suspended, whatever was walked in between. -/
theorem EndsFrame.suspended {parent ended : State}
    (ends : EndsFrame label parent ended) :
    ended.suspended = parent.current :: parent.suspended := by
  cases ends with
  | dictionary begun walked =>
      have opens := beginFrame_opens begun
      have body :=
        (openDeclaration_extends _ _ _).trans (writeEntries_extends _ _ _ walked)
      exact body.suspended.trans opens.suspended
  | @stream property binding entries payload opened written begun walked =>
      have opens := beginFrame_opens begun
      have body :=
        (openDeclaration_extends _ _ _).trans (writeEntries_extends _ _ _ walked)
      have aside :=
        writePayload_extends label property binding payload entries
          ((written.push (Code.blanks Code.statementIndent)).push "\x7d, ")
      exact aside.suspended.trans (body.suspended.trans opens.suspended)

/--
The walk computes the post-order texts.  From any state, a successful walk of a
node adds its expression to the innermost frame, its declarations to the output
and their large payloads to the sidecars, and leaves the other frames alone; a
frame is only ever ended on top of the one that was suspended for it; and a
finished factory holds the declarations of the graph in post-order, the root
last, while the frame below the root holds the reference to it and nothing
else.
-/
theorem walk_writes_postOrder (label : String) :
    (∀ (property : String) (nesting : Nat) (node : Node)
        (before after : State),
      writeNode label property nesting node before = .ok after →
        after.current =
            ⟨before.current.binding,
              before.current.text.push (useSite property nesting node)⟩ ∧
          after.out =
            before.out.push
              (declarationsText label (declarations property node)) ∧
          after.sidecars =
            before.sidecars ++ sidecarsOf label (declarations property node) ∧
          after.suspended = before.suspended) ∧
      (∀ parent ended : State, EndsFrame label parent ended →
        ended.suspended = parent.current :: parent.suspended) ∧
      ∀ (root : Dictionary) (product : Product),
        compile root label = .ok product →
          product.source =
              prologueText label ++
                declarationsText label
                  (declarations rootProperty (.dictionary root)) ++
                epilogueText ∧
            product.sidecars =
              sidecarsOf label
                (declarations rootProperty (.dictionary root)) ∧
            declarations rootProperty (.dictionary root) =
              entriesDeclarations root ++ [⟨"font", root, none⟩] ∧
            ∃ final,
              writeNode label rootProperty 0 (.dictionary root)
                  (prologue label .initial) = .ok final ∧
                final.current = ⟨"", ⟨reference "font"⟩⟩ ∧
                final.suspended = [] := by
  refine ⟨?_, fun parent ended ends => ends.suspended, ?_⟩
  · intro property nesting node before after written
    have walk := writeNode_extends property nesting node before after written
    refine ⟨?_, walk.out, walk.sidecars, walk.suspended⟩
    rw [← walk.binding, ← walk.text]
  · intro root product compiled
    refine ⟨compile_source compiled, compile_sidecars compiled, ?_, ?_⟩
    · rw [declarations]
      rfl
    · obtain ⟨final, walked, -⟩ := exists_walk_of_compile compiled
      have walk := writeNode_extends rootProperty 0 _ _ _ walked
      refine ⟨final, walked, ?_, walk.suspended⟩
      have text : final.current.text = ⟨reference "font"⟩ := by
        rw [walk.text, useSite, lowerFirst_rootProperty]
        rfl
      have binding : final.current.binding = "" := walk.binding
      rw [← text, ← binding]

/-- A dictionary and a large stream that begin in the middle of the lines of an array. -/
theorem walk_writes_postOrder_kids :
    ∃ after ended product,
      writeNode "Bold" "Kids" 0
          (.array [.dictionary [], .array [.integer 4]]) .initial =
        .ok after ∧
      after.sidecars = [] ∧
      EndsFrame "Bold" .initial ended ∧
      ended.suspended = [⟨"", .empty⟩] ∧
      compile [("Kids", .array [.stream [] (List.replicate 256 7)])] "Bold" =
        .ok product ∧
      product.sidecars = [⟨"Bold-Kids.bin", List.replicate 256 7⟩] := by
  have facts := walk_writes_postOrder "Bold"
  obtain ⟨after, walked⟩ :
      ∃ after,
        writeNode "Bold" "Kids" 0
            (.array [.dictionary [], .array [.integer 4]]) .initial =
          .ok after := ⟨_, rfl⟩
  obtain ⟨ended, ends⟩ : ∃ ended, EndsFrame "Bold" .initial ended :=
    ⟨_, @EndsFrame.dictionary "Bold" .initial "Kids" _ [] _ _ rfl rfl⟩
  obtain ⟨product, compiled⟩ :
      ∃ product,
        compile [("Kids", .array [.stream [] (List.replicate 256 7)])]
          "Bold" = .ok product := ⟨_, rfl⟩
  refine
    ⟨after, ended, product, walked, (facts.1 _ _ _ _ _ walked).2.2.1, ends,
      facts.2.1 _ _ ends, compiled, ?_⟩
  rw [(facts.2.2 _ _ compiled).2.1]
  have stored (payload : List UInt8) (large : ¬payload.length < inlineLimit) :
      sidecarsOf "Bold"
          (declarations rootProperty
            (.dictionary [("Kids", .array [.stream [] payload])])) =
        [⟨"Bold-Kids.bin", payload⟩] := by
    simp [declarations, entriesDeclarations, itemsDeclarations, sidecarsOf,
      Declaration.sidecar?, large, sidecarName]
  exact stored _ (by rw [List.length_replicate]; decide)

end FontCompiler.Factory
