/-
  OnePass/Proofs/Declarations.lean
  ================================
  **Declarations** — which check decides how a declaration ends, and what one that
  succeeds leaves.

  The checks stand in a fixed order, and each is decided by something else: the
  type by its word, the form by its text, the name by the innermost scope alone,
  the room by the cursor, and the place for the symbol by whether any scope is
  active.  A size that can be read is within reach of an offset, so there is no
  room only if the cursor would leave the range of offsets.
-/
import OnePass.Proofs.Grammar
import OnePass.Proofs.Layout
import OnePass.Proofs.Nesting

namespace OnePass

open Asm Step Session

/-! ### Sizes and room -/

/-- What can be declared is within reach of an offset. -/
theorem Declarator.words_le_of_parse {spec : String} {declarator : Declarator}
    (h : parse spec = .ok declarator) : declarator.words ≤ 536870911 := by
  rcases ofTrimmed_eq_ok_iff.mp h with ⟨-, -, rfl⟩ | ⟨b, -, -, -, -, hle⟩
  · show 1 ≤ 536870911
    decide
  · exact hle

/-- A size within reach of an offset finds room unless the cursor would leave the
    range of offsets. -/
theorem Frame.grow?_of_words {frame : Frame} {words : Nat} (hcursor : frame.cursor ≤ 0)
    (hwords : words ≤ 536870911) :
    frame.grow? words =
      if frame.cursor - 4 * words < -2147483648 then none
      else some ⟨frame.cursor - 4 * words⟩ := by
  rw [grow?, below?_of_nonpos hcursor]
  by_cases hplace : frame.cursor - 4 * words < -2147483648
  · rw [if_pos hplace, if_neg fun h => Int.not_lt.mpr h.2 hplace]
    rfl
  · rw [if_neg hplace, if_pos ⟨hwords, Int.not_lt.mp hplace⟩]
    rfl

/-! ### How declarations end -/

/-- In the innermost of the active scopes the name is bound to the new symbol. -/
theorem Session.withVariable_of_active {s : Session} {type : ValueType} {declarator : Declarator}
    {grown : Frame} {scope : Scope} {outer : List Scope}
    (h : s.environment.active = scope :: outer) :
    s.withVariable type declarator grown =
      { s with
        environment :=
          { s.environment with
            symbols := s.environment.symbols.push
              ⟨declarator.name, type, s.frame.cursor, declarator.words⟩
            active := scope.insert declarator.name s.environment.symbols.size :: outer }
        frame := grown } := by
  simp only [withVariable, Environment.bound, h, List.modifyHead_cons]

theorem Action.answer_of_refuses_declare {s : Journaled Session} {typeName spec : String}
    {cause : Fault} {t : Session} (hlive : s.state.firstFault = none)
    (h : Refuses (Session.declare typeName spec) s.state cause t) :
    ((declare typeName spec).perform s).1 = .error cause := by
  have hrule : Refuses (declare typeName spec).rule s.state cause t := h.bind
  obtain ⟨journal, hfails⟩ := perform_of_refuses hlive hrule
  rw [hfails]

/-- **A declaration is decided by five checks in a fixed order.**  The word has to
    be that of a scalar type; the text has to be that of a declarator; the
    innermost scope must not bind the name, whatever others bind; the cursor must
    not leave the range of offsets; and there has to be a scope.  Otherwise the
    declaration adds one symbol at the cursor, binds its name in the innermost
    scope and moves the cursor below it; but for its remark that is all it does. -/
theorem declare_decided {s : Journaled Session} (hs : Reachable s)
    (hlive : s.state.firstFault = none) (typeName spec : String) :
    let env := s.state.environment
    let cursor := s.state.frame.cursor
    let answer := ((Action.declare typeName spec).perform s).1
    let t := ((Action.declare typeName spec).perform s).2.state
    (typeName ≠ "int" ∧ typeName ≠ "char" → answer = .error (.invalidType typeName)) ∧
    ∀ type, typeName = "int" ∧ type = .int ∨ typeName = "char" ∧ type = .char →
      (∀ cause, Declarator.parse spec = .error cause → answer = .error cause) ∧
      ∀ name words, Declarator.parse spec = .ok ⟨name, words⟩ →
        (∀ id, env.findLocal? name = some id →
          ∃ previous, env.symbol? id = some previous ∧ previous.name = name ∧
            answer = .error (.duplicateDeclaration name previous.offset)) ∧
        (env.findLocal? name = none →
          (cursor - 4 * (words : Int) < -2147483648 → answer = .error (.frameOverflow words)) ∧
          (-2147483648 ≤ cursor - 4 * (words : Int) →
            (env.active = [] → answer = .error (.noActiveScope name)) ∧
            ∀ scope outer, env.active = scope :: outer →
              answer = .ok (.symbol env.symbols.size) ∧
              t = { s.state.wrote (if s.state.listing.annotated then
                      [.remark (declarationRemark type spec cursor)] else []) with
                    environment :=
                      { env with
                        symbols := env.symbols.push ⟨name, type, cursor, words⟩
                        active := scope.insert name env.symbols.size :: outer }
                    frame := ⟨cursor - 4 * (words : Int)⟩ } ∧
              t.code = s.state.code)) := by
  intro env cursor answer t
  have hcursor : cursor ≤ 0 := (laid hs).cursor_nonpos
  refine ⟨fun hother => ?_, fun type hword => ?_⟩
  · have htype := ValueType.ofName?_eq_none_iff.mpr hother
    exact Action.answer_of_refuses_declare hlive (refuses_declare_of_type htype)
  have htype : ValueType.ofName? typeName = some type := by
    rcases hword with ⟨rfl, rfl⟩ | ⟨rfl, rfl⟩ <;> rfl
  refine ⟨fun cause hparse => ?_, fun name words hparse => ⟨fun id hid => ?_, fun hfree => ?_⟩⟩
  · exact Action.answer_of_refuses_declare hlive (refuses_declare_of_form htype hparse)
  · obtain ⟨previous, hprevious, hname⟩ := hs.faithful.findLocal? hid
    have hbound : (env.findLocal? name).bind env.symbol? = some previous := by
      rw [hid, Option.bind_some, hprevious]
    refine ⟨previous, hprevious, hname, ?_⟩
    exact Action.answer_of_refuses_declare hlive (refuses_declare_of_duplicate htype hparse hbound)
  have hfresh : (env.findLocal? name).bind env.symbol? = none := by
    rw [hfree, Option.bind_none]
  have hroom := Frame.grow?_of_words hcursor (Declarator.words_le_of_parse hparse)
  refine ⟨fun hplace => ?_, fun hplace => ?_⟩
  · rw [if_pos hplace] at hroom
    exact Action.answer_of_refuses_declare hlive
      (refuses_declare_of_no_room htype hparse hfresh hroom)
  rw [if_neg (Int.not_lt.mpr hplace)] at hroom
  have hdeclarable : Declarable s.state typeName spec type ⟨name, words⟩ _ :=
    ⟨htype, hparse, hfresh, hroom⟩
  refine ⟨fun hactive => ?_, fun scope outer hactive => ?_⟩
  · exact Action.answer_of_refuses_declare hlive (refuses_declare_of_no_scope hdeclarable hactive)
  · have hrule : Yields (Action.declare typeName spec).rule s.state _ _ :=
      (yields_declare hdeclarable (by rw [hactive]; nofun)).bind (yields_pure _ _)
    obtain ⟨journal, hok⟩ := Action.perform_of_yields hlive hrule
    unfold answer t
    rw [hok]
    refine ⟨rfl, ?_, ?_⟩
    · rw [remarked_eq_wrote]
      exact withVariable_of_active hactive
    · exact code_remarked s.state _

-- The name of a variable of an outer scope, whose place is not given out again.
set_option maxRecDepth 4000 in
theorem declare_decided_of_shadowing :
    let s := (Action.run [.enterScope, .declare "int" "x", .enterScope]
      { state := Session.start {} }).2
    let t := ((Action.declare "char" " x [2]").perform s).2.state
    ((Action.declare "char" " x [2]").perform s).1 = .ok (.symbol 1) ∧
      t.environment.symbols = s.state.environment.symbols.push ⟨"x", .char, -4, 2⟩ ∧
      t.environment.findLocal? "x" = some 1 ∧ t.environment.active.tail ≠ [] ∧
      t.frame.cursor = -12 := by
  intro s
  have hreachable : Reachable s := ⟨_, _, _, rfl⟩
  have hlive : s.state.firstFault = none := by
    unfold s
    decide +kernel
  have hparse : Declarator.parse " x [2]" = .ok ⟨"x", 2⟩ := by decide +kernel
  have hfree : s.state.environment.findLocal? "x" = none := by
    unfold s
    decide +kernel
  have hcursor : s.state.frame.cursor = -4 := by
    unfold s
    decide +kernel
  have hdepth : s.state.environment.active.length = 2 := by
    unfold s
    decide +kernel
  have hsize : s.state.environment.symbols.size = 1 := by
    unfold s
    decide +kernel
  clear_value s
  obtain ⟨scope, outer, hactive⟩ := List.exists_cons_of_ne_nil
    (List.ne_nil_of_length_eq_add_one hdepth)
  obtain ⟨-, hchar⟩ := declare_decided hreachable hlive "char" " x [2]"
  obtain ⟨-, hread⟩ := hchar .char (Or.inr ⟨rfl, rfl⟩)
  obtain ⟨-, hnew⟩ := hread _ _ hparse
  obtain ⟨hanswer, ht, -⟩ := ((hnew hfree).2 (by rw [hcursor]; decide)).2 scope outer hactive
  rw [hsize] at hanswer
  refine ⟨hanswer, ?_⟩
  rw [ht, hcursor, hsize]
  refine ⟨rfl, ?_, ?_, rfl⟩
  · simp [Environment.findLocal?]
  · have houter : outer.length = 1 := by simpa [hactive] using hdepth
    exact List.ne_nil_of_length_eq_add_one houter

end OnePass
