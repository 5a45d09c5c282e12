/-
  OnePass/Proofs/Endings.lean
  ===========================
  **Endings** — what an action does to scopes, to names and to the data segment.

  Most actions bind no name a program can write and store no text; of them it is
  enough to know that they go by changes.  The others open or leave a scope,
  declare, or store a text.  `Action.Ends` tells for each how it can end, so that
  whatever depends on scopes and names is proved by cases, without the rules.
-/
import OnePass.Proofs.Reachable

namespace OnePass

open Asm Step Session

/-! ### Changes without names -/

section Quiet

variable {allowed : Line → Prop} {s t : Session}

theorem Session.Changes.strings_eq (h : Changes allowed False s t) :
    t.listing.strings = s.listing.strings := by
  refine h.keeps (I := fun t => t.listing.strings = s.listing.strings) ?_ rfl
  intro t u hchange ht
  cases hchange with
  | stored _ hfalse => exact hfalse.elim
  | _ => exact ht

theorem Session.Falls.strings_eq (h : Falls allowed False s t) :
    t.listing.strings = s.listing.strings := by
  obtain ⟨u, hchanges, rfl | ⟨words, grown, -, rfl⟩⟩ := h
  · exact hchanges.strings_eq
  · exact hchanges.strings_eq

/-- An environment only draws names and gets temporaries. -/
theorem Session.Change.keeps_environment {I : Environment → Prop}
    (hdrew : ∀ {env}, I env → I env.drew)
    (hbound : ∀ {env symbol number}, symbol.name = generatedName .temporary number → I env →
      I (env.bound symbol))
    (h : Change allowed False s t) (hs : I s.environment) : I t.environment := by
  cases h with
  | entered hfalse => exact hfalse.elim
  | left _ hfalse => exact hfalse.elim
  | declared _ _ _ _ _ hfalse => exact hfalse.elim
  | stringLabel _ hfalse => exact hfalse.elim
  | stored _ hfalse => exact hfalse.elim
  | drew => exact hdrew hs
  | temporary => exact hbound rfl (hdrew hs)
  | wrote => exact hs
  | rotated => exact hs

theorem Session.Falls.keeps_environment {I : Environment → Prop}
    (hdrew : ∀ {env}, I env → I env.drew)
    (hbound : ∀ {env symbol number}, symbol.name = generatedName .temporary number → I env →
      I (env.bound symbol))
    (h : Falls allowed False s t) (hs : I s.environment) : I t.environment :=
  h.keeps (fun hchange hi => hchange.keeps_environment hdrew hbound hi) hs

end Quiet

@[simp] theorem Session.strings_remarked (session : Session) (text : String) :
    (session.remarked text).listing.strings = session.listing.strings := by
  unfold remarked
  split <;> rfl

/-! ### How actions end -/

/-- The session that stays behind an answer: a fault is kept in it. -/
def Session.keeping (session : Session) : Except Fault Reply → Session
  | .ok _ => session
  | .error cause => { session with firstFault := some cause }

@[simp] theorem Session.environment_keeping (session : Session) (answer : Except Fault Reply) :
    (session.keeping answer).environment = session.environment := by
  cases answer <;> rfl

@[simp] theorem Session.listing_keeping (session : Session) (answer : Except Fault Reply) :
    (session.keeping answer).listing = session.listing := by
  cases answer <;> rfl

namespace Action

/-- How an action ends: its answer, and the session its rule leaves. -/
inductive Ends : Action → Session → Except Fault Reply → Session → Prop
  | quiet {action : Action} {s t : Session} (hquiet : action.isQuiet = true)
      (answer : Except Fault Reply) (hfalls : Falls (fun _ => True) False s t) :
      Ends action s answer t
  | entered (s : Session) :
      Ends .enterScope s (.ok .done)
        { s with environment := { s.environment with active := ∅ :: s.environment.active } }
  | left {s : Session} (hactive : s.environment.active ≠ []) :
      Ends .leaveScope s (.ok .done) { s with environment := s.environment.left }
  | underflow {s : Session} (hactive : s.environment.active = []) :
      Ends .leaveScope s (.error .scopeUnderflow) s
  | declared {s : Session} {typeName spec : String} {type : ValueType} {declarator : Declarator}
      {grown : Frame} (hdeclarable : Declarable s typeName spec type declarator grown)
      (hactive : s.environment.active ≠ []) :
      Ends (.declare typeName spec) s (.ok (.symbol s.environment.symbols.size))
        ((s.remarked (declarationRemark type spec s.frame.cursor)).withVariable type declarator
          grown)
  | homeless {s : Session} {typeName spec : String} {type : ValueType} {declarator : Declarator}
      {grown : Frame} (hdeclarable : Declarable s typeName spec type declarator grown)
      (hactive : s.environment.active = []) :
      Ends (.declare typeName spec) s (.error (.noActiveScope declarator.name))
        { s.remarked (declarationRemark type spec s.frame.cursor) with frame := grown }
  | rejected (s : Session) (typeName spec : String) (cause : Fault) :
      Ends (.declare typeName spec) s (.error cause) s
  | labelled {s : Session} (text : String) (hactive : s.environment.active ≠ []) :
      Ends (.stringLiteral text) s
        (.ok (.record ⟨.string, .label (generatedName .stringLabel s.environment.drawn)⟩))
        { s.withStringLabel with
          listing := { s.listing with
            strings := s.listing.strings.push
              ⟨generatedName .stringLabel s.environment.drawn, text⟩ } }
  | unlabelled {s : Session} (text : String) (hactive : s.environment.active = []) :
      Ends (.stringLiteral text) s
        (.error (.noActiveScope (generatedName .stringLabel s.environment.drawn))) s.drew

variable {action : Action} {s : Journaled Session}

theorem Ends.of_yields {reply : Reply} {t : Session} (hends : action.Ends s.state (.ok reply) t)
    (hlive : s.state.firstFault = none) (h : Yields action.rule s.state reply t) :
    ∃ t, action.Ends s.state (action.perform s).1 t ∧
      (action.perform s).2.state = t.keeping (action.perform s).1 := by
  obtain ⟨journal, hok⟩ := perform_of_yields hlive h
  rw [hok]
  exact ⟨t, hends, rfl⟩

theorem Ends.of_refuses {cause : Fault} {t : Session} (hends : action.Ends s.state (.error cause) t)
    (hlive : s.state.firstFault = none) (h : Refuses action.rule s.state cause t) :
    ∃ t, action.Ends s.state (action.perform s).1 t ∧
      (action.perform s).2.state = t.keeping (action.perform s).1 := by
  obtain ⟨journal, hfails⟩ := perform_of_refuses hlive h
  rw [hfails]
  exact ⟨t, hends, rfl⟩

theorem ends_quiet (hquiet : action.isQuiet = true) (hlive : s.state.firstFault = none) :
    ∃ t, action.Ends s.state (action.perform s).1 t ∧
      (action.perform s).2.state = t.keeping (action.perform s).1 := by
  have htracked : Tracked (fun _ => True) False action.rule :=
    tracked_rule (fun _ _ => trivial) action (Or.inr fun _ => trivial) (Or.inl hquiet)
  rcases htracked s.state with ⟨reply, t, hyields, hchanges⟩ | ⟨cause, t, hrefuses, hfalls⟩
  · exact (Ends.quiet hquiet _ hchanges.falls).of_yields hlive hyields
  · exact (Ends.quiet hquiet _ hfalls).of_refuses hlive hrefuses

theorem ends_leaveScope (hlive : s.state.firstFault = none) :
    ∃ t, leaveScope.Ends s.state (leaveScope.perform s).1 t ∧
      (leaveScope.perform s).2.state = t.keeping (leaveScope.perform s).1 := by
  by_cases hactive : s.state.environment.active = []
  · have hrule := refuses_inEnvironment (Environment.refuses_leaveScope hactive)
    exact (Ends.underflow hactive).of_refuses hlive hrule.bind
  · have hrule := yields_inEnvironment (Environment.yields_leaveScope hactive)
    exact (Ends.left hactive).of_yields hlive (hrule.bind (yields_pure _ _))

theorem ends_declare (typeName spec : String) (hlive : s.state.firstFault = none) :
    ∃ t, (declare typeName spec).Ends s.state ((declare typeName spec).perform s).1 t ∧
      ((declare typeName spec).perform s).2.state =
        t.keeping ((declare typeName spec).perform s).1 := by
  rcases declarable_or_refuses s.state typeName spec with
    ⟨type, declarator, grown, hdeclarable⟩ | ⟨cause, hrefuses⟩
  · by_cases hactive : s.state.environment.active = []
    · have hrule := refuses_declare_of_no_scope hdeclarable hactive
      exact (Ends.homeless hdeclarable hactive).of_refuses hlive hrule.bind
    · have hrule := yields_declare hdeclarable hactive
      exact (Ends.declared hdeclarable hactive).of_yields hlive (hrule.bind (yields_pure _ _))
  · exact (Ends.rejected s.state typeName spec cause).of_refuses hlive hrefuses.bind

theorem ends_stringLiteral (text : String) (hlive : s.state.firstFault = none) :
    ∃ t, (stringLiteral text).Ends s.state ((stringLiteral text).perform s).1 t ∧
      ((stringLiteral text).perform s).2.state =
        t.keeping ((stringLiteral text).perform s).1 := by
  by_cases hactive : s.state.environment.active = []
  · have hlabel := refuses_inEnvironment (Environment.refuses_newStringLabel hactive)
    exact (Ends.unlabelled text hactive).of_refuses hlive hlabel.bind.bind
  · have hlabel := yields_inEnvironment (Environment.yields_newStringLabel hactive)
    have hrule : Yields (Session.stringLiteral text) s.state _ _ :=
      hlabel.bind ((yields_addString _ _).bind (yields_pure _ _))
    exact (Ends.labelled text hactive).of_yields hlive (hrule.bind (yields_pure _ _))

/-- Every action ends in one of these ways, unless a fault is kept already. -/
theorem ends (action : Action) (hlive : s.state.firstFault = none) :
    ∃ t, action.Ends s.state (action.perform s).1 t ∧
      (action.perform s).2.state = t.keeping (action.perform s).1 := by
  cases action with
  | enterScope =>
    have hrule := yields_inEnvironment (Environment.yields_enterScope s.state.environment)
    exact (Ends.entered s.state).of_yields hlive (hrule.bind (yields_pure _ _))
  | leaveScope => exact ends_leaveScope hlive
  | declare typeName spec => exact ends_declare typeName spec hlive
  | stringLiteral text => exact ends_stringLiteral text hlive
  | _ => exact ends_quiet rfl hlive

end Action

end OnePass
