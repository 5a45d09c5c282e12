/-
  OnePass/Proofs/Visibility.lean
  ==============================
  **Visibility of declared names** — what a name refers to after any run.

  `Past` is what a caller knows of a session: for each active scope the actions
  that succeeded in it, with their answers.  Temporaries have names no program
  can write, so the past of a scope tells what it binds (`Mirrors`).  A string
  label has a name a program can write, and nothing keeps it from taking the
  place of a variable.
-/
import OnePass.Proofs.Endings
import OnePass.Proofs.Rules
import Mathlib

namespace OnePass

open Step Session

/-! ### The past of a session -/

/-- The actions that succeeded in each active scope, with their answers; the
    innermost scope and the latest action come first. -/
abbrev Past := List (List (Action × Reply))

namespace Past

/-- The past after an action was answered. -/
def note (past : Past) (action : Action) : Except Fault Reply → Past
  | .error _ => past
  | .ok reply =>
    match action with
    | .enterScope => [] :: past
    | .leaveScope => past.tail
    | _ => past.modifyHead fun done => (action, reply) :: done

def after (past : Past) : List Action → Journaled Session → Past
  | [], _ => past
  | action :: rest, s =>
    let (answer, t) := action.perform s
    (past.note action answer).after rest t

theorem note_of_isQuiet {action : Action} (h : action.isQuiet = true) (past : Past)
    (reply : Reply) :
    past.note action (.ok reply) = past.modifyHead fun done => (action, reply) :: done := by
  cases action <;> first | rfl | cases h

end Past

/-- A declaration of the name is among the actions. -/
def Declares (done : List (Action × Reply)) (name : String) : Prop :=
  ∃ typeName spec reply declarator, (Action.declare typeName spec, reply) ∈ done ∧
    Declarator.parse spec = .ok declarator ∧ declarator.name = name

/-- A string literal among the actions got the name for its label. -/
def Labels (done : List (Action × Reply)) (name : String) : Prop :=
  ∃ text, (Action.stringLiteral text, Reply.record ⟨.string, .label name⟩) ∈ done

section Cons

variable {done : List (Action × Reply)} {name : String}

theorem Declares.cons (h : Declares done name) (latest : Action × Reply) :
    Declares (latest :: done) name := by
  obtain ⟨typeName, spec, reply, declarator, hmem, hparse⟩ := h
  exact ⟨typeName, spec, reply, declarator, List.mem_cons_of_mem _ hmem, hparse⟩

theorem Labels.cons (h : Labels done name) (latest : Action × Reply) :
    Labels (latest :: done) name := by
  obtain ⟨text, hmem⟩ := h
  exact ⟨text, List.mem_cons_of_mem _ hmem⟩

theorem Labels.of_cons {action : Action} {reply : Reply} (h : Labels ((action, reply) :: done) name)
    (hother : ∀ text, action ≠ .stringLiteral text) : Labels done name := by
  obtain ⟨text, hmem⟩ := h
  rcases List.mem_cons.mp hmem with heq | hmem
  · cases heq
    exact absurd rfl (hother text)
  · exact ⟨text, hmem⟩

end Cons

/-! ### A scope and its past -/

/-- The names bound in a scope are those of the declarations and the string
    literals of its past.  Where both have one name, the label prevails. -/
structure Mirrors (symbols : Array Symbol) (scope : Scope) (done : List (Action × Reply)) :
    Prop where
  declared : ∀ {typeName spec reply}, (Action.declare typeName spec, reply) ∈ done →
    ∃ (id : SymbolId) (symbol : Symbol), reply = .symbol id ∧ symbols[id]? = some symbol ∧
      ValueType.ofName? typeName = some symbol.type ∧
      Declarator.parse spec = .ok ⟨symbol.name, symbol.words⟩ ∧
      (scope[symbol.name]? = some id ∨ Labels done symbol.name)
  labelled : ∀ {name}, Labels done name → Writable name ∧
    ∃ (id : SymbolId) (symbol : Symbol), scope[name]? = some id ∧ symbols[id]? = some symbol ∧
      symbol.type = .string
  bound : ∀ {name id}, scope[name]? = some id → Writable name →
    Declares done name ∨ Labels done name

namespace Mirrors

variable {symbols grown : Array Symbol} {scope wider : Scope} {done : List (Action × Reply)}

theorem empty (symbols : Array Symbol) : Mirrors symbols ∅ [] where
  declared := nofun
  labelled := fun ⟨_, hmem⟩ => nomatch hmem
  bound := by simp

/-- New symbols, and names that no program can write, change nothing. -/
theorem extend (h : Mirrors symbols scope done)
    (hsymbols : ∀ {id : SymbolId} {symbol : Symbol}, symbols[id]? = some symbol →
      grown[id]? = some symbol)
    (hscope : ∀ {name}, Writable name → wider[name]? = scope[name]?) :
    Mirrors grown wider done where
  declared := by
    intro typeName spec reply hmem
    obtain ⟨id, symbol, hreply, hsymbol, htype, hparse, hbound⟩ := h.declared hmem
    refine ⟨id, symbol, hreply, hsymbols hsymbol, htype, hparse, ?_⟩
    rwa [hscope (writable_of_isName (Declarator.parse_eq_ok hparse).1)]
  labelled := by
    intro name hlabel
    obtain ⟨hwritable, id, symbol, hbound, hsymbol, htype⟩ := h.labelled hlabel
    exact ⟨hwritable, id, symbol, (hscope hwritable).trans hbound, hsymbols hsymbol, htype⟩
  bound := by
    intro name id hbound hwritable
    rw [hscope hwritable] at hbound
    exact h.bound hbound hwritable

/-- An action that binds no name a program can write adds nothing. -/
theorem cons_of_isQuiet (h : Mirrors symbols scope done) {action : Action}
    (hquiet : action.isQuiet = true) (reply : Reply) :
    Mirrors symbols scope ((action, reply) :: done) := by
  have hother : ∀ text, action ≠ .stringLiteral text := by
    rintro text rfl
    cases hquiet
  refine ⟨fun hmem => ?_, fun hlabel => h.labelled (hlabel.of_cons hother), ?_⟩
  · rcases List.mem_cons.mp hmem with heq | hmem
    · cases heq
      cases hquiet
    · obtain ⟨id, symbol, hreply, hsymbol, htype, hparse, hbound⟩ := h.declared hmem
      exact ⟨id, symbol, hreply, hsymbol, htype, hparse, hbound.imp_right fun hl => hl.cons _⟩
  · intro name id hbound hwritable
    exact (h.bound hbound hwritable).imp (fun hd => hd.cons _) fun hl => hl.cons _

/-- A declaration that found its name free binds it. -/
theorem cons_declare (h : Mirrors symbols scope done) {typeName spec : String} {symbol : Symbol}
    (htype : ValueType.ofName? typeName = some symbol.type)
    (hparse : Declarator.parse spec = .ok ⟨symbol.name, symbol.words⟩)
    (hfresh : (scope[symbol.name]?.bind fun id => symbols[id]?) = none) :
    Mirrors (symbols.push symbol) (scope.insert symbol.name symbols.size)
      ((.declare typeName spec, .symbol symbols.size) :: done) := by
  refine ⟨fun hmem => ?_, fun {name} hlabel => ?_, fun {name id} hbound hwritable => ?_⟩
  · rcases List.mem_cons.mp hmem with heq | hmem
    · cases heq
      exact ⟨symbols.size, symbol, rfl, Array.getElem?_push_size, htype, hparse,
        Or.inl (by simp)⟩
    · obtain ⟨id, earlier, hreply, hsymbol, htype', hparse', hbound⟩ := h.declared hmem
      refine ⟨id, earlier, hreply, Environment.getElem?_push_of_some hsymbol, htype', hparse', ?_⟩
      refine hbound.imp (fun hbound => ?_) fun hl => hl.cons _
      -- an earlier variable of that name would have been in the way
      have hne : symbol.name ≠ earlier.name := by
        intro heq
        simp [heq, hbound, hsymbol] at hfresh
      rw [Scope.getElem?_bind, if_neg hne, hbound]
  · obtain ⟨hwritable, id, label, hbound, hsymbol, hstring⟩ := h.labelled (hlabel.of_cons nofun)
    refine ⟨hwritable, id, label, ?_, Environment.getElem?_push_of_some hsymbol, hstring⟩
    have hne : symbol.name ≠ name := by
      intro heq
      rw [← heq] at hbound
      simp [hbound, hsymbol] at hfresh
    rw [Scope.getElem?_bind, if_neg hne, hbound]
  · by_cases heq : symbol.name = name
    · exact Or.inl ⟨typeName, spec, _, _, List.mem_cons_self, hparse, heq⟩
    · rw [Scope.getElem?_bind, if_neg heq] at hbound
      exact (h.bound hbound hwritable).imp (fun hd => hd.cons _) fun hl => hl.cons _

/-- A string literal binds its label, whatever was bound to the name. -/
theorem cons_stringLiteral (h : Mirrors symbols scope done) {symbol : Symbol} (text : String)
    (htype : symbol.type = .string) (hwritable : Writable symbol.name) :
    Mirrors (symbols.push symbol) (scope.insert symbol.name symbols.size)
      ((.stringLiteral text, .record ⟨.string, .label symbol.name⟩) :: done) := by
  have hhead : Labels
      ((.stringLiteral text, .record ⟨.string, .label symbol.name⟩) :: done) symbol.name :=
    ⟨text, List.mem_cons_self⟩
  refine ⟨fun hmem => ?_, fun {name} hlabel => ?_, fun {name id} hbound hname => ?_⟩
  · rcases List.mem_cons.mp hmem with heq | hmem
    · cases heq
    · obtain ⟨id, earlier, hreply, hsymbol, htype', hparse, hbound⟩ := h.declared hmem
      refine ⟨id, earlier, hreply, Environment.getElem?_push_of_some hsymbol, htype', hparse, ?_⟩
      by_cases heq : symbol.name = earlier.name
      · exact Or.inr (heq ▸ hhead)
      · refine hbound.imp (fun hbound => ?_) fun hl => hl.cons _
        rw [Scope.getElem?_bind, if_neg heq, hbound]
  · by_cases heq : symbol.name = name
    · subst heq
      exact ⟨hwritable, symbols.size, symbol, by simp, Array.getElem?_push_size, htype⟩
    · obtain ⟨text', hmem⟩ := hlabel
      have hlabel : Labels done name := by
        rcases List.mem_cons.mp hmem with hsame | hmem
        · cases hsame
          exact absurd rfl heq
        · exact ⟨text', hmem⟩
      obtain ⟨hname, id, label, hbound, hsymbol, hstring⟩ := h.labelled hlabel
      refine ⟨hname, id, label, ?_, Environment.getElem?_push_of_some hsymbol, hstring⟩
      rw [Scope.getElem?_bind, if_neg heq, hbound]
  · by_cases heq : symbol.name = name
    · exact Or.inr (heq ▸ hhead)
    · rw [Scope.getElem?_bind, if_neg heq] at hbound
      exact (h.bound hbound hname).imp (fun hd => hd.cons _) fun hl => hl.cons _

end Mirrors

/-! ### All scopes and their pasts -/

/-- Every active scope is mirrored by its part of the past. -/
abbrev Remembered (env : Environment) (past : Past) : Prop :=
  List.Forall₂ (Mirrors env.symbols) env.active past

theorem forall₂_modifyHead {α β : Type} {R S : α → β → Prop} {f : α → α} {g : β → β}
    (hhead : ∀ a b, R a b → S (f a) (g b)) (hrest : ∀ a b, R a b → S a b) {as : List α}
    {bs : List β} (h : List.Forall₂ R as bs) :
    List.Forall₂ S (as.modifyHead f) (bs.modifyHead g) := by
  cases h with
  | nil => exact .nil
  | cons hab hall => exact .cons (hhead _ _ hab) (hall.imp hrest)

theorem Remembered.temporary {env : Environment} {past : Past} {symbol : Symbol} {number : Nat}
    (hname : symbol.name = generatedName .temporary number) (h : Remembered env past) :
    Remembered (env.bound symbol) past := by
  have hid : past = past.modifyHead id := by cases past <;> rfl
  rw [hid]
  refine forall₂_modifyHead (fun scope done hmirrors => ?_) (fun scope done hmirrors => ?_) h
  · refine hmirrors.extend Environment.getElem?_push_of_some fun {name} hwritable => ?_
    rw [Scope.getElem?_bind, if_neg]
    rintro rfl
    rw [hname] at hwritable
    exact not_writable_temporary _ hwritable
  · exact hmirrors.extend Environment.getElem?_push_of_some fun _ => rfl

theorem Remembered.enterScope {env : Environment} {past : Past} (h : Remembered env past) :
    Remembered { env with active := ∅ :: env.active } ([] :: past) :=
  .cons (Mirrors.empty env.symbols) h

theorem Remembered.leaveScope {env : Environment} {past : Past} (h : Remembered env past) :
    Remembered env.left past.tail := by
  have htail := List.forall₂_drop 1 h
  rwa [List.drop_one, List.drop_one] at htail

theorem Remembered.declare {s : Session} {past : Past} (h : Remembered s.environment past)
    {typeName spec : String} {type : ValueType} {declarator : Declarator} {grown : Frame}
    (hdeclarable : Declarable s typeName spec type declarator grown) :
    Remembered (s.withVariable type declarator grown).environment
      (past.note (.declare typeName spec) (.ok (.symbol s.environment.symbols.size))) := by
  have hfresh := hdeclarable.fresh
  simp only [Environment.findLocal?] at hfresh
  simp only [Remembered, withVariable, Environment.bound, Past.note] at h ⊢
  generalize s.environment.active = active at h hfresh
  cases h with
  | nil => exact .nil
  | @cons scope done outer rest hmirrors hrest =>
    refine .cons ?_ ?_
    · exact hmirrors.cons_declare hdeclarable.type_eq hdeclarable.parse_eq hfresh
    · exact hrest.imp fun _ _ hm => hm.extend Environment.getElem?_push_of_some fun _ => rfl

theorem Remembered.stringLiteral {s : Session} {past : Past} (h : Remembered s.environment past)
    (text : String) :
    Remembered s.withStringLabel.environment
      (past.note (.stringLiteral text) (.ok (.record
        ⟨.string, .label (generatedName .stringLabel s.environment.drawn)⟩))) := by
  refine forall₂_modifyHead (fun scope done hmirrors => ?_) (fun scope done hmirrors => ?_) h
  · exact hmirrors.cons_stringLiteral text rfl (writable_stringLabel _)
  · exact hmirrors.extend Environment.getElem?_push_of_some fun _ => rfl

/-- What holds of an answered action, whatever its kind. -/
theorem Remembered.of_ends {s t : Session} {past : Past} {action : Action} {reply : Reply}
    (h : Remembered s.environment past) (hends : action.Ends s (.ok reply) t) :
    Remembered t.environment (past.note action (.ok reply)) := by
  cases hends with
  | quiet hquiet _ hfalls =>
    have ht : Remembered t.environment past :=
      hfalls.keeps_environment (I := fun env => Remembered env past) (fun hs => hs)
        (fun hname hs => hs.temporary hname) h
    have hid : t.environment.active = t.environment.active.modifyHead id := by
      cases t.environment.active <;> rfl
    rw [Past.note_of_isQuiet hquiet, Remembered, hid]
    exact forall₂_modifyHead (fun _ _ hm => hm.cons_of_isQuiet hquiet reply) (fun _ _ hm => hm) ht
  | entered => exact h.enterScope
  | left => exact h.leaveScope
  | declared hdeclarable => exact h.declare hdeclarable
  | labelled text => exact h.stringLiteral text

theorem Remembered.perform {s : Journaled Session} {past : Past} (action : Action)
    (h : s.state.firstFault = none → Remembered s.state.environment past)
    (hlive : (action.perform s).2.state.firstFault = none) :
    Remembered (action.perform s).2.state.environment
      (past.note action (action.perform s).1) := by
  by_cases hbefore : s.state.firstFault = none
  · obtain ⟨t, hends, hkeeps⟩ := action.ends hbefore
    rw [hkeeps] at hlive ⊢
    cases hanswer : (action.perform s).1 with
    | ok reply =>
      rw [hanswer] at hends
      exact (h hbefore).of_ends hends
    | error cause =>
      rw [hanswer] at hlive
      cases hlive
  · rw [Action.perform_of_aborted hbefore] at hlive
    exact absurd hlive hbefore

/-- The past tells the scopes of a session after any run. -/
theorem Remembered.run (actions : List Action) {s : Journaled Session} {past : Past}
    (h : s.state.firstFault = none → Remembered s.state.environment past)
    (hlive : (Action.run actions s).2.state.firstFault = none) :
    Remembered (Action.run actions s).2.state.environment (past.after actions s) := by
  induction actions generalizing s past with
  | nil => exact h hlive
  | cons action rest ih => exact ih (fun hnext => Remembered.perform action h hnext) hlive

/-! ### What a name refers to -/

theorem Remembered.declared {symbols : Array Symbol} {active : List Scope} {inner outer : Past}
    {done : List (Action × Reply)} {typeName spec : String} {id : SymbolId}
    (h : List.Forall₂ (Mirrors symbols) active (inner ++ done :: outer))
    (hdeclared : (.declare typeName spec, .symbol id) ∈ done) :
    ∃ symbol : Symbol, symbols[id]? = some symbol ∧
      ValueType.ofName? typeName = some symbol.type ∧
      Declarator.parse spec = .ok ⟨symbol.name, symbol.words⟩ := by
  have hdrop := List.forall₂_drop_append active inner (done :: outer) h
  obtain ⟨scope, rest, hmirrors, -, -⟩ := List.forall₂_cons_right_iff.mp hdrop
  obtain ⟨id', symbol, hid, hsymbol, htype, hparse, -⟩ := hmirrors.declared hdeclared
  cases hid
  exact ⟨symbol, hsymbol, htype, hparse⟩

/-- A variable is found from an inner scope unless a string label is in the way. -/
theorem Remembered.find {symbols : Array Symbol} {active : List Scope}
    {inner outer : Past} {done : List (Action × Reply)} {typeName spec : String} {id : SymbolId}
    {declarator : Declarator} (h : List.Forall₂ (Mirrors symbols) active (inner ++ done :: outer))
    (hdeclared : (.declare typeName spec, .symbol id) ∈ done)
    (hparse : Declarator.parse spec = .ok declarator)
    (hinner : ∀ between ∈ inner, ¬ Declares between declarator.name) :
    ((¬ ∃ between ∈ inner ++ [done], Labels between declarator.name) →
      active.findSome? (fun scope => scope[declarator.name]?) = some id) ∧
    ((∃ between ∈ inner ++ [done], Labels between declarator.name) →
      ∃ (other : SymbolId) (label : Symbol),
        active.findSome? (fun scope => scope[declarator.name]?) = some other ∧
        symbols[other]? = some label ∧ label.type = .string) := by
  have hwritable := writable_of_isName (Declarator.parse_eq_ok hparse).1
  induction inner generalizing active with
  | nil =>
    cases h with
    | @cons scope _ rest _ hmirrors hrest =>
      simp only [List.nil_append, List.mem_singleton, exists_eq_left, List.findSome?_cons]
      constructor
      · intro hfree
        obtain ⟨id', symbol, hid, hsymbol, -, hparse', hbound⟩ := hmirrors.declared hdeclared
        cases hid
        cases hparse.symm.trans hparse'
        rw [hbound.resolve_right hfree]
      · intro hlabel
        obtain ⟨-, other, label, hbound, hsymbol, htype⟩ := hmirrors.labelled hlabel
        exact ⟨other, label, by rw [hbound], hsymbol, htype⟩
  | cons between inner ih =>
    cases h with
    | @cons scope _ rest _ hmirrors hrest =>
      have hrec := ih hrest fun b hb => hinner b (List.mem_cons_of_mem _ hb)
      cases hbound : scope[declarator.name]? with
      | none =>
        have hfree : ¬ Labels between declarator.name := by
          intro hlabel
          obtain ⟨-, other, label, hsome, -⟩ := hmirrors.labelled hlabel
          rw [hbound] at hsome
          cases hsome
        simp only [List.cons_append, List.mem_cons, exists_eq_or_imp, hfree, false_or,
          List.findSome?_cons, hbound]
        exact hrec
      | some other =>
        -- only a string label can have the name in an inner scope
        have hlabel := (hmirrors.bound hbound hwritable).resolve_left
          (hinner between List.mem_cons_self)
        have hexists : ∃ b ∈ between :: inner ++ [done], Labels b declarator.name :=
          ⟨between, List.mem_cons_self, hlabel⟩
        refine ⟨fun hfree => absurd hexists hfree, fun _ => ?_⟩
        obtain ⟨-, other', label, hsome, hsymbol, htype⟩ := hmirrors.labelled hlabel
        exact ⟨other', label, by rw [List.findSome?_cons, hsome], hsymbol, htype⟩

/-- **A declared name refers to its variable, unless a string label took the
    name.**  The scope of the declaration has not been left, and no active scope
    inside it declares the name again. -/
theorem resolve_declared {options : Options} {level : Option Severity} {actions : List Action}
    {inner outer : Past} {done : List (Action × Reply)} {typeName spec : String} {id : SymbolId}
    {declarator : Declarator} {s : Journaled Session}
    (hs : s = (Action.run actions { state := Session.start options, journal := { level } }).2)
    (hpast : Past.after [] actions { state := Session.start options, journal := { level } } =
      inner ++ done :: outer)
    (hdeclared : (.declare typeName spec, .symbol id) ∈ done)
    (hparse : Declarator.parse spec = .ok declarator)
    (hinner : ∀ between ∈ inner, ¬ Declares between declarator.name)
    (hlive : s.state.firstFault = none) :
    ∃ symbol, s.state.environment.symbol? id = some symbol ∧ symbol.name = declarator.name ∧
      ValueType.ofName? typeName = some symbol.type ∧
      ((¬ ∃ between ∈ inner ++ [done], Labels between declarator.name) →
        ((Action.resolve declarator.name).perform s).1 =
          .ok (.record ⟨symbol.type, .stack symbol.offset⟩)) ∧
      ((∃ between ∈ inner ++ [done], Labels between declarator.name) →
        ((Action.resolve declarator.name).perform s).1 =
          .error (.undeclaredSymbol declarator.name)) := by
  subst hs
  have hremembered := Remembered.run actions (fun _ => List.Forall₂.nil) hlive
  rw [hpast] at hremembered
  obtain ⟨hfree, htaken⟩ := Remembered.find hremembered hdeclared hparse hinner
  obtain ⟨symbol, hsymbol, htype, hname⟩ := Remembered.declared hremembered hdeclared
  cases hparse.symm.trans hname
  have hword := (Declarator.parse_eq_ok hparse).1
  refine ⟨symbol, hsymbol, rfl, htype, fun hno => ?_, fun hlabel => ?_⟩
  · have hlookup := Environment.lookupSymbol_of_find? (hfree hno) hsymbol
    have hscalar := (ValueType.ofName?_eq_some_iff.mp htype).1
    have hrule : Yields (Action.rule (.resolve symbol.name)) _ _ _ :=
      (yields_resolve_name hword hlookup hscalar).bind (yields_pure _ _)
    obtain ⟨journal, hok⟩ := Action.perform_of_yields hlive hrule
    rw [hok]
  · obtain ⟨other, label, hfind, hother, hstring⟩ := htaken hlabel
    have hlookup := Environment.lookupSymbol_of_find? hfind hother
    have hrule : Refuses (Action.rule (.resolve symbol.name)) _ _ _ :=
      (refuses_resolve_name hword hlookup (by rw [hstring]; rfl)).bind
    obtain ⟨journal, hfails⟩ := Action.perform_of_refuses hlive hrule
    rw [hfails]

-- An array, a text beside it under a label of its own, and a scope inside.
set_option maxRecDepth 4000 in
theorem resolve_declared_from_inner_scope :
    ((Action.resolve "x").perform (Action.run [.enterScope, .declare "int" "x[3]",
      .stringLiteral "hi", .enterScope, .intLiteral 7] { state := Session.start {} }).2).1 =
        .ok (.record ⟨.int, .stack 0⟩) := by
  have hpast : Past.after [] [.enterScope, .declare "int" "x[3]", .stringLiteral "hi",
      .enterScope, .intLiteral 7] { state := Session.start {} } =
        [[(.intLiteral 7, .record ⟨.int, .stack (-12)⟩)]] ++
          [(.stringLiteral "hi", .record ⟨.string, .label "str_0"⟩),
           (.declare "int" "x[3]", .symbol 0)] :: [] := by
    decide +kernel
  have hsymbol : (Action.run [.enterScope, .declare "int" "x[3]", .stringLiteral "hi",
      .enterScope, .intLiteral 7] { state := Session.start {} }).2.state.environment.symbol? 0 =
        some ⟨"x", .int, 0, 3⟩ := by
    decide +kernel
  have hparse : Declarator.parse "x[3]" = .ok ⟨"x", 3⟩ := by cbv
  obtain ⟨symbol, hfound, -, -, hfree, -⟩ := resolve_declared rfl hpast
    (List.mem_cons_of_mem _ List.mem_cons_self) hparse (by simp [Declares]) (by decide +kernel)
  cases hsymbol.symm.trans hfound
  exact hfree (by simp [Labels])

-- The first text of a program takes the place of a variable with the name `str_0`.
set_option maxRecDepth 4000 in
theorem variable_hidden_by_stringLabel :
    (Action.run [.enterScope, .declare "int" "str_0", .stringLiteral "hi", .resolve "str_0"]
      { state := Session.start {} }).1 =
        [.ok .done, .ok (.symbol 0), .ok (.record ⟨.string, .label "str_0"⟩),
         .error (.undeclaredSymbol "str_0")] := by
  cbv

end OnePass
