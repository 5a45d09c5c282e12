/-
  OnePass/Proofs/Bindings.lean
  ============================
  **An environment is a stack of lists** — what it answers, without its maps.

  `Bindings` keeps, for each scope that has not been left, the names bound in it
  with the newest in front, and all symbols in one list.  It is searched by
  walking through the lists.  Whatever is asked of an environment, in whatever
  order, and however much of it fails, the answers are those of the lists.
-/
import OnePass.Proofs.Outcome
import Mathlib.Data.List.Forall2

namespace OnePass

open Step

/-! ### What can be asked -/

/-- A change asked of an environment. -/
inductive Environment.Operation where
  | enterScope
  | leaveScope
  | insert (symbol : Symbol)
  | newTemporary (type : ValueType) (offset : Int)
  | newStringLabel
  | newBranchLabel
  deriving DecidableEq

namespace Environment.Operation

def step : Operation → Step Environment Reply
  | enterScope => do Environment.enterScope; return .done
  | leaveScope => do Environment.leaveScope; return .done
  | insert symbol => return .symbol (← Environment.insert symbol)
  | newTemporary type offset => return .symbol (← Environment.newTemporary type offset)
  | newStringLabel => return .symbol (← Environment.newStringLabel).1
  | newBranchLabel => return .label (← Environment.newBranchLabel)

def perform (operation : Operation) (s : Journaled Environment) :
    Except Fault Reply × Journaled Environment :=
  operation.step.perform s

/-- The answers to operations in order; a failure does not keep the next from
    being performed. -/
def run : List Operation → Journaled Environment →
    List (Except Fault Reply) × Journaled Environment
  | [], s => ([], s)
  | operation :: rest, s =>
    let (answer, t) := operation.perform s
    let (answers, u) := run rest t
    (answer :: answers, u)

/-- The number of the symbol an operation has added. -/
def id? : Except Fault Reply → Option SymbolId
  | .ok (.symbol id) => some id
  | _ => none

/-- The symbol an operation asks to add, when that many names have been generated. -/
def asked? (drawn : Nat) : Operation → Option Symbol
  | insert symbol => some symbol
  | newTemporary type offset =>
    some { name := generatedName .temporary drawn, type, offset, words := 1 }
  | newStringLabel =>
    some { name := generatedName .stringLabel drawn, type := .string, offset := 0, words := 0 }
  | _ => none

/-- The environment in which the symbol is added: the number of a generated name
    is used up before it is known whether there is a scope. -/
def numbered (operation : Operation) (env : Environment) : Environment :=
  match operation with
  | insert _ => env
  | _ => env.drew

@[simp] theorem symbols_numbered (operation : Operation) (env : Environment) :
    (operation.numbered env).symbols = env.symbols := by
  cases operation <;> rfl

@[simp] theorem active_numbered (operation : Operation) (env : Environment) :
    (operation.numbered env).active = env.active := by
  cases operation <;> rfl

@[simp] theorem retired_numbered (operation : Operation) (env : Environment) :
    (operation.numbered env).retired = env.retired := by
  cases operation <;> rfl

/-- What is wrong with an operation where there is no scope. -/
def fault? (drawn : Nat) : Operation → Option Fault
  | leaveScope => some .scopeUnderflow
  | operation => (operation.asked? drawn).map fun symbol => .noActiveScope symbol.name

end Environment.Operation

open Environment (Operation)

/-! ### The lists -/

/-- Names and symbols in plain lists. -/
structure Bindings where
  /-- The names bound in each scope that has not been left.  The innermost scope
      and the newest binding come first. -/
  scopes : List (List (String × SymbolId)) := []
  /-- All symbols so far, the oldest first. -/
  symbols : List Symbol := []
  /-- How many names have been generated. -/
  drawn : Nat := 0
  deriving DecidableEq

namespace Bindings

def draw (model : Bindings) : Bindings := { model with drawn := model.drawn + 1 }

/-- Adds a symbol under the next number, and its name in front of the innermost list. -/
def add (symbol : Symbol) (model : Bindings) : Except Fault Reply × Bindings :=
  match model.scopes with
  | [] => (.error (.noActiveScope symbol.name), model)
  | scope :: outer =>
    (.ok (.symbol model.symbols.length),
      { model with
        scopes := ((symbol.name, model.symbols.length) :: scope) :: outer
        symbols := model.symbols ++ [symbol] })

def perform (model : Bindings) : Operation → Except Fault Reply × Bindings
  | .enterScope => (.ok .done, { model with scopes := [] :: model.scopes })
  | .leaveScope =>
    match model.scopes with
    | [] => (.error .scopeUnderflow, model)
    | _ :: outer => (.ok .done, { model with scopes := outer })
  | .insert symbol => model.add symbol
  | .newTemporary type offset =>
    model.draw.add
      { name := generatedName .temporary model.drawn, type, offset, words := 1 }
  | .newStringLabel =>
    model.draw.add
      { name := generatedName .stringLabel model.drawn, type := .string, offset := 0, words := 0 }
  | .newBranchLabel => (.ok (.label (generatedName .branchLabel model.drawn)), model.draw)

def run : List Operation → Bindings → List (Except Fault Reply) × Bindings
  | [], model => ([], model)
  | operation :: rest, model =>
    let (answer, next) := model.perform operation
    let (answers, last) := run rest next
    (answer :: answers, last)

/-- The newest binding of a name in the innermost scope. -/
def findLocal? (model : Bindings) (name : String) : Option SymbolId :=
  model.scopes.head?.bind fun scope => scope.lookup name

/-- The newest binding of a name in the innermost scope that has one. -/
def find? (model : Bindings) (name : String) : Option SymbolId :=
  model.scopes.findSome? fun scope => scope.lookup name

end Bindings

/-! ### What an operation does -/

/-- What an operation answers, and the environment it leaves. -/
inductive Environment.Operation.Ends :
    Operation → Environment → Except Fault Reply → Environment → Prop
  | entered (env : Environment) :
      Ends .enterScope env (.ok .done) { env with active := ∅ :: env.active }
  | left {env : Environment} (hactive : env.active ≠ []) :
      Ends .leaveScope env (.ok .done) env.left
  | underflow {env : Environment} (hactive : env.active = []) :
      Ends .leaveScope env (.error .scopeUnderflow) env
  | added {operation : Operation} {env : Environment} {symbol : Symbol}
      (hsymbol : operation.asked? env.drawn = some symbol) (hactive : env.active ≠ []) :
      Ends operation env (.ok (.symbol env.symbols.size)) ((operation.numbered env).bound symbol)
  | homeless {operation : Operation} {env : Environment} {symbol : Symbol}
      (hsymbol : operation.asked? env.drawn = some symbol) (hactive : env.active = []) :
      Ends operation env (.error (.noActiveScope symbol.name)) (operation.numbered env)
  | drew (env : Environment) :
      Ends .newBranchLabel env (.ok (.label (generatedName .branchLabel env.drawn))) env.drew

namespace Environment.Operation

variable {operation : Operation} {s : Journaled Environment}

theorem Ends.of_yields {reply : Reply} {t : Environment}
    (hends : Ends operation s.state (.ok reply) t) (h : Yields operation.step s.state reply t) :
    Ends operation s.state (operation.perform s).1 (operation.perform s).2.state := by
  obtain ⟨journal, heq⟩ := h.perform_eq
  rw [perform, heq]
  exact hends

theorem Ends.of_refuses {cause : Fault} {t : Environment}
    (hends : Ends operation s.state (.error cause) t)
    (h : Refuses operation.step s.state cause t) :
    Ends operation s.state (operation.perform s).1 (operation.perform s).2.state := by
  obtain ⟨journal, heq⟩ := h.perform_eq
  rw [perform, heq]
  exact hends

theorem ends (operation : Operation) (s : Journaled Environment) :
    Ends operation s.state (operation.perform s).1 (operation.perform s).2.state := by
  cases operation with
  | enterScope =>
    have hstep := yields_enterScope s.state
    exact (Ends.entered s.state).of_yields (hstep.bind (yields_pure _ _))
  | newBranchLabel =>
    have hstep := yields_drawName .branchLabel s.state
    exact (Ends.drew s.state).of_yields (hstep.bind (yields_pure _ _))
  | leaveScope =>
    by_cases hactive : s.state.active = []
    · exact (Ends.underflow hactive).of_refuses (refuses_leaveScope hactive).bind
    · exact (Ends.left hactive).of_yields ((yields_leaveScope hactive).bind (yields_pure _ _))
  | insert symbol =>
    by_cases hactive : s.state.active = []
    · exact (Ends.homeless rfl hactive).of_refuses (refuses_insert symbol hactive).bind
    · have hstep := yields_insert symbol hactive
      exact (Ends.added rfl hactive).of_yields (hstep.bind (yields_pure _ _))
  | newTemporary type offset =>
    by_cases hactive : s.state.active = []
    · exact (Ends.homeless rfl hactive).of_refuses (refuses_newTemporary type offset hactive).bind
    · have hstep := yields_newTemporary type offset hactive
      exact (Ends.added rfl hactive).of_yields (hstep.bind (yields_pure _ _))
  | newStringLabel =>
    by_cases hactive : s.state.active = []
    · exact (Ends.homeless rfl hactive).of_refuses (refuses_newStringLabel hactive).bind
    · have hstep := yields_newStringLabel hactive
      exact (Ends.added rfl hactive).of_yields (hstep.bind (yields_pure _ _))

/-- A symbol that was added stays as it is. -/
theorem Ends.symbol?_eq {env after : Environment} {answer : Except Fault Reply} {id : SymbolId}
    {symbol : Symbol} (h : Ends operation env answer after)
    (hsymbol : env.symbol? id = some symbol) : after.symbol? id = some symbol := by
  cases h with
  | added =>
    rw [symbol?, bound, symbols_numbered]
    exact getElem?_push_of_some hsymbol
  | homeless =>
    rw [symbol?, symbols_numbered]
    exact hsymbol
  | _ => exact hsymbol

theorem symbol?_run {id : SymbolId} {symbol : Symbol} (operations : List Operation)
    (h : s.state.symbol? id = some symbol) :
    (run operations s).2.state.symbol? id = some symbol := by
  induction operations generalizing s with
  | nil => exact h
  | cons operation rest ih => exact ih ((operation.ends s).symbol?_eq h)

theorem run_append (first second : List Operation) (s : Journaled Environment) :
    (run (first ++ second) s).2 = (run second (run first s).2).2 := by
  induction first generalizing s with
  | nil => rfl
  | cons operation rest ih => exact ih (operation.perform s).2

/-- The number answered is that of the symbol that was asked for. -/
theorem symbol?_of_perform {id : SymbolId} (h : (operation.perform s).1 = .ok (.symbol id)) :
    ∃ symbol, operation.asked? s.state.drawn = some symbol ∧
      (operation.perform s).2.state.symbol? id = some symbol := by
  have hends := operation.ends s
  rw [h] at hends
  generalize (operation.perform s).2.state = after at hends
  cases hends with
  | added hsymbol =>
    refine ⟨_, hsymbol, ?_⟩
    rw [symbol?, bound, symbols_numbered]
    exact Array.getElem?_push_size

theorem ids_perform (operation : Operation) (s : Journaled Environment) :
    List.range s.state.symbols.size ++ (id? (operation.perform s).1).toList =
      List.range (operation.perform s).2.state.symbols.size := by
  have hends := operation.ends s
  generalize (operation.perform s).1 = answer, (operation.perform s).2.state = after at hends ⊢
  cases hends with
  | added =>
    rw [bound, Array.size_push, symbols_numbered, List.range_succ]
    rfl
  | homeless =>
    rw [symbols_numbered]
    exact List.append_nil _
  | _ => exact List.append_nil _

/-- Numbers are answered in order, and none is left out. -/
theorem ids_run (operations : List Operation) (s : Journaled Environment) :
    List.range s.state.symbols.size ++ (run operations s).1.filterMap id? =
      List.range (run operations s).2.state.symbols.size := by
  induction operations generalizing s with
  | nil => exact List.append_nil _
  | cons operation rest ih =>
    have hrest := ih (operation.perform s).2
    rw [← ids_perform, List.append_assoc] at hrest
    rw [run, List.filterMap_cons]
    cases hid : id? (operation.perform s).1 with
    | none =>
      rw [hid] at hrest
      exact hrest
    | some id =>
      rw [hid] at hrest
      exact hrest

theorem fault?_of_asked? {drawn : Nat} {symbol : Symbol}
    (h : operation.asked? drawn = some symbol) :
    operation.fault? drawn = some (.noActiveScope symbol.name) := by
  cases operation <;> first | cases h; rfl | cases h

/-- An operation fails where there is no scope and it needs one. -/
theorem perform_eq_error_iff {cause : Fault} :
    (operation.perform s).1 = .error cause ↔
      s.state.active = [] ∧ operation.fault? s.state.drawn = some cause := by
  have hends := operation.ends s
  generalize (operation.perform s).1 = answer, (operation.perform s).2.state = after at hends ⊢
  cases hends with
  | entered => simp [fault?, asked?]
  | left hactive => simp [hactive]
  | underflow hactive => simp [hactive, fault?]
  | added _ hactive => simp [hactive]
  | homeless hsymbol hactive => simp [hactive, fault?_of_asked? hsymbol]
  | drew => simp [fault?, asked?]

/-- An operation that fails may have used up a number, and nothing else. -/
theorem tables_of_error {cause : Fault} (h : (operation.perform s).1 = .error cause) :
    (operation.perform s).2.state.symbols = s.state.symbols ∧
      (operation.perform s).2.state.active = s.state.active ∧
      (operation.perform s).2.state.retired = s.state.retired := by
  have hends := operation.ends s
  rw [h] at hends
  generalize (operation.perform s).2.state = after at hends ⊢
  cases hends with
  | underflow => exact ⟨rfl, rfl, rfl⟩
  | homeless => exact ⟨symbols_numbered _ _, active_numbered _ _, retired_numbered _ _⟩

end Environment.Operation

/-! ### An environment and its lists -/

/-- The lists hold the symbols of the environment and what its scopes bind. -/
structure Bindings.Describes (model : Bindings) (env : Environment) : Prop where
  symbols_eq : model.symbols = env.symbols.toList
  drawn_eq : model.drawn = env.drawn
  scopes : List.Forall₂ (fun scope found => ∀ name, scope.lookup name = found[name]?)
    model.scopes env.active

namespace Bindings.Describes

variable {model : Bindings} {env : Environment}

theorem empty (retains : Bool) : Describes {} { retains } := ⟨rfl, rfl, .nil⟩

theorem draw (h : model.Describes env) : model.draw.Describes env.drew :=
  ⟨h.symbols_eq, congrArg (· + 1) h.drawn_eq, h.scopes⟩

theorem length_eq (h : model.Describes env) : model.symbols.length = env.symbols.size := by
  rw [h.symbols_eq, Array.length_toList]

theorem lookup_insert {scope : List (String × SymbolId)} {found : Scope}
    (h : ∀ name, scope.lookup name = found[name]?) (bound : String) (id : SymbolId)
    (name : String) : List.lookup name ((bound, id) :: scope) = (found.insert bound id)[name]? := by
  rw [Scope.getElem?_bind, List.lookup_cons, ← h name]
  by_cases heq : bound = name
  · simp [heq]
  · simp [heq, beq_eq_false_iff_ne.mpr (Ne.symm heq)]

theorem add (h : model.Describes env) (symbol : Symbol) (hactive : env.active ≠ []) :
    (model.add symbol).1 = .ok (.symbol env.symbols.size) ∧
      (model.add symbol).2.Describes (env.bound symbol) := by
  have hscopes := h.scopes
  unfold Bindings.add Environment.bound
  generalize model.scopes = scopes, env.active = active at hscopes hactive
  cases hscopes with
  | nil => exact absurd rfl hactive
  | cons hscope houter =>
    simp only [h.length_eq]
    refine ⟨trivial, ?_, h.drawn_eq, .cons (lookup_insert hscope _ _) houter⟩
    rw [Array.toList_push, h.symbols_eq]

theorem add_of_no_scope (h : model.Describes env) (symbol : Symbol) (hactive : env.active = []) :
    model.add symbol = (.error (.noActiveScope symbol.name), model) := by
  have hscopes := h.scopes
  rw [hactive, List.forall₂_nil_right_iff] at hscopes
  simp only [Bindings.add, hscopes]

/-- Whatever is added, it is added to the lists in the same way. -/
theorem perform_eq_add (h : model.Describes env) {operation : Operation} {symbol : Symbol}
    (hsymbol : operation.asked? env.drawn = some symbol) :
    ∃ next : Bindings, model.perform operation = next.add symbol ∧
      next.Describes (operation.numbered env) := by
  rw [← h.drawn_eq] at hsymbol
  cases operation with
  | insert symbol =>
    cases hsymbol
    exact ⟨model, rfl, h⟩
  | newTemporary type offset =>
    cases hsymbol
    exact ⟨model.draw, rfl, h.draw⟩
  | newStringLabel =>
    cases hsymbol
    exact ⟨model.draw, rfl, h.draw⟩
  | _ => cases hsymbol

/-- One operation answers what the lists tell, and is kept track of by them. -/
theorem ends (h : model.Describes env) {operation : Operation} {answer : Except Fault Reply}
    {after : Environment} (hends : operation.Ends env answer after) :
    (model.perform operation).1 = answer ∧ (model.perform operation).2.Describes after := by
  cases hends with
  | entered =>
    have hempty : ∀ name, List.lookup name ([] : List (String × SymbolId)) =
        (∅ : Scope)[name]? := by simp
    exact ⟨rfl, h.symbols_eq, h.drawn_eq, .cons hempty h.scopes⟩
  | left hactive =>
    have hscopes := h.scopes
    simp only [Bindings.perform, Environment.left]
    generalize model.scopes = scopes, env.active = active at hscopes hactive
    cases hscopes with
    | nil => exact absurd rfl hactive
    | cons _ houter => exact ⟨rfl, h.symbols_eq, h.drawn_eq, houter⟩
  | underflow hactive =>
    have hscopes := h.scopes
    rw [hactive, List.forall₂_nil_right_iff] at hscopes
    simp only [Bindings.perform, hscopes]
    exact ⟨trivial, h⟩
  | @added _ _ symbol hsymbol hactive =>
    obtain ⟨next, hperform, hnext⟩ := h.perform_eq_add hsymbol
    have hadd := hnext.add symbol (by rwa [Operation.active_numbered])
    rw [Operation.symbols_numbered] at hadd
    rw [hperform]
    exact hadd
  | homeless hsymbol hactive =>
    obtain ⟨next, hperform, hnext⟩ := h.perform_eq_add hsymbol
    rw [hperform, hnext.add_of_no_scope _ (by rwa [Operation.active_numbered])]
    exact ⟨rfl, hnext⟩
  | drew => exact ⟨by rw [← h.drawn_eq]; rfl, h.draw⟩

theorem run (h : model.Describes env) (operations : List Operation) {s : Journaled Environment}
    (hs : s.state = env) :
    (Bindings.run operations model).1 = (Operation.run operations s).1 ∧
      (Bindings.run operations model).2.Describes (Operation.run operations s).2.state := by
  subst hs
  induction operations generalizing model s with
  | nil => exact ⟨rfl, h⟩
  | cons operation rest ih =>
    obtain ⟨hanswer, hnext⟩ := h.ends (operation.ends s)
    obtain ⟨hanswers, hlast⟩ := ih hnext
    exact ⟨congrArg₂ List.cons hanswer hanswers, hlast⟩

theorem findLocal?_eq (h : model.Describes env) (name : String) :
    env.findLocal? name = model.findLocal? name := by
  have hscopes := h.scopes
  unfold Environment.findLocal? Bindings.findLocal?
  generalize model.scopes = scopes, env.active = active at hscopes ⊢
  cases hscopes with
  | nil => rfl
  | cons hscope _ => exact (hscope name).symm

theorem find?_eq (h : model.Describes env) (name : String) :
    env.find? name = model.find? name := by
  have hscopes := h.scopes
  unfold Environment.find? Bindings.find?
  generalize model.scopes = scopes, env.active = active at hscopes ⊢
  induction hscopes with
  | nil => rfl
  | cons hscope _ ih => rw [List.findSome?_cons, List.findSome?_cons, hscope name, ih]

theorem symbol?_eq (h : model.Describes env) (id : SymbolId) :
    env.symbol? id = model.symbols[id]? := by
  rw [h.symbols_eq, Array.getElem?_toList, Environment.symbol?]

end Bindings.Describes

/-! ### Searching -/

namespace Environment

/-- What is bound in the innermost scope is found first. -/
theorem findLocal?_or_find? (env : Environment) (name : String) :
    (env.findLocal? name).or (env.find? name) = env.find? name := by
  unfold findLocal? find?
  cases env.active with
  | nil => rfl
  | cons scope outer =>
    rw [List.head?_cons, Option.bind_some, List.findSome?_cons]
    cases scope[name]? <;> rfl

theorem lookup_eq_ok_iff {env : Environment} {name : String} {id : SymbolId} :
    env.lookup name = .ok id ↔ env.find? name = some id := by
  unfold lookup
  cases env.find? name <;> simp

theorem lookup_eq_error_iff {env : Environment} {name : String} {cause : Fault} :
    env.lookup name = .error cause ↔ env.find? name = none ∧ cause = .undeclaredSymbol name := by
  unfold lookup
  cases env.find? name <;> simp [eq_comm]

end Environment

open Environment.Operation in
/-- **An environment answers as plain lists do.**  Operations are performed on a
    new environment, whether or not those before them succeeded.  Their answers,
    and what can be asked behind them, are told by the lists; a symbol is found
    under the number that was answered for it, as it was given; and an operation
    fails just where it needs a scope and there is none, which leaves symbols and
    scopes alone. -/
theorem run_as_lists (retains : Bool) (level : Option Severity) (operations : List Operation) :
    let start : Journaled Environment := { state := { retains }, journal := { level } }
    let s := (Operation.run operations start).2
    let model := (Bindings.run operations {}).2
    ((Operation.run operations start).1 = (Bindings.run operations {}).1 ∧
      (Operation.run operations start).1.filterMap id? = List.range s.state.symbols.size) ∧
    (∀ name, s.state.findLocal? name = model.findLocal? name ∧
      s.state.find? name = model.find? name ∧
      (s.state.findLocal? name).or (s.state.find? name) = model.find? name ∧
      (∀ id, s.state.lookup name = .ok id ↔ model.find? name = some id) ∧
      ∀ cause, s.state.lookup name = .error cause ↔
        model.find? name = none ∧ cause = .undeclaredSymbol name) ∧
    ((∀ id, s.state.symbol? id = model.symbols[id]?) ∧
      ∀ before operation behind id, operations = before ++ operation :: behind →
        (operation.perform (Operation.run before start).2).1 = .ok (.symbol id) →
        ∃ symbol, operation.asked? (Operation.run before start).2.state.drawn = some symbol ∧
          s.state.symbol? id = some symbol) ∧
    (s.state.depth = model.scopes.length ∧ s.state.symbols.size = model.symbols.length ∧
      (s.state.symbols.isEmpty = true ↔ model.symbols = [])) ∧
    ∀ (operation : Operation) (cause : Fault),
      ((operation.perform s).1 = .error cause ↔
        model.scopes = [] ∧ operation.fault? model.drawn = some cause) ∧
      ((operation.perform s).1 = .error cause →
        (operation.perform s).2.state.symbols = s.state.symbols ∧
          (operation.perform s).2.state.active = s.state.active ∧
          (operation.perform s).2.state.retired = s.state.retired) := by
  intro start s model
  obtain ⟨hanswers, h⟩ := (Bindings.Describes.empty retains).run operations (s := start) rfl
  have hscopes : s.state.active.length = model.scopes.length := h.scopes.length_eq.symm
  refine ⟨⟨hanswers.symm, ?_⟩, fun name => ?_, ⟨h.symbol?_eq, ?_⟩, ⟨hscopes, ?_, ?_⟩, ?_⟩
  · have hids := ids_run operations start
    exact hids
  · rw [← h.findLocal?_eq, ← h.find?_eq]
    refine ⟨rfl, rfl, s.state.findLocal?_or_find? name, fun id => ?_, fun cause => ?_⟩
    · exact Environment.lookup_eq_ok_iff
    · exact Environment.lookup_eq_error_iff
  · rintro before operation behind id hsplit hanswer
    have hs : s =
        (Operation.run behind (operation.perform (Operation.run before start).2).2).2 := by
      unfold s
      rw [hsplit, run_append]
      rfl
    obtain ⟨symbol, hasked, hfound⟩ := symbol?_of_perform hanswer
    rw [hs]
    exact ⟨symbol, hasked, symbol?_run behind hfound⟩
  · exact h.length_eq.symm
  · rw [h.symbols_eq, Array.isEmpty_iff, Array.toList_eq_nil_iff]
  · intro operation cause
    refine ⟨?_, tables_of_error⟩
    rw [perform_eq_error_iff, h.drawn_eq, ← List.length_eq_zero_iff, hscopes,
      List.length_eq_zero_iff]

end OnePass
