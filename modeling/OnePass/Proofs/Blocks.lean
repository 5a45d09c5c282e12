/-
  OnePass/Proofs/Blocks.lean
  ==========================
  **Blocks** — a scope that is left leaves nothing behind that can be found.

  While a block is open its scopes lie on top of those around it, which are not
  touched: names are bound in the innermost scope only.  `Environment.Above`
  says so after any of its actions, and keeps account of the scopes that were
  left meanwhile.
-/
import OnePass.Proofs.Endings
import OnePass.Proofs.Nesting

namespace OnePass

open Asm Step Session

/-! ### Scopes that are left -/

/-- The scope an action leaves, with the names that are bound in it. -/
def Action.leaves : Action → Environment → List Scope
  | .leaveScope, env => env.active.head?.toList
  | _, _ => []

/-- The scopes that are left in a run, each as it was when it was left. -/
def Action.scopesLeft : List Action → Journaled Session → List Scope
  | [], _ => []
  | action :: rest, s =>
    action.leaves s.state.environment ++ scopesLeft rest (action.perform s).2

theorem Action.scopesLeft_append (first second : List Action) (s : Journaled Session) :
    scopesLeft (first ++ second) s =
      scopesLeft first s ++ scopesLeft second (run first s).2 := by
  induction first generalizing s with
  | nil => rfl
  | cons action rest ih =>
    simp only [List.cons_append, scopesLeft, ih, List.append_assoc]
    rfl

theorem Action.leaves_of_ne {action : Action} (h : action ≠ .leaveScope) (env : Environment) :
    action.leaves env = [] := by
  cases action with
  | leaveScope => exact absurd rfl h
  | _ => rfl

/-- The scope binds only symbols from a number on. -/
def Scope.BindsFrom (first : SymbolId) (scope : Scope) : Prop :=
  ∀ {name : String} {id : SymbolId}, scope[name]? = some id → first ≤ id

theorem Scope.bindsFrom_empty (first : SymbolId) : Scope.BindsFrom first ∅ := by
  intro name id hid
  simp at hid

theorem Scope.BindsFrom.insert {first : SymbolId} {scope : Scope} (h : scope.BindsFrom first)
    (name : String) {id : SymbolId} (hle : first ≤ id) :
    Scope.BindsFrom first (scope.insert name id) := by
  intro other found hfound
  rw [Scope.getElem?_bind] at hfound
  split at hfound
  · cases hfound
    exact hle
  · exact h hfound

/-! ### Scopes on top of others -/

/-- The scopes of the base have `depth` others on top.  Those, and the ones that
    have been left, bind only symbols that came after the base. -/
structure Environment.Above (base : Environment) (depth : Nat) (gone : List Scope)
    (env : Environment) : Prop where
  size_le : base.symbols.size ≤ env.symbols.size
  retains_eq : env.retains = base.retains
  retired_eq : env.retired = base.retired ++ if base.retains then gone.toArray else #[]
  gone_new : ∀ scope ∈ gone, scope.BindsFrom base.symbols.size
  scopes : ∃ tops : List Scope, tops.length = depth ∧ env.active = tops ++ base.active ∧
    ∀ scope ∈ tops, scope.BindsFrom base.symbols.size

namespace Environment.Above

variable {base env : Environment} {depth : Nat} {gone : List Scope}

theorem refl (base : Environment) : base.Above 0 [] base := by
  refine ⟨Nat.le_refl _, rfl, ?_, List.forall_mem_nil _, [], rfl, rfl, List.forall_mem_nil _⟩
  cases base.retains <;> simp

theorem active_ne (h : base.Above (depth + 1) gone env) : env.active ≠ [] := by
  obtain ⟨tops, hlength, hactive, -⟩ := h.scopes
  rw [hactive]
  apply List.append_ne_nil_of_left_ne_nil
  exact List.ne_nil_of_length_eq_add_one hlength

theorem active_eq (h : base.Above 0 gone env) : env.active = base.active := by
  obtain ⟨tops, hlength, hactive, -⟩ := h.scopes
  rw [hactive, List.eq_nil_of_length_eq_zero hlength, List.nil_append]

theorem drew (h : base.Above depth gone env) : base.Above depth gone env.drew :=
  ⟨h.size_le, h.retains_eq, h.retired_eq, h.gone_new, h.scopes⟩

/-- A name is bound in the scope on top. -/
theorem bound (h : base.Above (depth + 1) gone env) (symbol : Symbol) :
    base.Above (depth + 1) gone (env.bound symbol) := by
  obtain ⟨tops, hlength, hactive, hnew⟩ := h.scopes
  cases tops with
  | nil => cases hlength
  | cons top tops =>
    obtain ⟨htop, hrest⟩ := List.forall_mem_cons.mp hnew
    refine ⟨?_, h.retains_eq, h.retired_eq, h.gone_new, ?_⟩
    · rw [Environment.bound, Array.size_push]
      exact Nat.le_succ_of_le h.size_le
    · refine ⟨top.insert symbol.name env.symbols.size :: tops, hlength, ?_, ?_⟩
      · simp only [Environment.bound, hactive, List.cons_append, List.modifyHead_cons]
      · exact List.forall_mem_cons.mpr ⟨htop.insert _ h.size_le, hrest⟩

theorem entered (h : base.Above depth gone env) :
    base.Above (depth + 1) gone { env with active := ∅ :: env.active } := by
  obtain ⟨tops, hlength, hactive, hnew⟩ := h.scopes
  refine ⟨h.size_le, h.retains_eq, h.retired_eq, h.gone_new, ?_⟩
  refine ⟨∅ :: tops, congrArg (· + 1) hlength, ?_, ?_⟩
  · simp only [hactive, List.cons_append]
  · exact List.forall_mem_cons.mpr ⟨Scope.bindsFrom_empty _, hnew⟩

/-- The scope on top is put aside, if scopes are kept. -/
theorem left (h : base.Above (depth + 1) gone env) :
    base.Above depth (gone ++ env.active.head?.toList) env.left := by
  obtain ⟨tops, hlength, hactive, hnew⟩ := h.scopes
  cases tops with
  | nil => cases hlength
  | cons top tops =>
    obtain ⟨htop, hrest⟩ := List.forall_mem_cons.mp hnew
    rw [List.cons_append] at hactive
    have hhead : env.active.head? = some top := by rw [hactive, List.head?_cons]
    refine ⟨h.size_le, h.retains_eq, ?_, ?_, tops, Nat.succ.inj hlength, ?_, hrest⟩
    · simp only [Environment.left, h.retains_eq, h.retired_eq, hhead]
      cases base.retains <;> simp
    · rw [hhead]
      exact List.forall_mem_append.mpr ⟨h.gone_new, List.forall_mem_singleton.mpr htop⟩
    · simp only [Environment.left, hactive, List.tail_cons]

variable {action : Action} {s t : Session}

/-- One action of a block.  The scope of the block itself is not counted. -/
theorem of_ends {reply : Reply} {opened : Nat} (h : base.Above (depth + 1) gone s.environment)
    (hends : action.Ends s (.ok reply) t) (hopened : action.opened depth = some opened) :
    base.Above (opened + 1) (gone ++ action.leaves s.environment) t.environment := by
  cases hends with
  | quiet hquiet _ hfalls =>
    have henter : action ≠ .enterScope := by
      rintro rfl
      cases hquiet
    have hleave : action ≠ .leaveScope := by
      rintro rfl
      cases hquiet
    rw [Action.opened_of_ne henter hleave, Option.some.injEq] at hopened
    rw [← hopened, Action.leaves_of_ne hleave, List.append_nil]
    exact hfalls.keeps_environment (fun hs => hs.drew) (fun _ hs => hs.bound _) h
  | entered =>
    cases hopened
    simp only [Action.leaves, List.append_nil]
    exact h.entered
  | left =>
    cases depth with
    | zero => cases hopened
    | succ depth =>
      cases hopened
      exact h.left
  | declared =>
    cases hopened
    simp only [Action.leaves, List.append_nil]
    exact h.bound _
  | labelled =>
    cases hopened
    simp only [Action.leaves, List.append_nil]
    exact h.drew.bound _

theorem run {base : Environment} {depth opened : Nat} {gone : List Scope}
    {actions : List Action} {s : Journaled Session}
    (h : base.Above (depth + 1) gone s.state.environment)
    (hopened : openedBy depth actions = some opened) (hcompletes : Completes actions s) :
    base.Above (opened + 1) (gone ++ Action.scopesLeft actions s)
      (Action.run actions s).2.state.environment := by
  induction actions generalizing s depth gone with
  | nil =>
    cases hopened
    rw [Action.scopesLeft, List.append_nil]
    exact h
  | cons action rest ih =>
    obtain ⟨⟨reply, hok⟩, hrest⟩ := hcompletes.of_cons
    obtain ⟨inner, hinner, hopened⟩ := Option.bind_eq_some_iff.mp hopened
    obtain ⟨t, hends, hkeeps⟩ := action.ends (Action.live_of_ok hok).1
    rw [hok] at hends hkeeps
    have hnext := h.of_ends hends hinner
    rw [← environment_keeping t (.ok reply), ← hkeeps] at hnext
    rw [Action.scopesLeft, ← List.append_assoc]
    exact ih hnext hopened hrest

end Environment.Above

/-! ### A block and its surroundings -/

theorem openedBy_count {actions : List Action} {depth opened : Nat}
    (h : openedBy depth actions = some opened) :
    depth + actions.count .enterScope = opened + actions.count .leaveScope := by
  induction actions generalizing depth with
  | nil =>
    cases h
    rfl
  | cons action rest ih =>
    obtain ⟨inner, hinner, hrest⟩ := Option.bind_eq_some_iff.mp h
    have hcount := ih hrest
    by_cases henter : action = .enterScope
    · subst henter
      cases hinner
      have hother : Action.enterScope ≠ .leaveScope := nofun
      rw [List.count_cons_self, List.count_cons_of_ne hother]
      omega
    by_cases hleave : action = .leaveScope
    · subst hleave
      cases depth with
      | zero => cases hinner
      | succ depth =>
        cases hinner
        rw [List.count_cons_self, List.count_cons_of_ne henter]
        omega
    · rw [Action.opened_of_ne henter hleave, Option.some.injEq] at hinner
      rw [List.count_cons_of_ne henter, List.count_cons_of_ne hleave]
      omega

theorem length_scopesLeft {actions : List Action} {s : Journaled Session}
    (h : Completes actions s) :
    (Action.scopesLeft actions s).length = actions.count .leaveScope := by
  induction actions generalizing s with
  | nil => rfl
  | cons action rest ih =>
    obtain ⟨⟨reply, hok⟩, hrest⟩ := h.of_cons
    rw [Action.scopesLeft, List.length_append, ih hrest]
    by_cases hleave : action = .leaveScope
    · subst hleave
      obtain ⟨t, hends, -⟩ := Action.leaveScope.ends (Action.live_of_ok hok).1
      rw [hok] at hends
      cases hends with
      | quiet hquiet => cases hquiet
      | left hactive =>
        obtain ⟨scope, outer, heq⟩ := List.exists_cons_of_ne_nil hactive
        rw [List.count_cons_self, Action.leaves, heq]
        simp only [List.head?_cons, Option.toList_some, List.length_singleton]
        omega
    · rw [Action.leaves_of_ne hleave, List.count_cons_of_ne hleave, List.length_nil, Nat.zero_add]

/-- **A block leaves no trace in what can be found.**  All its actions succeed,
    and it closes the scopes it opens.  Behind it the scopes are what they were,
    and so is whatever is found in them; the symbols from before are untouched;
    and the scopes of the block are put aside in the order in which they were
    left, if scopes are kept.  Inside the block its own scopes lie on top, and
    names are bound in those only. -/
theorem run_block {s : Journaled Session} {body : List Action}
    (hcompletes : Completes (.enterScope :: (body ++ [.leaveScope])) s)
    (hclosed : openedBy 0 body = some 0) :
    let block := .enterScope :: (body ++ [.leaveScope])
    let before := s.state.environment
    let after := (Action.run block s).2.state.environment
    let gone := Action.scopesLeft block s
    (after.active = before.active ∧ after.depth = before.depth ∧ after.dump = before.dump ∧
      ∀ name, after.findLocal? name = before.findLocal? name ∧
        after.find? name = before.find? name ∧ after.lookup name = before.lookup name) ∧
    (∀ id symbol, before.symbol? id = some symbol → after.symbol? id = some symbol) ∧
    (after.retired = before.retired ++ (if before.retains then gone.toArray else #[]) ∧
      gone.length = block.count .enterScope ∧
      ∀ scope ∈ gone, scope.BindsFrom before.symbols.size) ∧
    ∀ inner, inner <+: body → ∃ opened tops, openedBy 0 inner = some opened ∧
      tops.length = opened + 1 ∧
      (Action.run (.enterScope :: inner) s).2.state.environment.active = tops ++ before.active ∧
      ∀ scope ∈ tops, scope.BindsFrom before.symbols.size := by
  intro block before after gone
  obtain ⟨journal, henter⟩ := Action.perform_enterScope hcompletes.start_live
  have hentered : before.Above 1 [] (Action.enterScope.perform s).2.state.environment := by
    rw [henter]
    exact (Environment.Above.refl before).entered
  obtain ⟨hinner, hlast⟩ := hcompletes.of_cons.2.of_append
  have hopen := hentered.run hclosed hinner
  obtain ⟨journal', hleave⟩ := Action.perform_leaveScope hlast.start_live hopen.active_ne
  have habove : before.Above 0 gone after := by
    let u := (Action.run body (Action.enterScope.perform s).2).2
    have hgone : gone = Action.scopesLeft body (Action.enterScope.perform s).2 ++
        u.state.environment.active.head?.toList := by
      simp [u, gone, block, Action.scopesLeft, Action.scopesLeft_append, Action.leaves]
    have hafter : after = u.state.environment.left := by
      simp only [u, after, block, Action.run, Action.run_append, hleave]
    rw [hgone, hafter]
    exact hopen.left
  have hactive := habove.active_eq
  refine ⟨⟨hactive, ?_, ?_, fun name => ⟨?_, ?_, ?_⟩⟩, ?_, ⟨habove.retired_eq, ?_,
    habove.gone_new⟩, ?_⟩
  · simp only [Environment.depth, hactive]
  · simp only [Environment.dump, hactive]
  · simp only [Environment.findLocal?, hactive]
  · simp only [Environment.find?, hactive]
  · simp only [Environment.lookup, Environment.find?, hactive]
  · exact fun id symbol => Action.symbol?_run block
  · have hcount := openedBy_count hclosed
    have hlength : gone.length = block.count .leaveScope := length_scopesLeft hcompletes
    have henters : block.count .enterScope = body.count .enterScope + 1 := by simp [block]
    have hleaves : block.count .leaveScope = body.count .leaveScope + 1 := by simp [block]
    omega
  · rintro inner ⟨rest, rfl⟩
    rw [openedBy_append] at hclosed
    obtain ⟨opened, hopened, -⟩ := Option.bind_eq_some_iff.mp hclosed
    obtain ⟨tops, hlength, hactive, hnew⟩ :=
      (hentered.run hopened hinner.of_append.1).scopes
    exact ⟨opened, tops, hopened, hlength, hactive, hnew⟩

-- The name of a variable is declared again in the block, and once more inside it.
theorem run_block_of_shadowing :
    let s := (Action.run [.enterScope, .declare "int" "x"] { state := Session.start {} }).2
    let body := [.declare "char" "x", .enterScope, .declare "int" "x[2]", .stringLiteral "hi",
      .leaveScope, .intLiteral 5]
    let after := (Action.run (.enterScope :: (body ++ [.leaveScope])) s).2.state.environment
    openedBy 0 body = some 0 ∧
    (Action.run (.enterScope :: (body ++ [.leaveScope])) s).1 = List.map .ok [.done, .symbol 1,
      .done, .symbol 2, .record ⟨.string, .label "str_0"⟩, .done, .record ⟨.int, .stack (-16)⟩,
      .done] ∧
    after.active = s.state.environment.active ∧
    after.find? "x" = s.state.environment.find? "x" ∧ s.state.environment.find? "x" = some 0 ∧
    after.retired.size = 2 := by
  intro s body after
  have hclosed : openedBy 0 body = some 0 := by decide
  have hanswers : (Action.run (.enterScope :: (body ++ [.leaveScope])) s).1 = List.map .ok [.done,
      .symbol 1, .done, .symbol 2, .record ⟨.string, .label "str_0"⟩, .done,
      .record ⟨.int, .stack (-16)⟩, .done] := by
    unfold body s
    decide +kernel
  have hlive :
      (Action.run (.enterScope :: (body ++ [.leaveScope])) s).2.state.firstFault = none := by
    unfold body s
    decide +kernel
  have hbefore : s.state.environment.find? "x" = some 0 := by
    unfold s
    decide +kernel
  have hretained : s.state.environment.retired.size = 0 ∧ s.state.environment.retains = true := by
    unfold s
    decide +kernel
  have hentered : (.enterScope :: (body ++ [.leaveScope])).count Action.enterScope = 2 := by decide
  clear_value body s
  obtain ⟨⟨hactive, -, -, hfound⟩, -, ⟨hretired, hlength, -⟩, -⟩ :=
    run_block ⟨⟨_, hanswers⟩, hlive⟩ hclosed
  refine ⟨hclosed, hanswers, hactive, (hfound "x").2.1, hbefore, ?_⟩
  rw [hretired, Array.size_append, hretained.1, hretained.2, if_pos rfl, List.size_toArray, hlength,
    hentered]

end OnePass
