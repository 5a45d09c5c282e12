/-
  OnePass/Proofs/Nesting.lean
  ===========================
  **A scope around code** — it changes nothing of what the code does.

  Two runs of the same actions are compared, one of them inside a scope of its
  own.  All the while that scope and the one around it bind together what a
  single scope binds in the other run.  The scopes that the code itself opens
  lie on top of either and are the same.
-/
import OnePass.Proofs.Lockstep

namespace OnePass

open Asm Step Session

/-! ### Actions that close what they open -/

/-- The scopes that are open after an action, of those opened by it and by the
    actions before it; `none` if it leaves any other. -/
def Action.opened : Action → Nat → Option Nat
  | .enterScope, depth => some (depth + 1)
  | .leaveScope, 0 => none
  | .leaveScope, depth + 1 => some depth
  | _, depth => some depth

theorem Action.opened_of_ne {action : Action} (henter : action ≠ .enterScope)
    (hleave : action ≠ .leaveScope) (depth : Nat) : action.opened depth = some depth := by
  cases action with
  | enterScope => exact absurd rfl henter
  | leaveScope => exact absurd rfl hleave
  | _ => rfl

/-- The scopes that are open after actions, of those they opened and `depth` others. -/
def openedBy (depth : Nat) : List Action → Option Nat
  | [] => some depth
  | action :: rest => (action.opened depth).bind fun inner => openedBy inner rest

theorem openedBy_append (depth : Nat) (first second : List Action) :
    openedBy depth (first ++ second) =
      (openedBy depth first).bind fun inner => openedBy inner second := by
  induction first generalizing depth with
  | nil => rfl
  | cons action rest ih =>
    simp only [List.cons_append, openedBy, ih, Option.bind_assoc]

/-! ### Names in scopes are names of symbols -/

/-- What a scope binds a name to is a symbol with that name. -/
def Environment.Faithful (env : Environment) : Prop :=
  ∀ scope, scope ∈ env.active ∨ scope ∈ env.retired.toList → ∀ {name : String} {id : SymbolId},
    scope[name]? = some id → ∃ symbol, env.symbol? id = some symbol ∧ symbol.name = name

namespace Environment.Faithful

variable {env : Environment}

theorem entered (h : env.Faithful) :
    Environment.Faithful { env with active := ∅ :: env.active } := by
  rintro scope (hactive | hretired) name id hid
  · rcases List.mem_cons.mp hactive with rfl | hactive
    · simp at hid
    · exact h scope (Or.inl hactive) hid
  · exact h scope (Or.inr hretired) hid

theorem left (h : env.Faithful) : env.left.Faithful := by
  rintro scope (hactive | hretired) name id hid
  · exact h scope (Or.inl (List.mem_of_mem_tail hactive)) hid
  · cases hretains : env.retains with
    | false =>
      simp only [Environment.left, hretains, Bool.false_eq_true, if_false] at hretired
      exact h scope (Or.inr hretired) hid
    | true =>
      simp only [Environment.left, hretains, if_true, Array.toList_append, List.mem_append]
        at hretired
      rcases hretired with hretired | hleft
      · exact h scope (Or.inr hretired) hid
      · have hhead : scope ∈ env.active := by
          cases hactive : env.active with
          | nil => simp [hactive] at hleft
          | cons first outer =>
            simp only [hactive, List.head?_cons, Option.toList_toArray, Option.toList_some,
              List.mem_singleton] at hleft
            rw [hleft]
            exact List.mem_cons_self
        exact h scope (Or.inl hhead) hid

theorem bound (h : env.Faithful) (symbol : Symbol) : (env.bound symbol).Faithful := by
  have hold : ∀ scope, scope ∈ env.active ∨ scope ∈ env.retired.toList →
      ∀ {name : String} {id : SymbolId}, scope[name]? = some id →
        ∃ found, (env.bound symbol).symbol? id = some found ∧ found.name = name := by
    intro scope hscope name id hid
    obtain ⟨found, hfound, hname⟩ := h scope hscope hid
    exact ⟨found, Environment.getElem?_push_of_some hfound, hname⟩
  rintro scope (hactive | hretired) name id hid
  · cases houter : env.active with
    | nil => simp [Environment.bound, houter] at hactive
    | cons first outer =>
      simp only [Environment.bound, houter, List.modifyHead_cons, List.mem_cons] at hactive
      rcases hactive with rfl | hactive
      · rw [Scope.getElem?_bind] at hid
        split at hid
        · next heq =>
          cases hid
          exact ⟨symbol, Array.getElem?_push_size, heq⟩
        · exact hold first (Or.inl (by rw [houter]; exact List.mem_cons_self)) hid
      · exact hold scope (Or.inl (by rw [houter]; exact List.mem_cons_of_mem _ hactive)) hid
  · exact hold scope (Or.inr hretired) hid

theorem lt_size (h : env.Faithful) {scope : Scope}
    (hscope : scope ∈ env.active ∨ scope ∈ env.retired.toList) {name : String} {id : SymbolId}
    (hid : scope[name]? = some id) : id < env.symbols.size := by
  obtain ⟨symbol, hsymbol, -⟩ := h scope hscope hid
  exact (Array.getElem?_eq_some_iff.mp hsymbol).1

/-- What the innermost scope binds is a symbol of that name. -/
theorem findLocal? (h : env.Faithful) {name : String} {id : SymbolId}
    (hid : env.findLocal? name = some id) :
    ∃ symbol, env.symbol? id = some symbol ∧ symbol.name = name := by
  obtain ⟨scope, hhead, hscope⟩ := Option.bind_eq_some_iff.mp hid
  exact h scope (Or.inl (List.mem_of_head? hhead)) hscope

end Environment.Faithful

theorem invariant_faithful :
    Invariant (fun s => s.environment.Faithful) (fun s => s.environment.Faithful) where
  start options := by
    rintro scope (hactive | hretired)
    · cases hactive
    · cases hretired
  change hchange h := by
    cases hchange with
    | entered => exact h.entered
    | left => exact h.left
    | temporary => exact Environment.Faithful.bound h _
    | declared => exact h.bound _
    | stringLabel => exact Environment.Faithful.bound h _
    | _ => exact h
  fault _ h := h
  lost _ _ _ _ _ h := h

theorem Reachable.faithful {s : Journaled Session} (hs : Reachable s) :
    s.state.environment.Faithful := by
  rcases hs.intact_or_aborted invariant_faithful with ⟨-, h⟩ | ⟨-, h⟩
  · exact h
  · exact h

/-! ### A scope more in the middle -/

/-- The second environment has one scope more, behind `depth` others.  What
    that scope binds is bound, in the first environment, in the scope behind it
    or not at all, and to symbols from number `first` on. -/
structure Environment.Wrapped (first : SymbolId) (base : List Scope) (depth : Nat)
    (e f : Environment) : Prop where
  symbols_eq : f.symbols = e.symbols
  drawn_eq : f.drawn = e.drawn
  retired_eq : f.retired = e.retired
  retains_eq : f.retains = e.retains
  first_le : first ≤ e.symbols.size
  scopes : ∃ (tops : List Scope) (inner : Scope), tops.length = depth ∧
    e.active = tops ++ base.modifyHead (fun scope => scope ∪ inner) ∧
    f.active = tops ++ inner :: base ∧ (base = [] → inner = ∅) ∧
    ∀ {name : String} {id : SymbolId}, inner[name]? = some id → first ≤ id

/-- Listings, frames and pools are the same, and environments differ by a scope. -/
def wrapper (first : SymbolId) (base : List Scope) (depth : Nat) : Coupling where
  strict := False
  causes _ _ := True
  environments := Environment.Wrapped first base depth
  listings l m := m = l

theorem Scope.union_insert (scope inner : Scope) (name : String) (id : SymbolId) :
    scope ∪ inner.insert name id = (scope ∪ inner).insert name id := by
  apply Std.ExtTreeMap.ext_getElem?
  intro other
  rw [Std.ExtTreeMap.getElem?_union, Scope.getElem?_bind, Scope.getElem?_bind,
    Std.ExtTreeMap.getElem?_union]
  split
  · rfl
  · rfl

theorem Scope.union_empty (scope : Scope) : scope ∪ ∅ = scope := by
  apply Std.ExtTreeMap.ext_getElem?
  intro name
  simp [Std.ExtTreeMap.getElem?_union]

namespace Environment.Wrapped

variable {first : SymbolId} {base : List Scope} {depth : Nat} {e f : Environment}

theorem active_ne (h : Environment.Wrapped first base depth e f) : f.active ≠ [] := by
  obtain ⟨tops, inner, -, -, hf, -⟩ := h.scopes
  rw [hf]
  exact List.append_ne_nil_of_right_ne_nil _ (List.cons_ne_nil _ _)

theorem active_ne_of_open (h : Environment.Wrapped first base (depth + 1) e f) :
    e.active ≠ [] := by
  obtain ⟨tops, inner, hdepth, he, -⟩ := h.scopes
  rw [he]
  apply List.append_ne_nil_of_left_ne_nil
  exact List.ne_nil_of_length_eq_add_one hdepth

theorem drew (h : Environment.Wrapped first base depth e f) :
    Environment.Wrapped first base depth e.drew f.drew where
  symbols_eq := h.symbols_eq
  drawn_eq := congrArg (· + 1) h.drawn_eq
  retired_eq := h.retired_eq
  retains_eq := h.retains_eq
  first_le := h.first_le
  scopes := h.scopes

/-- A name is bound in the innermost scope of either environment, which may be
    the scope that only one of them has. -/
theorem bound (h : Environment.Wrapped first base depth e f) (symbol : Symbol)
    (hactive : e.active ≠ []) :
    Environment.Wrapped first base depth (e.bound symbol) (f.bound symbol) := by
  obtain ⟨tops, inner, hdepth, he, hf, hempty, hids⟩ := h.scopes
  refine ⟨?_, h.drawn_eq, h.retired_eq, h.retains_eq, ?_, ?_⟩
  · simp only [Environment.bound, h.symbols_eq]
  · simp only [Environment.bound, Array.size_push]
    exact Nat.le_succ_of_le h.first_le
  simp only [Environment.bound, h.symbols_eq, he, hf]
  cases tops with
  | cons top tops =>
    -- the name goes to a scope that both environments have
    exact ⟨top.insert symbol.name e.symbols.size :: tops, inner, hdepth, rfl, rfl, hempty, hids⟩
  | nil =>
    cases base with
    | nil => exact absurd he hactive
    | cons scope outer =>
      refine ⟨[], inner.insert symbol.name e.symbols.size, hdepth, ?_, rfl, ?_, ?_⟩
      · simp only [List.nil_append, List.modifyHead_cons, Scope.union_insert]
      · exact fun hnil => absurd hnil (List.cons_ne_nil scope outer)
      · intro name id hid
        rw [Scope.getElem?_bind] at hid
        split at hid
        · cases hid
          exact h.first_le
        · exact hids hid

theorem entered (h : Environment.Wrapped first base depth e f) :
    Environment.Wrapped first base (depth + 1) { e with active := ∅ :: e.active }
      { f with active := ∅ :: f.active } := by
  obtain ⟨tops, inner, hdepth, he, hf, hempty, hids⟩ := h.scopes
  refine ⟨h.symbols_eq, h.drawn_eq, h.retired_eq, h.retains_eq, h.first_le, ?_⟩
  refine ⟨∅ :: tops, inner, congrArg (· + 1) hdepth, ?_, ?_, hempty, hids⟩
  · rw [List.cons_append, ← he]
  · rw [List.cons_append, ← hf]

theorem left (h : Environment.Wrapped first base (depth + 1) e f) :
    Environment.Wrapped first base depth e.left f.left := by
  obtain ⟨tops, inner, hdepth, he, hf, hempty, hids⟩ := h.scopes
  cases tops with
  | nil => cases hdepth
  | cons top tops =>
    refine ⟨h.symbols_eq, h.drawn_eq, ?_, h.retains_eq, h.first_le, ?_⟩
    · simp only [Environment.left, h.retired_eq, h.retains_eq, he, hf, List.cons_append,
        List.head?_cons]
    · refine ⟨tops, inner, Nat.succ.inj hdepth, ?_, ?_, hempty, hids⟩
      · simp only [Environment.left, he, List.cons_append, List.tail_cons]
      · simp only [Environment.left, hf, List.cons_append, List.tail_cons]

theorem depth_eq (h : Environment.Wrapped first base depth e f) : f.depth = e.depth + 1 := by
  obtain ⟨tops, inner, -, he, hf, -⟩ := h.scopes
  simp only [Environment.depth, he, hf, List.length_append, List.length_cons,
    List.length_modifyHead]
  omega

theorem symbol?_eq (h : Environment.Wrapped first base depth e f) : f.symbol? = e.symbol? := by
  funext id
  rw [symbol?, symbol?, h.symbols_eq]

/-- One scope with the names of two is searched like the two. -/
theorem find?_eq (h : Environment.Wrapped first base depth e f) (name : String) :
    f.find? name = e.find? name := by
  obtain ⟨tops, inner, -, he, hf, hempty, -⟩ := h.scopes
  simp only [Environment.find?, he, hf, List.findSome?_append]
  congr 1
  cases base with
  | nil => simp [hempty rfl]
  | cons scope outer =>
    simp only [List.modifyHead_cons, List.findSome?_cons, Std.ExtTreeMap.getElem?_union]
    cases inner[name]? with
    | none => rfl
    | some id => rfl

theorem fresh (h : Environment.Wrapped first base depth e f) {name : String}
    (hfresh : (e.findLocal? name).bind e.symbol? = none) :
    (f.findLocal? name).bind f.symbol? = none := by
  obtain ⟨tops, inner, -, he, hf, hempty, -⟩ := h.scopes
  rw [h.symbol?_eq]
  simp only [findLocal?, he, hf] at hfresh ⊢
  cases tops with
  | cons top tops => exact hfresh
  | nil =>
    cases base with
    | nil => simp [hempty rfl]
    | cons scope outer =>
      simp only [List.nil_append, List.modifyHead_cons, List.head?_cons, Option.bind_some,
        Std.ExtTreeMap.getElem?_union] at hfresh ⊢
      cases hinner : inner[name]? with
      | none => rfl
      | some id =>
        rw [hinner] at hfresh
        exact hfresh

end Environment.Wrapped

/-! ### Two runs of the same actions -/

theorem wrapper_transparent (first : SymbolId) (base : List Scope) (depth : Nat) :
    (wrapper first base depth).Transparent where
  wrote := by
    rintro l m lines - rfl
    rfl
  remarked := by
    intro s t text heq
    have hlisting : t.listing = s.listing := heq
    change (t.remarked text).listing = (s.remarked text).listing
    simp only [Session.remarked, Session.wrote, hlisting]
  stored := by
    rintro l m entry rfl
    rfl
  drawn_eq h := h.drawn_eq
  size_eq h := congrArg Array.size h.symbols_eq
  active_ne h _ := h.active_ne
  active_eq _ := False.elim
  drew h := h.drew
  bound _ _ hactive h := h.bound _ hactive
  anonymous _ := trivial
  homeless _ _ := trivial
  cause _ := trivial
  twins name := by
    refine ⟨trivial, fun {e f} h => ?_⟩
    rw [Environment.Wrapped.find?_eq h, Environment.Wrapped.symbol?_eq h]
  declarators declarator := by
    constructor
    · rfl
    · exact fun _ => trivial
    · trivial
    · exact fun h => h.fresh
    · exact False.elim
    · exact fun type offset hactive h => h.bound _ hactive

/-- A scope without names goes around what follows. -/
theorem wrapped_entered (e : Environment) :
    Environment.Wrapped e.symbols.size e.active 0 e { e with active := ∅ :: e.active } := by
  refine ⟨rfl, rfl, rfl, rfl, Nat.le_refl _, [], ∅, rfl, ?_, rfl, fun _ => rfl, by simp⟩
  cases e.active with
  | nil => rfl
  | cons scope outer => simp only [List.nil_append, List.modifyHead_cons, Scope.union_empty]

namespace Action

variable {s t : Journaled Session}

theorem perform_enterScope (hlive : s.state.firstFault = none) :
    ∃ journal, Action.enterScope.perform s = (.ok .done,
      ⟨{ s.state with environment :=
          { s.state.environment with active := ∅ :: s.state.environment.active } }, journal⟩) := by
  have hrule := yields_inEnvironment (Environment.yields_enterScope s.state.environment)
  exact perform_of_yields hlive (hrule.bind (yields_pure Reply.done _))

theorem perform_leaveScope (hlive : s.state.firstFault = none)
    (hactive : s.state.environment.active ≠ []) :
    ∃ journal, Action.leaveScope.perform s = (.ok .done,
      ⟨{ s.state with environment := s.state.environment.left }, journal⟩) := by
  have hrule := yields_inEnvironment (Environment.yields_leaveScope hactive)
  exact perform_of_yields hlive (hrule.bind (yields_pure Reply.done _))

/-- One action that succeeds alone is performed inside the scope as well. -/
theorem perform_wrapped {action : Action} {first : SymbolId} {base : List Scope}
    {depth opened : Nat} (hst : (wrapper first base depth).Couples s.state t.state)
    (hlive : t.state.firstFault = none) (hopened : action.opened depth = some opened)
    {reply : Reply} (hok : (action.perform s).1 = .ok reply) :
    (action.perform t).1 = .ok reply ∧
      (wrapper first base opened).Couples (action.perform s).2.state
        (action.perform t).2.state := by
  have hlive' := (live_of_ok hok).1
  by_cases henter : action = .enterScope
  · subst henter
    cases hopened
    obtain ⟨journal, hs⟩ := perform_enterScope hlive'
    obtain ⟨journal', ht⟩ := perform_enterScope hlive
    rw [hs] at hok
    rw [hs, ht]
    exact ⟨hok, Environment.Wrapped.entered hst.environment, hst.listing, hst.frame_eq, hst.pool_eq⟩
  by_cases hleave : action = .leaveScope
  · subst hleave
    cases depth with
    | zero => cases hopened
    | succ depth =>
      cases hopened
      have hactive := Environment.Wrapped.active_ne_of_open hst.environment
      obtain ⟨journal, hs⟩ := perform_leaveScope hlive' hactive
      obtain ⟨journal', ht⟩ :=
        perform_leaveScope hlive (Environment.Wrapped.active_ne hst.environment)
      rw [hs] at hok
      rw [hs, ht]
      exact ⟨hok, Environment.Wrapped.left hst.environment, hst.listing, hst.frame_eq, hst.pool_eq⟩
  · have hdepth : opened = depth := by
      rw [opened_of_ne henter hleave] at hopened
      exact (Option.some.inj hopened).symm
    rw [hdepth]
    have hmatches := (wrapper_transparent first base depth).matches_rule henter hleave
    exact hst.perform_of_ok hmatches hlive hok

/-- The same for actions in a row; what they leave open tells where the scope is. -/
theorem run_wrapped {actions : List Action} {first : SymbolId} {base : List Scope}
    {depth opened : Nat} (hst : (wrapper first base depth).Couples s.state t.state)
    (hlive : t.state.firstFault = none) (hopened : openedBy depth actions = some opened)
    (hcompletes : Completes actions s) :
    (run actions t).1 = (run actions s).1 ∧ (run actions t).2.state.firstFault = none ∧
      (wrapper first base opened).Couples (run actions s).2.state (run actions t).2.state := by
  induction actions generalizing s t depth with
  | nil =>
    cases hopened
    exact ⟨rfl, hlive, hst⟩
  | cons action rest ih =>
    obtain ⟨⟨reply, hok⟩, hrest⟩ := hcompletes.of_cons
    obtain ⟨inner, hinner, hopened⟩ := Option.bind_eq_some_iff.mp hopened
    obtain ⟨hanswer, hst'⟩ := perform_wrapped hst hlive hinner hok
    obtain ⟨hanswers, hend⟩ := ih hst' (live_of_ok hanswer).2 hopened hrest
    refine ⟨?_, hend⟩
    simp only [run, hok, hanswer, hanswers]

end Action

/-! ### What is left of the scope -/

/-- The sessions differ at most in their scopes. -/
structure Session.Agrees (s t : Session) : Prop where
  symbols_eq : t.environment.symbols = s.environment.symbols
  drawn_eq : t.environment.drawn = s.environment.drawn
  listing_eq : t.listing = s.listing
  frame_eq : t.frame = s.frame
  pool_eq : t.pool = s.pool
  firstFault_eq : t.firstFault = s.firstFault

theorem Coupling.Couples.agrees {first : SymbolId} {base : List Scope} {depth : Nat} {s t : Session}
    (h : (wrapper first base depth).Couples s t) (hs : s.firstFault = none)
    (ht : t.firstFault = none) : s.Agrees t where
  symbols_eq := Environment.Wrapped.symbols_eq h.environment
  drawn_eq := Environment.Wrapped.drawn_eq h.environment
  listing_eq := h.listing
  frame_eq := h.frame_eq
  pool_eq := h.pool_eq
  firstFault_eq := ht.trans hs.symm

/-- A scope is entered before whatever follows. -/
theorem exists_run_enterScope {s : Journaled Session} (hlive : s.state.firstFault = none) :
    ∃ t : Journaled Session, t.state.firstFault = none ∧
      (wrapper s.state.environment.symbols.size s.state.environment.active 0).Couples
        s.state t.state ∧
      ∀ rest, Action.run (.enterScope :: rest) s =
        (.ok .done :: (Action.run rest t).1, (Action.run rest t).2) := by
  obtain ⟨journal, henter⟩ := Action.perform_enterScope hlive
  refine ⟨(Action.enterScope.perform s).2, ?_, ?_, ?_⟩
  · rw [henter]
    exact hlive
  · rw [henter]
    exact ⟨wrapped_entered s.state.environment, rfl, rfl, rfl⟩
  · intro rest
    have hanswer := congrArg Prod.fst henter
    simp only [Action.run, hanswer]

/-- The scope in the middle has the names that were bound in it, and no others. -/
theorem Environment.Wrapped.exists_inner {e f : Environment} {first : SymbolId} {base : List Scope}
    (h : Environment.Wrapped first base 0 e f)
    (hbase : ∀ scope ∈ base, ∀ {name : String} {id : SymbolId}, scope[name]? = some id →
      id < first) :
    ∃ inner : Scope, f.active = inner :: base ∧
      e.active = base.modifyHead (fun scope => scope ∪ inner) ∧
      ∀ name, inner[name]? = (e.findLocal? name).filter fun id => first ≤ id := by
  obtain ⟨tops, inner, hdepth, he, hf, hempty, hids⟩ := h.scopes
  obtain rfl := List.eq_nil_of_length_eq_zero hdepth
  refine ⟨inner, hf, he, ?_⟩
  intro name
  simp only [findLocal?, he, List.nil_append]
  cases base with
  | nil => simp [hempty rfl]
  | cons scope outer =>
    simp only [List.modifyHead_cons, List.head?_cons, Option.bind_some,
      Std.ExtTreeMap.getElem?_union]
    cases hinner : inner[name]? with
    | some id =>
      have hle := hids hinner
      rw [Option.some_or, Option.filter_some, if_pos (decide_eq_true hle)]
    | none =>
      cases houter : scope[name]? with
      | none => rfl
      | some id =>
        have hlt := hbase scope List.mem_cons_self houter
        rw [Option.none_or, Option.filter_some, if_neg (by simpa using hlt)]

/-- **A scope around code changes nothing.**  Code that succeeds throughout and
    closes the scopes it opens succeeds in a scope of its own too, with the same
    answers.  After each of its actions the sessions agree but for that scope,
    and all names are found alike.  When the scope is left, the names that the
    code bound are in it, and not in the scope around it. -/
theorem run_in_scope {s : Journaled Session} (hs : Reachable s) {actions : List Action}
    (hcompletes : Completes actions s) (hclosed : openedBy 0 actions = some 0) :
    let alone := Action.run actions s
    let inside := Action.run (.enterScope :: (actions ++ [.leaveScope])) s
    inside.1 = .ok .done :: (alone.1 ++ [.ok .done]) ∧
      (∀ before, before <+: actions →
        let here := (Action.run before s).2.state
        let there := (Action.run (.enterScope :: before) s).2.state
        here.Agrees there ∧ there.environment.retired = here.environment.retired ∧
          there.environment.depth = here.environment.depth + 1 ∧
          ∀ name, there.environment.find? name = here.environment.find? name) ∧
      alone.2.state.Agrees inside.2.state ∧
      inside.2.state.environment.active = s.state.environment.active ∧
      ∃ inner : Scope,
        (∀ name, inner[name]? = (alone.2.state.environment.findLocal? name).filter
          fun id => s.state.environment.symbols.size ≤ id) ∧
        alone.2.state.environment.active =
          s.state.environment.active.modifyHead (fun scope => scope ∪ inner) ∧
        inside.2.state.environment.retired =
          if alone.2.state.environment.retains then
            alone.2.state.environment.retired.push inner
          else alone.2.state.environment.retired := by
  intro alone inside
  obtain ⟨t, ht, hst, hrun⟩ := exists_run_enterScope hcompletes.start_live
  obtain ⟨hanswers, hlive, hend⟩ := Action.run_wrapped hst ht hclosed hcompletes
  have hactive := Environment.Wrapped.active_ne hend.environment
  obtain ⟨journal, hleave⟩ := Action.perform_leaveScope hlive hactive
  have hlast : inside.2 = (Action.leaveScope.perform (Action.run actions t).2).2 := by
    simp only [inside, hrun, Action.run_append, Action.run]
  obtain ⟨inner, hthere, hhere, hnames⟩ :=
    Environment.Wrapped.exists_inner hend.environment fun scope hscope =>
      hs.faithful.lt_size (Or.inl hscope)
  rw [hlast, hleave]
  refine ⟨?_, ?_, ?_, ?_, inner, hnames, hhere, ?_⟩
  · simp only [inside, hrun, Action.answers_append, Action.run, hanswers, hleave, alone]
  · rintro before ⟨rest, rfl⟩
    rw [openedBy_append] at hclosed
    obtain ⟨depth, hopened, -⟩ := Option.bind_eq_some_iff.mp hclosed
    have hbefore := hcompletes.of_append.1
    obtain ⟨-, hlive', hcouples⟩ := Action.run_wrapped hst ht hopened hbefore
    rw [hrun]
    refine ⟨hcouples.agrees hbefore.live hlive', ?_, ?_, ?_⟩
    · exact Environment.Wrapped.retired_eq hcouples.environment
    · exact Environment.Wrapped.depth_eq hcouples.environment
    · exact Environment.Wrapped.find?_eq hcouples.environment
  · obtain ⟨hsymbols, hdrawn, hlisting, hframe, hpool, hfault⟩ :=
      hend.agrees hcompletes.live hlive
    exact ⟨hsymbols, hdrawn, hlisting, hframe, hpool, hfault⟩
  · simp only [Environment.left, hthere, List.tail_cons]
  · simp only [Environment.left, hthere, Environment.Wrapped.retired_eq hend.environment,
      Environment.Wrapped.retains_eq hend.environment, List.head?_cons]
    simp [alone]

-- A variable, a block that hides another one, and a text.
theorem run_in_scope_of_block :
    let s := (Action.run [.enterScope, .declare "int" "x"] { state := Session.start {} }).2
    let actions := [.declare "int" "y", .enterScope, .declare "char" "x", .resolve "x",
      .leaveScope, .stringLiteral "hi", .resolve "x"]
    let alone := Action.run actions s
    let inside := Action.run (.enterScope :: (actions ++ [.leaveScope])) s
    openedBy 0 actions = some 0 ∧
    alone.1 = [.ok (.symbol 1), .ok .done, .ok (.symbol 2), .ok (.record ⟨.char, .stack (-8)⟩),
      .ok .done, .ok (.record ⟨.string, .label "str_0"⟩), .ok (.record ⟨.int, .stack 0⟩)] ∧
    inside.1 = .ok .done :: (alone.1 ++ [.ok .done]) ∧
    alone.2.state.Agrees inside.2.state ∧
    alone.2.state.environment.find? "y" = some 1 ∧
    inside.2.state.environment.find? "y" = none := by
  intro s actions alone inside
  have hclosed : openedBy 0 actions = some 0 := by decide
  have hanswers : alone.1 = List.map Except.ok [.symbol 1, .done, .symbol 2,
      .record ⟨.char, .stack (-8)⟩, .done, .record ⟨.string, .label "str_0"⟩,
      .record ⟨.int, .stack 0⟩] := by
    unfold alone actions s
    decide +kernel
  have hlive : alone.2.state.firstFault = none := by
    unfold alone actions s
    decide +kernel
  have hbound : alone.2.state.environment.find? "y" = some 1 := by
    unfold alone actions s
    decide +kernel
  have hbefore : s.state.environment.find? "y" = none := by
    unfold s
    decide +kernel
  have hreachable : Reachable s := ⟨_, _, _, rfl⟩
  -- from here on it does not matter which actions they are
  clear_value actions s
  obtain ⟨hinside, -, hagrees, hactive, -⟩ :=
    run_in_scope hreachable ⟨⟨_, hanswers⟩, hlive⟩ hclosed
  refine ⟨hclosed, hanswers, hinside, hagrees, hbound, ?_⟩
  exact (congrArg (fun active => active.findSome? fun scope => scope["y"]?) hactive).trans hbefore

end OnePass
