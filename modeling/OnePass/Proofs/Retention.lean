/-
  OnePass/Proofs/Retention.lean
  =============================
  **Scopes that are kept** — nothing that is answered depends on them.

  A session that drops the scopes it leaves and one that keeps them are two runs
  in lockstep: no rule reads what was put aside, so the environments differ in
  that alone.  What was put aside is known from the run: every scope that was
  entered is still active, or it has been left, and then it stays as it was.
-/
import OnePass.Proofs.Blocks
import OnePass.Proofs.Callers
import OnePass.Proofs.Literals

namespace OnePass

open Asm Step Session

/-! ### Scopes that come and go -/

namespace Action

def Entry.enters : Entry → Bool
  | (enterScope, .ok _) => true
  | _ => false

/-- The scope an entry stands for leaving, as the environment before it has it. -/
def Entry.left : Entry → Environment → List Scope
  | (action, .ok _), env => action.leaves env
  | (_, .error _), _ => []

/-- The scopes that are left in a run, failing actions leaving none. -/
def departures : List Action → Journaled Session → List Scope
  | [], _ => []
  | action :: rest, s =>
    Entry.left (action, (action.perform s).1) s.state.environment ++
      departures rest (action.perform s).2

theorem Entry.enters_of_ne {action : Action} (h : action ≠ .enterScope)
    (answer : Except Fault Reply) : Entry.enters (action, answer) = false := by
  cases action with
  | enterScope => exact absurd rfl h
  | _ => rfl

theorem Entry.left_of_ne {action : Action} (h : action ≠ .leaveScope)
    (answer : Except Fault Reply) (env : Environment) : Entry.left (action, answer) env = [] := by
  cases answer with
  | ok reply => exact Action.leaves_of_ne h env
  | error cause => rfl

end Action

@[simp] theorem Environment.depth_bound (env : Environment) (symbol : Symbol) :
    (env.bound symbol).depth = env.depth :=
  List.length_modifyHead

/-- Of the scopes that were entered some are gone, and put aside if scopes are
    kept; the others are active. -/
structure Environment.Accounts (retains : Bool) (entered : Nat) (gone : List Scope)
    (env : Environment) : Prop where
  retains_eq : env.retains = retains
  retired_eq : env.retired.toList = if retains then gone else []
  entered_eq : gone.length + env.depth = entered

namespace Environment.Accounts

variable {env : Environment} {retains : Bool} {entered : Nat} {gone : List Scope} {s t : Session}

theorem start (options : Options) :
    Accounts options.retainScopes 0 [] (Session.start options).environment := by
  constructor
  · rfl
  · exact (ite_self _).symm
  · rfl

theorem bound (h : Accounts retains entered gone env) (symbol : Symbol) :
    Accounts retains entered gone (env.bound symbol) := by
  constructor
  · exact h.retains_eq
  · exact h.retired_eq
  · rw [depth_bound, h.entered_eq]

theorem drew (h : Accounts retains entered gone env) : Accounts retains entered gone env.drew :=
  ⟨h.retains_eq, h.retired_eq, h.entered_eq⟩

theorem opened (h : Accounts retains entered gone env) :
    Accounts retains (entered + 1) gone { env with active := ∅ :: env.active } := by
  constructor
  · exact h.retains_eq
  · exact h.retired_eq
  · rw [← h.entered_eq]
    rfl

theorem left (h : Accounts retains entered gone env) (hactive : env.active ≠ []) :
    Accounts retains entered (gone ++ env.active.head?.toList) env.left := by
  obtain ⟨scope, outer, hcons⟩ := List.exists_cons_of_ne_nil hactive
  have hretired := h.retired_eq
  have hdepth := h.entered_eq
  simp only [depth, hcons, List.length_cons] at hdepth
  constructor
  · exact h.retains_eq
  · simp only [Environment.left, h.retains_eq, hcons, List.head?_cons]
    cases retains <;> simpa using hretired
  · simp only [Environment.left, depth, hcons, List.tail_cons, List.head?_cons,
      Option.toList_some, List.length_append, List.length_singleton]
    omega

/-- Actions that neither enter nor leave a scope do not count. -/
theorem of_ne {action : Action} {answer : Except Fault Reply} (henter : action ≠ .enterScope)
    (hleave : action ≠ .leaveScope) (h : Accounts retains entered gone t.environment) :
    Accounts retains (entered + if Action.Entry.enters (action, answer) then 1 else 0)
      (gone ++ Action.Entry.left (action, answer) s.environment) t.environment := by
  rw [Action.Entry.enters_of_ne henter, Action.Entry.left_of_ne hleave, List.append_nil]
  exact h

theorem of_ends {action : Action} {answer : Except Fault Reply}
    (h : Accounts retains entered gone s.environment) (hends : action.Ends s answer t) :
    Accounts retains (entered + if Action.Entry.enters (action, answer) then 1 else 0)
      (gone ++ Action.Entry.left (action, answer) s.environment) t.environment := by
  cases hends with
  | quiet hquiet _ hfalls =>
    have henter : action ≠ .enterScope := by
      rintro rfl
      cases hquiet
    have hleave : action ≠ .leaveScope := by
      rintro rfl
      cases hquiet
    have hquiet := hfalls.keeps_environment (fun hs => hs.drew) (fun _ hs => hs.bound _) h
    exact of_ne henter hleave hquiet
  | entered =>
    rw [Action.Entry.left_of_ne (by decide), List.append_nil]
    exact h.opened
  | left hactive => exact h.left hactive
  | underflow =>
    rw [Action.Entry.left, List.append_nil]
    exact h
  | declared => exact of_ne nofun nofun (h.bound _)
  | homeless => exact of_ne nofun nofun h
  | rejected => exact of_ne nofun nofun h
  | labelled => exact of_ne nofun nofun (h.drew.bound _)
  | unlabelled => exact of_ne nofun nofun h.drew

theorem perform {s : Journaled Session} (h : Accounts retains entered gone s.state.environment)
    (action : Action) :
    Accounts retains
      (entered + if Action.Entry.enters (action, (action.perform s).1) then 1 else 0)
      (gone ++ Action.Entry.left (action, (action.perform s).1) s.state.environment)
      (action.perform s).2.state.environment := by
  by_cases hlive : s.state.firstFault = none
  · obtain ⟨t, hends, hkeeps⟩ := action.ends hlive
    rw [hkeeps, environment_keeping]
    exact h.of_ends hends
  · rw [Action.perform_of_aborted hlive, Action.Entry.left, List.append_nil]
    cases action <;> exact h

/-- After a run the accounts are those of its entries. -/
theorem run {s : Journaled Session} (h : Accounts retains entered gone s.state.environment)
    (actions : List Action) :
    Accounts retains (entered + (Action.transcript actions s).countP Action.Entry.enters)
      (gone ++ Action.departures actions s) (Action.run actions s).2.state.environment := by
  induction actions generalizing s entered gone with
  | nil =>
    rw [Action.departures, List.append_nil]
    exact h
  | cons action rest ih =>
    have hrest := ih (h.perform action)
    rw [Nat.add_assoc, Nat.add_comm (ite _ _ _), List.append_assoc] at hrest
    rw [Action.transcript_cons, List.countP_cons, Action.departures]
    exact hrest

end Environment.Accounts

/-! ### The coupling -/

/-- The environment of a session that drops the scopes it leaves. -/
def Environment.forgetting (env : Environment) : Environment :=
  { env with retired := #[], retains := false }

/-- The second session drops the scopes it leaves. -/
def forgetter : Coupling where
  strict := True
  causes := Eq
  environments e f := f = e.forgetting
  listings := Eq

namespace forgetter

theorem transparent : forgetter.Transparent where
  wrote := by
    rintro l _ lines - rfl
    rfl
  remarked := by
    intro s t text h
    have hlisting : s.listing = t.listing := h
    have hremarked : (s.remarked text).listing = (t.remarked text).listing := by
      unfold remarked wrote
      rw [hlisting]
    exact hremarked
  stored := by
    rintro l _ entry rfl
    rfl
  drawn_eq := by
    rintro e _ rfl
    rfl
  size_eq := by
    rintro e _ rfl
    rfl
  active_ne := by
    rintro e _ rfl hactive
    exact hactive
  active_eq := by
    rintro e _ rfl - hactive
    exact hactive
  drew := by
    rintro e _ rfl
    rfl
  bound := by
    rintro e _ symbol kind number - - - rfl
    rfl
  anonymous _ := rfl
  homeless _ _ := rfl
  cause _ := rfl
  twins name := by
    refine ⟨rfl, ?_⟩
    rintro e _ rfl
    rfl
  declarators declarator := by
    constructor
    · rfl
    · exact fun _ => rfl
    · rfl
    · rintro e _ rfl hfresh
      exact hfresh
    · rintro - e _ rfl
      rfl
    · rintro type offset e _ - rfl
      rfl

theorem exact : forgetter.Exact := by
  apply transparent.exact trivial rfl
  · rintro e _ rfl
    rfl
  · rintro e _ rfl
    rfl

theorem together_start (options : Options) (level level' : Option Severity) :
    forgetter.Together
      { state := Session.start { options with retainScopes := true }, journal := { level } }
      { state := Session.start { options with retainScopes := false },
        journal := { level := level' } } :=
  ⟨⟨rfl, rfl, rfl, rfl⟩, .none⟩

end forgetter

/-- **Whether scopes are kept is not observed.**  Whatever a caller makes of the
    answers, it gets the same ones whether the scopes it leaves are kept or
    dropped, and after each of them all that can be asked of the sessions is the
    same, but for the scopes put aside.  There are none if they are dropped.  If
    they are kept, they are the scopes that were left, in that order and as they
    were then; with the active ones they are as many as were entered. -/
theorem retained_scopes_unobserved (caller : Caller) (options : Options)
    (level level' : Option Severity) (n : Nat) :
    let start : Journaled Session :=
      { state := Session.start { options with retainScopes := true }, journal := { level } }
    let start' : Journaled Session :=
      { state := Session.start { options with retainScopes := false },
        journal := { level := level' } }
    let asked := caller.asked start n
    let kept := caller.drive start n
    let dropped := caller.drive start' n
    let env := kept.2.state.environment
    let other := dropped.2.state.environment
    dropped.1 = kept.1 ∧
      dropped.2.state.body = kept.2.state.body ∧
      dropped.2.state.listing.strings = kept.2.state.listing.strings ∧
      dropped.2.state.assembly = kept.2.state.assembly ∧
      dropped.2.state.frame = kept.2.state.frame ∧
      dropped.2.state.pool = kept.2.state.pool ∧
      dropped.2.state.firstFault = kept.2.state.firstFault ∧
      (other.symbols = env.symbols ∧ other.active = env.active ∧ other.drawn = env.drawn) ∧
      (other.depth = env.depth ∧ other.dump = env.dump ∧
        (∀ id, other.symbol? id = env.symbol? id) ∧
        ∀ name, other.findLocal? name = env.findLocal? name ∧ other.find? name = env.find? name ∧
          other.lookup name = env.lookup name) ∧
      other.retired = #[] ∧
      (kept = Action.run asked start ∧ dropped = Action.run asked start') ∧
      env.retired.toList = Action.departures asked start ∧
      env.retired.size + env.depth =
        (Action.transcript asked start).countP Action.Entry.enters := by
  intro start start' asked kept dropped env other
  have hrun : kept = Action.run asked start := caller.drive_eq_run start n
  have hstart : forgetter.Together start start' :=
    forgetter.together_start options level level'
  have hrun' : dropped = Action.run asked start' := by
    have hasked : asked = caller.asked start' n := forgetter.exact.asked_eq hstart caller n
    rw [hasked]
    exact caller.drive_eq_run start' n
  obtain ⟨hanswers, htogether⟩ := forgetter.exact.drive hstart caller n
  have hfault : kept.2.state.firstFault = dropped.2.state.firstFault :=
    forgetter.exact.faults_eq htogether
  obtain ⟨henvironment, hlisting, hframe, hpool⟩ := htogether.couples
  have hother : other = env.forgetting := henvironment
  have hsame : kept.2.state.listing = dropped.2.state.listing := hlisting
  obtain ⟨-, hretired, hentered⟩ := (Environment.Accounts.start _).run (s := start) asked
  rw [← hrun] at hretired hentered
  have hkept : env.retired.toList = Action.departures asked start := hretired
  rw [hother]
  refine ⟨hanswers.symm, ?_, ?_, ?_, hframe, hpool, hfault.symm, ⟨rfl, rfl, rfl⟩,
    ⟨rfl, rfl, fun _ => rfl, fun _ => ⟨rfl, rfl, rfl⟩⟩, rfl, ⟨hrun, hrun'⟩, hkept, ?_⟩
  · simp only [body, hsame]
  · rw [hsame]
  · simp only [assembly, hsame]
  · rw [← Array.length_toList, hkept]
    simpa using hentered

end OnePass
