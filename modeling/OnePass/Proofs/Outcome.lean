/-
  OnePass/Proofs/Outcome.lean
  ===========================
  **Outcomes of steps** — what a step answers and leaves, whatever its journal.

  Nothing reads the journal back, so the outcome of a step is a matter of the
  state alone.  `Yields` and `Refuses` say so for success and failure; both
  compose along `>>=`, and every rule of a session is put together from the
  outcomes of a few primitive steps.
-/
import OnePass.Action

namespace OnePass

namespace Step

variable {σ τ α β : Type}

/-- From the first state the step succeeds with the answer and leaves the
    second one. -/
def Yields (step : Step σ α) (s : σ) (answer : α) (t : σ) : Prop :=
  ∀ journal, ∃ after, step ⟨s, journal⟩ = .ok answer ⟨t, after⟩

/-- From the first state the step fails for the cause and leaves the second
    one. -/
def Refuses (step : Step σ α) (s : σ) (cause : Fault) (t : σ) : Prop :=
  ∀ journal, ∃ after, step ⟨s, journal⟩ = .error cause ⟨t, after⟩

/-! ### The two outcomes exclude each other -/

theorem Yields.eq_of_ok {step : Step σ α} {s : Journaled σ} {a b : α} {t : σ} {u : Journaled σ}
    (h : Yields step s.state a t) (hok : step s = .ok b u) : b = a ∧ u.state = t := by
  obtain ⟨after, heq⟩ := h s.journal
  rw [hok] at heq
  cases heq
  exact ⟨rfl, rfl⟩

theorem Refuses.ne_ok {step : Step σ α} {s : Journaled σ} {a : α} {t : σ} {cause : Fault}
    {u : Journaled σ} (h : Refuses step s.state cause t) : step s ≠ .ok a u := by
  obtain ⟨after, heq⟩ := h s.journal
  rw [heq]
  nofun

theorem Yields.unique {step : Step σ α} {s t u : σ} {a b : α} (h : Yields step s a t)
    (h' : Yields step s b u) : a = b ∧ t = u := by
  obtain ⟨after, heq⟩ := h {}
  obtain ⟨rfl, rfl⟩ := h'.eq_of_ok (s := ⟨s, {}⟩) heq
  exact ⟨rfl, rfl⟩

theorem Yields.of_eq {step : Step σ α} {s t u : σ} {a : α} (h : Yields step s a t) (heq : t = u) :
    Yields step s a u :=
  heq ▸ h

/-! ### Outcomes of the basic steps -/

theorem yields_pure (a : α) (s : σ) : Yields (pure a) s a s := fun journal => ⟨journal, rfl⟩

theorem yields_report (event : Event) (s : σ) : Yields (report event) s () s :=
  fun journal => ⟨journal.add event, rfl⟩

theorem refuses_fail (cause : Fault) (s : σ) : Refuses (fail cause : Step σ α) s cause s :=
  fun journal => ⟨journal, rfl⟩

theorem yields_ofExcept {result : Except Fault α} {a : α} (h : result = .ok a) (s : σ) :
    Yields (ofExcept result) s a s := by
  rw [h]
  exact yields_pure a s

theorem refuses_ofExcept {result : Except Fault α} {cause : Fault} (h : result = .error cause)
    (s : σ) : Refuses (ofExcept result) s cause s := by
  rw [h]
  exact refuses_fail cause s

theorem Yields.bind {step : Step σ α} {next : α → Step σ β} {s t u : σ} {a : α} {b : β}
    (h : Yields step s a t) (hnext : Yields (next a) t b u) : Yields (step >>= next) s b u := by
  intro journal
  obtain ⟨middle, hstep⟩ := h journal
  obtain ⟨after, hthen⟩ := hnext middle
  exact ⟨after, by rw [bind_apply_of_ok hstep, hthen]⟩

theorem Yields.bind_refuses {step : Step σ α} {next : α → Step σ β} {s t u : σ} {a : α}
    {cause : Fault} (h : Yields step s a t) (hnext : Refuses (next a) t cause u) :
    Refuses (step >>= next) s cause u := by
  intro journal
  obtain ⟨middle, hstep⟩ := h journal
  obtain ⟨after, hthen⟩ := hnext middle
  exact ⟨after, by rw [bind_apply_of_ok hstep, hthen]⟩

theorem Refuses.bind {step : Step σ α} {next : α → Step σ β} {s t : σ} {cause : Fault}
    (h : Refuses step s cause t) : Refuses (step >>= next) s cause t := by
  intro journal
  obtain ⟨after, hstep⟩ := h journal
  exact ⟨after, bind_apply_of_error hstep⟩

/-- Reading the state goes before a step that depends on it. -/
theorem Yields.current_bind {next : σ → Step σ β} {s u : σ} {b : β} (h : Yields (next s) s b u) :
    Yields (current >>= next) s b u :=
  fun journal => h journal

theorem Refuses.current_bind {next : σ → Step σ β} {s u : σ} {cause : Fault}
    (h : Refuses (next s) s cause u) : Refuses (current >>= next) s cause u :=
  fun journal => h journal

theorem Yields.within {part : τ → σ} {put : τ → σ → τ} {step : Step σ α} {s : τ} {t : σ} {a : α}
    (h : Yields step (part s) a t) : Yields (within part put step) s a (put s t) := by
  intro journal
  obtain ⟨after, hstep⟩ := h journal
  exact ⟨after, within_apply_of_ok (s := ⟨s, journal⟩) hstep⟩

theorem Refuses.within {part : τ → σ} {put : τ → σ → τ} {step : Step σ α} {s : τ} {t : σ}
    {cause : Fault} (h : Refuses step (part s) cause t) :
    Refuses (within part put step) s cause (put s t) := by
  intro journal
  obtain ⟨after, hstep⟩ := h journal
  exact ⟨after, within_apply_of_error (s := ⟨s, journal⟩) hstep⟩

theorem Yields.perform_eq {step : Step σ α} {s : Journaled σ} {a : α} {t : σ}
    (h : Yields step s.state a t) : ∃ journal, step.perform s = (.ok a, ⟨t, journal⟩) := by
  obtain ⟨journal, hstep⟩ := h s.journal
  exact ⟨journal, by simp only [perform, hstep]⟩

theorem Refuses.perform_eq {step : Step σ α} {s : Journaled σ} {cause : Fault} {t : σ}
    (h : Refuses step s.state cause t) :
    ∃ journal, step.perform s = (.error cause, ⟨t, journal⟩) := by
  obtain ⟨journal, hstep⟩ := h s.journal
  exact ⟨journal, by simp only [perform, hstep]⟩

/-- Success of two steps in a row is success of both. -/
theorem bind_eq_ok {step : Step σ α} {next : α → Step σ β} {s u : Journaled σ} {b : β}
    (h : (step >>= next) s = .ok b u) : ∃ a t, step s = .ok a t ∧ next a t = .ok b u := by
  rw [bind_apply] at h
  cases hstep : step s with
  | ok a t =>
    rw [hstep] at h
    exact ⟨a, t, rfl, h⟩
  | error cause t =>
    rw [hstep] at h
    cases h

end Step

/-! ### Names and symbols -/

theorem Scope.getElem?_bind (scope : Scope) (name other : String) (id : SymbolId) :
    (scope.insert name id)[other]? = if name = other then some id else scope[other]? := by
  simp [Std.ExtTreeMap.getElem?_insert]

namespace Environment

open Step

/-- The environment after a symbol was added and bound in the innermost scope. -/
def bound (env : Environment) (symbol : Symbol) : Environment :=
  { env with
    symbols := env.symbols.push symbol
    active := env.active.modifyHead fun scope => scope.insert symbol.name env.symbols.size }

def drew (env : Environment) : Environment := { env with drawn := env.drawn + 1 }

def left (env : Environment) : Environment :=
  { env with
    active := env.active.tail
    retired := if env.retains then env.retired ++ env.active.head?.toArray else env.retired }

theorem getElem?_push_of_some {symbols : Array Symbol} {symbol found : Symbol} {id : SymbolId}
    (h : symbols[id]? = some found) : (symbols.push symbol)[id]? = some found := by
  obtain ⟨hlt, -⟩ := Array.getElem?_eq_some_iff.mp h
  rw [Array.getElem?_push_lt hlt, ← Array.getElem?_eq_getElem hlt, h]

theorem yields_insert {env : Environment} (symbol : Symbol) (h : env.active ≠ []) :
    Yields (insert symbol) env env.symbols.size (env.bound symbol) := by
  intro journal
  obtain ⟨scope, outer, hactive⟩ := List.exists_cons_of_ne_nil h
  refine ⟨journal, ?_⟩
  simp only [insert, bound, hactive, bind_apply, current_apply, replace_apply, pure_apply,
    List.modifyHead_cons]

theorem refuses_insert {env : Environment} (symbol : Symbol) (h : env.active = []) :
    Refuses (insert symbol) env (.noActiveScope symbol.name) env := by
  intro journal
  refine ⟨journal, ?_⟩
  simp only [insert, h, bind_apply, current_apply, fail_apply]

theorem yields_drawName (kind : NameKind) (env : Environment) :
    Yields (drawName kind) env (generatedName kind env.drawn) env.drew :=
  fun journal => ⟨journal, rfl⟩

theorem yields_newTemporary {env : Environment} (type : ValueType) (offset : Int)
    (h : env.active ≠ []) :
    Yields (newTemporary type offset) env env.symbols.size
      (env.drew.bound { name := generatedName .temporary env.drawn, type, offset, words := 1 }) :=
  (yields_drawName .temporary env).bind ((yields_report _ _).bind (yields_insert _ h))

theorem refuses_newTemporary {env : Environment} (type : ValueType) (offset : Int)
    (h : env.active = []) :
    Refuses (newTemporary type offset) env (.noActiveScope (generatedName .temporary env.drawn))
      env.drew :=
  (yields_drawName .temporary env).bind_refuses
    ((yields_report _ _).bind_refuses (refuses_insert _ h))

theorem yields_newStringLabel {env : Environment} (h : env.active ≠ []) :
    Yields newStringLabel env (env.symbols.size, generatedName .stringLabel env.drawn)
      (env.drew.bound
        { name := generatedName .stringLabel env.drawn, type := .string, offset := 0,
          words := 0 }) :=
  (yields_drawName .stringLabel env).bind
    ((yields_report _ _).bind
      ((yields_insert _ (show env.drew.active ≠ [] from h)).bind (yields_pure _ _)))

theorem refuses_newStringLabel {env : Environment} (h : env.active = []) :
    Refuses newStringLabel env (.noActiveScope (generatedName .stringLabel env.drawn)) env.drew :=
  (yields_drawName .stringLabel env).bind_refuses
    ((yields_report _ _).bind_refuses
      (refuses_insert _ (show env.drew.active = [] from h)).bind)

theorem yields_enterScope (env : Environment) :
    Yields enterScope env () { env with active := ∅ :: env.active } :=
  fun journal => ⟨journal.add (.enteredScope (env.depth + 1)), rfl⟩

theorem yields_leaveScope {env : Environment} (h : env.active ≠ []) :
    Yields leaveScope env () env.left := by
  intro journal
  obtain ⟨scope, outer, hactive⟩ := List.exists_cons_of_ne_nil h
  refine ⟨journal.add (.leftScope env.depth scope.size), ?_⟩
  simp only [leaveScope, left, hactive, bind_apply, current_apply, replace_apply, report_apply,
    List.tail_cons, List.head?_cons]
  cases env.retains <;> simp

theorem refuses_leaveScope {env : Environment} (h : env.active = []) :
    Refuses leaveScope env .scopeUnderflow env := by
  intro journal
  refine ⟨journal, ?_⟩
  simp only [leaveScope, h, bind_apply, current_apply, fail_apply]

theorem lookupSymbol_of_find? {env : Environment} {name : String} {id : SymbolId} {symbol : Symbol}
    (hfind : env.find? name = some id) (hsymbol : env.symbol? id = some symbol) :
    env.lookupSymbol name = .ok symbol := by
  simp only [Environment.lookupSymbol, hfind, Option.bind_some, hsymbol]

end Environment

/-! ### Words of the frame -/

namespace Frame

open Step

theorem yields_allocate {frame grown : Frame} {words : Nat} (h : frame.grow? words = some grown) :
    Yields (allocate words) frame frame.cursor grown :=
  fun journal => ⟨_, allocate_of_room (s := ⟨frame, journal⟩) h⟩

theorem refuses_allocate {frame : Frame} {words : Nat} (h : frame.grow? words = none) :
    Refuses (allocate words) frame (.frameOverflow words) frame :=
  fun journal => ⟨journal, allocate_of_no_room (s := ⟨frame, journal⟩) h⟩

end Frame

/-! ### Lines and temporaries of a session -/

namespace Asm.Line

@[simp] theorem isCode_instruction (i : Instruction) : (Line.instruction i).isCode = true := rfl

@[simp] theorem filter_isCode_instructions (instructions : List Instruction) :
    (instructions.map Line.instruction).filter Line.isCode = instructions.map .instruction := by
  simp [List.filter_eq_self, Line.isCode]

end Asm.Line

namespace Session

open Asm Step

def body (session : Session) : List Line := session.listing.body.toList

/-- The lines of the body that the assembler acts on. -/
def code (session : Session) : List Line := session.body.filter Line.isCode

def wrote (session : Session) (lines : List Line) : Session :=
  { session with
    listing := { session.listing with body := session.listing.body ++ lines.toArray } }

/-- The session after a remark, which is dropped unless annotations are written. -/
def remarked (session : Session) (text : String) : Session :=
  { session with
    listing :=
      if session.listing.annotated then (session.wrote [.remark text]).listing
      else session.listing }

def drew (session : Session) : Session :=
  { session with environment := session.environment.drew }

/-- The temporary a session would add next. -/
def nextTemporary (session : Session) (type : ValueType) : Symbol where
  name := generatedName .temporary session.environment.drawn
  type := type
  offset := session.frame.cursor
  words := 1

def withTemporary (session : Session) (type : ValueType) (grown : Frame) : Session :=
  { session with
    environment := session.environment.drew.bound (session.nextTemporary type)
    frame := grown }

@[simp] theorem body_wrote (session : Session) (lines : List Line) :
    (session.wrote lines).body = session.body ++ lines := by
  simp [body, wrote]

@[simp] theorem body_drew (session : Session) : session.drew.body = session.body := rfl

@[simp] theorem wrote_nil (session : Session) : session.wrote [] = session := by
  simp [wrote]

@[simp] theorem wrote_wrote (session : Session) (first second : List Line) :
    (session.wrote first).wrote second = session.wrote (first ++ second) := by
  simp [wrote, Array.append_assoc]

theorem remarked_of_plain {session : Session} (h : session.listing.annotated = false)
    (text : String) : session.remarked text = session := by
  simp [remarked, h]

theorem remarked_of_annotated {session : Session} (h : session.listing.annotated = true)
    (text : String) : session.remarked text = session.wrote [.remark text] := by
  simp [remarked, wrote, h]

/-- A remark is a line if annotations are written, and nothing otherwise. -/
theorem remarked_eq_wrote (session : Session) (text : String) :
    session.remarked text =
      session.wrote (if session.listing.annotated then [.remark text] else []) := by
  cases h : session.listing.annotated with
  | true => exact remarked_of_annotated h text
  | false => exact (remarked_of_plain h text).trans (wrote_nil session).symm

@[simp] theorem code_wrote (session : Session) (lines : List Line) :
    (session.wrote lines).code = session.code ++ lines.filter Line.isCode := by
  simp [code]

@[simp] theorem code_drew (session : Session) : session.drew.code = session.code := rfl

@[simp] theorem code_withTemporary (session : Session) (type : ValueType) (grown : Frame) :
    (session.withTemporary type grown).code = session.code := rfl

@[simp] theorem code_remarked (session : Session) (text : String) :
    (session.remarked text).code = session.code := by
  cases h : session.listing.annotated with
  | true => simp [remarked_of_annotated h, Line.isCode]
  | false => rw [remarked_of_plain h]

theorem yields_line (line : Line) (s : Session) :
    Yields (inListing (Listing.emit line)) s () (s.wrote [line]) := by
  refine Yields.within (t := { s.listing with body := s.listing.body ++ #[line] }) ?_
  intro journal
  exact ⟨journal.add (.emitted line), by
    simp only [Listing.emit, bind_apply, report_apply, current_apply, replace_apply,
      Array.push_eq_append]⟩

theorem yields_emit (instruction : Instruction) (s : Session) :
    Yields (emit instruction) s () (s.wrote [.instruction instruction]) :=
  yields_line (.instruction instruction) s

theorem yields_emitAll (code : List Instruction) (s : Session) :
    Yields (emitAll code) s () (s.wrote (code.map .instruction)) := by
  induction code generalizing s with
  | nil =>
    rw [List.map_nil, wrote_nil]
    exact yields_pure () s
  | cons instruction rest ih =>
    have hrest := ih (s.wrote [.instruction instruction])
    rw [wrote_wrote] at hrest
    exact (yields_emit instruction s).bind hrest

theorem yields_addString (entry : StringEntry) (s : Session) :
    Yields (inListing (Listing.addString entry)) s ()
      { s with listing := { s.listing with strings := s.listing.strings.push entry } } := by
  unfold inListing
  refine Yields.within (t := { s.listing with strings := s.listing.strings.push entry }) ?_
  exact fun journal => ⟨journal, rfl⟩

theorem yields_place (label : String) (s : Session) :
    Yields (place label) s () (s.wrote [.label label]) :=
  yields_line (.label label) s

theorem yields_annotate (text : String) (s : Session) :
    Yields (annotate text) s () (s.remarked text) := by
  intro journal
  refine ⟨journal, ?_⟩
  unfold annotate inListing within Listing.annotate
  rw [bind_apply_of_ok (current_apply _)]
  by_cases h : s.listing.annotated = true
  · simp [remarked, wrote, h]
  · simp [remarked, h]

theorem yields_inEnvironment {α : Type} {step : Step Environment α} {s : Session} {a : α}
    {t : Environment} (h : Yields step s.environment a t) :
    Yields (inEnvironment step) s a { s with environment := t } := by
  unfold inEnvironment
  exact h.within

theorem refuses_inEnvironment {α : Type} {step : Step Environment α} {s : Session} {cause : Fault}
    {t : Environment} (h : Refuses step s.environment cause t) :
    Refuses (inEnvironment step) s cause { s with environment := t } := by
  unfold inEnvironment
  exact h.within

theorem yields_newLabel (s : Session) :
    Yields newLabel s (generatedName .branchLabel s.environment.drawn) s.drew :=
  yields_inEnvironment (Environment.yields_drawName .branchLabel s.environment)

theorem yields_allocate {s : Session} {words : Nat} {grown : Frame}
    (h : s.frame.grow? words = some grown) :
    Yields (inFrame (Frame.allocate words)) s s.frame.cursor { s with frame := grown } := by
  unfold inFrame
  exact (Frame.yields_allocate h).within

theorem refuses_allocate {s : Session} {words : Nat} (h : s.frame.grow? words = none) :
    Refuses (inFrame (Frame.allocate words)) s (.frameOverflow words) s := by
  unfold inFrame
  exact (Frame.refuses_allocate h).within

theorem yields_acquire {s : Session} {r : AddressRegister} {rest : AddressPool}
    (h : s.pool.acquire? = some (r, rest)) :
    Yields (inPool AddressPool.acquire) s r { s with pool := rest } := by
  unfold inPool
  refine Yields.within (t := rest) fun journal => ⟨journal, ?_⟩
  simp only [AddressPool.acquire, bind_apply, current_apply, h, replace_apply, pure_apply]

theorem refuses_acquire {s : Session} (h : s.pool.acquire? = none) :
    Refuses (inPool AddressPool.acquire) s .registersExhausted s := by
  unfold inPool
  refine Refuses.within (t := s.pool) fun journal => ⟨journal, ?_⟩
  simp only [AddressPool.acquire, bind_apply, current_apply, h, fail_apply]

theorem yields_release (r : AddressRegister) (s : Session) :
    Yields (inPool (AddressPool.release r)) s () { s with pool := s.pool.free r } := by
  unfold inPool
  exact Yields.within (t := s.pool.free r) fun journal => ⟨journal, rfl⟩

theorem yields_newTemporary {s : Session} {type : ValueType} {grown : Frame}
    (hroom : s.frame.grow? 1 = some grown) (hactive : s.environment.active ≠ []) :
    Yields (newTemporary type) s s.frame.cursor (s.withTemporary type grown) := by
  have hadd := yields_inEnvironment (s := { s with frame := grown })
    (Environment.yields_newTemporary type s.frame.cursor hactive)
  exact (yields_allocate hroom).bind (hadd.bind (yields_pure _ _))

/-- Without a scope the words are taken all the same, and so is the name. -/
theorem refuses_newTemporary_of_no_scope {s : Session} {type : ValueType} {grown : Frame}
    (hroom : s.frame.grow? 1 = some grown) (hactive : s.environment.active = []) :
    Refuses (newTemporary type) s
      (.noActiveScope (generatedName .temporary s.environment.drawn))
      { s.drew with frame := grown } := by
  have hadd := refuses_inEnvironment (s := { s with frame := grown })
    (Environment.refuses_newTemporary type s.frame.cursor hactive)
  exact (yields_allocate hroom).bind_refuses hadd.bind

theorem refuses_newTemporary_of_no_room {s : Session} {type : ValueType}
    (hroom : s.frame.grow? 1 = none) : Refuses (newTemporary type) s (.frameOverflow 1) s :=
  (refuses_allocate hroom).bind

/-! ### References -/

theorem yields_lookupSymbol {s : Session} {name : String} {symbol : Symbol}
    (h : s.environment.lookupSymbol name = .ok symbol) :
    Yields (lookupSymbol name) s symbol s :=
  Yields.current_bind (yields_ofExcept h s)

theorem yields_lookupVariable {s : Session} {name : String} {symbol : Symbol}
    (h : s.environment.lookupSymbol name = .ok symbol) (htype : symbol.type.isScalar = true) :
    Yields (lookupVariable name) s symbol s := by
  refine (yields_lookupSymbol h).bind ?_
  rw [if_pos htype]
  exact yields_pure symbol s

theorem refuses_lookupVariable {s : Session} {name : String} {symbol : Symbol}
    (h : s.environment.lookupSymbol name = .ok symbol) (htype : symbol.type.isScalar = false) :
    Refuses (lookupVariable name) s (.undeclaredSymbol name) s := by
  refine (yields_lookupSymbol h).bind_refuses ?_
  rw [if_neg (by simp [htype])]
  exact refuses_fail _ s

end Session

end OnePass
