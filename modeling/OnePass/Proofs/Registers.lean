/-
  OnePass/Proofs/Registers.lean
  =============================
  **Address registers** — they take turns, and between actions none is held.

  The register handed out is always the one the search starts at, and every
  rule gives back what it was handed out.  So a session without a fault has an
  idle pool, two operands of one instruction never share a register, and which
  register an operand gets depends on nothing but how many were handed out
  before.
-/
import OnePass.Proofs.Code
import OnePass.Proofs.Reachable
import Mathlib.Algebra.GroupWithZero.Nat

namespace OnePass

open Asm Step Session

namespace AddressPool

/-- No register is held; the search starts at `next`. -/
def idle (next : Fin 7) : AddressPool := { next }

def first (pool : AddressPool) : AddressRegister := ⟨pool.next⟩

theorem acquire?_of_free {pool : AddressPool} (h : pool.isHeld pool.first = false) :
    pool.acquire? = some (pool.first, pool.hold pool.first) := by
  have hcandidates : pool.candidates = pool.first :: pool.candidates.tail := by
    have hzero : pool.first = ⟨pool.next + 0⟩ := by simp [first]
    rw [hzero]
    rfl
  simp only [acquire?]
  rw [hcandidates, List.find?_cons_of_pos (by simpa using h)]
  rfl

theorem isHeld_idle (next : Fin 7) (r : AddressRegister) : (idle next).isHeld r = false := by
  simp [isHeld, idle]

end AddressPool

namespace Place

/-- The pool after the operand for the place was made ready. -/
def held (place : Place) (pool : AddressPool) : AddressPool :=
  if place.isIndirect then pool.hold pool.first else pool

/-- The pool after the operand for the place was given back. -/
def freed (place : Place) (r : AddressRegister) (pool : AddressPool) : AddressPool :=
  if place.isIndirect then pool.free r else pool

/-- A second operand finds a free register too, and not the same one. -/
theorem first_held_idle (place : Place) (next : Fin 7) :
    (place.held (.idle next)).isHeld (place.held (.idle next)).first = false ∧
      (place.isIndirect = true →
        (AddressPool.idle next).first ≠ (place.held (.idle next)).first) := by
  unfold held
  cases place.isIndirect <;> decide +revert

theorem freed_held_idle (place : Place) (next : Fin 7) :
    place.freed (AddressPool.idle next).first (place.held (.idle next)) =
      .idle (place.held (.idle next)).next := by
  unfold held freed
  cases place.isIndirect <;> decide +revert

/-- Two operands are given back in either order. -/
theorem freed_held_held_idle (first second : Place) (next : Fin 7) :
    second.freed (first.held (.idle next)).first
        (first.freed (AddressPool.idle next).first (second.held (first.held (.idle next)))) =
      .idle (second.held (first.held (.idle next))).next ∧
    first.freed (AddressPool.idle next).first
        (second.freed (first.held (.idle next)).first (second.held (first.held (.idle next)))) =
      .idle (second.held (first.held (.idle next))).next := by
  unfold held freed
  cases first.isIndirect <;> cases second.isIndirect <;> decide +revert

end Place

namespace Session

variable {α β : Type}

/-! ### Steps that leave the pool alone -/

/-- If the step succeeds, the pool is what it was. -/
def KeepsPool (step : Step Session α) : Prop :=
  ∀ ⦃s t : Journaled Session⦄ ⦃a : α⦄, step s = .ok a t → t.state.pool = s.state.pool

theorem KeepsPool.of_yields {step : Step Session α} {after : Session → Session}
    (h : ∀ s, ∃ a, Yields step s a (after s)) (hpool : ∀ s, (after s).pool = s.pool) :
    KeepsPool step := by
  intro s t a hok
  obtain ⟨answer, hyields⟩ := h s.state
  rw [(hyields.eq_of_ok hok).2]
  exact hpool s.state

theorem keepsPool_pure (a : α) : KeepsPool (pure a) := by
  intro s t b hok
  cases hok
  rfl

theorem keepsPool_fail (cause : Fault) : KeepsPool (Step.fail cause : Step Session α) := by
  intro s t a hok
  cases hok

theorem keepsPool_ofExcept (result : Except Fault α) : KeepsPool (Step.ofExcept result) := by
  cases result with
  | ok a => exact keepsPool_pure a
  | error cause => exact keepsPool_fail cause

theorem KeepsPool.bind {step : Step Session α} {next : α → Step Session β} (h : KeepsPool step)
    (hnext : ∀ a, KeepsPool (next a)) : KeepsPool (step >>= next) := by
  intro s u b hok
  obtain ⟨a, t, hstep, hrest⟩ := bind_eq_ok hok
  exact (hnext a hrest).trans (h hstep)

theorem keepsPool_current_bind {next : Session → Step Session β}
    (h : ∀ s, KeepsPool (next s)) : KeepsPool (current >>= next) :=
  fun s _ _ hok => h s.state hok

/-- A step of another part of the session leaves the pool alone. -/
theorem keepsPool_within {σ : Type} {part : Session → σ} {put : Session → σ → Session}
    (hput : ∀ s x, (put s x).pool = s.pool) (step : Step σ α) :
    KeepsPool (step.within part put) := by
  intro s t a hok
  unfold within at hok
  split at hok
  · cases hok
    exact hput _ _
  · cases hok

theorem keepsPool_inEnvironment (step : Step Environment α) : KeepsPool (inEnvironment step) := by
  unfold inEnvironment
  refine keepsPool_within (fun _ _ => ?_) step
  rfl

theorem keepsPool_inFrame (step : Step Frame α) : KeepsPool (inFrame step) := by
  unfold inFrame
  refine keepsPool_within (fun _ _ => ?_) step
  rfl

theorem keepsPool_inListing (step : Step Listing α) : KeepsPool (inListing step) := by
  unfold inListing
  refine keepsPool_within (fun _ _ => ?_) step
  rfl

theorem keepsPool_emitAll (code : List Instruction) : KeepsPool (emitAll code) :=
  KeepsPool.of_yields (fun s => ⟨_, yields_emitAll code s⟩) fun _ => rfl

theorem keepsPool_newTemporary (type : ValueType) : KeepsPool (newTemporary type) :=
  (keepsPool_inFrame _).bind fun _ => (keepsPool_inEnvironment _).bind fun _ => keepsPool_pure _

theorem keepsPool_lookupSymbol (name : String) : KeepsPool (lookupSymbol name) :=
  keepsPool_current_bind fun _ => keepsPool_ofExcept _

theorem keepsPool_requireFresh (name : String) : KeepsPool (requireFresh name) := by
  refine keepsPool_current_bind fun s => ?_
  dsimp only
  split
  · exact keepsPool_fail _
  · exact keepsPool_pure ()

theorem keepsPool_declare (typeName spec : String) : KeepsPool (declare typeName spec) := by
  refine (keepsPool_ofExcept _).bind fun type => ?_
  refine (keepsPool_ofExcept _).bind fun declarator => ?_
  refine (keepsPool_requireFresh _).bind fun _ => ?_
  refine (keepsPool_inFrame _).bind fun offset => ?_
  refine (KeepsPool.of_yields (fun s => ⟨_, yields_report _ s⟩) fun _ => rfl).bind fun _ => ?_
  exact (keepsPool_inListing _).bind fun _ => keepsPool_inEnvironment _

theorem keepsPool_resolve (spec : String) : KeepsPool (resolve spec) := by
  refine (keepsPool_ofExcept _).bind fun access => ?_
  refine KeepsPool.bind ?_ fun symbol => ?_
  · refine (keepsPool_lookupSymbol _).bind fun symbol => ?_
    split
    · exact keepsPool_pure _
    · exact keepsPool_fail _
  · split
    · exact keepsPool_pure _
    · split
      · exact keepsPool_pure _
      · exact keepsPool_fail _
    · refine (keepsPool_lookupSymbol _).bind fun index => ?_
      refine (keepsPool_newTemporary _).bind fun slot => ?_
      refine (keepsPool_inListing _).bind fun _ => ?_
      exact (keepsPool_emitAll _).bind fun _ => keepsPool_pure _

theorem keepsPool_scalarLiteral (type : ValueType) (value : Int) :
    KeepsPool (scalarLiteral type value) :=
  (keepsPool_newTemporary type).bind fun _ => (keepsPool_emitAll _).bind fun _ => keepsPool_pure _

theorem keepsPool_stringLiteral (text : String) : KeepsPool (stringLiteral text) :=
  (keepsPool_inEnvironment _).bind fun _ => (keepsPool_inListing _).bind fun _ => keepsPool_pure _

/-! ### What a step leaves if it succeeds -/

/-- If the step succeeds from the session, it answers and leaves what is told. -/
def Ensures (s : Session) (step : Step Session α) (post : α → Session → Prop) : Prop :=
  ∀ ⦃journal : Journal⦄ ⦃a : α⦄ ⦃t : Journaled Session⦄, step ⟨s, journal⟩ = .ok a t →
    post a t.state

namespace Ensures

variable {s t : Session} {step : Step Session α} {next : α → Step Session β}
  {middle : α → Session → Prop} {post : β → Session → Prop}

theorem of_yields {a : α} {post : α → Session → Prop} (h : Yields step s a t) (hpost : post a t) :
    Ensures s step post := by
  intro journal b u hok
  obtain ⟨rfl, hu⟩ := h.eq_of_ok (s := ⟨s, journal⟩) hok
  rw [hu]
  exact hpost

theorem of_outcome {a : α} {post : α → Session → Prop} (h : Ensures s step post)
    (hyields : Yields step s a t) : post a t := by
  obtain ⟨after, hok⟩ := hyields {}
  exact h hok

theorem of_refuses {cause : Fault} {post : α → Session → Prop} (h : Refuses step s cause t) :
    Ensures s step post := by
  intro journal a u hok
  exact absurd hok (h.ne_ok (s := ⟨s, journal⟩))

theorem bind (h : Ensures s step middle) (hnext : ∀ a t, middle a t → Ensures t (next a) post) :
    Ensures s (step >>= next) post := by
  intro journal b u hok
  obtain ⟨a, t, hstep, hrest⟩ := bind_eq_ok hok
  exact hnext a t.state (h hstep) hrest

/-- A step whose outcome is known goes before the others. -/
theorem after {a : α} (h : Yields step s a t) (hnext : Ensures t (next a) post) :
    Ensures s (step >>= next) post := by
  have hstep : Ensures s step fun b u => b = a ∧ u = t := of_yields h ⟨rfl, rfl⟩
  refine hstep.bind ?_
  rintro _ _ ⟨rfl, rfl⟩
  exact hnext

/-- The answer does not matter for what is left. -/
theorem then_pure {left : Session → Prop} (h : Ensures s step fun _ t => left t) (f : α → β) :
    Ensures s (step >>= fun a => pure (f a)) fun _ t => left t := by
  refine h.bind fun a t ht => ?_
  exact of_yields (yields_pure (f a) t) ht

end Ensures

/-! ### Operands -/

@[simp] theorem pool_wrote (session : Session) (lines : List Line) :
    (session.wrote lines).pool = session.pool := rfl

@[simp] theorem code_withPool (session : Session) (pool : AddressPool) :
    { session with pool }.code = session.code := rfl

theorem yields_requireScalar {record : Record} (h : record.type.isScalar = true) (role : String)
    (s : Session) : Yields (requireScalar record role) s () s := by
  rw [requireScalar, if_pos h]
  exact yields_pure () s

theorem refuses_requireScalar {record : Record} (h : record.type.isScalar = false) (role : String)
    (s : Session) :
    Refuses (requireScalar record role) s (.invalidOperandType record.type role) s := by
  rw [requireScalar, if_neg (by simp [h])]
  exact refuses_fail _ s

theorem ensures_requireScalar (record : Record) (role : String) (s : Session) :
    Ensures s (requireScalar record role) fun _ t => t = s := by
  cases hscalar : record.type.isScalar with
  | true => exact Ensures.of_yields (yields_requireScalar hscalar role s) rfl
  | false => exact Ensures.of_refuses (refuses_requireScalar hscalar role s)

theorem ensures_newTemporary (type : ValueType) (s : Session) :
    Ensures s (newTemporary type) fun offset t =>
      offset = s.frame.cursor ∧ ∃ grown, t = s.withTemporary type grown := by
  cases hroom : s.frame.grow? 1 with
  | none => exact Ensures.of_refuses (refuses_newTemporary_of_no_room hroom)
  | some grown =>
    by_cases hactive : s.environment.active = []
    · exact Ensures.of_refuses (refuses_newTemporary_of_no_scope hroom hactive)
    · exact Ensures.of_yields (yields_newTemporary hroom hactive) ⟨rfl, grown, rfl⟩

/-- A variable that is found is bound, and is no string label. -/
theorem ensures_lookupVariable (name : String) (s : Session) :
    Ensures s (lookupVariable name) fun symbol t => t = s ∧ symbol.type.isScalar = true ∧
      ∃ id, s.environment.find? name = some id ∧ s.environment.symbol? id = some symbol := by
  cases hfound : s.environment.lookupSymbol name with
  | error cause =>
    exact Ensures.of_refuses (Refuses.current_bind (refuses_ofExcept hfound s)).bind
  | ok symbol =>
    cases hscalar : symbol.type.isScalar with
    | false => exact Ensures.of_refuses (refuses_lookupVariable hfound hscalar)
    | true =>
      refine Ensures.of_yields (yields_lookupVariable hfound hscalar) ⟨rfl, hscalar, ?_⟩
      unfold Environment.lookupSymbol at hfound
      split at hfound
      · next hbound =>
        cases hfound
        exact Option.bind_eq_some_iff.mp hbound
      · cases hfound

/-- The session after the operand for a place was made ready. -/
def withOperand (session : Session) (place : Place) : Session :=
  { session with pool := place.held session.pool }.wrote
    ((place.code session.pool.first).map .instruction)

theorem yields_operand {type : ValueType} {place : Place} {role : String} {s : Session}
    (hscalar : type.isScalar = true) (hplace : ∀ name, place ≠ .label name)
    (hfree : s.pool.isHeld s.pool.first = false) :
    Yields (operand ⟨type, place⟩ role) s (place.operand s.pool.first) (s.withOperand place) := by
  refine (yields_requireScalar hscalar role s).bind ?_
  cases place with
  | stack offset =>
    rw [withOperand, show Place.code s.pool.first (.stack offset) = [] from rfl, List.map_nil,
      wrote_nil]
    exact yields_pure _ s
  | indirect offset =>
    refine (yields_acquire (AddressPool.acquire?_of_free hfree)).bind ?_
    exact (yields_emitAll _ _).bind (yields_pure _ _)
  | label name => exact absurd rfl (hplace name)

theorem refuses_operand_of_label {type : ValueType} {name role : String} (s : Session) :
    Refuses (operand ⟨type, .label name⟩ role) s (.invalidOperandType type role) s := by
  cases hscalar : type.isScalar with
  | true => exact (yields_requireScalar hscalar role s).bind_refuses (refuses_fail _ s)
  | false => exact (refuses_requireScalar hscalar role s).bind

theorem ensures_operand {record : Record} {role : String} {s : Session}
    (hfree : s.pool.isHeld s.pool.first = false) :
    Ensures s (operand record role) fun source t =>
      source = record.place.operand s.pool.first ∧ t = s.withOperand record.place := by
  rcases record with ⟨type, place⟩
  by_cases hlabel : ∃ name, place = .label name
  · obtain ⟨name, rfl⟩ := hlabel
    exact Ensures.of_refuses (refuses_operand_of_label s)
  · cases hscalar : type.isScalar with
    | false => exact Ensures.of_refuses (refuses_requireScalar hscalar role s).bind
    | true =>
      have hplace : ∀ name, place ≠ .label name := fun name h => hlabel ⟨name, h⟩
      exact Ensures.of_yields (yields_operand hscalar hplace hfree) ⟨rfl, rfl⟩

theorem yields_release_operand (place : Place) (r : AddressRegister) (s : Session) :
    Yields (release (place.operand r)) s () { s with pool := place.freed r s.pool } := by
  cases place with
  | stack offset => exact yields_pure () s
  | label name => exact yields_pure () s
  | indirect offset => exact yields_release r s

end Session

/-! ### Registers in turn -/

/-- The register that is handed out when `k` were handed out before. -/
def Asm.AddressRegister.turn (k : Nat) : AddressRegister := ⟨⟨k % 7, Nat.mod_lt k (by decide)⟩⟩

/-- The idle pool after `k` registers were handed out. -/
def AddressPool.turned (k : Nat) : AddressPool := .idle (AddressRegister.turn k).index

namespace Place

/-- How many registers the operand for a place takes. -/
def turns (place : Place) : Nat := if place.isIndirect then 1 else 0

/-- Places of operands with the registers for them, when `k` were handed out before. -/
def inTurn (k : Nat) : List Place → List (Place × AddressRegister)
  | [] => []
  | place :: rest => (place, .turn k) :: inTurn (k + place.turns) rest

theorem next_held {place : Place} {pool : AddressPool} {k : Nat}
    (h : pool.next = (AddressRegister.turn k).index) :
    (place.held pool).next = (AddressRegister.turn (k + place.turns)).index := by
  unfold held turns
  cases place.isIndirect with
  | false => exact h
  | true =>
    apply Fin.ext
    simp only [if_true, AddressPool.hold, AddressPool.first, h, AddressRegister.turn, Fin.val_add]
    have hone : (1 : Fin 7).val = 1 := rfl
    rw [hone]
    omega

/-- The register for a second operand. -/
theorem first_held_turned (place : Place) (k : Nat) :
    (place.held (.turned k)).first = .turn (k + place.turns) :=
  congrArg AddressRegister.mk (next_held rfl)

/-- With its operand given back, the pool is idle again. -/
theorem freed_held_turned (place : Place) (k : Nat) :
    place.freed (.turn k) (place.held (.turned k)) = .turned (k + place.turns) := by
  have hidle := place.freed_held_idle (AddressRegister.turn k).index
  rw [next_held (k := k) rfl] at hidle
  exact hidle

/-- So it is with two operands, in whatever order they are given back. -/
theorem freed_held_held_turned (first second : Place) (k : Nat) :
    second.freed (.turn (k + first.turns))
        (first.freed (.turn k) (second.held (first.held (.turned k)))) =
      .turned (k + first.turns + second.turns) ∧
    first.freed (.turn k)
        (second.freed (.turn (k + first.turns)) (second.held (first.held (.turned k)))) =
      .turned (k + first.turns + second.turns) := by
  have hidle := freed_held_held_idle first second (AddressRegister.turn k).index
  have hfirst : (first.held (.idle (AddressRegister.turn k).index)).first =
    .turn (k + first.turns) := first_held_turned first k
  rw [hfirst, next_held (next_held (k := k) rfl)] at hidle
  exact hidle

end Place

namespace Action

/-- The places of the operands an action makes ready, in that order. -/
def operands : Action → List Place
  | .apply _ left right => [left.place, right.place]
  | .assign target value => [target.place, value.place]
  | .branchIfZero condition => [condition.place]
  | .read target => [target.place]
  | .write ⟨_, .label _⟩ => []
  | .write value => [value.place]
  | _ => []

/-- How many registers an action takes. -/
def turns (action : Action) : Nat := (action.operands.map Place.turns).sum

/-- What an action in a session does with its operands. -/
def use (s : Session) : Action → List Operand → List Instruction
  | .apply operator _ _, [left, right] =>
    [.lw (.t 1) left, .lw (.t 2) right] ++ operator.code ++ [.sw (.t 0) (.slot s.frame.cursor)]
  | .assign _ _, [target, value] => [.lw (.t 1) value, .sw (.t 1) target]
  | .branchIfZero _, [condition] =>
    [.lw (.t 0) condition, .beqz (.t 0) (generatedName .branchLabel s.environment.drawn)]
  | .read ⟨type, _⟩, [target] =>
    ((readService? type).toList.map .select) ++ [.syscall, .sw .v0 target]
  | .write ⟨type, _⟩, [value] => [.lw .a0 value, .select (printService type), .syscall]
  | _, _ => []

/-- The code of an action with operands, when `k` registers were handed out before:
    the operands are made ready, each with the register whose turn it is, and used. -/
def operandCode (s : Session) (k : Nat) (action : Action) : List Instruction :=
  ((Place.inTurn k action.operands).flatMap fun (place, r) => place.code r) ++
    action.use s ((Place.inTurn k action.operands).map fun (place, r) => place.operand r)

end Action

/-- From a pool that handed out `k` registers, the action gave back what it took,
    and its code for the operands stands behind what was there. -/
structure Action.Rotates (action : Action) (k : Nat) (s t : Session) : Prop where
  pool_eq : t.pool = .turned (k + action.turns)
  code_eq : action.operands ≠ [] → t.code = s.code ++ (action.operandCode s k).map .instruction

namespace Session

variable {s : Session} {k : Nat}

/-! ### Every rule gives back what it took -/

theorem withOperand_eq (h : s.pool = .turned k) (place : Place) :
    s.withOperand place = { s with pool := place.held (.turned k) }.wrote
      ((place.code (.turn k)).map .instruction) := by
  rw [withOperand, h]
  rfl

/-- With the operand of one place ready, that of a second is made ready with the
    register whose turn comes then. -/
theorem withOperand_withOperand_eq (h : s.pool = .turned k) (first second : Place) :
    (s.withOperand first).withOperand second =
      { s with pool := second.held (first.held (.turned k)) }.wrote
        ((first.code (.turn k) ++ second.code (.turn (k + first.turns))).map .instruction) := by
  have hpool : (s.withOperand first).pool = first.held (.turned k) := congrArg first.held h
  rw [withOperand, hpool, first.first_held_turned, withOperand_eq h, List.map_append,
    ← wrote_wrote]
  rfl

/-- One operand is made ready for what comes behind. -/
theorem ensures_operand_bind {record : Record} {role : String} {use : Operand → Step Session α}
    {post : α → Session → Prop} (hpool : s.pool = .turned k)
    (huse : Ensures (s.withOperand record.place) (use (record.place.operand (.turn k))) post) :
    Ensures s (operand record role >>= use) post := by
  have hfree : s.pool.isHeld s.pool.first = false := by
    rw [hpool]
    exact AddressPool.isHeld_idle _ _
  have hfirst : s.pool.first = .turn k := congrArg AddressPool.first hpool
  refine (ensures_operand hfree).bind ?_
  rintro _ _ ⟨rfl, rfl⟩
  rw [hfirst]
  exact huse

/-- Two operands are made ready for what comes behind. -/
theorem ensures_operands_bind {left right : Record} {role : String}
    {use : Operand → Operand → Step Session α} {post : α → Session → Prop}
    (hpool : s.pool = .turned k)
    (huse : Ensures ((s.withOperand left.place).withOperand right.place)
      (use (left.place.operand (.turn k)) (right.place.operand (.turn (k + left.place.turns))))
      post) :
    Ensures s (do
      let lhs ← operand left role
      let rhs ← operand right role
      use lhs rhs) post := by
  have hheld : (s.withOperand left.place).pool = left.place.held (.turned k) :=
    congrArg left.place.held hpool
  have hfirst : (s.withOperand left.place).pool.first = .turn (k + left.place.turns) := by
    rw [hheld, Place.first_held_turned]
  have hfree : (s.withOperand left.place).pool.isHeld (s.withOperand left.place).pool.first =
      false := by
    rw [hheld]
    exact (left.place.first_held_idle _).1
  refine ensures_operand_bind hpool ((ensures_operand hfree).bind ?_)
  rintro _ _ ⟨rfl, rfl⟩
  rw [hfirst]
  exact huse

theorem ensures_apply (hpool : s.pool = .turned k) (operator : Operator) (left right : Record) :
    Ensures s (apply operator left right) fun _ t =>
      Action.Rotates (.apply operator left right) k s t := by
  refine (ensures_requireScalar left _ s).bind ?_
  rintro _ _ rfl
  refine (ensures_requireScalar right _ _).bind ?_
  rintro _ u rfl
  refine (ensures_newTemporary _ u).bind ?_
  rintro _ _ ⟨rfl, grown, rfl⟩
  refine Ensures.after (yields_annotate _ _) ?_
  have hmade : ∀ text, ((u.withTemporary .int grown).remarked text).pool = .turned k :=
    fun _ => hpool
  refine ensures_operands_bind (hmade _) ?_
  refine Ensures.after (yields_emitAll _ _) ?_
  refine Ensures.after (yields_release_operand _ _ _) ?_
  refine Ensures.after (yields_release_operand _ _ _) ?_
  refine Ensures.after (yields_emitAll _ _) ?_
  refine Ensures.after (yields_emit _ _) ?_
  rw [withOperand_withOperand_eq (hmade _)]
  refine Ensures.of_yields (yields_pure _ _) ⟨?_, fun _ => ?_⟩
  · have h := (Place.freed_held_held_turned left.place right.place k).1
    simpa [Action.turns, Action.operands, Nat.add_assoc] using h
  · simp [Action.operandCode, Action.use, Action.operands, Place.inTurn, List.filter_cons]

theorem ensures_assign (hpool : s.pool = .turned k) (target value : Record) :
    Ensures s (assign target value) fun _ t => Action.Rotates (.assign target value) k s t := by
  unfold assign
  split
  · refine ensures_operands_bind hpool ?_
    refine Ensures.after (yields_emitAll _ _) ?_
    refine Ensures.after (yields_release_operand _ _ _) ?_
    rw [withOperand_withOperand_eq hpool]
    refine Ensures.of_yields (yields_release_operand _ _ _) ⟨?_, fun _ => ?_⟩
    · have h := (Place.freed_held_held_turned target.place value.place k).2
      simpa [Action.turns, Action.operands, Nat.add_assoc] using h
    · simp [Action.operandCode, Action.use, Action.operands, Place.inTurn, List.filter_cons]
  · exact Ensures.of_refuses (refuses_fail _ s)

theorem ensures_branchIfZero (hpool : s.pool = .turned k) (condition : Record) :
    Ensures s (branchIfZero condition) fun _ t =>
      Action.Rotates (.branchIfZero condition) k s t := by
  refine Ensures.after (yields_newLabel s) ?_
  refine ensures_operand_bind (show s.drew.pool = _ from hpool) ?_
  refine Ensures.after (yields_emit _ _) ?_
  refine Ensures.after (yields_release_operand _ _ _) ?_
  refine Ensures.after (yields_emit _ _) ?_
  rw [withOperand_eq (show s.drew.pool = _ from hpool)]
  refine Ensures.of_yields (yields_pure _ _) ⟨?_, fun _ => ?_⟩
  · have h := Place.freed_held_turned condition.place k
    simpa [Action.turns, Action.operands] using h
  · simp [Action.operandCode, Action.use, Action.operands, Place.inTurn, List.filter_cons]

theorem ensures_read (hpool : s.pool = .turned k) (target : Record) :
    Ensures s (read target) fun _ t => Action.Rotates (.read target) k s t := by
  unfold Session.read
  split
  · exact Ensures.of_refuses (refuses_fail _ s)
  · next service hservice =>
    refine ensures_operand_bind hpool ?_
    refine Ensures.after (yields_emitAll _ _) ?_
    rw [withOperand_eq hpool]
    refine Ensures.of_yields (yields_release_operand _ _ _) ⟨?_, fun _ => ?_⟩
    · have h := Place.freed_held_turned target.place k
      simpa [Action.turns, Action.operands] using h
    · simp [Action.operandCode, Action.use, Action.operands, Place.inTurn, hservice]

theorem ensures_write (hpool : s.pool = .turned k) (value : Record) :
    Ensures s (write value) fun _ t => Action.Rotates (.write value) k s t := by
  unfold Session.write
  rcases value with ⟨type, place⟩
  split
  · next name hplace =>
    dsimp only at hplace
    subst hplace
    refine Ensures.of_yields (yields_emitAll _ s) ⟨?_, ?_⟩
    · simpa [Action.turns, Action.operands] using hpool
    · simp [Action.operands]
  · next hlabel =>
    have hoperands : (Action.write ⟨type, place⟩).operands = [place] := by
      cases place with
      | label name => exact absurd rfl (hlabel name)
      | _ => rfl
    refine ensures_operand_bind hpool ?_
    refine Ensures.after (yields_emit _ _) ?_
    refine Ensures.after (yields_release_operand _ _ _) ?_
    rw [withOperand_eq hpool]
    refine Ensures.of_yields (yields_emitAll _ _) ⟨?_, fun _ => ?_⟩
    · have h := Place.freed_held_turned place k
      simpa [Action.turns, hoperands] using h
    · simp [Action.operandCode, Action.use, hoperands, Place.inTurn, List.filter_cons]

end Session

theorem Action.ensures_of_keepsPool {action : Action} {s : Session} {k : Nat}
    (hpool : s.pool = .turned k) (hoperands : action.operands = []) (h : KeepsPool action.rule) :
    Ensures s action.rule fun _ t => action.Rotates k s t := by
  intro journal reply t hok
  have hkept := h hok
  constructor
  · rw [hkept, hpool, turns, hoperands]
    rfl
  · exact fun hne => absurd hoperands hne

/-- Whatever the action is, registers take turns. -/
theorem Action.ensures_rule {s : Session} {k : Nat} (hpool : s.pool = .turned k)
    (action : Action) : Ensures s action.rule fun _ t => action.Rotates k s t := by
  cases action with
  | apply operator left right => exact (ensures_apply hpool operator left right).then_pure _
  | assign target value => exact (ensures_assign hpool target value).then_pure _
  | branchIfZero condition => exact (ensures_branchIfZero hpool condition).then_pure _
  | read target => exact (ensures_read hpool target).then_pure _
  | write value => exact (ensures_write hpool value).then_pure _
  | enterScope =>
    apply ensures_of_keepsPool hpool rfl
    exact (keepsPool_inEnvironment _).bind fun _ => keepsPool_pure _
  | leaveScope =>
    apply ensures_of_keepsPool hpool rfl
    exact (keepsPool_inEnvironment _).bind fun _ => keepsPool_pure _
  | declare typeName spec =>
    apply ensures_of_keepsPool hpool rfl
    exact (keepsPool_declare typeName spec).bind fun _ => keepsPool_pure _
  | resolve spec =>
    apply ensures_of_keepsPool hpool rfl
    exact (keepsPool_resolve spec).bind fun _ => keepsPool_pure _
  | intLiteral value =>
    apply ensures_of_keepsPool hpool rfl
    exact (keepsPool_scalarLiteral _ _).bind fun _ => keepsPool_pure _
  | charLiteral value =>
    apply ensures_of_keepsPool hpool rfl
    exact (keepsPool_scalarLiteral _ _).bind fun _ => keepsPool_pure _
  | stringLiteral text =>
    apply ensures_of_keepsPool hpool rfl
    exact (keepsPool_stringLiteral text).bind fun _ => keepsPool_pure _
  | branchThenLabel pending =>
    apply ensures_of_keepsPool hpool rfl
    have hrule : KeepsPool (Session.branchThenLabel pending) :=
      (keepsPool_inEnvironment _).bind fun _ => (keepsPool_inListing _).bind fun _ =>
        (keepsPool_inListing _).bind fun _ => keepsPool_pure _
    exact hrule.bind fun _ => keepsPool_pure _
  | branchAndLabel target label =>
    apply ensures_of_keepsPool hpool rfl
    have hrule : KeepsPool (Session.branchAndLabel target label) :=
      (keepsPool_inListing _).bind fun _ => keepsPool_inListing _
    exact hrule.bind fun _ => keepsPool_pure _
  | defineLabel name =>
    apply ensures_of_keepsPool hpool rfl
    have hlabel : KeepsPool (name.elim newLabel pure) := by
      cases name with
      | none => exact keepsPool_inEnvironment Environment.newBranchLabel
      | some given => exact keepsPool_pure given
    have hrule : KeepsPool (Session.defineLabel name) :=
      hlabel.bind fun _ => (keepsPool_inListing _).bind fun _ => keepsPool_pure _
    exact hrule.bind fun _ => keepsPool_pure _
  | newline =>
    apply ensures_of_keepsPool hpool rfl
    exact (keepsPool_emitAll _).bind fun _ => keepsPool_pure _

/-! ### Runs -/

/-- In a run without a fault, every register an action takes was handed out once. -/
theorem Action.pool_run {s : Journaled Session} {k : Nat} (hpool : s.state.pool = .turned k)
    {actions : List Action} (hlive : (run actions s).2.state.firstFault = none) :
    (run actions s).2.state.pool = .turned (k + (actions.map turns).sum) := by
  induction actions generalizing s k with
  | nil => exact hpool
  | cons action rest ih =>
    have hrest : (run rest (action.perform s).2).2.state.firstFault = none := hlive
    have hafter : (action.perform s).2.state.firstFault = none := live_of_run hrest
    obtain ⟨reply, hyields⟩ := yields_of_live hafter
    have hrotates := (action.ensures_rule hpool).of_outcome hyields
    rw [List.map_cons, List.sum_cons, ← Nat.add_assoc]
    exact ih hrotates.pool_eq hrest

/-- Between actions no address register is held. -/
theorem Reachable.pool_idle {s : Journaled Session} (h : Reachable s)
    (hlive : s.state.firstFault = none) : ∃ next, s.state.pool = .idle next := by
  obtain ⟨options, level, actions, rfl⟩ := h
  have hstart : (Session.start options).pool = .turned 0 := rfl
  exact ⟨_, Action.pool_run hstart hlive⟩

end OnePass
