/-
  OnePass/Proofs/Rotation.lean
  ============================
  **Rotation of the address registers** — over any run, the operand that is the
  `k`-th to need a register gets the one numbered `k` modulo seven.

  `Registers` has this for one action that succeeds.  An action that fails
  hands out nothing and leaves the pool as it was, so a pool is idle between
  any two actions, has a register for every operand, and has handed out just
  what the actions before took.
-/
import OnePass.Proofs.Failure

namespace OnePass

open Asm Step Session

/-! ### The registers of one action -/

theorem Asm.AddressRegister.name_turn (k : Nat) :
    (turn k).register.name = "$t" ++ toString (3 + k % 7) := by
  rw [Nat.add_comm]
  rfl

/-- Seven registers in a row are different ones. -/
theorem Asm.AddressRegister.turn_inj {k i j : Nat} (hi : i < 7) (hj : j < 7)
    (h : turn (k + i) = turn (k + j)) : i = j := by
  simp only [turn, AddressRegister.mk.injEq, Fin.mk.injEq] at h
  omega

theorem Place.turns_le (place : Place) : place.turns ≤ 1 := by
  unfold turns
  split <;> decide

/-- The registers that places need are handed out one after the other. -/
theorem Place.registers_inTurn (places : List Place) (k : Nat) :
    ((inTurn k places).filter fun (place, _) => place.isIndirect).map (·.2) =
      (List.range (places.map turns).sum).map fun i => .turn (k + i) := by
  induction places generalizing k with
  | nil => rfl
  | cons place rest ih =>
    have hrest := ih (k + place.turns)
    cases hplace : place.isIndirect with
    | false =>
      have hturns : place.turns = 0 := by simp [turns, hplace]
      simpa [inTurn, hplace, hturns] using hrest
    | true =>
      have hturns : place.turns = 1 := by simp [turns, hplace]
      simp only [hturns] at hrest
      simp only [inTurn, hplace, hturns, List.filter_cons_of_pos, List.map_cons, hrest,
        List.sum_cons, Nat.add_comm 1, List.range_succ_eq_map, List.map_map]
      congr 1
      apply List.map_congr_left
      intro i _
      simp only [Function.comp_apply, Nat.succ_eq_add_one, Nat.add_assoc, Nat.add_comm 1]

namespace Action

/-- The registers an action takes when `k` were handed out before. -/
def registers (k : Nat) (action : Action) : List AddressRegister :=
  ((Place.inTurn k action.operands).filter fun (place, _) => place.isIndirect).map (·.2)

theorem registers_eq (k : Nat) (action : Action) :
    action.registers k = (List.range action.turns).map fun i => .turn (k + i) :=
  Place.registers_inTurn action.operands k

theorem length_operands_le (action : Action) : action.operands.length ≤ 2 := by
  unfold operands
  split <;> simp

theorem turns_le (action : Action) : action.turns ≤ 2 := by
  have hsum := List.sum_le_card_nsmul (action.operands.map Place.turns) 1 (by
    simp only [List.mem_map]
    rintro _ ⟨place, -, rfl⟩
    exact place.turns_le)
  have hlength := action.length_operands_le
  simp only [List.length_map, smul_eq_mul, Nat.mul_one] at hsum
  exact hsum.trans hlength

/-- The two operands of an action do not share a register. -/
theorem nodup_registers (k : Nat) (action : Action) : (action.registers k).Nodup := by
  rw [registers_eq]
  have hle := action.turns_le
  refine List.Nodup.map_on ?_ List.nodup_range
  intro i hi j hj h
  rw [List.mem_range] at hi hj
  exact AddressRegister.turn_inj (by omega) (by omega) h

theorem names_registers (k : Nat) (action : Action) :
    (action.registers k).map (fun r => r.register.name) =
      (List.range action.turns).map fun i => "$t" ++ toString (3 + (k + i) % 7) := by
  simp only [registers_eq, List.map_map, Function.comp_def, AddressRegister.name_turn]

end Action

/-! ### Runs -/

theorem AddressPool.inUse_idle (next : Fin 7) : (idle next).inUse = 0 := by
  simp only [inUse, idle, Vector.count_replicate]
  rfl

/-- Between actions of a run no register is held, behind a failure neither. -/
theorem Reachable.idle_run {s : Journaled Session} (hs : Reachable s)
    (hlive : s.state.firstFault = none) {actions : List Action}
    (hactions : ∀ action ∈ actions, action.Coherent) :
    ∃ next, (Action.run actions s).2.state.pool = .idle next := by
  induction actions generalizing s with
  | nil => exact hs.pool_idle hlive
  | cons action rest ih =>
    cases hanswer : (action.perform s).1 with
    | ok reply =>
      have hrest := fun a ha => hactions a (List.mem_cons_of_mem _ ha)
      exact ih (hs.perform action) (Action.live_of_ok hanswer).2 hrest
    | error cause =>
      have haction := hactions action List.mem_cons_self
      obtain ⟨t, hstops, ht⟩ := Action.stops_of_perform hs hlive haction hanswer
      have hkept : (action.perform s).2.state.firstFault ≠ none := by
        rw [ht]
        nofun
      have hstill : (Action.run (action :: rest) s).2 = (action.perform s).2 := by
        simp only [Action.run, Action.run_of_aborted hkept]
      obtain ⟨next, hidle⟩ := hs.pool_idle hlive
      refine ⟨next, ?_⟩
      rw [hstill, ht]
      exact hstops.pool_eq.trans hidle

/-- **Address registers are never leaked, shared or used up, and rotate.**  After
    any run no register is held; the next action does not lack one; those it
    takes for its operands are different, and are numbered on from those the run
    has taken, modulo seven; and its code uses just these. -/
theorem registers_in_turn (options : Options) (level : Option Severity) {actions : List Action}
    (hactions : ∀ action ∈ actions, action.Coherent) {action : Action}
    (haction : action.Coherent) :
    let s := (Action.run actions { state := Session.start options, journal := { level } }).2
    let k := (actions.map Action.turns).sum
    s.state.pool.inUse = 0 ∧ (action.perform s).1 ≠ .error .registersExhausted ∧
      (action.registers k).Nodup ∧
      (action.registers k).map (fun r => r.register.name) =
        (List.range action.turns).map (fun i => "$t" ++ toString (3 + (k + i) % 7)) ∧
      ∀ reply t, action.perform s = (.ok reply, t) → action.operands ≠ [] →
        t.state.code = s.state.code ++ (action.operandCode s.state k).map .instruction := by
  intro s k
  have hstart : Reachable { state := Session.start options, journal := { level } } :=
    ⟨options, level, [], rfl⟩
  have hs : Reachable s := hstart.run actions
  refine ⟨?_, ?_, action.nodup_registers k, action.names_registers k, ?_⟩
  · obtain ⟨next, hidle⟩ := hstart.idle_run rfl hactions
    rw [hidle]
    exact AddressPool.inUse_idle next
  · intro hfail
    by_cases hlive : s.state.firstFault = none
    · obtain ⟨t, hstops, -⟩ := Action.stops_of_perform hs hlive haction hfail
      exact hstops.ne_registersExhausted rfl
    · rw [Action.perform_of_aborted hlive] at hfail
      cases hfail
  · intro reply t hok hoperands
    have hanswer : (action.perform s).1 = .ok reply := congrArg Prod.fst hok
    have hpool : s.state.pool = .turned (0 + k) :=
      Action.pool_run (show (Session.start options).pool = .turned 0 from rfl)
        (Action.live_of_ok hanswer).1
    rw [Nat.zero_add] at hpool
    obtain ⟨-, hyields, -⟩ := Action.changes_of_answer hanswer
    rw [hok] at hyields
    exact ((action.ensures_rule hpool).of_outcome hyields).code_eq hoperands

-- Two elements are added, and then one is assigned to the other.
theorem registers_in_turn_of_elements :
    let first : Record := ⟨.int, .indirect (-24)⟩
    let second : Record := ⟨.int, .indirect (-28)⟩
    let actions := [.enterScope, .declare "int" "a[4]", .declare "int" "i", .declare "int" "j",
      .resolve "a[i]", .resolve "a[j]", .apply .add first second]
    let s := (Action.run actions { state := Session.start {} }).2
    let t := ((Action.assign first second).perform s).2
    (∀ action ∈ actions, action.Coherent) ∧ s.state.pool.inUse = 0 ∧
      ((Action.assign first second).registers 2).map (fun r => r.register.name) = ["$t5", "$t6"] ∧
      t.state.code = s.state.code ++ (addressCode (-24) ⟨2⟩ ++ addressCode (-28) ⟨3⟩ ++
        [Instruction.lw (.t 1) (.through ⟨3⟩), .sw (.t 1) (.through ⟨2⟩)]).map .instruction := by
  intro first second actions s t
  have hcoherent : ∀ action ∈ actions, action.Coherent := by decide
  have haction : (Action.assign first second).Coherent := by decide
  have htaken : (actions.map Action.turns).sum = 2 := by decide
  have hanswer : ((Action.assign first second).perform s).1 = .ok .done := by decide +kernel
  -- from here on it does not matter which actions they are
  clear_value actions
  obtain ⟨hidle, -, -, hnames, hcode⟩ := registers_in_turn {} none hcoherent haction
  rw [htaken] at hnames hcode
  refine ⟨hcoherent, hidle, hnames.trans (by decide +kernel), ?_⟩
  exact hcode .done t (Prod.ext hanswer rfl) nofun

end OnePass
