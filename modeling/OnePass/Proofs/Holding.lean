/-
  OnePass/Proofs/Holding.lean
  ===========================
  **Holding address registers** — a pool whose callers do as they like.

  Registers are acquired and given back in any order, and a register may be given
  back again when somebody else holds it by now.  A ledger keeps what was handed
  out and what was given back.  The search for a free register always starts
  behind the last one handed out; and as long as nothing is given back twice, the
  registers in use are just those the ledger says are held, each held once.
-/
import OnePass.AddressPool
import Mathlib.Data.List.Nodup

namespace OnePass

open Asm Step

namespace AddressPool

/-! ### Marks -/

theorem toList_held (pool : AddressPool) :
    pool.held.toList = (List.finRange 7).map fun i => pool.isHeld ⟨i⟩ := by
  apply List.ext_getElem
  · simp
  · intro i hi hi'
    simp [isHeld]

theorem inUse_eq_length (pool : AddressPool) :
    pool.inUse = ((List.finRange 7).filter fun i => pool.isHeld ⟨i⟩).length := by
  rw [inUse, ← Vector.count_toList, toList_held, List.count, List.countP_map,
    List.countP_eq_length_filter]
  simp [Function.comp_def]

theorem isHeld_hold (pool : AddressPool) (r q : AddressRegister) :
    (pool.hold r).isHeld q = true ↔ q = r ∨ pool.isHeld q = true := by
  rcases r with ⟨i⟩
  rcases q with ⟨j⟩
  simp only [isHeld, hold, Fin.getElem_fin, Vector.getElem_set, AddressRegister.mk.injEq]
  split
  · next h => simp [Fin.ext h.symm]
  · next h => simp [Fin.ext_iff, Ne.symm h]

theorem isHeld_free (pool : AddressPool) (r q : AddressRegister) :
    (pool.free r).isHeld q = true ↔ q ≠ r ∧ pool.isHeld q = true := by
  rcases r with ⟨i⟩
  rcases q with ⟨j⟩
  simp only [isHeld, free, Fin.getElem_fin, Vector.getElem_set, ne_eq, AddressRegister.mk.injEq]
  split
  · next h => simp [Fin.ext h.symm]
  · next h => simp [Fin.ext_iff, Ne.symm h]

/-! ### One call -/

/-- The register handed out is the first free one, from the start of the search on. -/
theorem acquire?_eq_some {pool rest : AddressPool} {r : AddressRegister}
    (h : pool.acquire? = some (r, rest)) :
    rest = pool.hold r ∧ pool.isHeld r = false ∧
      ∃ d : Fin 7, r = ⟨pool.next + d⟩ ∧ ∀ e < d, pool.isHeld ⟨pool.next + e⟩ = true := by
  simp only [acquire?, Option.map_eq_some_iff, Prod.mk.injEq] at h
  obtain ⟨found, hfind, rfl, rfl⟩ := h
  obtain ⟨hfree, d, hd, heq, hbefore⟩ := List.find?_eq_some_iff_getElem.mp hfind
  have hlt : d < 7 := by simpa [candidates] using hd
  refine ⟨rfl, by simpa using hfree, ⟨d, hlt⟩, ?_, ?_⟩
  · rw [← heq]
    simp [candidates]
  · intro e he
    have hheld := hbefore e he
    simpa [candidates] using hheld

theorem perform_acquire_of_some {s : Journaled AddressPool} {r : AddressRegister}
    {rest : AddressPool} (h : s.state.acquire? = some (r, rest)) :
    acquire.perform s = (.ok r, { s with state := rest }) := by
  simp only [acquire, Step.perform, bind_apply, current_apply, h, replace_apply, pure_apply]

theorem perform_acquire_of_none {s : Journaled AddressPool} (h : s.state.acquire? = none) :
    acquire.perform s = (.error .registersExhausted, s) := by
  simp only [acquire, Step.perform, bind_apply, current_apply, h, fail_apply]

/-- Nothing but a pool without a free register makes an acquisition fail. -/
theorem perform_acquire_eq_error_iff {s : Journaled AddressPool} {cause : Fault} :
    (acquire.perform s).1 = .error cause ↔
      cause = .registersExhausted ∧ ∀ r, s.state.isHeld r = true := by
  rw [← acquire?_eq_none_iff]
  cases hacquire : s.state.acquire? with
  | none => simp [perform_acquire_of_none hacquire, eq_comm]
  | some taken => simp [perform_acquire_of_some hacquire]

theorem perform_acquire_eq_ok {s : Journaled AddressPool} {r : AddressRegister}
    (h : (acquire.perform s).1 = .ok r) :
    s.state.acquire? = some (r, (acquire.perform s).2.state) := by
  cases hacquire : s.state.acquire? with
  | none =>
    rw [perform_acquire_of_none hacquire] at h
    cases h
  | some taken =>
    rw [perform_acquire_of_some hacquire] at h ⊢
    cases h
    rfl

theorem perform_release (r : AddressRegister) (s : Journaled AddressPool) :
    (release r).perform s = (.ok (), { s with state := s.state.free r }) :=
  rfl

/-! ### Callers -/

/-- A call to a pool.  What is given back is the register of an acquisition;
    acquisitions are counted from 0. -/
inductive Call where
  | acquire
  | release (acquisition : Nat)
  deriving DecidableEq

/-- A pool, with what it has handed out and what was given back. -/
structure Ledger where
  pool : Journaled AddressPool := { state := {} }
  /-- The registers handed out so far, each at the place of its acquisition. -/
  acquired : List AddressRegister := []
  /-- The acquisitions that were given back, in order. -/
  returned : List Nat := []

namespace Ledger

/-- The ledger after a call.  Only what was acquired can be given back. -/
def perform (ledger : Ledger) : Call → Ledger
  | .acquire =>
    match AddressPool.acquire.perform ledger.pool with
    | (.ok r, pool) => { ledger with pool, acquired := ledger.acquired ++ [r] }
    | (.error _, pool) => { ledger with pool }
  | .release acquisition =>
    match ledger.acquired[acquisition]? with
    | some r =>
      { ledger with
        pool := ((AddressPool.release r).perform ledger.pool).2
        returned := ledger.returned ++ [acquisition] }
    | none => ledger

def run (calls : List Call) (ledger : Ledger) : Ledger := calls.foldl perform ledger

/-- The registers of the acquisitions that were not given back. -/
def held (ledger : Ledger) : List AddressRegister :=
  (ledger.acquired.zipIdx.filter fun (_, acquisition) => acquisition ∉ ledger.returned).map (·.1)

/-- Where the search for a free register starts: behind the last one handed out. -/
def start (ledger : Ledger) : Fin 7 :=
  match ledger.acquired.getLast? with
  | some r => r.index + 1
  | none => 0

/-- The registers in use are those the ledger says are held, each held once. -/
structure Settled (ledger : Ledger) : Prop where
  nodup : ledger.held.Nodup
  mem_held_iff : ∀ r, r ∈ ledger.held ↔ ledger.pool.state.isHeld r = true

/-- What is true of a ledger whatever was called. -/
structure Kept (ledger : Ledger) : Prop where
  next_eq : ledger.pool.state.next = ledger.start
  returned_lt : ∀ acquisition ∈ ledger.returned, acquisition < ledger.acquired.length
  settled : ledger.returned.Nodup → ledger.Settled

variable {ledger : Ledger}

theorem perform_acquire {r : AddressRegister} {rest : AddressPool}
    (h : ledger.pool.state.acquire? = some (r, rest)) :
    ledger.perform .acquire =
      { ledger with
        pool := { ledger.pool with state := rest }, acquired := ledger.acquired ++ [r] } := by
  simp only [perform, perform_acquire_of_some h]

theorem perform_acquire_of_exhausted (h : ledger.pool.state.acquire? = none) :
    ledger.perform .acquire = ledger := by
  simp only [perform, perform_acquire_of_none h]

theorem perform_release {acquisition : Nat} {r : AddressRegister}
    (h : ledger.acquired[acquisition]? = some r) :
    ledger.perform (.release acquisition) =
      { ledger with
        pool := { ledger.pool with state := ledger.pool.state.free r }
        returned := ledger.returned ++ [acquisition] } := by
  simp only [perform, h, AddressPool.perform_release]

/-! ### What calls keep -/

/-- A new acquisition is held, and those held before still are. -/
theorem held_acquire (h : ledger.Kept) (pool : Journaled AddressPool) (r : AddressRegister) :
    held { ledger with pool, acquired := ledger.acquired ++ [r] } = ledger.held ++ [r] := by
  have hnew : ledger.acquired.length ∉ ledger.returned := fun hmem =>
    Nat.lt_irrefl _ (h.returned_lt _ hmem)
  simp [held, List.zipIdx_append, hnew]

theorem Settled.acquire (h : ledger.Kept) (hsettled : ledger.Settled) {r : AddressRegister}
    {pool : Journaled AddressPool} (hpool : pool.state = ledger.pool.state.hold r)
    (hfree : ledger.pool.state.isHeld r = false) :
    Settled { ledger with pool, acquired := ledger.acquired ++ [r] } := by
  have hnew : r ∉ ledger.held := by
    rw [hsettled.mem_held_iff, hfree]
    nofun
  constructor
  · rw [held_acquire h]
    simpa using hsettled.nodup.concat hnew
  · intro q
    rw [held_acquire h, hpool, isHeld_hold, ← hsettled.mem_held_iff, List.mem_append,
      List.mem_singleton, or_comm]

/-- The first return of an acquisition takes away its register and no other. -/
theorem Settled.release (hsettled : ledger.Settled) {acquisition : Nat} {r : AddressRegister}
    (hr : ledger.acquired[acquisition]? = some r) (hfirst : acquisition ∉ ledger.returned)
    {pool : Journaled AddressPool} (hpool : pool.state = ledger.pool.state.free r) :
    Settled { ledger with pool, returned := ledger.returned ++ [acquisition] } := by
  -- the acquisitions that are left, with their registers
  have hleft : (ledger.acquired.zipIdx.filter fun (_, k) => k ∉ ledger.returned ++ [acquisition]) =
      (ledger.acquired.zipIdx.filter fun (_, k) => k ∉ ledger.returned).filter
        fun (_, k) => k ≠ acquisition := by
    rw [List.filter_filter]
    apply List.filter_congr
    intro pair _
    simp [and_comm]
  have hmem : (r, acquisition) ∈
      ledger.acquired.zipIdx.filter fun (_, k) => k ∉ ledger.returned := by
    simpa [List.mem_zipIdx_iff_getElem?, hfirst] using hr
  constructor
  · rw [held, hleft]
    exact hsettled.nodup.sublist (List.filter_sublist.map _)
  · intro q
    rw [hpool, isHeld_free, ← hsettled.mem_held_iff]
    simp only [held, hleft, List.mem_map]
    constructor
    · rintro ⟨⟨_, k⟩, hpair, rfl⟩
      obtain ⟨hpair, hk⟩ := List.mem_filter.mp hpair
      refine ⟨?_, ⟨_, hpair, rfl⟩⟩
      rintro rfl
      have heq := List.inj_on_of_nodup_map hsettled.nodup hpair hmem rfl
      simp [(Prod.mk.inj heq).2] at hk
    · rintro ⟨hne, ⟨_, k⟩, hpair, rfl⟩
      refine ⟨_, List.mem_filter.mpr ⟨hpair, ?_⟩, rfl⟩
      have hother : k ≠ acquisition := by
        rintro rfl
        have hk := (List.mem_filter.mp hpair).1
        rw [List.mem_zipIdx_iff_getElem?, hr] at hk
        exact hne (Option.some.inj hk).symm
      simpa using hother

theorem Kept.acquire (h : ledger.Kept) : (ledger.perform .acquire).Kept := by
  cases hacquire : ledger.pool.state.acquire? with
  | none =>
    rw [perform_acquire_of_exhausted hacquire]
    exact h
  | some taken =>
    obtain ⟨r, rest⟩ := taken
    obtain ⟨rfl, hfree, -⟩ := acquire?_eq_some hacquire
    rw [perform_acquire hacquire]
    constructor
    · simp [start, hold]
    · intro acquisition hreturned
      have hlt := h.returned_lt acquisition hreturned
      simp only [List.length_append]
      omega
    · intro honce
      exact (h.settled honce).acquire h rfl hfree

theorem Kept.release (h : ledger.Kept) (acquisition : Nat) :
    (ledger.perform (.release acquisition)).Kept := by
  cases hr : ledger.acquired[acquisition]? with
  | none =>
    simp only [perform, hr]
    exact h
  | some r =>
    rw [perform_release hr]
    constructor
    · exact h.next_eq
    · intro k hk
      rcases List.mem_append.mp hk with hold | hnew
      · exact h.returned_lt k hold
      · rw [List.mem_singleton.mp hnew]
        exact (List.getElem?_eq_some_iff.mp hr).1
    · intro honce
      obtain ⟨honce, -, hdisjoint⟩ := List.nodup_append.mp honce
      have hfirst : acquisition ∉ ledger.returned := fun hmem =>
        hdisjoint acquisition hmem acquisition (List.mem_singleton_self _) rfl
      exact (h.settled honce).release hr hfirst rfl

theorem Kept.run (h : ledger.Kept) (calls : List Call) : (run calls ledger).Kept := by
  induction calls generalizing ledger with
  | nil => exact h
  | cons call rest ih =>
    cases call with
    | acquire => exact ih h.acquire
    | release acquisition => exact ih (h.release acquisition)

theorem kept_new : Kept {} where
  next_eq := rfl
  returned_lt := nofun
  settled _ := ⟨List.nodup_nil, fun r => by simp [held, isHeld]⟩

/-- Held registers that differ are as many as there are marks. -/
theorem Settled.length_held (h : ledger.Settled) :
    ledger.held.length = ledger.pool.state.inUse := by
  have hmarked : ((List.finRange 7).filter fun i => ledger.pool.state.isHeld ⟨i⟩).Nodup :=
    (List.nodup_finRange 7).filter _
  have hindices : (ledger.held.map AddressRegister.index).Nodup :=
    h.nodup.map fun r q hrq => by
      cases r
      cases q
      exact congrArg AddressRegister.mk hrq
  have hperm := (List.perm_ext_iff_of_nodup hindices hmarked).mpr fun i => by
    rw [List.mem_filter, ← h.mem_held_iff, List.mem_map]
    constructor
    · rintro ⟨r, hr, rfl⟩
      exact ⟨List.mem_finRange _, hr⟩
    · rintro ⟨-, hi⟩
      exact ⟨⟨i⟩, hi, rfl⟩
  rw [inUse_eq_length, ← hperm.length_eq, List.length_map]

end Ledger

/-- **A pool hands out free registers only, and in turn.**  Whatever was called
    before, an acquisition fails just if all seven registers are marked, and then
    nothing happens; otherwise it answers the first register that is not marked,
    from the one behind the last that was handed out, and marks it and no other.
    As long as nothing was given back twice, the registers held differ and are as
    many as there are marks.  Once a register was given back, it is free, and the
    next acquisition succeeds. -/
theorem registers_lent_in_turn (calls : List Call) :
    let ledger := Ledger.run calls {}
    let pool := ledger.pool.state
    let answer := (acquire.perform ledger.pool).1
    let rest := (acquire.perform ledger.pool).2
    (answer = .error .registersExhausted ↔ ∀ r, pool.isHeld r = true) ∧
      (∀ cause, answer = .error cause → cause = .registersExhausted ∧ rest = ledger.pool) ∧
      (∀ r, answer = .ok r →
        (∃ d : Fin 7, r = ⟨ledger.start + d⟩ ∧ pool.isHeld r = false ∧
          ∀ e < d, pool.isHeld ⟨ledger.start + e⟩ = true) ∧
        ∀ q, rest.state.isHeld q = true ↔ q = r ∨ pool.isHeld q = true) ∧
      (pool.inUse = ((List.finRange 7).filter fun i => pool.isHeld ⟨i⟩).length ∧
        pool.inUse ≤ 7) ∧
      (ledger.returned.Nodup →
        ledger.held.Nodup ∧ ledger.held.length = pool.inUse ∧
          ∀ r, r ∈ ledger.held ↔ pool.isHeld r = true) ∧
      ∀ acquisition r, ledger.acquired[acquisition]? = some r →
        let after := (ledger.perform (.release acquisition)).pool
        (∀ q, after.state.isHeld q = true ↔ q ≠ r ∧ pool.isHeld q = true) ∧
          ∃ q, (acquire.perform after).1 = .ok q := by
  intro ledger pool answer rest
  have hkept : ledger.Kept := Ledger.kept_new.run calls
  refine ⟨?_, ?_, ?_, ⟨pool.inUse_eq_length, Vector.count_le_size⟩, ?_, ?_⟩
  · rw [perform_acquire_eq_error_iff, and_iff_right rfl]
  · intro cause hfails
    obtain ⟨hcause, hall⟩ := perform_acquire_eq_error_iff.mp hfails
    exact ⟨hcause, congrArg Prod.snd (perform_acquire_of_none (acquire?_eq_none_iff.mpr hall))⟩
  · intro r hanswer
    obtain ⟨hrest, hfree, d, hd, hbefore⟩ := acquire?_eq_some (perform_acquire_eq_ok hanswer)
    rw [hkept.next_eq] at hd hbefore
    refine ⟨⟨d, hd, hfree, hbefore⟩, fun q => ?_⟩
    rw [show rest.state = pool.hold r from hrest, isHeld_hold]
  · intro honce
    have hsettled := hkept.settled honce
    exact ⟨hsettled.nodup, hsettled.length_held, hsettled.mem_held_iff⟩
  · intro acquisition r hr after
    have hafter : after.state = pool.free r := by
      unfold after
      rw [Ledger.perform_release hr]
    refine ⟨fun q => by rw [hafter, isHeld_free], ?_⟩
    cases hnext : (acquire.perform after).1 with
    | ok q => exact ⟨q, rfl⟩
    | error cause =>
      have hheld := (perform_acquire_eq_error_iff.mp hnext).2 r
      rw [hafter, isHeld_free] at hheld
      exact absurd rfl hheld.1

-- The first register is given back again when it is held by somebody else, and
-- is then held twice.
example :
    let calls : List Call := [.acquire, .release 0] ++ List.replicate 7 .acquire
    (Ledger.run calls {}).held = [1, 2, 3, 4, 5, 6, 0].map AddressRegister.mk ∧
      (Ledger.run (calls ++ [.release 0, .acquire]) {}).held =
        [1, 2, 3, 4, 5, 6, 0, 0].map AddressRegister.mk := by
  decide +kernel

end AddressPool

end OnePass
