/-
  OnePass/Proofs/Elements.lean
  ============================
  **Elements of arrays** — a subscript means the same as a number and as a name.

  For a literal subscript the offset of the element is computed while the program
  is read, for a named one by code that puts it into a slot, and later code adds
  the stack pointer.  Both go by the same arithmetic, since offsets are checked to
  fit a word and the machine's sums wrap around.
-/
import OnePass.Proofs.References
import OnePass.Proofs.Rotation

namespace OnePass

open Asm Step Session

/-! ### Code that computes an offset -/

/-- The offset of an element whose index is read as a word. -/
theorem ofInt_sub_four_mul (base index : Int) :
    BitVec.ofInt 32 (base - 4 * (BitVec.ofInt 32 index).toInt) =
      BitVec.ofInt 32 (base - 4 * index) := by
  have hfour : base - 4 * index = base + -(index + index + (index + index)) := by omega
  rw [← ofInt_sub_double_double, hfour, BitVec.ofInt_add, BitVec.ofInt_neg, BitVec.ofInt_add,
    BitVec.ofInt_add, BitVec.sub_eq_add_neg]

/-- Remarks are skipped when the lines of a body are run. -/
theorem Session.body_remarked (s : Session) (text : String) :
    ∃ remarks, (s.remarked text).body = s.body ++ remarks ∧
      ∀ lines m, run (remarks ++ lines) m = run lines m := by
  cases hannotated : s.listing.annotated with
  | true =>
    rw [remarked_of_annotated hannotated]
    exact ⟨[.remark text], body_wrote s _, fun _ _ => rfl⟩
  | false =>
    rw [remarked_of_plain hannotated]
    exact ⟨[], (List.append_nil _).symm, fun _ _ => rfl⟩

/-! ### Code that computes addresses -/

/-- Wherever the slot holds the offset, the code puts the address of the word at
    the offset into the register, and leaves the memory alone. -/
def Addresses (code : List Instruction) (slot offset : Int) (r : AddressRegister) : Prop :=
  ∀ m : Machine, m.cell slot = BitVec.ofInt 32 offset →
    ∃ n, runCode code m = some n ∧ n.mem = m.mem ∧ n.reg .sp = m.reg .sp ∧
      n.reg r.register = m.reg .sp + BitVec.ofInt 32 offset

/-- The code for a place with its register touches no other address register. -/
theorem Place.run_code_any (place : Place) (r : AddressRegister) (m : Machine) :
    ∃ n, runCode (place.code r) m = some n ∧ m.Alike n ∧
      (∀ slot, place = .indirect slot → n.reg r.register = m.reg .sp + m.cell slot) ∧
      ∀ q, (place.isIndirect = true → q ≠ r) → n.reg q.register = m.reg q.register := by
  cases place with
  | indirect slot =>
    have hlocate : Place.locate? m (.indirect slot) = some (m.reg .sp + m.cell slot) := rfl
    obtain ⟨n, hrun, halike, haddress, hkept⟩ := Place.run_code hlocate r
    refine ⟨n, hrun, halike, ?_, fun q hq => hkept q (hq rfl)⟩
    rintro _ ⟨⟩
    exact haddress
  | _ => exact ⟨m, rfl, .refl m, nofun, fun _ _ => rfl⟩

/-- The registers that are taken when places are made ready with them. -/
def Place.taken (places : List (Place × AddressRegister)) : List AddressRegister :=
  (places.filter fun (place, _) => place.isIndirect).map (·.2)

theorem Place.taken_cons (place : Place) (r : AddressRegister)
    (rest : List (Place × AddressRegister)) :
    taken ((place, r) :: rest) = (if place.isIndirect then [r] else []) ++ taken rest := by
  simp only [taken, List.filter_cons]
  cases place.isIndirect <;> rfl

/-- Places are made ready one after the other.  If no register is taken twice,
    each holds its address when all are ready. -/
theorem Place.run_codes {places : List (Place × AddressRegister)} (hnodup : (taken places).Nodup)
    (m : Machine) :
    ∃ n, runCode (places.flatMap fun (place, r) => place.code r) m = some n ∧ m.Alike n ∧
      (∀ slot r, (.indirect slot, r) ∈ places →
        n.reg r.register = m.reg .sp + m.cell slot) ∧
      ∀ q, q ∉ taken places → n.reg q.register = m.reg q.register := by
  induction places generalizing m with
  | nil => exact ⟨m, rfl, .refl m, nofun, fun _ _ => rfl⟩
  | cons first rest ih =>
    obtain ⟨place, r⟩ := first
    rw [taken_cons] at hnodup ⊢
    obtain ⟨-, hrest, hdisjoint⟩ := List.nodup_append.mp hnodup
    obtain ⟨m₁, hfirst, halike₁, haddress, hkept₁⟩ := place.run_code_any r m
    obtain ⟨n, hrun, halike, haddresses, hkept⟩ := ih hrest m₁
    refine ⟨n, ?_, halike₁.trans halike, ?_, ?_⟩
    · rw [List.flatMap_cons, runCode_append, hfirst, Option.bind_some, hrun]
    · intro slot q hmem
      rcases List.mem_cons.mp hmem with heq | hmem
      · cases heq
        -- the register of the first place is not taken again
        have hfree : r ∉ taken rest :=
          fun htaken => hdisjoint r List.mem_cons_self r htaken rfl
        rw [hkept r hfree]
        exact haddress slot rfl
      · rw [haddresses slot q hmem, halike₁.sp_eq, halike₁.cell_eq]
    · intro q hq
      rw [List.mem_append, not_or] at hq
      obtain ⟨hfresh, hfree⟩ := hq
      rw [hkept q hfree]
      apply hkept₁ q
      intro hindirect heq
      rw [hindirect, heq] at hfresh
      exact hfresh List.mem_cons_self

/-- An operand that goes through a slot has its address computed, by whatever
    register is free. -/
theorem Session.ensures_operand_indirect (type : ValueType) (slot : Int) (role : String)
    (s : Session) :
    Ensures s (operand ⟨type, .indirect slot⟩ role) fun source t =>
      ∃ r, source = .through r ∧ t.body = s.body ++ (addressCode slot r).map .instruction := by
  refine (ensures_requireScalar _ role s).bind ?_
  rintro _ u rfl
  cases hfree : u.pool.acquire? with
  | none => exact Ensures.of_refuses (refuses_acquire hfree).bind
  | some taken =>
    refine Ensures.after (yields_acquire hfree) ?_
    refine Ensures.after (yields_emitAll _ _) ?_
    exact Ensures.of_yields (yields_pure _ _) ⟨taken.1, rfl, body_wrote _ _⟩

theorem addresses_addressCode (slot offset : Int) (r : AddressRegister) :
    Addresses (addressCode slot r) slot offset r := by
  intro m hcell
  obtain ⟨n, hrun, halike, haddress, -⟩ := (Place.indirect slot).run_code_any r m
  refine ⟨n, hrun, halike.mem_eq, halike.sp_eq, ?_⟩
  rw [haddress slot rfl, hcell]

/-- The operands for the places are ready: each has the address that its place
    designated, and the machine is as it was but for scratch registers. -/
structure Place.Ready (places : List (Place × AddressRegister)) (m n : Machine) : Prop where
  alike : m.Alike n
  address_eq : ∀ {place r a}, (place, r) ∈ places → place.locate? m = some a →
    n.address (place.operand r) = a

/-- An action can make all its operands ready. -/
theorem Action.run_operands (action : Action) (k : Nat) (m : Machine) :
    ∃ n, runCode ((Place.inTurn k action.operands).flatMap fun (place, r) => place.code r) m =
        some n ∧ Place.Ready (Place.inTurn k action.operands) m n := by
  obtain ⟨n, hrun, halike, haddresses, -⟩ := Place.run_codes (action.nodup_registers k) m
  refine ⟨n, hrun, halike, ?_⟩
  intro place r a hmem hlocate
  cases place with
  | stack offset =>
    cases hlocate
    exact halike.slot_eq offset
  | indirect offset =>
    cases hlocate
    exact haddresses offset r hmem
  | label name => cases hlocate

/-- When all operands of an action are ready, each register holds its address. -/
theorem Action.addresses_operands (action : Action) (k : Nat) {slot : Int} {r : AddressRegister}
    (hmem : (.indirect slot, r) ∈ Place.inTurn k action.operands) (offset : Int) :
    Addresses ((Place.inTurn k action.operands).flatMap fun (place, r) => place.code r) slot offset
      r := by
  intro m hcell
  obtain ⟨n, hrun, hready⟩ := action.run_operands k m
  refine ⟨n, hrun, hready.alike.mem_eq, hready.alike.sp_eq, ?_⟩
  rw [← hcell]
  exact hready.address_eq hmem rfl

/-- Between two actions some number of registers was handed out. -/
theorem Reachable.pool_turned {s : Journaled Session} (hs : Reachable s)
    (hlive : s.state.firstFault = none) : ∃ k, s.state.pool = .turned k := by
  obtain ⟨next, hidle⟩ := hs.pool_idle hlive
  have hnext : (AddressRegister.turn next.val).index = next :=
    Fin.ext (Nat.mod_eq_of_lt next.isLt)
  refine ⟨next.val, ?_⟩
  rw [AddressPool.turned, hnext]
  exact hidle

/-- An action that is answered makes its operands ready, in registers of their own. -/
theorem Reachable.operands_ready {s : Journaled Session} (hs : Reachable s) {action : Action}
    {reply : Reply} (hok : (action.perform s).1 = .ok reply) (hoperands : action.operands ≠ []) :
    ∃ k, (action.perform s).2.state.code =
      s.state.code ++ (action.operandCode s.state k).map .instruction := by
  obtain ⟨hlive, hyields, -⟩ := Action.changes_of_answer hok
  obtain ⟨k, hpool⟩ := hs.pool_turned hlive
  exact ⟨k, ((action.ensures_rule hpool).of_outcome hyields).code_eq hoperands⟩

/-! ### The two kinds of subscripts -/

section Subscripts

variable {s : Journaled Session} {spec name : String} {base : Symbol}
  (hbase : s.state.environment.scalar? name = some base)

include hbase in
theorem Action.resolve_literal_ok {type : ValueType} {k : Nat} {d : Int}
    (hparse : Access.parse spec = .ok ⟨name, some (.literal k)⟩)
    (hok : ((resolve spec).perform s).1 = .ok (.record ⟨type, .stack d⟩)) :
    type = base.type ∧ d = base.offset - 4 * k := by
  obtain ⟨result, t, hrefers, hanswer, -⟩ := Action.refers (live_of_ok hok).1 spec
  rw [hok] at hanswer
  cases hrefers with
  | element hread hvariable hoffset =>
    cases hread.symm.trans hparse
    cases hvariable.symm.trans hbase
    cases hanswer
    exact ⟨rfl, (below?_eq_some_iff.mp hoffset).1⟩
  | whole hread => cases hread.symm.trans hparse
  | computed hread => cases hread.symm.trans hparse
  | _ => cases hanswer

include hbase in
theorem Action.resolve_named_ok {i : String} {index : Symbol} {record : Record}
    (hparse : Access.parse spec = .ok ⟨name, some (.named i)⟩)
    (hindex : s.state.environment.named? i = some index)
    (hok : ((resolve spec).perform s).1 = .ok (.record record)) :
    record = ⟨base.type, .indirect s.state.frame.cursor⟩ ∧
      ∃ remarks : List Line, (∀ lines m, Asm.run (remarks ++ lines) m = Asm.run lines m) ∧
        ((resolve spec).perform s).2.state.body = s.state.body ++ (remarks ++
          (elementCode base.offset index.offset s.state.frame.cursor).map Line.instruction) := by
  obtain ⟨result, t, hrefers, hanswer, hafter⟩ := Action.refers (live_of_ok hok).1 spec
  rw [hok] at hanswer
  cases hrefers with
  | @computed _ _ _ _ grown hread hvariable hbound =>
    cases hread.symm.trans hparse
    cases hvariable.symm.trans hbase
    cases hbound.symm.trans hindex
    cases hanswer
    obtain ⟨remarks, hbody, hskip⟩ := Session.body_remarked
      (s.state.withTemporary .int grown) (elementRemark spec s.state.frame.cursor)
    refine ⟨rfl, remarks, hskip, ?_⟩
    rw [hafter, ← List.append_assoc]
    exact (body_wrote _ _).trans (congrArg (· ++ _) hbody)
  | whole hread => cases hread.symm.trans hparse
  | element hread => cases hread.symm.trans hparse
  | _ => cases hanswer

end Subscripts

/-- **Literal and named subscripts mean the same element.**  Let `k` be a literal
    subscript with which an element of an array is found at the offset `d`.  With
    a name in its place the code puts `d` into a slot, if `k` is the value of the
    name, and changes no other word.  While the slot holds `d`, every use of the
    record computes the address of the word at `d`, whatever was done before it
    and however many operands are made ready together.  Either record has the
    type of the array. -/
theorem subscripts_agree {s : Journaled Session} (hs : Reachable s) {literal named a i : String}
    {k : Nat} {base index : Symbol} {type : ValueType} {d : Int} {record : Record}
    (hliteral : Access.parse literal = .ok ⟨a, some (.literal k)⟩)
    (hnamed : Access.parse named = .ok ⟨a, some (.named i)⟩)
    (hbase : s.state.environment.scalar? a = some base)
    (hindex : s.state.environment.scalar? i = some index)
    (hdirect : ((Action.resolve literal).perform s).1 = .ok (.record ⟨type, .stack d⟩))
    (hrecord : ((Action.resolve named).perform s).1 = .ok (.record record)) :
    let t := ((Action.resolve named).perform s).2
    type = base.type ∧ ∃ slot lines, record = ⟨base.type, .indirect slot⟩ ∧
      t.state.body = s.state.body ++ lines ∧
      (∀ m : Machine, m.cell index.offset = BitVec.ofInt 32 k →
        ∃ n, run lines m = some n ∧ n.cell slot = BitVec.ofInt 32 d ∧ n.reg .sp = m.reg .sp ∧
          ∀ address, address ≠ m.slot slot → n.mem address = m.mem address) ∧
      (∀ role u v source, operand record role u = .ok source v →
        ∃ r, source = .through r ∧
          v.state.body = u.state.body ++ (addressCode slot r).map .instruction ∧
          Addresses (addressCode slot r) slot d r) ∧
      ∀ (between : List Action) (user : Action) (reply : Reply),
        let u := (Action.run between t).2
        (user.perform u).1 = .ok reply → .indirect slot ∈ user.operands →
          ∃ turn, (user.perform u).2.state.code =
              u.state.code ++ (user.operandCode u.state turn).map .instruction ∧
            ∀ r, (.indirect slot, r) ∈ Place.inTurn turn user.operands →
              Addresses ((Place.inTurn turn user.operands).flatMap fun (place, r) => place.code r)
                slot d r := by
  intro t
  obtain ⟨htype, hd⟩ := Action.resolve_literal_ok hbase hliteral hdirect
  obtain ⟨rfl, remarks, hskip, hbody⟩ := Action.resolve_named_ok hbase hnamed
    (Environment.named?_of_scalar? hindex) hrecord
  refine ⟨htype, s.state.frame.cursor, _, rfl, hbody, ?_, ?_, ?_⟩
  · intro m hk
    obtain ⟨n, hrun, halike⟩ := run_elementCode base.offset index.offset s.state.frame.cursor m
    rw [hk, ofInt_sub_four_mul, ← hd] at halike
    refine ⟨n, ?_, halike.cell_of_store, halike.sp_eq, ?_⟩
    · rw [hskip, run_instructions, hrun]
    · intro address hother
      rw [halike.mem_eq]
      exact m.mem_store_of_ne _ _ hother
  · intro role u v source hsource
    obtain ⟨r, rfl, hcode⟩ := ensures_operand_indirect base.type _ role u.state hsource
    exact ⟨r, rfl, hcode, addresses_addressCode _ d r⟩
  · intro between user reply u hanswer hmem
    have hu : Reachable u := (hs.perform _).run between
    obtain ⟨turn, hcode⟩ := hu.operands_ready hanswer (List.ne_nil_of_mem hmem)
    exact ⟨turn, hcode, fun r hr => user.addresses_operands turn hr d⟩

-- The third of five characters.
set_option maxRecDepth 4000 in
theorem subscripts_agree_on_third :
    let s := (Action.run [.enterScope, .declare "char" "a[5]", .declare "int" "i"]
      { state := Session.start {} }).2
    ((Action.resolve "a[2]").perform s).1 = .ok (.record ⟨.char, .stack (-8)⟩) ∧
    ((Action.resolve "a[i]").perform s).1 = .ok (.record ⟨.char, .indirect (-24)⟩) ∧
    ∃ lines, ((Action.resolve "a[i]").perform s).2.state.body = s.state.body ++ lines ∧
      ∀ m : Machine, m.cell (-20) = 2 → ∃ n, run lines m = some n ∧ n.cell (-24) = -8 := by
  intro s
  have hreachable : Reachable s := ⟨_, _, _, rfl⟩
  have hliteral : Access.parse "a[2]" = .ok ⟨"a", some (.literal 2)⟩ := by cbv
  have hnamed : Access.parse "a[i]" = .ok ⟨"a", some (.named "i")⟩ := by cbv
  have hbase : s.state.environment.scalar? "a" = some ⟨"a", .char, 0, 5⟩ := by
    unfold s
    decide +kernel
  have hindex : s.state.environment.scalar? "i" = some ⟨"i", .int, -20, 1⟩ := by
    unfold s
    decide +kernel
  have hdirect : ((Action.resolve "a[2]").perform s).1 = .ok (.record ⟨.char, .stack (-8)⟩) := by
    unfold s
    decide +kernel
  have hrecord :
      ((Action.resolve "a[i]").perform s).1 = .ok (.record ⟨.char, .indirect (-24)⟩) := by
    unfold s
    decide +kernel
  clear_value s
  obtain ⟨-, slot, lines, heq, hbody, hlines, -⟩ :=
    subscripts_agree hreachable hliteral hnamed hbase hindex hdirect hrecord
  cases heq
  refine ⟨hdirect, hrecord, lines, hbody, fun m hm => ?_⟩
  obtain ⟨n, hrun, hcell, -⟩ := hlines m hm
  exact ⟨n, hrun, hcell⟩

end OnePass
