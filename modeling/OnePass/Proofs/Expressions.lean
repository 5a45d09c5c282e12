/-
  OnePass/Proofs/Expressions.lean
  ===============================
  **Expressions compile to code that computes them.**

  An expression is compiled from its leaves upward, the left operand first.  Its
  code writes temporaries only, which lie below everything the frame held
  before.  A record that an operand was compiled to is found by way of cells
  above the cursor (`Holds`), so the code of a later operand cannot touch it.
-/
import OnePass.Proofs.Layout
import OnePass.Proofs.Rules

namespace OnePass

open Asm Step Session

inductive Expr where
  | int (value : Int)
  | char (value : Char)
  | name (spelling : String)
  | element (array : String) (index : Nat)
  | elementAt (array index : String)
  | binary (operator : Operator) (left right : Expr)

/-- The variable a name refers to.  A string label is no variable. -/
def Environment.scalar? (env : Environment) (name : String) : Option Symbol :=
  ((env.find? name).bind env.symbol?).filter fun symbol => symbol.type.isScalar

namespace Expr

/-- Compiles an expression, from its leaves upward and from left to right. -/
def compile : Expr → Step Session Record
  | int value => act (intLiteral value)
  | char value => act (charLiteral value)
  | name spelling => act (resolve spelling)
  | element array index => act (resolve (Access.spelling array (toString index)))
  | elementAt array index => act (resolve (Access.spelling array index))
  | binary operator left right => do
    let lhs ← left.compile
    let rhs ← right.compile
    act (apply operator lhs rhs)

/-- The words of the frame that compiling an expression takes. -/
def temporaries : Expr → Nat
  | int _ => 1
  | char _ => 1
  | name _ => 0
  | element _ _ => 0
  | elementAt _ _ => 1
  | binary _ left right => left.temporaries + right.temporaries + 1

/-- Every name is that of a variable, and literal subscripts are in range. -/
def Scoped (env : Environment) : Expr → Prop
  | int _ => True
  | char _ => True
  | name spelling =>
    Text.isName spelling.toList = true ∧ ∃ symbol, env.scalar? spelling = some symbol
  | element array index =>
    Text.isName array.toList = true ∧
      ∃ symbol, env.scalar? array = some symbol ∧ index < symbol.words
  | elementAt array index =>
    (Text.isName array.toList = true ∧ ∃ symbol, env.scalar? array = some symbol) ∧
      Text.isName index.toList = true ∧ ∃ symbol, env.scalar? index = some symbol
  | binary _ left right => left.Scoped env ∧ right.Scoped env

/-- The value of an expression, given the words of the frame.  It has none if a
    subscript is out of range or a divisor is zero. -/
def value? (env : Environment) (cell : Int → Word) : Expr → Option Word
  | int value => some (BitVec.ofInt 32 value)
  | char value => some (BitVec.ofInt 32 value.toNat)
  | name spelling => do
    let symbol ← env.scalar? spelling
    return cell symbol.offset
  | element array index => do
    let symbol ← env.scalar? array
    return cell (symbol.offset - 4 * index)
  | elementAt array index => do
    let base ← env.scalar? array
    let i ← env.scalar? index
    let subscript := (cell i.offset).toInt
    if 0 ≤ subscript ∧ subscript < base.words then return cell (base.offset - 4 * subscript)
    else none
  | binary operator left right => do
    operator.value? (← left.value? env cell) (← right.value? env cell)

end Expr

/-! ### Cells of the frame -/

namespace Asm.Machine

theorem slot_ne (m : Machine) {x y : Int} (hx : FitsWord x) (hy : FitsWord y) (h : x ≠ y) :
    m.slot x ≠ m.slot y := by
  intro heq
  have hword : BitVec.ofInt 32 x = BitVec.ofInt 32 y := by
    simpa [slot] using heq
  have hint := congrArg BitVec.toInt hword
  rw [BitVec.toInt_ofInt, BitVec.toInt_ofInt] at hint
  simp only [FitsWord] at hx hy
  rw [Int.bmod_eq_of_le (by omega) (by omega), Int.bmod_eq_of_le (by omega) (by omega)] at hint
  exact h hint

/-- Of memory only `count` words from the cursor downward were written. -/
structure Wrote (m n : Machine) (cursor : Int) (count : Nat) : Prop where
  sp_eq : n.reg .sp = m.reg .sp
  mem_eq : ∀ address, (∀ j < count, address ≠ m.slot (cursor - 4 * (j : Int))) →
    n.mem address = m.mem address

namespace Wrote

variable {m n o : Machine} {cursor : Int} {count more : Nat}

theorem refl (m : Machine) (cursor : Int) : Wrote m m cursor 0 := ⟨rfl, fun _ _ => rfl⟩

theorem slot_eq (h : Wrote m n cursor count) (offset : Int) : n.slot offset = m.slot offset := by
  simp only [slot, h.sp_eq]

theorem trans (h : Wrote m n cursor count) (h' : Wrote n o (cursor - 4 * (count : Int)) more) :
    Wrote m o cursor (count + more) where
  sp_eq := h'.sp_eq.trans h.sp_eq
  mem_eq := by
    intro address hother
    refine (h'.mem_eq address fun j hj => ?_).trans (h.mem_eq address fun j hj => ?_)
    · rw [h.slot_eq, Int.sub_sub, ← Int.mul_add]
      exact_mod_cast hother (count + j) (by omega)
    · exact hother j (by omega)

theorem of_store {v : Word} (h : (m.store (m.slot cursor) v).Alike n) : Wrote m n cursor 1 where
  sp_eq := h.sp_eq
  mem_eq := by
    intro address hother
    have hne := hother 0 (by omega)
    rw [h.mem_eq]
    exact m.mem_store_of_ne _ _ (by simpa using hne)

/-- Cells above the cursor are as they were. -/
theorem cell_eq (h : Wrote m n cursor count) (hfits : FitsWord (cursor - 4 * (count : Int)))
    {offset : Int} (habove : cursor < offset) (hzero : offset ≤ 0) :
    n.cell offset = m.cell offset := by
  rw [cell, cell, h.slot_eq]
  refine h.mem_eq _ fun j hj => m.slot_ne ?_ ?_ ?_ <;> simp only [FitsWord] at * <;> omega

end Wrote

theorem Alike.cell_of_store {m n : Machine} {offset : Int} {v : Word}
    (h : (m.store (m.slot offset) v).Alike n) : n.cell offset = v := by
  rw [h.cell_eq]
  exact m.mem_store_self _ _

end Asm.Machine

/-- The place designates a cell with the value, and is found by way of cells
    above the floor. -/
def Holds (m : Machine) (floor : Int) (v : Word) : Place → Prop
  | .stack offset => floor < offset ∧ offset ≤ 0 ∧ m.cell offset = v
  | .indirect offset => floor < offset ∧ offset ≤ 0 ∧ ∃ target : Int, floor < target ∧ target ≤ 0 ∧
      m.cell offset = BitVec.ofInt 32 target ∧ m.cell target = v
  | .label _ => False

namespace Holds

variable {m n : Machine} {floor lower : Int} {v : Word} {place : Place}

theorem load? (h : Holds m floor v place) : place.load? m = some v := by
  cases place with
  | stack offset =>
    obtain ⟨-, -, hcell⟩ := h
    exact congrArg some hcell
  | indirect offset =>
    obtain ⟨-, -, target, -, -, htarget, hcell⟩ := h
    simp only [Place.load?, Place.locate?, Option.map_some, htarget]
    exact congrArg some hcell
  | label name => exact h.elim

theorem ne_label (h : Holds m floor v place) (name : String) : place ≠ .label name := by
  rintro rfl
  exact h

/-- A record is not disturbed while cells above its floor stay as they are. -/
theorem keep (h : Holds m floor v place) (hlower : lower ≤ floor)
    (hcells : ∀ offset, floor < offset → offset ≤ 0 → n.cell offset = m.cell offset) :
    Holds n lower v place := by
  cases place with
  | stack offset =>
    obtain ⟨habove, hzero, hcell⟩ := h
    exact ⟨hlower.trans_lt habove, hzero, (hcells offset habove hzero).trans hcell⟩
  | indirect offset =>
    obtain ⟨habove, hzero, target, htarget, htop, hoffset, hcell⟩ := h
    exact ⟨hlower.trans_lt habove, hzero, target, hlower.trans_lt htarget, htop,
      (hcells offset habove hzero).trans hoffset, (hcells target htarget htop).trans hcell⟩
  | label name => exact h

end Holds

/-! ### Sessions between two steps of an expression -/

namespace Environment

variable {env : Environment} {name : String} {symbol : Symbol}

theorem scalar?_eq_some (h : env.scalar? name = some symbol) :
    env.lookupSymbol name = .ok symbol ∧ symbol.type.isScalar = true := by
  obtain ⟨hfound, hscalar⟩ := Option.filter_eq_some_iff.mp h
  exact ⟨by simp only [lookupSymbol, hfound], hscalar⟩

/-- A symbol of another name hides no variable. -/
theorem scalar?_bound {added : Symbol} (hne : added.name ≠ name)
    (h : env.scalar? name = some symbol) : (env.bound added).scalar? name = some symbol := by
  obtain ⟨hfound, hscalar⟩ := Option.filter_eq_some_iff.mp h
  obtain ⟨id, hid, hsymbol⟩ := Option.bind_eq_some_iff.mp hfound
  have hfind : (env.bound added).find? name = env.find? name := by
    simp only [find?, bound]
    cases env.active with
    | nil => rfl
    | cons scope outer =>
      simp only [List.modifyHead_cons, List.findSome?_cons]
      rw [Scope.getElem?_bind, if_neg hne]
  refine Option.filter_eq_some_iff.mpr ⟨?_, hscalar⟩
  rw [hfind, hid, Option.bind_some]
  exact getElem?_push_of_some hsymbol

end Environment

namespace Session

/-- An expression can be compiled from here. -/
structure Ready (s : Session) : Prop where
  live : s.firstFault = none
  active : s.environment.active ≠ []
  plain : s.listing.annotated = false
  idle : ∃ next, s.pool = .idle next
  tiled : Tiled s

/-- From the first session to the second some temporaries were taken and some
    code was written. -/
structure After (s t : Session) (count : Nat) (code : List Instruction) : Prop where
  ready : Ready t
  cursor_eq : t.frame.cursor = s.frame.cursor - 4 * (count : Int)
  body_eq : t.body = s.body ++ code.map .instruction
  variable_eq : ∀ {name symbol}, Text.isName name.toList = true →
    s.environment.scalar? name = some symbol → t.environment.scalar? name = some symbol

theorem After.refl {s : Session} (h : Ready s) : After s s 0 [] :=
  ⟨h, by simp, by simp, fun _ hs => hs⟩

theorem After.trans {s t u : Session} {count more : Nat} {code next : List Instruction}
    (h : After s t count code) (h' : After t u more next) :
    After s u (count + more) (code ++ next) where
  ready := h'.ready
  cursor_eq := by
    rw [h'.cursor_eq, h.cursor_eq]
    push_cast
    omega
  body_eq := by rw [h'.body_eq, h.body_eq, List.append_assoc, List.map_append]
  variable_eq := fun hname hs => h'.variable_eq hname (h.variable_eq hname hs)

theorem After.cursor_lt {s t : Session} {code : List Instruction} (h : After s t 1 code) :
    t.frame.cursor < s.frame.cursor := by
  have := h.cursor_eq
  omega

theorem After.fits {s t : Session} {count : Nat} {code : List Instruction}
    (h : After s t count code) : FitsWord (s.frame.cursor - 4 * (count : Int)) := by
  rw [← h.cursor_eq]
  exact h.ready.tiled.cursor_fits

/-- A variable lies between the cursor and the top of the frame. -/
theorem Ready.variable_inside {s : Session} (h : Ready s) {name : String} {symbol : Symbol}
    (hsymbol : s.environment.scalar? name = some symbol) :
    symbol.words ≠ 0 ∧ symbol.offset ≤ 0 ∧
      s.frame.cursor < symbol.offset - 4 * ((symbol.words : Int) - 1) ∧
      FitsWord (symbol.offset - 4 * ((symbol.words : Int) - 1)) := by
  obtain ⟨hfound, hscalar⟩ := Option.filter_eq_some_iff.mp hsymbol
  obtain ⟨id, -, hid⟩ := Option.bind_eq_some_iff.mp hfound
  rw [symbol?_eq] at hid
  have hwords := (h.tiled.words_iff hid).mpr hscalar
  obtain ⟨-, hzero, hcursor, hfits⟩ := h.tiled.symbol_inside hid hwords
  exact ⟨hwords, hzero, hcursor, hfits⟩

/-- A temporary is taken and code is written. -/
theorem Ready.after_temporary {s : Session} (h : Ready s) {type : ValueType} {grown : Frame}
    {pool : AddressPool} (hscalar : type.isScalar = true) (hroom : s.frame.grow? 1 = some grown)
    (hpool : ∃ next, pool = .idle next) (code : List Instruction) :
    After s ({ s.withTemporary type grown with pool := pool }.wrote (code.map .instruction)) 1
      code where
  ready := by
    have htiled := invariant_layout.change (.temporary hscalar hroom h.active) h.tiled
    refine ⟨h.live, ?_, h.plain, hpool, htiled.of_eq rfl rfl⟩
    obtain ⟨scope, outer, hactive⟩ := List.exists_cons_of_ne_nil h.active
    simp [wrote, withTemporary, Environment.bound, Environment.drew, hactive]
  cursor_eq := (Frame.grow?_eq_some_iff.mp hroom).1
  body_eq := body_wrote _ _
  variable_eq := by
    intro name symbol hname hs
    refine Environment.scalar?_bound ?_ hs
    rintro rfl
    exact not_writable_temporary _ (writable_of_isName hname)

theorem Ready.cursor_le {s : Session} (h : Ready s) : s.frame.cursor ≤ 0 := by
  have := h.tiled.cursor_le
  omega

theorem Ready.exists_room {s : Session} (h : Ready s)
    (hroom : -2147483648 ≤ s.frame.cursor - 4) : ∃ grown, s.frame.grow? 1 = some grown := by
  have hle := h.cursor_le
  refine ⟨⟨s.frame.cursor - 4 * ((1 : Nat) : Int)⟩, Frame.grow?_eq_some_iff.mpr ⟨rfl, ?_, ?_⟩⟩
  · omega
  · simp only [FitsWord]
    omega

end Session

namespace Expr

variable {e left right : Expr} {s t : Session} {m : Machine} {v : Word}

/-- In sessions with the same variables, and frames with the same words above
    the cursor, an expression has the same value. -/
theorem value?_congr (hready : Ready s) (hscoped : e.Scoped s.environment) {env : Environment}
    {cell : Int → Word}
    (henv : ∀ {name symbol}, Text.isName name.toList = true →
      s.environment.scalar? name = some symbol → env.scalar? name = some symbol)
    (hcell : ∀ offset, s.frame.cursor < offset → offset ≤ 0 → cell offset = m.cell offset) :
    e.value? env cell = e.value? s.environment m.cell := by
  induction e with
  | int value => rfl
  | char value => rfl
  | name spelling =>
    obtain ⟨hname, symbol, hsymbol⟩ := hscoped
    obtain ⟨hwords, hzero, habove, -⟩ := hready.variable_inside hsymbol
    simp only [value?, henv hname hsymbol, hsymbol, Option.bind_eq_bind, Option.bind_some]
    rw [hcell _ (by omega) hzero]
  | element array index =>
    obtain ⟨hname, symbol, hsymbol, hindex⟩ := hscoped
    obtain ⟨hwords, hzero, habove, -⟩ := hready.variable_inside hsymbol
    simp only [value?, henv hname hsymbol, hsymbol, Option.bind_eq_bind, Option.bind_some]
    rw [hcell _ (by omega) (by omega)]
  | elementAt array index =>
    obtain ⟨⟨harray, base, hbase⟩, hindex, i, hi⟩ := hscoped
    obtain ⟨hwords, hzero, habove, -⟩ := hready.variable_inside hbase
    obtain ⟨hiwords, hizero, hiabove, -⟩ := hready.variable_inside hi
    simp only [value?, henv harray hbase, henv hindex hi, hbase, hi, Option.bind_eq_bind,
      Option.bind_some]
    rw [hcell _ (by omega) hizero]
    split
    · next hrange => rw [hcell _ (by omega) (by omega)]
    · rfl
  | binary operator left right ihl ihr =>
    obtain ⟨hleft, hright⟩ := hscoped
    simp only [value?, ihl hleft, ihr hright]

theorem Scoped.congr {env env' : Environment} (h : e.Scoped env)
    (henv : ∀ {name symbol}, Text.isName name.toList = true →
      env.scalar? name = some symbol → env'.scalar? name = some symbol) : e.Scoped env' := by
  induction e with
  | int value => trivial
  | char value => trivial
  | name spelling =>
    obtain ⟨hname, symbol, hsymbol⟩ := h
    exact ⟨hname, symbol, henv hname hsymbol⟩
  | element array index =>
    obtain ⟨hname, symbol, hsymbol, hindex⟩ := h
    exact ⟨hname, symbol, henv hname hsymbol, hindex⟩
  | elementAt array index =>
    obtain ⟨⟨harray, base, hbase⟩, hindex, i, hi⟩ := h
    exact ⟨⟨harray, base, henv harray hbase⟩, hindex, i, henv hindex hi⟩
  | binary operator left right ihl ihr => exact ⟨ihl h.1, ihr h.2⟩

/-- What an expression is compiled to: the code takes as many words as foretold,
    and where the expression has a value, the record leads to it. -/
structure Compiled (e : Expr) (s t : Session) (record : Record) (code : List Instruction) :
    Prop where
  yields : Yields e.compile s record t
  after : After s t e.temporaries code
  scalar : record.type.isScalar = true
  ne_label : ∀ name, record.place ≠ .label name
  computes : ∀ m v, e.value? s.environment m.cell = some v → ∃ n, runCode code m = some n ∧
    m.Wrote n s.frame.cursor e.temporaries ∧ Holds n t.frame.cursor v record.place

/-- Both kinds of literals are stored in a temporary. -/
theorem compiled_literal (hready : Ready s) (type : ValueType) (value : Int)
    (htype : type.isScalar = true) (hcompile : e.compile = act (scalarLiteral type value))
    (hcount : e.temporaries = 1)
    (hvalue : ∀ env cell, e.value? env cell = some (BitVec.ofInt 32 value))
    (hroom : -2147483648 ≤ s.frame.cursor - 4) : ∃ t record code, Compiled e s t record code := by
  obtain ⟨grown, hgrown⟩ := hready.exists_room hroom
  have hyields := yields_act hready.live (yields_scalarLiteral type value hgrown hready.active)
  have hafter := hready.after_temporary htype hgrown hready.idle
    [.li (.t 0) (.number value), .sw (.t 0) (.slot s.frame.cursor)]
  rw [← hcompile] at hyields
  rw [← hcount] at hafter
  refine ⟨_, _, _, hyields, hafter, htype, nofun, fun m v hv => ?_⟩
  obtain ⟨n, hrun, halike⟩ := run_literal value s.frame.cursor m
  cases (hvalue _ _).symm.trans hv
  rw [hcount]
  exact ⟨n, hrun, .of_store halike, (hcount ▸ hafter).cursor_lt, hready.cursor_le,
    halike.cell_of_store⟩

theorem compiled_name (hready : Ready s) {spelling : String}
    (hscoped : (name spelling).Scoped s.environment) :
    ∃ t record code, Compiled (.name spelling) s t record code := by
  obtain ⟨hname, symbol, hsymbol⟩ := hscoped
  obtain ⟨hlookup, hscalar⟩ := Environment.scalar?_eq_some hsymbol
  obtain ⟨hwords, hzero, habove, -⟩ := hready.variable_inside hsymbol
  refine ⟨_, _, _, yields_act hready.live (yields_resolve_name hname hlookup hscalar),
    .refl hready, hscalar, nofun, fun m v hv => ?_⟩
  simp only [value?, hsymbol, Option.bind_eq_bind, Option.bind_some, Option.pure_def,
    Option.some.injEq] at hv
  exact ⟨m, rfl, .refl m _, by omega, hzero, hv⟩

theorem compiled_element (hready : Ready s) {array : String} {index : Nat}
    (hscoped : (element array index).Scoped s.environment) :
    ∃ t record code, Compiled (.element array index) s t record code := by
  obtain ⟨hname, symbol, hsymbol, hindex⟩ := hscoped
  obtain ⟨hlookup, hscalar⟩ := Environment.scalar?_eq_some hsymbol
  obtain ⟨hwords, hzero, habove, hfits⟩ := hready.variable_inside hsymbol
  have hcursor := hready.tiled.cursor_fits
  have hoffset : below? symbol.offset index = some (symbol.offset - 4 * index) := by
    refine below?_eq_some_iff.mpr ⟨rfl, ?_, ?_⟩ <;> simp only [FitsWord] at * <;> omega
  have hfitsIndex : FitsWord index := by
    simp only [FitsWord] at *
    omega
  refine ⟨_, _, _, yields_act hready.live (yields_resolve_literal hname hfitsIndex hlookup hscalar
    hoffset), .refl hready, hscalar, nofun, fun m v hv => ?_⟩
  simp only [value?, hsymbol, Option.bind_eq_bind, Option.bind_some, Option.pure_def,
    Option.some.injEq] at hv
  exact ⟨m, rfl, .refl m _, by omega, by omega, hv⟩

theorem compiled_elementAt (hready : Ready s) {array index : String}
    (hscoped : (elementAt array index).Scoped s.environment)
    (hroom : -2147483648 ≤ s.frame.cursor - 4) :
    ∃ t record code, Compiled (.elementAt array index) s t record code := by
  obtain ⟨⟨harray, base, hbase⟩, hindex, i, hi⟩ := hscoped
  obtain ⟨hlookup, hscalar⟩ := Environment.scalar?_eq_some hbase
  obtain ⟨hwords, hzero, habove, hfits⟩ := hready.variable_inside hbase
  obtain ⟨grown, hgrown⟩ := hready.exists_room hroom
  have hint : ValueType.int.isScalar = true := rfl
  have hafter := hready.after_temporary hint hgrown hready.idle
    (elementCode base.offset i.offset s.frame.cursor)
  have hlt := hafter.cursor_lt
  have hle := hready.cursor_le
  refine ⟨_, _, _, yields_act hready.live (yields_resolve_named harray hindex hlookup hscalar
    (Environment.scalar?_eq_some hi).1 hgrown hready.active hready.plain), hafter, hscalar, nofun,
    fun m v hv => ?_⟩
  simp only [value?, hbase, hi, Option.bind_eq_bind, Option.bind_some, Option.pure_def] at hv
  split at hv
  · next hrange =>
    obtain ⟨n, hrun, halike⟩ := run_elementCode base.offset i.offset s.frame.cursor m
    have hwrote := Machine.Wrote.of_store halike
    refine ⟨n, hrun, hwrote, hlt, hle, base.offset - 4 * (m.cell i.offset).toInt, ?_, ?_,
      halike.cell_of_store, ?_⟩
    · exact Int.lt_trans hlt (by omega)
    · omega
    · -- the element lies above the slot that holds its offset
      have hfitsNext : FitsWord (s.frame.cursor - 4 * ((1 : Nat) : Int)) := by
        simp only [FitsWord]
        omega
      rw [hwrote.cell_eq hfitsNext (by omega) (by omega)]
      exact Option.some.inj hv
  · cases hv

/-- The left operand survives the code of the right one, since that writes below
    the cells the left operand is found by. -/
theorem Compiled.binary {u : Session} {lhs rhs : Record} {first second : List Instruction}
    (hready : Ready s) (hleft : Compiled left s t lhs first)
    (hright : Compiled right t u rhs second) (hscoped : right.Scoped s.environment)
    (operator : Operator)
    (hroom : -2147483648 ≤ u.frame.cursor - 4) :
    ∃ w record code, Compiled (.binary operator left right) s w record code := by
  have hu := hright.after.ready
  obtain ⟨grown, hgrown⟩ := hu.exists_room hroom
  obtain ⟨next, hidle⟩ := hu.idle
  obtain ⟨r, q, last, hrq, happly⟩ := yields_apply operator hleft.scalar hright.scalar
    hleft.ne_label hright.ne_label hgrown hu.active hu.plain hidle
  have hint : ValueType.int.isScalar = true := rfl
  have hafter := hu.after_temporary hint hgrown ⟨last, rfl⟩
    (applyCode operator lhs.place rhs.place r q u.frame.cursor)
  refine ⟨_, _, _, hleft.yields.bind (hright.yields.bind (yields_act hu.live happly)),
    (hleft.after.trans hright.after).trans hafter, rfl, nofun, fun m v hv => ?_⟩
  simp only [value?, Option.bind_eq_bind, Option.bind_eq_some_iff] at hv
  obtain ⟨a, ha, b, hb, hvalue⟩ := hv
  obtain ⟨m₁, hrun₁, hwrote₁, hholds₁⟩ := hleft.computes m a ha
  have hsame : right.value? t.environment m₁.cell = right.value? s.environment m.cell :=
    value?_congr hready hscoped hleft.after.variable_eq fun offset habove hzero =>
      hwrote₁.cell_eq hleft.after.fits habove hzero
  obtain ⟨m₂, hrun₂, hwrote₂, hholds₂⟩ := hright.computes m₁ b (hsame.trans hb)
  have hlow : u.frame.cursor ≤ t.frame.cursor := by
    have := hright.after.cursor_eq
    omega
  have hsurvives : Holds m₂ u.frame.cursor a lhs.place :=
    hholds₁.keep hlow fun offset habove hzero =>
      hwrote₂.cell_eq hright.after.fits habove hzero
  obtain ⟨n, hrun, halike⟩ :=
    run_applyCode hrq hsurvives.load? hholds₂.load? hvalue u.frame.cursor
  refine ⟨n, ?_, ?_, hafter.cursor_lt, hu.cursor_le, halike.cell_of_store⟩
  · rw [runCode_append, runCode_append, hrun₁, Option.bind_some, hrun₂, Option.bind_some, hrun]
  · have hwrote := Machine.Wrote.of_store halike
    rw [hright.after.cursor_eq, hleft.after.cursor_eq] at hwrote
    rw [hleft.after.cursor_eq] at hwrote₂
    refine (hwrote₁.trans hwrote₂).trans ?_
    rw [Int.sub_sub, ← Int.mul_add] at hwrote
    exact_mod_cast hwrote

/-- Every expression whose names are bound and whose temporaries fit the frame
    is compiled, and its code computes it. -/
theorem compiled (e : Expr) (hready : Ready s) (hscoped : e.Scoped s.environment)
    (hroom : -2147483648 ≤ s.frame.cursor - 4 * (e.temporaries : Int)) :
    ∃ t record code, Compiled e s t record code := by
  induction e generalizing s with
  | int value =>
    exact compiled_literal hready .int value rfl rfl rfl (fun _ _ => rfl) hroom
  | char value =>
    exact compiled_literal hready .char value.toNat rfl rfl rfl (fun _ _ => rfl) hroom
  | name spelling => exact compiled_name hready hscoped
  | element array index => exact compiled_element hready hscoped
  | elementAt array index => exact compiled_elementAt hready hscoped hroom
  | binary operator left right ihl ihr =>
    obtain ⟨hscopedLeft, hscopedRight⟩ := hscoped
    simp only [temporaries] at hroom
    obtain ⟨t, lhs, first, hleft⟩ := ihl hready hscopedLeft (by omega)
    have hcursor := hleft.after.cursor_eq
    obtain ⟨u, rhs, second, hright⟩ := ihr hleft.after.ready
      (hscopedRight.congr hleft.after.variable_eq) (by omega)
    have hcursor' := hright.after.cursor_eq
    exact hleft.binary hready hright hscopedRight operator (by omega)

/-- **Compiling an expression is correct.**  All its actions succeed, and running
    the lines they append leads, by way of the record, to the value of the
    expression.  Memory changes in the temporaries of this compilation only, so
    every variable and every earlier temporary keeps its words. -/
theorem compile_computes {s : Journaled Session} (e : Expr) (h : Reachable s)
    (hlive : s.state.firstFault = none) (hactive : s.state.environment.active ≠ [])
    (hplain : s.state.listing.annotated = false) (hscoped : e.Scoped s.state.environment)
    (hroom : -2147483648 ≤ s.state.frame.cursor - 4 * (e.temporaries : Int)) :
    ∃ record t lines, e.compile s = .ok record t ∧ t.state.body = s.state.body ++ lines ∧
      t.state.frame.cursor = s.state.frame.cursor - 4 * (e.temporaries : Int) ∧
      ∀ m v, e.value? s.state.environment m.cell = some v →
        ∃ n, run lines m = some n ∧ record.place.load? n = some v ∧ n.reg .sp = m.reg .sp ∧
          (∀ address, (∀ j < e.temporaries,
              address ≠ m.slot (s.state.frame.cursor - 4 * (j : Int))) →
            n.mem address = m.mem address) ∧
          ∀ id symbol (k : Nat), s.state.environment.symbol? id = some symbol →
            k < symbol.words →
            n.cell (symbol.offset - 4 * (k : Int)) = m.cell (symbol.offset - 4 * (k : Int)) := by
  have hready : Ready s.state :=
    ⟨hlive, hactive, hplain, h.pool_idle hlive, h.intact invariant_layout hlive⟩
  obtain ⟨t, record, code, hcompiled⟩ := compiled e hready hscoped hroom
  obtain ⟨journal, hok⟩ := hcompiled.yields s.journal
  refine ⟨record, ⟨t, journal⟩, code.map .instruction, hok, hcompiled.after.body_eq,
    hcompiled.after.cursor_eq, fun m v hv => ?_⟩
  obtain ⟨n, hrun, hwrote, hholds⟩ := hcompiled.computes m v hv
  refine ⟨n, (run_instructions code m).trans hrun, hholds.load?, hwrote.sp_eq, hwrote.mem_eq, ?_⟩
  intro id symbol k hsymbol hk
  rw [symbol?_eq] at hsymbol
  obtain ⟨-, hzero, habove, -⟩ := hready.tiled.symbol_inside hsymbol (by omega)
  exact hwrote.cell_eq hcompiled.after.fits (by omega) (by omega)

-- An element of an array and one more, in a machine whose index is 2.
theorem compile_computes_of_sum :
    let s := (Action.run [.enterScope, .declare "int" "a[3]", .declare "int" "i"]
      { state := Session.start {} }).2
    ∃ record t lines, (binary .add (.elementAt "a" "i") (.int 1)).compile s = .ok record t ∧
      t.state.body = s.state.body ++ lines ∧ ∀ m : Machine, m.cell (-12) = 2 → m.cell (-8) = 5 →
        ∃ n, run lines m = some n ∧ record.place.load? n = some 6 := by
  intro s
  have ha : s.state.environment.scalar? "a" = some ⟨"a", .int, 0, 3⟩ := by
    unfold s
    decide +kernel
  have hi : s.state.environment.scalar? "i" = some ⟨"i", .int, -12, 1⟩ := by
    unfold s
    decide +kernel
  have hlive : s.state.firstFault = none := by
    unfold s
    decide +kernel
  have hplain : s.state.listing.annotated = false := by
    unfold s
    decide +kernel
  have hactive : s.state.environment.active ≠ [] := by
    have hdepth : s.state.environment.depth = 1 := by
      unfold s
      decide +kernel
    intro hnil
    rw [Environment.depth, hnil] at hdepth
    cases hdepth
  have hcursor : s.state.frame.cursor = -16 := by
    unfold s
    decide +kernel
  have hscoped : (binary .add (.elementAt "a" "i") (.int 1)).Scoped s.state.environment :=
    ⟨⟨⟨by decide +kernel, _, ha⟩, by decide +kernel, _, hi⟩, trivial⟩
  have hreachable : Reachable s := ⟨_, _, _, rfl⟩
  obtain ⟨record, t, lines, hok, hbody, -, hrun⟩ := compile_computes _ hreachable hlive
    hactive hplain hscoped (by rw [hcursor]; decide)
  refine ⟨record, t, lines, hok, hbody, fun m hindex helement => ?_⟩
  have hvalue : (binary .add (.elementAt "a" "i") (.int 1)).value? s.state.environment m.cell =
      some 6 := by
    simp [value?, ha, hi, hindex, helement, Operator.value?]
  obtain ⟨n, hruns, hload, -⟩ := hrun m 6 hvalue
  exact ⟨n, hruns, hload⟩

end Expr

end OnePass
