/-
  OnePass/Proofs/Rules.lean
  =========================
  **The rules of expressions** — their answers, and the lines they write.

  Each rule that an expression is put together from, in the case in which it
  succeeds: which record it answers, which code it appends, and that it takes
  at most one word from the frame.
-/
import OnePass.Proofs.Registers
import OnePass.Proofs.Spelling

namespace OnePass

open Asm Step

namespace Session

/-! ### Performing a rule -/

theorem yields_act {α : Type} {rule : Step Session α} {s t : Session} {a : α}
    (hlive : s.firstFault = none) (h : Yields rule s a t) : Yields (act rule) s a t := by
  intro journal
  obtain ⟨after, hrule⟩ := h journal
  exact ⟨after, by simp only [act, hlive, hrule]⟩

/-! ### Literals -/

theorem yields_scalarLiteral {s : Session} {grown : Frame} (type : ValueType) (value : Int)
    (hroom : s.frame.grow? 1 = some grown) (hactive : s.environment.active ≠ []) :
    Yields (scalarLiteral type value) s ⟨type, .stack s.frame.cursor⟩
      ((s.withTemporary type grown).wrote
        ([.li (.t 0) (.number value), .sw (.t 0) (.slot s.frame.cursor)].map .instruction)) :=
  (yields_newTemporary hroom hactive).bind ((yields_emitAll _ _).bind (yields_pure _ _))

/-! ### References -/

theorem yields_resolve_name {s : Session} {name : String} {symbol : Symbol}
    (hname : Text.isName name.toList = true) (h : s.environment.lookupSymbol name = .ok symbol)
    (htype : symbol.type.isScalar = true) :
    Yields (resolve name) s ⟨symbol.type, .stack symbol.offset⟩ s :=
  (yields_ofExcept (Access.parse_name hname) s).bind
    ((yields_lookupVariable h htype).bind (yields_pure _ s))

theorem refuses_resolve_name {s : Session} {name : String} {symbol : Symbol}
    (hname : Text.isName name.toList = true) (h : s.environment.lookupSymbol name = .ok symbol)
    (htype : symbol.type.isScalar = false) :
    Refuses (resolve name) s (.undeclaredSymbol name) s :=
  (yields_ofExcept (Access.parse_name hname) s).bind_refuses (refuses_lookupVariable h htype).bind

theorem yields_resolve_literal {s : Session} {array : String} {symbol : Symbol} {index : Nat}
    {offset : Int} (hname : Text.isName array.toList = true) (hindex : FitsWord index)
    (h : s.environment.lookupSymbol array = .ok symbol) (htype : symbol.type.isScalar = true)
    (hoffset : below? symbol.offset index = some offset) :
    Yields (resolve (Access.spelling array (toString index))) s ⟨symbol.type, .stack offset⟩ s := by
  refine (yields_ofExcept (Access.parse_literal hname hindex) s).bind ?_
  refine (yields_lookupVariable h htype).bind ?_
  simp only [hoffset]
  exact yields_pure _ s

theorem yields_resolve_named {s : Session} {array index : String} {base i : Symbol}
    {grown : Frame} (harray : Text.isName array.toList = true)
    (hindex : Text.isName index.toList = true)
    (hbase : s.environment.lookupSymbol array = .ok base) (htype : base.type.isScalar = true)
    (hi : s.environment.lookupSymbol index = .ok i) (hroom : s.frame.grow? 1 = some grown)
    (hactive : s.environment.active ≠ []) (hplain : s.listing.annotated = false) :
    Yields (resolve (Access.spelling array index)) s ⟨base.type, .indirect s.frame.cursor⟩
      ((s.withTemporary .int grown).wrote
        ((elementCode base.offset i.offset s.frame.cursor).map .instruction)) := by
  refine (yields_ofExcept (Access.parse_named harray hindex) s).bind ?_
  refine (yields_lookupVariable hbase htype).bind ?_
  refine (yields_lookupSymbol hi).bind ?_
  refine (yields_newTemporary hroom hactive).bind ?_
  refine (yields_annotate _ _).bind ?_
  rw [remarked_of_plain (show (s.withTemporary .int grown).listing.annotated = false from hplain)]
  exact (yields_emitAll _ _).bind (yields_pure _ _)

/-! ### Operators -/

theorem yields_apply {s : Session} {left right : Record} {grown : Frame} {next : Fin 7}
    (operator : Operator) (hleft : left.type.isScalar = true)
    (hright : right.type.isScalar = true) (hlhs : ∀ name, left.place ≠ .label name)
    (hrhs : ∀ name, right.place ≠ .label name) (hroom : s.frame.grow? 1 = some grown)
    (hactive : s.environment.active ≠ []) (hplain : s.listing.annotated = false)
    (hidle : s.pool = .idle next) :
    ∃ r q last, (left.place.isIndirect = true → r ≠ q) ∧
      Yields (apply operator left right) s ⟨.int, .stack s.frame.cursor⟩
        ({ s.withTemporary .int grown with pool := .idle last }.wrote
          ((applyCode operator left.place right.place r q s.frame.cursor).map .instruction)) := by
  obtain ⟨hfree, hdistinct⟩ := Place.first_held_idle left.place next
  refine ⟨(AddressPool.idle next).first, (left.place.held (.idle next)).first,
    (right.place.held (left.place.held (.idle next))).next, hdistinct, ?_⟩
  refine (yields_requireScalar hleft _ s).bind ?_
  refine (yields_requireScalar hright _ s).bind ?_
  refine (yields_newTemporary hroom hactive).bind ?_
  refine (yields_annotate _ _).bind ?_
  rw [remarked_of_plain (show (s.withTemporary .int grown).listing.annotated = false from hplain)]
  have hpool : (s.withTemporary .int grown).pool = .idle next := hidle
  refine (yields_operand hleft hlhs ?_).bind ?_
  · rw [hpool]
    exact AddressPool.isHeld_idle next _
  refine (yields_operand hright hrhs ?_).bind ?_
  · simp only [withOperand, wrote, hpool]
    exact hfree
  refine (yields_emitAll _ _).bind ?_
  refine (yields_release_operand _ _ _).bind ?_
  refine (yields_release_operand _ _ _).bind ?_
  refine (yields_emitAll _ _).bind ?_
  refine (yields_emit _ _).bind ?_
  refine (yields_pure _ _).of_eq ?_
  have hsettled := (Place.freed_held_held_idle left.place right.place next).1
  simp [withOperand, wrote, applyCode, hpool, hsettled, Array.append_assoc]

end Session

end OnePass
