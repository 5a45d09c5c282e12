/-
  OnePass/Proofs/Subscripts.lean
  ==============================
  **Literal subscripts** — which elements can be referred to by number, and where
  they lie.

  A literal subscript is settled while the program is read: the place of the
  element is an offset, or the reference is refused.  That an element of an array
  always has a place, and shares it with no other, follows from the layout of the
  frame, up to an array that takes all words there are.
-/
import OnePass.Proofs.Grammar
import OnePass.Proofs.History
import OnePass.Proofs.References

namespace OnePass

open Asm Step Session

theorem Access.parse_literal_of_spaced (b : Bracketed) {before after : List Char} {spec : String}
    (hspec : spec.toList = before ++ b.text ++ after) (hbefore : Text.Blanks before)
    (hafter : Text.Blanks after) {k : Nat} (hk : IsLiteral b.index k) :
    parse spec = .ok ⟨String.ofList b.name, some (.literal k)⟩ := by
  rw [parse, hspec, b.trim_around hbefore hafter]
  exact (ofTrimmed_eq_literal_iff hk.isNumeric).mpr hk

/-! ### Elements and their places -/

namespace Session.Laid

variable {s : Session} (h : Laid s) {i j : Nat} {a b : Symbol} {p q : Nat}
  (ha : s.symbols[i]? = some a) (hb : s.symbols[j]? = some b)

include h ha in
/-- An element lies above the cursor, so its place is an offset within reach. -/
theorem element_inside (hp : p < a.words) :
    p ≤ 536870911 ∧ -2147483648 ≤ a.offset - 4 * (p : Int) ∧
      s.frame.cursor < a.offset - 4 * (p : Int) := by
  obtain ⟨-, hoffset, hcursor, -⟩ := h.symbol_inside ha (by omega)
  have hlowest := h.cursor_fits.1
  omega

include h ha hb in
/-- No two elements lie at the same place. -/
theorem element_injective (hp : p < a.words) (hq : q < b.words)
    (hplace : a.offset - 4 * (p : Int) = b.offset - 4 * (q : Int)) : i = j ∧ p = q := by
  by_cases hij : i = j
  · subst hij
    cases ha.symm.trans hb
    exact ⟨rfl, by omega⟩
  · have hdisjoint := h.bytes_disjoint hij ha hb
    have hbyte := offset_mem_bytes hp
    rw [hplace] at hbyte
    exact absurd (offset_mem_bytes hq) (Set.disjoint_left.mp hdisjoint hbyte)

end Session.Laid

/-! ### References to elements -/

/-- A literal subscript of a variable is a matter of the place alone. -/
theorem Session.Refers.of_literal {s t : Session} {spec name : String} {k : Nat} {base : Symbol}
    {answer : Except Fault Record} (h : s.Refers spec answer t)
    (hread : Access.parse spec = .ok ⟨name, some (.literal k)⟩)
    (hbase : s.environment.scalar? name = some base) :
    t = s ∧ answer = (below? base.offset k).elim (.error (.invalidArrayIndex spec))
      fun offset => .ok ⟨base.type, .stack offset⟩ := by
  cases h with
  | element hparse hfound hoffset =>
    cases hparse.symm.trans hread
    cases hfound.symm.trans hbase
    rw [hoffset]
    exact ⟨rfl, rfl⟩
  | outside hparse hfound hoffset =>
    cases hparse.symm.trans hread
    cases hfound.symm.trans hbase
    rw [hoffset]
    exact ⟨rfl, rfl⟩
  | undeclared hparse hfound =>
    cases hparse.symm.trans hread
    cases hfound.symm.trans hbase
  | _ hparse => cases hparse.symm.trans hread

/-- **A literal subscript is answered just if the place of the element is an offset.**
    However it is spaced and whatever zeros stand in front of it, the reference to a
    variable answers the place so many words below it and does nothing, or is refused
    because it is out of reach, and nothing but the fault is kept.  An element of the
    variable is never out of reach and lies above the cursor; and no two elements,
    be they of variables, of temporaries or of symbols of scopes that were left, lie
    at the same place. -/
theorem resolve_literal {s : Journaled Session} (hs : Reachable s)
    (hlive : s.state.firstFault = none) (b : Bracketed) {before after : List Char} {spec : String}
    (hspec : spec.toList = before ++ b.text ++ after) (hbefore : Text.Blanks before)
    (hafter : Text.Blanks after) {k : Nat} (hk : Access.IsLiteral b.index k) {symbol : Symbol}
    (hbase : s.state.environment.scalar? (String.ofList b.name) = some symbol) :
    let answer := ((Action.resolve spec).perform s).1
    let t := ((Action.resolve spec).perform s).2.state
    let place := symbol.offset - 4 * (k : Int)
    (k ≤ 536870911 ∧ -2147483648 ≤ place →
      answer = .ok (.record ⟨symbol.type, .stack place⟩) ∧ t = s.state) ∧
    (¬ (k ≤ 536870911 ∧ -2147483648 ≤ place) →
      answer = .error (.invalidArrayIndex spec) ∧
        t = { s.state with firstFault := some (.invalidArrayIndex spec) }) ∧
    (k < symbol.words →
      answer = .ok (.record ⟨symbol.type, .stack place⟩) ∧ s.state.frame.cursor < place) ∧
    ∀ i j x y (p q : Nat), s.state.environment.symbol? i = some x →
      s.state.environment.symbol? j = some y → p < x.words → q < y.words →
      x.offset - 4 * (p : Int) = y.offset - 4 * (q : Int) → i = j ∧ p = q := by
  intro answer t place
  have hlaid := laid hs
  obtain ⟨id, hid, hoffset, -⟩ := hlaid.offset_of_scalar? hbase
  have hread := Access.parse_literal_of_spaced b hspec hbefore hafter hk
  obtain ⟨result, u, hrefers, hanswer, hleaves⟩ := Action.refers hlive spec
  obtain ⟨hu, hresult⟩ := hrefers.of_literal hread hbase
  rw [below?_of_nonpos hoffset] at hresult
  have hanswered : answer = result.map .record := hanswer
  have hleft : t = s.state.keeping (result.map .record) := by rw [← hu, ← hleaves]
  have hinside : k ≤ 536870911 ∧ -2147483648 ≤ place →
      answer = .ok (.record ⟨symbol.type, .stack place⟩) ∧ t = s.state := by
    intro hplace
    rw [if_pos hplace] at hresult
    rw [hanswered, hleft, hresult]
    exact ⟨rfl, rfl⟩
  refine ⟨hinside, ?_, ?_, ?_⟩
  · intro hplace
    rw [if_neg hplace] at hresult
    rw [hanswered, hleft, hresult]
    exact ⟨rfl, rfl⟩
  · intro hindex
    obtain ⟨hreach, hlowest, hcursor⟩ := hlaid.element_inside hid hindex
    exact ⟨(hinside ⟨hreach, hlowest⟩).1, hcursor⟩
  · intro i j x y p q hx hy
    rw [symbol?_eq] at hx hy
    exact hlaid.element_injective hx hy

-- The last element of an array that takes every word an array can take.
set_option maxRecDepth 4000 in
theorem resolve_literal_of_last :
    let s := (Action.run [.enterScope, .declare "char" "a[536870911]"]
      { state := Session.start {} }).2
    ((Action.resolve " a [ 0536870910\t]").perform s).1 =
        .ok (.record ⟨.char, .stack (-2147483640)⟩) ∧
      s.state.frame.cursor = -2147483644 := by
  intro s
  have hreachable : Reachable s := ⟨_, _, _, rfl⟩
  have hlive : s.state.firstFault = none := by
    unfold s
    decide +kernel
  have hbase : s.state.environment.scalar? "a" = some ⟨"a", .char, 0, 536870911⟩ := by
    unfold s
    decide +kernel
  have hcursor : s.state.frame.cursor = -2147483644 := by
    unfold s
    decide +kernel
  clear_value s
  obtain ⟨b, htext, hname, hindex⟩ := Subscripted.exists_of_parse?
    (show Subscripted.parse? "a [ 0536870910\t]".toList = some ⟨['a'], "0536870910".toList⟩ by
      decide +kernel)
  have hspec : " a [ 0536870910\t]".toList = [' '] ++ b.text ++ [] := by
    rw [htext]
    decide +kernel
  have hk : Access.IsLiteral b.index 536870910 := by
    rw [hindex]
    exact Or.inl ⟨by decide, 1, by decide +kernel⟩
  have hfound : s.state.environment.scalar? (String.ofList b.name) =
      some ⟨"a", .char, 0, 536870911⟩ := by
    rw [hname]
    exact hbase
  obtain ⟨-, -, hlast, -⟩ := resolve_literal hreachable hlive b hspec
    (List.forall_mem_singleton.mpr (by decide)) (List.forall_mem_nil _) hk hfound
  exact ⟨(hlast (by decide)).1, hcursor⟩

end OnePass
