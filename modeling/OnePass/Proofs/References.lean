/-
  OnePass/Proofs/References.lean
  ==============================
  **References** — which names a reference needs, and what it does with them.

  A reference ends in one of eight ways, told by the form of its text and by what
  its names are bound to (`Session.Refers`).  Its base has to be a variable.  Of
  its subscript it is asked only that the name is bound: a string label will do,
  and then the element is selected by the word at the label's offset.
-/
import OnePass.Proofs.Endings
import OnePass.Proofs.Expressions

namespace OnePass

open Asm Step Session

/-! ### Names that are bound -/

namespace Environment

/-- The symbol a name stands for, be it a variable or not. -/
def named? (env : Environment) (name : String) : Option Symbol :=
  (env.find? name).bind env.symbol?

variable {env : Environment} {name : String} {symbol : Symbol}

theorem lookupSymbol_of_named? (h : env.named? name = some symbol) :
    env.lookupSymbol name = .ok symbol := by
  rw [named?] at h
  simp only [lookupSymbol, h]

theorem lookupSymbol_of_unbound (h : env.named? name = none) :
    env.lookupSymbol name = .error (.undeclaredSymbol name) := by
  rw [named?] at h
  simp only [lookupSymbol, h]

theorem named?_of_scalar? (h : env.scalar? name = some symbol) : env.named? name = some symbol :=
  (Option.filter_eq_some_iff.mp h).1

/-- Where a name is bound there is a scope. -/
theorem active_ne_of_named? (h : env.named? name = some symbol) : env.active ≠ [] := by
  intro hactive
  rw [named?, find?, hactive] at h
  cases h

end Environment

namespace Session

variable {s : Session} {name : String} {symbol : Symbol}

/-- A variable is a symbol with words, so its offset is one of the frame. -/
theorem Laid.offset_of_scalar? (h : Laid s) (hbase : s.environment.scalar? name = some symbol) :
    ∃ id : SymbolId, s.symbols[id]? = some symbol ∧ symbol.offset ≤ 0 ∧ 4 ∣ symbol.offset := by
  obtain ⟨id, -, hsymbol⟩ := Option.bind_eq_some_iff.mp (Environment.named?_of_scalar? hbase)
  rw [symbol?_eq] at hsymbol
  have hwords := (h.words_iff hsymbol).mpr (Environment.scalar?_eq_some hbase).2
  obtain ⟨hdvd, hle, -⟩ := h.symbol_inside hsymbol hwords
  exact ⟨id, hsymbol, hle, hdvd⟩

theorem yields_lookupVariable_of_scalar? (h : s.environment.scalar? name = some symbol) :
    Yields (lookupVariable name) s symbol s := by
  obtain ⟨hfound, hscalar⟩ := Environment.scalar?_eq_some h
  exact yields_lookupVariable hfound hscalar

theorem refuses_lookupVariable_of_scalar? (h : s.environment.scalar? name = none) :
    Refuses (lookupVariable name) s (.undeclaredSymbol name) s := by
  cases hnamed : s.environment.named? name with
  | none =>
    have hunbound := Environment.lookupSymbol_of_unbound hnamed
    exact (Refuses.current_bind (refuses_ofExcept hunbound s)).bind
  | some symbol =>
    have hscalar : symbol.type.isScalar = false := by
      have hfilter : (s.environment.named? name).filter (·.type.isScalar) = none := h
      simpa [hnamed] using hfilter
    exact refuses_lookupVariable (Environment.lookupSymbol_of_named? hnamed) hscalar

/-! ### How references end -/

/-- How a reference ends: its answer, and the session it leaves. -/
inductive Refers (s : Session) (spec : String) : Except Fault Record → Session → Prop
  | malformed {cause : Fault} (hparse : Access.parse spec = .error cause) :
      Refers s spec (.error cause) s
  | undeclared {access : Access} (hparse : Access.parse spec = .ok access)
      (hbase : s.environment.scalar? access.name = none) :
      Refers s spec (.error (.undeclaredSymbol access.name)) s
  | whole {name : String} {base : Symbol} (hparse : Access.parse spec = .ok ⟨name, none⟩)
      (hbase : s.environment.scalar? name = some base) :
      Refers s spec (.ok ⟨base.type, .stack base.offset⟩) s
  | element {name : String} {base : Symbol} {index : Nat} {offset : Int}
      (hparse : Access.parse spec = .ok ⟨name, some (.literal index)⟩)
      (hbase : s.environment.scalar? name = some base)
      (hoffset : below? base.offset index = some offset) :
      Refers s spec (.ok ⟨base.type, .stack offset⟩) s
  | outside {name : String} {base : Symbol} {index : Nat}
      (hparse : Access.parse spec = .ok ⟨name, some (.literal index)⟩)
      (hbase : s.environment.scalar? name = some base)
      (hoffset : below? base.offset index = none) :
      Refers s spec (.error (.invalidArrayIndex spec)) s
  | unbound {name index : String} {base : Symbol}
      (hparse : Access.parse spec = .ok ⟨name, some (.named index)⟩)
      (hbase : s.environment.scalar? name = some base)
      (hindex : s.environment.named? index = none) :
      Refers s spec (.error (.undeclaredSymbol index)) s
  | full {name index : String} {base i : Symbol}
      (hparse : Access.parse spec = .ok ⟨name, some (.named index)⟩)
      (hbase : s.environment.scalar? name = some base)
      (hindex : s.environment.named? index = some i) (hroom : s.frame.grow? 1 = none) :
      Refers s spec (.error (.frameOverflow 1)) s
  | computed {name index : String} {base i : Symbol} {grown : Frame}
      (hparse : Access.parse spec = .ok ⟨name, some (.named index)⟩)
      (hbase : s.environment.scalar? name = some base)
      (hindex : s.environment.named? index = some i) (hroom : s.frame.grow? 1 = some grown) :
      Refers s spec (.ok ⟨base.type, .indirect s.frame.cursor⟩)
        (((s.withTemporary .int grown).remarked (elementRemark spec s.frame.cursor)).wrote
          ((elementCode base.offset i.offset s.frame.cursor).map .instruction))

theorem refers_named {name index : String} {base : Symbol} {spec : String}
    (hparse : Access.parse spec = .ok ⟨name, some (.named index)⟩)
    (hbase : s.environment.scalar? name = some base) :
    (∃ record t, Refers s spec (.ok record) t ∧ Yields (resolve spec) s record t) ∨
      ∃ cause t, Refers s spec (.error cause) t ∧ Refuses (resolve spec) s cause t := by
  have hread := yields_ofExcept hparse s
  have hvariable := yields_lookupVariable_of_scalar? hbase
  cases hindex : s.environment.named? index with
  | none =>
    have hunbound := Environment.lookupSymbol_of_unbound hindex
    have hmissing : Refuses (lookupSymbol index) s (.undeclaredSymbol index) s :=
      Refuses.current_bind (refuses_ofExcept hunbound s)
    exact Or.inr ⟨_, s, .unbound hparse hbase hindex,
      hread.bind_refuses (hvariable.bind_refuses hmissing.bind)⟩
  | some i =>
    have hfound := yields_lookupSymbol (Environment.lookupSymbol_of_named? hindex)
    cases hroom : s.frame.grow? 1 with
    | none =>
      have hfull : Refuses (newTemporary .int) s (.frameOverflow 1) s :=
        refuses_newTemporary_of_no_room hroom
      exact Or.inr ⟨_, s, .full hparse hbase hindex hroom,
        hread.bind_refuses (hvariable.bind_refuses (hfound.bind_refuses hfull.bind))⟩
    | some grown =>
      have hactive := Environment.active_ne_of_named? hindex
      have hslot : Yields (newTemporary .int) s s.frame.cursor (s.withTemporary .int grown) :=
        yields_newTemporary hroom hactive
      exact Or.inl ⟨_, _, .computed hparse hbase hindex hroom,
        hread.bind (hvariable.bind (hfound.bind (hslot.bind
          ((yields_annotate _ _).bind ((yields_emitAll _ _).bind (yields_pure _ _))))))⟩

theorem refers (s : Session) (spec : String) :
    (∃ record t, Refers s spec (.ok record) t ∧ Yields (resolve spec) s record t) ∨
      ∃ cause t, Refers s spec (.error cause) t ∧ Refuses (resolve spec) s cause t := by
  cases hparse : Access.parse spec with
  | error cause =>
    exact Or.inr ⟨cause, s, .malformed hparse, (refuses_ofExcept hparse s).bind⟩
  | ok access =>
    have hread := yields_ofExcept hparse s
    cases hbase : s.environment.scalar? access.name with
    | none =>
      have hmissing := refuses_lookupVariable_of_scalar? hbase
      exact Or.inr ⟨_, s, .undeclared hparse hbase, hread.bind_refuses hmissing.bind⟩
    | some base =>
      have hvariable := yields_lookupVariable_of_scalar? hbase
      rcases access with ⟨name, _ | index | index⟩
      · exact Or.inl ⟨_, s, .whole hparse hbase, hread.bind (hvariable.bind (yields_pure _ s))⟩
      · cases hoffset : below? base.offset index with
        | none =>
          refine Or.inr ⟨_, s, .outside hparse hbase hoffset,
            hread.bind_refuses (hvariable.bind_refuses ?_)⟩
          simp only [hoffset]
          exact refuses_fail _ s
        | some offset =>
          refine Or.inl ⟨_, s, .element hparse hbase hoffset, hread.bind (hvariable.bind ?_)⟩
          simp only [hoffset]
          exact yields_pure _ s
      · exact refers_named hparse hbase

end Session

/-- Every reference ends in one of these ways, unless a fault is kept already. -/
theorem Action.refers {s : Journaled Session} (hlive : s.state.firstFault = none) (spec : String) :
    ∃ answer t, s.state.Refers spec answer t ∧
      ((resolve spec).perform s).1 = answer.map .record ∧
      ((resolve spec).perform s).2.state = t.keeping (answer.map .record) := by
  rcases s.state.refers spec with ⟨record, t, hrefers, hyields⟩ | ⟨cause, t, hrefers, hrefuses⟩
  · have hrule : Yields (rule (resolve spec)) s.state (.record record) t :=
      hyields.bind (yields_pure _ _)
    obtain ⟨journal, hok⟩ := perform_of_yields hlive hrule
    rw [hok]
    exact ⟨_, t, hrefers, rfl, rfl⟩
  · have hrule : Refuses (rule (resolve spec)) s.state cause t := hrefuses.bind
    obtain ⟨journal, hfails⟩ := perform_of_refuses hlive hrule
    rw [hfails]
    exact ⟨_, t, hrefers, rfl, rfl⟩

/-! ### String labels -/

/-- Symbols that are no variables lie nowhere; their offset is 0. -/
def Session.LabelsAtZero (s : Session) : Prop :=
  ∀ id symbol, s.environment.symbol? id = some symbol → symbol.type.isScalar = false →
    symbol.offset = 0

namespace Session.LabelsAtZero

variable {s t : Session}

theorem bound (h : LabelsAtZero s) (added : Symbol)
    (hadded : added.type.isScalar = false → added.offset = 0)
    (hsymbols : t.environment.symbols = s.environment.symbols.push added) : LabelsAtZero t := by
  intro id symbol hsymbol hlabel
  rw [Environment.symbol?, hsymbols, Array.getElem?_push] at hsymbol
  split at hsymbol
  · cases hsymbol
    exact hadded hlabel
  · exact h id symbol hsymbol hlabel

theorem of_change {allowed : Line → Prop} {scoping : Prop} (h : LabelsAtZero s)
    (hchange : Change allowed scoping s t) : LabelsAtZero t := by
  cases hchange with
  | @temporary type grown htype =>
    refine h.bound (s.nextTemporary type) (fun hlabel => ?_) rfl
    cases htype.symm.trans hlabel
  | declared htype =>
    refine h.bound _ (fun hlabel => ?_) rfl
    cases htype.symm.trans hlabel
  | stringLabel => exact h.bound _ (fun _ => rfl) rfl
  | _ => exact h

end Session.LabelsAtZero

theorem Reachable.labelsAtZero {s : Journaled Session} (hs : Reachable s) :
    LabelsAtZero s.state := by
  have hinvariant : Invariant LabelsAtZero LabelsAtZero := by
    constructor
    · intro options id symbol hsymbol
      cases hsymbol
    · intro s t hchange h
      exact h.of_change hchange
    · intro s cause h
      exact h
    · intro s words grown cause _ h
      exact h
  rcases hs.intact_or_aborted hinvariant with ⟨-, h⟩ | ⟨-, h⟩
  · exact h
  · exact h

/-! ### What references need -/

/-- **A reference needs a variable, and any bound name for a subscript.**  If it
    is answered, its base is a variable, and its subscript, if that is a name, is
    bound.  If one of them is not, the fault is that of the name, and nothing else
    is done.  But a subscript may be bound to anything: with room for the offset
    the reference is answered, and its code reads the word at the offset of the
    subscript, which for a string label is 0. -/
theorem resolve_needs_names {s : Journaled Session} (hs : Reachable s)
    (hlive : s.state.firstFault = none) (spec : String) :
    let env := s.state.environment
    let answer := ((Action.resolve spec).perform s).1
    let after := ((Action.resolve spec).perform s).2.state
    (∀ reply, answer = .ok reply → ∃ access base, Access.parse spec = .ok access ∧
      env.scalar? access.name = some base ∧
      ∀ index, access.subscript = some (.named index) → ∃ i, env.named? index = some i) ∧
    (∀ access, Access.parse spec = .ok access → env.scalar? access.name = none →
      answer = .error (.undeclaredSymbol access.name) ∧
      after = { s.state with firstFault := some (.undeclaredSymbol access.name) }) ∧
    ∀ name index base, Access.parse spec = .ok ⟨name, some (.named index)⟩ →
      env.scalar? name = some base →
      (env.named? index = none → answer = .error (.undeclaredSymbol index) ∧
        after = { s.state with firstFault := some (.undeclaredSymbol index) }) ∧
      ∀ i grown, env.named? index = some i → s.state.frame.grow? 1 = some grown →
        answer = .ok (.record ⟨base.type, .indirect s.state.frame.cursor⟩) ∧
        after.code = s.state.code ++
          (elementCode base.offset i.offset s.state.frame.cursor).map .instruction ∧
        (i.type = .string → i.offset = 0) := by
  intro env answer after
  obtain ⟨result, t, hrefers, hanswer, hafter⟩ := Action.refers hlive spec
  have hanswered : answer = result.map .record := hanswer
  have hleft : after = t.keeping (result.map .record) := hafter
  rw [hanswered, hleft]
  refine ⟨?_, ?_, ?_⟩
  · intro reply hok
    cases hrefers with
    | whole hparse hbase => exact ⟨_, _, hparse, hbase, nofun⟩
    | element hparse hbase => exact ⟨_, _, hparse, hbase, nofun⟩
    | computed hparse hbase hindex =>
      refine ⟨_, _, hparse, hbase, ?_⟩
      rintro _ ⟨⟩
      exact ⟨_, hindex⟩
    | _ => cases hok
  · intro access hread hnone
    cases hrefers with
    | malformed hparse => cases hparse.symm.trans hread
    | undeclared hparse =>
      cases hparse.symm.trans hread
      exact ⟨rfl, rfl⟩
    | _ hparse hbase =>
      cases hparse.symm.trans hread
      cases hbase.symm.trans hnone
  · intro name index base hread hvariable
    cases hrefers with
    | unbound hparse hbase hindex =>
      cases hparse.symm.trans hread
      refine ⟨fun _ => ⟨rfl, rfl⟩, fun i grown hbound => ?_⟩
      cases hindex.symm.trans hbound
    | full hparse hbase hindex hfull =>
      cases hparse.symm.trans hread
      refine ⟨fun hnone => ?_, fun i grown _ hroom => ?_⟩
      · cases hindex.symm.trans hnone
      · cases hfull.symm.trans hroom
    | computed hparse hbase hindex =>
      cases hparse.symm.trans hread
      cases hbase.symm.trans hvariable
      refine ⟨fun hnone => ?_, fun i grown hbound _ => ?_⟩
      · cases hindex.symm.trans hnone
      · cases hindex.symm.trans hbound
        obtain ⟨id, -, hsymbol⟩ := Option.bind_eq_some_iff.mp hindex
        refine ⟨rfl, ?_, fun htype => ?_⟩
        · simp [Except.map, keeping]
        · exact hs.labelsAtZero id _ hsymbol (by rw [htype]; rfl)
    | malformed hparse => cases hparse.symm.trans hread
    | undeclared hparse hbase =>
      cases hparse.symm.trans hread
      cases hbase.symm.trans hvariable
    | _ hparse => cases hparse.symm.trans hread

-- The base is a variable, the subscript the label of a text.
set_option maxRecDepth 4000 in
theorem resolve_needs_names_of_label :
    let s := (Action.run [.enterScope, .declare "int" "a[3]", .stringLiteral "hi"]
      { state := Session.start {} }).2
    let t := ((Action.resolve "a[str_0]").perform s).2
    ((Action.resolve "a[str_0]").perform s).1 = .ok (.record ⟨.int, .indirect (-12)⟩) ∧
    t.state.code = s.state.code ++ (elementCode 0 0 (-12)).map .instruction := by
  intro s t
  have hreachable : Reachable s := ⟨_, _, _, rfl⟩
  have hlive : s.state.firstFault = none := by
    unfold s
    decide +kernel
  have hparse : Access.parse "a[str_0]" = .ok ⟨"a", some (.named "str_0")⟩ := by cbv
  have hbase : s.state.environment.scalar? "a" = some ⟨"a", .int, 0, 3⟩ := by
    unfold s
    decide +kernel
  have hindex : s.state.environment.named? "str_0" = some ⟨"str_0", .string, 0, 0⟩ := by
    unfold s
    decide +kernel
  have hroom : s.state.frame.grow? 1 = some ⟨-16⟩ := by
    unfold s
    decide +kernel
  have hcursor : s.state.frame.cursor = -12 := by
    unfold s
    decide +kernel
  clear_value s
  obtain ⟨-, -, hnamed⟩ := resolve_needs_names hreachable hlive "a[str_0]"
  obtain ⟨hanswer, hcode, -⟩ := (hnamed _ _ _ hparse hbase).2 _ _ hindex hroom
  rw [hcursor] at hanswer hcode
  exact ⟨hanswer, hcode⟩

-- The reference is answered, though its subscript is bound to a string label.
set_option maxRecDepth 4000 in
theorem label_taken_for_subscript :
    let s := (Action.run [.enterScope, .declare "int" "a[3]", .stringLiteral "hi"]
      { state := Session.start {} }).2
    s.state.firstFault = none ∧
    Access.parse "a[str_0]" = .ok ⟨"a", some (.named "str_0")⟩ ∧
    (s.state.environment.named? "str_0").map Symbol.type = some .string ∧
    ((Action.resolve "a[str_0]").perform s).1 = .ok (.record ⟨.int, .indirect (-12)⟩) := by
  intro s
  unfold s
  refine ⟨by decide +kernel, by cbv, by decide +kernel, by decide +kernel⟩

end OnePass
