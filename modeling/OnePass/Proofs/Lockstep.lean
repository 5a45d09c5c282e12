/-
  OnePass/Proofs/Lockstep.lean
  ============================
  **Sessions in lockstep** — two runs side by side.

  A coupling relates two sessions whose frames and pools are the same, and says
  how their environments, their listings and the causes of their failures may
  differ.  Most rules never look at a name or a scope; they keep any lawful
  coupling (`Coupling.Lawful`).  What is left to show of a particular coupling
  is how it fares with declarations, references and scopes.
-/
import OnePass.Proofs.Failure
import Mathlib.Data.List.Forall2

namespace OnePass

open Asm Step Session

/-! ### Steps in lockstep -/

/-- Both succeed with related answers, or both fail for related causes. -/
inductive Alike {α β : Type} (causes : Fault → Fault → Prop) (Q : α → β → Prop) :
    Except Fault α → Except Fault β → Prop
  | ok {a : α} {b : β} (h : Q a b) : Alike causes Q (.ok a) (.ok b)
  | error {cause other : Fault} (h : causes cause other) :
      Alike causes Q (.error cause) (.error other)

theorem Alike.eq {α : Type} {result other : Except Fault α} (h : Alike Eq Eq result other) :
    result = other := by
  cases h with
  | ok h => exact congrArg Except.ok h
  | error h => exact congrArg Except.error h

/-- From related states both steps succeed, and answers and states are related
    again; or the first fails, and if it is asked for so does the second. -/
def Lockstep {σ τ α β : Type} (strict : Prop) (causes : Fault → Fault → Prop) (R : σ → τ → Prop)
    (Q : α → β → Prop) (step : Step σ α) (other : Step τ β) : Prop :=
  ∀ s t, R s t →
    (∃ a b s' t', Yields step s a s' ∧ Yields other t b t' ∧ Q a b ∧ R s' t') ∨
    ∃ cause s', Refuses step s cause s' ∧
      (strict → ∃ cause' t', Refuses other t cause' t' ∧ causes cause cause' ∧ R s' t')

namespace Lockstep

variable {σ τ α β γ δ : Type} {strict : Prop} {causes : Fault → Fault → Prop} {R : σ → τ → Prop}
  {Q : α → β → Prop} {P : γ → δ → Prop}

theorem of_yields {step : Step σ α} {other : Step τ β}
    (h : ∀ s t, R s t → ∃ a b s' t', Yields step s a s' ∧ Yields other t b t' ∧ Q a b ∧ R s' t') :
    Lockstep strict causes R Q step other :=
  fun s t hst => Or.inl (h s t hst)

theorem pure {a : α} {b : β} (h : Q a b) :
    Lockstep strict causes R Q (Pure.pure a : Step σ α) (Pure.pure b : Step τ β) :=
  of_yields fun s t hst => ⟨a, b, s, t, yields_pure a s, yields_pure b t, h, hst⟩

theorem fail {cause cause' : Fault} (h : strict → causes cause cause') :
    Lockstep strict causes R Q (Step.fail cause : Step σ α) (Step.fail cause' : Step τ β) := by
  intro s t hst
  refine Or.inr ⟨cause, s, refuses_fail cause s, fun hstrict => ?_⟩
  exact ⟨cause', t, refuses_fail cause' t, h hstrict, hst⟩

theorem ofExcept {result : Except Fault α} {other : Except Fault β}
    (h : Alike causes Q result other) :
    Lockstep strict causes R Q (Step.ofExcept result : Step σ α)
      (Step.ofExcept other : Step τ β) := by
  cases h with
  | ok hab => exact Lockstep.pure hab
  | error hcause => exact Lockstep.fail fun _ => hcause

theorem bind {step : Step σ α} {other : Step τ β} {next : α → Step σ γ} {next' : β → Step τ δ}
    (h : Lockstep strict causes R Q step other)
    (hnext : ∀ a b, Q a b → Lockstep strict causes R P (next a) (next' b)) :
    Lockstep strict causes R P (step >>= next) (other >>= next') := by
  intro s t hst
  rcases h s t hst with ⟨a, b, s', t', hs, ht, hab, hst'⟩ | ⟨cause, s', hs, hfails⟩
  · rcases hnext a b hab s' t' hst' with
      ⟨x, y, s'', t'', hs', ht', hxy, hst''⟩ | ⟨cause, s'', hs', hfails⟩
    · exact Or.inl ⟨x, y, s'', t'', hs.bind hs', ht.bind ht', hxy, hst''⟩
    · refine Or.inr ⟨cause, s'', hs.bind_refuses hs', fun hstrict => ?_⟩
      obtain ⟨cause', t'', ht', hcause, hst''⟩ := hfails hstrict
      exact ⟨cause', t'', ht.bind_refuses ht', hcause, hst''⟩
  · refine Or.inr ⟨cause, s', hs.bind, fun hstrict => ?_⟩
    obtain ⟨cause', t', ht, hcause, hst'⟩ := hfails hstrict
    exact ⟨cause', t', ht.bind, hcause, hst'⟩

/-- Journals need not agree. -/
theorem report (event other : Event) :
    Lockstep strict causes R Eq (Step.report event : Step σ Unit)
      (Step.report other : Step τ Unit) :=
  of_yields fun s t hst => ⟨(), (), s, t, yields_report event s, yields_report other t, rfl, hst⟩

/-- The first steps give the same answer. -/
theorem bind_same {step : Step σ α} {other : Step τ α} {next : α → Step σ γ} {next' : α → Step τ δ}
    (h : Lockstep strict causes R Eq step other)
    (hnext : ∀ a, Lockstep strict causes R P (next a) (next' a)) :
    Lockstep strict causes R P (step >>= next) (other >>= next') := by
  apply h.bind
  rintro a _ rfl
  exact hnext a

theorem current_bind {next : σ → Step σ α} {next' : τ → Step τ β}
    (h : ∀ s t, R s t → Lockstep strict causes R Q (next s) (next' t)) :
    Lockstep strict causes R Q (current >>= next) (current >>= next') :=
  fun s t hst => h s t hst s t hst

end Lockstep

/-! ### Couplings -/

/-- How two sessions may differ. -/
structure Coupling where
  /-- Whether the second session has to fail where the first does. -/
  strict : Prop
  causes : Fault → Fault → Prop
  environments : Environment → Environment → Prop
  listings : Listing → Listing → Prop

namespace Coupling

structure Couples (c : Coupling) (s t : Session) : Prop where
  environment : c.environments s.environment t.environment
  listing : c.listings s.listing t.listing
  frame_eq : t.frame = s.frame
  pool_eq : t.pool = s.pool

abbrev Matches {α β : Type} (c : Coupling) (Q : α → β → Prop) (step : Step Session α)
    (other : Step Session β) : Prop :=
  Lockstep c.strict c.causes c.Couples Q step other

end Coupling

/-- The fault names nothing that a program or a session has named. -/
def Fault.isAnonymous : Fault → Bool
  | .invalidType _ => true
  | .typeMismatch _ _ => true
  | .invalidOperandType _ _ => true
  | .scopeUnderflow => true
  | .frameOverflow _ => true
  | .registersExhausted => true
  | .aborted => true
  | _ => false

/-- Coupled sessions stay coupled while lines are written and names are drawn. -/
structure Coupling.Lawful (c : Coupling) : Prop where
  wrote : ∀ {l m} {lines : List Line}, (∀ line ∈ lines, line.isCode = true) → c.listings l m →
    c.listings { l with body := l.body ++ lines.toArray }
      { m with body := m.body ++ lines.toArray }
  remarked : ∀ {s t : Session} (text : String), c.listings s.listing t.listing →
    c.listings (s.remarked text).listing (t.remarked text).listing
  stored : ∀ {l m} (entry : StringEntry), c.listings l m →
    c.listings { l with strings := l.strings.push entry } { m with strings := m.strings.push entry }
  drawn_eq : ∀ {e f}, c.environments e f → f.drawn = e.drawn
  size_eq : ∀ {e f}, c.environments e f → f.symbols.size = e.symbols.size
  active_ne : ∀ {e f}, c.environments e f → e.active ≠ [] → f.active ≠ []
  active_eq : ∀ {e f}, c.environments e f → c.strict → e.active = [] → f.active = []
  drew : ∀ {e f}, c.environments e f → c.environments e.drew f.drew
  bound : ∀ {e f} {symbol : Symbol} {kind number}, symbol.name = generatedName kind number →
    kind ≠ .branchLabel → e.active ≠ [] → c.environments e f →
      c.environments (e.bound symbol) (f.bound symbol)
  anonymous : ∀ {cause : Fault}, cause.isAnonymous = true → c.causes cause cause
  homeless : ∀ kind number, c.causes (.noActiveScope (generatedName kind number))
    (.noActiveScope (generatedName kind number))

namespace Coupling

section Rules

variable {α β : Type} {c : Coupling} (h : c.Lawful)

theorem Couples.with_environment {s t : Session} {e f : Environment} (hst : c.Couples s t)
    (hef : c.environments e f) :
    c.Couples { s with environment := e } { t with environment := f } :=
  ⟨hef, hst.listing, hst.frame_eq, hst.pool_eq⟩

theorem Couples.with_listing {s t : Session} {l m : Listing} (hst : c.Couples s t)
    (hlm : c.listings l m) : c.Couples { s with listing := l } { t with listing := m } :=
  ⟨hst.environment, hlm, hst.frame_eq, hst.pool_eq⟩

/-! ### Lines and names -/

include h in
theorem matches_emitAll (code : List Instruction) : c.Matches Eq (emitAll code) (emitAll code) := by
  apply Lockstep.of_yields
  intro s t hst
  have hcode : ∀ line ∈ code.map Line.instruction, line.isCode = true := by simp
  exact ⟨(), (), _, _, yields_emitAll code s, yields_emitAll code t, rfl,
    hst.with_listing (h.wrote hcode hst.listing)⟩

include h in
theorem matches_line {line : Line} (hcode : line.isCode = true) :
    c.Matches Eq (inListing (Listing.emit line)) (inListing (Listing.emit line)) := by
  apply Lockstep.of_yields
  intro s t hst
  exact ⟨(), (), _, _, yields_line line s, yields_line line t, rfl,
    hst.with_listing (h.wrote (by simpa using hcode) hst.listing)⟩

include h in
theorem matches_emit (i : Instruction) : c.Matches Eq (emit i) (emit i) := matches_line h rfl

include h in
theorem matches_place (label : String) : c.Matches Eq (place label) (place label) :=
  matches_line h rfl

include h in
theorem matches_annotate (text : String) : c.Matches Eq (annotate text) (annotate text) := by
  apply Lockstep.of_yields
  intro s t hst
  exact ⟨(), (), _, _, yields_annotate text s, yields_annotate text t, rfl,
    hst.with_listing (h.remarked text hst.listing)⟩

include h in
theorem matches_addString (entry : StringEntry) :
    c.Matches Eq (inListing (Listing.addString entry)) (inListing (Listing.addString entry)) := by
  apply Lockstep.of_yields
  intro s t hst
  exact ⟨(), (), _, _, yields_addString entry s, yields_addString entry t, rfl,
    hst.with_listing (h.stored entry hst.listing)⟩

include h in
theorem matches_newLabel : c.Matches Eq newLabel newLabel := by
  apply Lockstep.of_yields
  intro s t hst
  refine ⟨_, _, _, _, yields_newLabel s, yields_newLabel t, ?_,
    hst.with_environment (h.drew hst.environment)⟩
  rw [h.drawn_eq hst.environment]

include h in
theorem matches_allocate (words : Nat) :
    c.Matches Eq (inFrame (Frame.allocate words)) (inFrame (Frame.allocate words)) := by
  intro s t hst
  cases hroom : s.frame.grow? words with
  | none =>
    have hroom' : t.frame.grow? words = none := by rw [hst.frame_eq, hroom]
    refine Or.inr ⟨_, s, refuses_allocate hroom, fun _ => ?_⟩
    exact ⟨_, t, refuses_allocate hroom', h.anonymous rfl, hst⟩
  | some grown =>
    have hroom' : t.frame.grow? words = some grown := by rw [hst.frame_eq, hroom]
    refine Or.inl ⟨_, _, _, _, yields_allocate hroom, yields_allocate hroom', ?_, ?_⟩
    · rw [hst.frame_eq]
    · exact ⟨hst.environment, hst.listing, rfl, hst.pool_eq⟩

/-- The step is one of the environment. -/
theorem matches_inEnvironment {Q : α → β → Prop} {step : Step Environment α}
    {other : Step Environment β} (hstep : Lockstep c.strict c.causes c.environments Q step other) :
    c.Matches Q (inEnvironment step) (inEnvironment other) := by
  intro s t hst
  rcases hstep _ _ hst.environment with ⟨a, b, e, f, he, hf, hab, hef⟩ | ⟨cause, e, he, hfails⟩
  · exact Or.inl ⟨a, b, _, _, yields_inEnvironment he, yields_inEnvironment hf, hab,
      hst.with_environment hef⟩
  · refine Or.inr ⟨cause, _, refuses_inEnvironment he, fun hstrict => ?_⟩
    obtain ⟨cause', f, hf, hcause, hef⟩ := hfails hstrict
    exact ⟨cause', _, refuses_inEnvironment hf, hcause, hst.with_environment hef⟩

include h in
/-- A symbol is added, or has no scope in either session. -/
theorem lockstep_insert {symbol twin : Symbol}
    (hcause : c.causes (.noActiveScope symbol.name) (.noActiveScope twin.name))
    (hbound : ∀ {e f}, e.active ≠ [] → c.environments e f →
      c.environments (e.bound symbol) (f.bound twin)) :
    Lockstep c.strict c.causes c.environments Eq (Environment.insert symbol)
      (Environment.insert twin) := by
  intro e f hef
  by_cases hactive : e.active = []
  · refine Or.inr ⟨_, e, Environment.refuses_insert symbol hactive, fun hstrict => ?_⟩
    have hactive' := h.active_eq hef hstrict hactive
    exact ⟨_, f, Environment.refuses_insert twin hactive', hcause, hef⟩
  · have hactive' := h.active_ne hef hactive
    exact Or.inl ⟨_, _, _, _, Environment.yields_insert symbol hactive,
      Environment.yields_insert twin hactive', (h.size_eq hef).symm, hbound hactive hef⟩

include h in
theorem lockstep_insert_generated {symbol : Symbol} {kind : NameKind} {number : Nat}
    (hkind : kind ≠ .branchLabel) (hname : symbol.name = generatedName kind number) :
    Lockstep c.strict c.causes c.environments Eq (Environment.insert symbol)
      (Environment.insert symbol) := by
  apply lockstep_insert h
  · rw [hname]
    exact h.homeless kind number
  · intro e f hactive hef
    exact h.bound hname hkind hactive hef

include h in
theorem lockstep_drawName (kind : NameKind) :
    Lockstep c.strict c.causes c.environments
      (fun name other => other = name ∧ ∃ number, name = generatedName kind number)
      (Environment.drawName kind) (Environment.drawName kind) := by
  apply Lockstep.of_yields
  intro e f hef
  refine ⟨_, _, _, _, Environment.yields_drawName kind e, Environment.yields_drawName kind f,
    ⟨?_, _, rfl⟩, h.drew hef⟩
  rw [h.drawn_eq hef]

include h in
theorem matches_newTemporary (type : ValueType) :
    c.Matches Eq (newTemporary type) (newTemporary type) := by
  apply (matches_allocate h 1).bind_same
  intro offset
  apply Lockstep.bind_same
  · apply matches_inEnvironment
    apply (lockstep_drawName h .temporary).bind
    rintro name _ ⟨rfl, number, hname⟩
    apply (Lockstep.report _ _).bind_same
    intro _
    have hkind : NameKind.temporary ≠ .branchLabel := by decide
    exact lockstep_insert_generated h hkind hname
  · intro _
    exact Lockstep.pure rfl

include h in
theorem matches_stringLiteral (text : String) :
    c.Matches Eq (stringLiteral text) (stringLiteral text) := by
  apply Lockstep.bind_same
  · apply matches_inEnvironment
    apply (lockstep_drawName h .stringLabel).bind
    rintro name _ ⟨rfl, number, hname⟩
    apply (Lockstep.report _ _).bind_same
    intro _
    have hkind : NameKind.stringLabel ≠ .branchLabel := by decide
    apply (lockstep_insert_generated h hkind hname).bind_same
    intro id
    exact Lockstep.pure rfl
  · intro label
    apply (matches_addString h _).bind_same
    intro _
    exact Lockstep.pure rfl

/-! ### Operands -/

include h in
theorem matches_acquire :
    c.Matches Eq (inPool AddressPool.acquire) (inPool AddressPool.acquire) := by
  intro s t hst
  cases hfree : s.pool.acquire? with
  | none =>
    have hfree' : t.pool.acquire? = none := by rw [hst.pool_eq, hfree]
    refine Or.inr ⟨_, s, refuses_acquire hfree, fun _ => ?_⟩
    exact ⟨_, t, refuses_acquire hfree', h.anonymous rfl, hst⟩
  | some taken =>
    have hfree' : t.pool.acquire? = some taken := by rw [hst.pool_eq, hfree]
    exact Or.inl ⟨_, _, _, _, yields_acquire hfree, yields_acquire hfree', rfl,
      hst.environment, hst.listing, hst.frame_eq, rfl⟩

theorem matches_release (target : Operand) : c.Matches Eq (release target) (release target) := by
  cases target with
  | slot offset => exact Lockstep.pure rfl
  | through r =>
    apply Lockstep.of_yields
    intro s t hst
    refine ⟨(), (), _, _, yields_release r s, yields_release r t, rfl, ?_⟩
    exact ⟨hst.environment, hst.listing, hst.frame_eq, by simp only [hst.pool_eq]⟩

include h in
theorem matches_requireScalar (record : Record) (role : String) :
    c.Matches Eq (requireScalar record role) (requireScalar record role) := by
  unfold requireScalar
  split
  · exact Lockstep.pure rfl
  · exact Lockstep.fail fun _ => h.anonymous rfl

include h in
theorem matches_operand (record : Record) (role : String) :
    c.Matches Eq (operand record role) (operand record role) := by
  apply (matches_requireScalar h record role).bind_same
  intro _
  split
  · exact Lockstep.pure rfl
  · apply (matches_acquire h).bind_same
    intro r
    apply (matches_emitAll h _).bind_same
    intro _
    exact Lockstep.pure rfl
  · exact Lockstep.fail fun _ => h.anonymous rfl

/-! ### Rules without names -/

include h in
theorem matches_scalarLiteral (type : ValueType) (value : Int) :
    c.Matches Eq (scalarLiteral type value) (scalarLiteral type value) := by
  apply (matches_newTemporary h type).bind_same
  intro offset
  apply (matches_emitAll h _).bind_same
  intro _
  exact Lockstep.pure rfl

include h in
theorem matches_apply (operator : Operator) (left right : Record) :
    c.Matches Eq (apply operator left right) (apply operator left right) := by
  apply (matches_requireScalar h left _).bind_same
  intro _
  apply (matches_requireScalar h right _).bind_same
  intro _
  apply (matches_newTemporary h .int).bind_same
  intro result
  apply (matches_annotate h _).bind_same
  intro _
  apply (matches_operand h left _).bind_same
  intro lhs
  apply (matches_operand h right _).bind_same
  intro rhs
  apply (matches_emitAll h _).bind_same
  intro _
  apply (matches_release lhs).bind_same
  intro _
  apply (matches_release rhs).bind_same
  intro _
  apply (matches_emitAll h operator.code).bind_same
  intro _
  apply (matches_emit h _).bind_same
  intro _
  exact Lockstep.pure rfl

include h in
theorem matches_assign (target value : Record) :
    c.Matches Eq (assign target value) (assign target value) := by
  unfold assign
  split
  · apply (matches_operand h target _).bind_same
    intro destination
    apply (matches_operand h value _).bind_same
    intro source
    apply (matches_emitAll h _).bind_same
    intro _
    apply (matches_release source).bind_same
    intro _
    exact matches_release destination
  · exact Lockstep.fail fun _ => h.anonymous rfl

include h in
theorem matches_branchIfZero (condition : Record) :
    c.Matches Eq (branchIfZero condition) (branchIfZero condition) := by
  apply (matches_newLabel h).bind_same
  intro label
  apply (matches_operand h condition _).bind_same
  intro source
  apply (matches_emit h _).bind_same
  intro _
  apply (matches_release source).bind_same
  intro _
  apply (matches_emit h _).bind_same
  intro _
  exact Lockstep.pure rfl

include h in
theorem matches_branchThenLabel (pending : String) :
    c.Matches Eq (branchThenLabel pending) (branchThenLabel pending) := by
  apply (matches_newLabel h).bind_same
  intro label
  apply (matches_emit h _).bind_same
  intro _
  apply (matches_place h _).bind_same
  intro _
  exact Lockstep.pure rfl

include h in
theorem matches_branchAndLabel (target label : String) :
    c.Matches Eq (branchAndLabel target label) (branchAndLabel target label) := by
  apply (matches_emit h _).bind_same
  intro _
  exact matches_place h _

include h in
theorem matches_defineLabel (name : Option String) :
    c.Matches Eq (defineLabel name) (defineLabel name) := by
  apply Lockstep.bind_same
  · cases name with
    | none => exact matches_newLabel h
    | some given => exact Lockstep.pure rfl
  · intro label
    apply (matches_place h _).bind_same
    intro _
    exact Lockstep.pure rfl

include h in
theorem matches_read (target : Record) : c.Matches Eq (read target) (read target) := by
  unfold Session.read
  split
  · exact Lockstep.fail fun _ => h.anonymous rfl
  · apply (matches_operand h target _).bind_same
    intro destination
    apply (matches_emitAll h _).bind_same
    intro _
    exact matches_release destination

include h in
theorem matches_write (value : Record) : c.Matches Eq (write value) (write value) := by
  unfold Session.write
  split
  · exact matches_emitAll h _
  · apply (matches_operand h value _).bind_same
    intro source
    apply (matches_emit h _).bind_same
    intro _
    apply (matches_release source).bind_same
    intro _
    exact matches_emitAll h _

end Rules
end Coupling

/-- The symbol without its name. -/
def Symbol.unnamed (symbol : Symbol) : Symbol := { symbol with name := "" }

section Unnamed

variable {symbol twin : Symbol} (h : twin.unnamed = symbol.unnamed)

include h in
theorem Symbol.type_eq_of_unnamed : twin.type = symbol.type := (Symbol.mk.inj h).2.1

include h in
theorem Symbol.offset_eq_of_unnamed : twin.offset = symbol.offset := (Symbol.mk.inj h).2.2.1

end Unnamed

/-- The action neither opens or leaves a scope nor has a name of the program. -/
def Action.isNameless : Action → Bool
  | .enterScope => false
  | .leaveScope => false
  | .declare _ _ => false
  | .resolve _ => false
  | _ => true

namespace Coupling

variable {c : Coupling}

theorem matches_reply {α : Type} {step other : Step Session α}
    (h : c.Matches Eq step other) (reply : α → Reply) :
    c.Matches Eq (step >>= fun a => pure (reply a)) (other >>= fun a => pure (reply a)) := by
  apply h.bind_same
  intro a
  exact Lockstep.pure rfl

/-- Rules without names keep every lawful coupling. -/
theorem matches_rule (h : c.Lawful) {action : Action} (hnameless : action.isNameless = true) :
    c.Matches Eq action.rule action.rule := by
  cases action with
  | enterScope => cases hnameless
  | leaveScope => cases hnameless
  | declare typeName spec => cases hnameless
  | resolve spec => cases hnameless
  | intLiteral value => exact matches_reply (matches_scalarLiteral h .int value) _
  | charLiteral value => exact matches_reply (matches_scalarLiteral h .char value.toNat) _
  | stringLiteral text => exact matches_reply (matches_stringLiteral h text) _
  | apply operator left right => exact matches_reply (matches_apply h operator left right) _
  | assign target value => exact matches_reply (matches_assign h target value) _
  | branchIfZero condition => exact matches_reply (matches_branchIfZero h condition) _
  | branchThenLabel pending => exact matches_reply (matches_branchThenLabel h pending) _
  | branchAndLabel target label => exact matches_reply (matches_branchAndLabel h target label) _
  | defineLabel name => exact matches_reply (matches_defineLabel h name) _
  | read target => exact matches_reply (matches_read h target) _
  | write value => exact matches_reply (matches_write h value) _
  | newline => exact matches_reply (matches_emitAll h _) _

/-! ### Scopes -/

theorem matches_enterScope
    (hentered : ∀ {e f}, c.environments e f →
      c.environments { e with active := ∅ :: e.active } { f with active := ∅ :: f.active }) :
    c.Matches Eq (Action.rule .enterScope) (Action.rule .enterScope) := by
  apply matches_reply _ fun _ => .done
  apply matches_inEnvironment
  apply Lockstep.of_yields
  intro e f hef
  exact ⟨(), (), _, _, Environment.yields_enterScope e, Environment.yields_enterScope f, rfl,
    hentered hef⟩

theorem matches_leaveScope (h : c.Lawful)
    (hleft : ∀ {e f}, c.environments e f → c.environments e.left f.left) :
    c.Matches Eq (Action.rule .leaveScope) (Action.rule .leaveScope) := by
  apply matches_reply _ fun _ => .done
  apply matches_inEnvironment
  intro e f hef
  by_cases hactive : e.active = []
  · refine Or.inr ⟨_, e, Environment.refuses_leaveScope hactive, fun hstrict => ?_⟩
    have hactive' := h.active_eq hef hstrict hactive
    exact ⟨_, f, Environment.refuses_leaveScope hactive', h.anonymous rfl, hef⟩
  · have hactive' := h.active_ne hef hactive
    exact Or.inl ⟨(), (), _, _, Environment.yields_leaveScope hactive,
      Environment.yields_leaveScope hactive', rfl, hleft hef⟩

/-! ### References -/

/-- Under either name the sessions find the same, but for the name. -/
structure Twins (c : Coupling) (name other : String) : Prop where
  undeclared : c.causes (.undeclaredSymbol name) (.undeclaredSymbol other)
  found_eq : ∀ {e f}, c.environments e f →
    ((f.find? other).bind f.symbol?).map Symbol.unnamed =
      ((e.find? name).bind e.symbol?).map Symbol.unnamed

/-- The accesses two references are read as differ in their names only. -/
inductive TwinAccess (c : Coupling) (spec other : String) : Access → Access → Prop
  | name {name name' : String} (h : c.Twins name name') :
      c.TwinAccess spec other ⟨name, none⟩ ⟨name', none⟩
  | literal {name name' : String} (h : c.Twins name name') (index : Nat)
      (hindex : c.causes (.invalidArrayIndex spec) (.invalidArrayIndex other)) :
      c.TwinAccess spec other ⟨name, some (.literal index)⟩ ⟨name', some (.literal index)⟩
  | named {name name' index index' : String} (h : c.Twins name name')
      (hindex : c.Twins index index') :
      c.TwinAccess spec other ⟨name, some (.named index)⟩ ⟨name', some (.named index')⟩

theorem Twins.alike_lookupSymbol {name other : String} (h : c.Twins name other) {e f : Environment}
    (hef : c.environments e f) :
    Alike c.causes (fun x y : Symbol => y.unnamed = x.unnamed) (e.lookupSymbol name)
      (f.lookupSymbol other) := by
  have hfound := h.found_eq hef
  unfold Environment.lookupSymbol
  cases hx : (e.find? name).bind e.symbol? with
  | none =>
    rw [hx, Option.map_none, Option.map_eq_none_iff] at hfound
    rw [hfound]
    exact .error h.undeclared
  | some symbol =>
    rw [hx, Option.map_some, Option.map_eq_some_iff] at hfound
    obtain ⟨twin, htwin, heq⟩ := hfound
    rw [htwin]
    exact .ok heq

theorem matches_lookupSymbol {name other : String} (h : c.Twins name other) :
    c.Matches (fun x y : Symbol => y.unnamed = x.unnamed) (lookupSymbol name)
      (lookupSymbol other) := by
  apply Lockstep.current_bind
  intro s t hst
  exact Lockstep.ofExcept (h.alike_lookupSymbol hst.environment)

theorem matches_lookupVariable {name other : String} (h : c.Twins name other) :
    c.Matches (fun x y : Symbol => y.type = x.type ∧ y.offset = x.offset) (lookupVariable name)
      (lookupVariable other) := by
  apply (matches_lookupSymbol h).bind
  intro symbol twin heq
  have htype := Symbol.type_eq_of_unnamed heq
  rw [htype]
  split
  · exact Lockstep.pure ⟨htype, Symbol.offset_eq_of_unnamed heq⟩
  · exact Lockstep.fail fun _ => h.undeclared

theorem matches_resolve (h : c.Lawful) {spec other : String}
    (hparse : Alike c.causes (c.TwinAccess spec other) (Access.parse spec) (Access.parse other))
    (hremark : ∀ slot, c.Matches Eq (annotate (elementRemark spec slot))
      (annotate (elementRemark other slot))) :
    c.Matches Eq (resolve spec) (resolve other) := by
  apply (Lockstep.ofExcept hparse).bind
  intro access twin haccess
  cases haccess with
  | name hname =>
    apply (matches_lookupVariable hname).bind
    rintro ⟨_, type, offset, _⟩ ⟨_, _, _, _⟩ ⟨rfl, rfl⟩
    exact Lockstep.pure rfl
  | literal hname index hindex =>
    apply (matches_lookupVariable hname).bind
    rintro ⟨_, type, offset, _⟩ ⟨_, _, _, _⟩ ⟨rfl, rfl⟩
    dsimp only
    split
    · exact Lockstep.pure rfl
    · exact Lockstep.fail fun _ => hindex
  | named hname hsubscript =>
    apply (matches_lookupVariable hname).bind
    rintro ⟨_, type, base, _⟩ ⟨_, _, _, _⟩ ⟨rfl, rfl⟩
    apply (matches_lookupSymbol hsubscript).bind
    intro symbol twin heq
    rw [Symbol.offset_eq_of_unnamed heq]
    apply (matches_newTemporary h .int).bind_same
    intro slot
    apply (hremark slot).bind_same
    intro _
    apply (matches_emitAll h _).bind_same
    intro _
    exact Lockstep.pure rfl

/-! ### Declarations -/

/-- Where one of the declarators is bound, the other one may be bound too. -/
structure TwinDeclarator (c : Coupling) (declarator twin : Declarator) : Prop where
  words_eq : twin.words = declarator.words
  duplicate : ∀ offset, c.causes (.duplicateDeclaration declarator.name offset)
    (.duplicateDeclaration twin.name offset)
  homeless : c.causes (.noActiveScope declarator.name) (.noActiveScope twin.name)
  fresh : ∀ {e f}, c.environments e f → (e.findLocal? declarator.name).bind e.symbol? = none →
    (f.findLocal? twin.name).bind f.symbol? = none
  taken : c.strict → ∀ {e f}, c.environments e f →
    ((f.findLocal? twin.name).bind f.symbol?).map Symbol.unnamed =
      ((e.findLocal? declarator.name).bind e.symbol?).map Symbol.unnamed
  bound : ∀ {e f} (type : ValueType) (offset : Int), e.active ≠ [] → c.environments e f →
    c.environments (e.bound ⟨declarator.name, type, offset, declarator.words⟩)
      (f.bound ⟨twin.name, type, offset, declarator.words⟩)

theorem matches_requireFresh {declarator twin : Declarator}
    (h : c.TwinDeclarator declarator twin) :
    c.Matches Eq (requireFresh declarator.name) (requireFresh twin.name) := by
  intro s t hst
  cases hlocal : (s.environment.findLocal? declarator.name).bind s.environment.symbol? with
  | none =>
    have hfresh := h.fresh hst.environment hlocal
    exact Or.inl ⟨(), (), s, t, yields_requireFresh hlocal, yields_requireFresh hfresh, rfl, hst⟩
  | some previous =>
    refine Or.inr ⟨_, s, refuses_requireFresh hlocal, fun hstrict => ?_⟩
    have htaken := h.taken hstrict hst.environment
    rw [hlocal, Option.map_some, Option.map_eq_some_iff] at htaken
    obtain ⟨found, hfound, heq⟩ := htaken
    refine ⟨_, t, refuses_requireFresh hfound, ?_, hst⟩
    rw [Symbol.offset_eq_of_unnamed heq]
    exact h.duplicate previous.offset

theorem matches_declare (h : c.Lawful) {typeName spec other : String}
    (hparse : Alike c.causes c.TwinDeclarator (Declarator.parse spec) (Declarator.parse other))
    (hremark : ∀ type offset, c.Matches Eq (annotate (declarationRemark type spec offset))
      (annotate (declarationRemark type other offset))) :
    c.Matches Eq (declare typeName spec) (declare typeName other) := by
  apply Lockstep.bind_same
  · apply Lockstep.ofExcept
    unfold declaredType
    split
    · exact .ok rfl
    · exact .error (h.anonymous rfl)
  intro type
  apply (Lockstep.ofExcept hparse).bind
  rintro ⟨name, words⟩ ⟨twin, _⟩ hdeclarator
  obtain rfl := hdeclarator.words_eq
  apply (matches_requireFresh hdeclarator).bind_same
  intro _
  apply (matches_allocate h _).bind_same
  intro offset
  apply (Lockstep.report _ _).bind_same
  intro _
  apply (hremark type offset).bind_same
  intro _
  apply matches_inEnvironment
  exact lockstep_insert h hdeclarator.homeless (hdeclarator.bound type offset)

/-! ### Names that mean the same -/

/-- In coupled sessions every name means the same, and may be declared if it
    may be declared in the first one. -/
structure Transparent (c : Coupling) : Prop extends c.Lawful where
  cause : ∀ cause, c.causes cause cause
  twins : ∀ name, c.Twins name name
  declarators : ∀ declarator, c.TwinDeclarator declarator declarator

theorem Transparent.alike_parse (h : c.Transparent) (spec : String) :
    Alike c.causes (c.TwinAccess spec spec) (Access.parse spec) (Access.parse spec) := by
  cases Access.parse spec with
  | error cause => exact .error (h.cause cause)
  | ok access =>
    obtain ⟨name, subscript⟩ := access
    apply Alike.ok
    cases subscript with
    | none => exact .name (h.twins name)
    | some subscript =>
      cases subscript with
      | literal index => exact .literal (h.twins name) index (h.cause _)
      | named index => exact .named (h.twins name) (h.twins index)

/-- Only scopes are left to a particular coupling. -/
theorem Transparent.matches_rule (h : c.Transparent) {action : Action}
    (henter : action ≠ .enterScope) (hleave : action ≠ .leaveScope) :
    c.Matches Eq action.rule action.rule := by
  cases action with
  | enterScope => exact absurd rfl henter
  | leaveScope => exact absurd rfl hleave
  | declare typeName spec =>
    apply matches_reply
    apply matches_declare h.toLawful
    · cases Declarator.parse spec with
      | error cause => exact .error (h.cause cause)
      | ok declarator => exact .ok (h.declarators declarator)
    · intro type offset
      exact matches_annotate h.toLawful _
  | resolve spec =>
    apply matches_reply
    apply matches_resolve h.toLawful (h.alike_parse spec)
    intro slot
    exact matches_annotate h.toLawful _
  | _ => exact Coupling.matches_rule h.toLawful rfl

/-! ### Actions and runs -/

variable {s t : Journaled Session} {action other : Action}

/-- What succeeds in the first session succeeds in the second. -/
theorem Couples.perform_of_ok (hst : c.Couples s.state t.state)
    (hmatches : c.Matches Eq action.rule other.rule) (hlive : t.state.firstFault = none)
    {reply : Reply} (hok : (action.perform s).1 = .ok reply) :
    (other.perform t).1 = .ok reply ∧
      c.Couples (action.perform s).2.state (other.perform t).2.state := by
  have hlive' := (Action.live_of_ok hok).1
  rcases hmatches _ _ hst with
    ⟨answer, _, s', t', hs, ht, rfl, hst'⟩ | ⟨cause, s', hs, -⟩
  · obtain ⟨journal, hfirst⟩ := Action.perform_of_yields hlive' hs
    obtain ⟨journal', hsecond⟩ := Action.perform_of_yields hlive ht
    rw [hfirst] at hok
    cases hok
    rw [hfirst, hsecond]
    exact ⟨rfl, hst'⟩
  · obtain ⟨journal, hfails⟩ := Action.perform_of_refuses hlive' hs
    rw [hfails] at hok
    cases hok

/-- The sessions are coupled, and so are the faults they keep. -/
structure Together (c : Coupling) (s t : Journaled Session) : Prop where
  couples : c.Couples s.state t.state
  faults : Option.Rel c.causes s.state.firstFault t.state.firstFault

theorem Together.perform (h : c.Lawful) (hstrict : c.strict) (hst : c.Together s t)
    (hmatches : c.Matches Eq action.rule other.rule) :
    Alike c.causes Eq (action.perform s).1 (other.perform t).1 ∧
      c.Together (action.perform s).2 (other.perform t).2 := by
  obtain ⟨hcouples, hfaults⟩ := hst
  generalize hs : s.state.firstFault = fault, ht : t.state.firstFault = fault' at hfaults
  cases hfaults with
  | none =>
    rcases hmatches _ _ hcouples with
      ⟨reply, _, s', t', hfirst, hsecond, rfl, hst'⟩ | ⟨cause, s', hfirst, hfails⟩
    · obtain ⟨journal, hfirst⟩ := Action.perform_of_yields hs hfirst
      obtain ⟨journal', hsecond⟩ := Action.perform_of_yields ht hsecond
      have hlive := (Action.live_of_ok (congrArg Prod.fst hfirst)).2
      have hlive' := (Action.live_of_ok (congrArg Prod.fst hsecond)).2
      rw [hfirst] at hlive
      rw [hsecond] at hlive'
      rw [hfirst, hsecond]
      refine ⟨.ok rfl, hst', ?_⟩
      rw [hlive, hlive']
      exact .none
    · obtain ⟨cause', t', hsecond, hcause, hst'⟩ := hfails hstrict
      obtain ⟨journal, hfirst⟩ := Action.perform_of_refuses hs hfirst
      obtain ⟨journal', hsecond⟩ := Action.perform_of_refuses ht hsecond
      rw [hfirst, hsecond]
      refine ⟨.error hcause, ?_, .some hcause⟩
      exact ⟨hst'.environment, hst'.listing, hst'.frame_eq, hst'.pool_eq⟩
  | some hcause =>
    rw [Action.perform_of_aborted (by rw [hs]; nofun),
      Action.perform_of_aborted (by rw [ht]; nofun)]
    refine ⟨.error (h.anonymous rfl), hcouples, ?_⟩
    rw [hs, ht]
    exact .some hcause

/-- Runs of actions that match, one by one, match as a whole. -/
theorem Together.run (h : c.Lawful) (hstrict : c.strict) {actions others : List Action}
    (hmatches : List.Forall₂ (fun action other => c.Matches Eq action.rule other.rule) actions
      others) {s t : Journaled Session} (hst : c.Together s t) :
    List.Forall₂ (Alike c.causes Eq) (Action.run actions s).1 (Action.run others t).1 ∧
      c.Together (Action.run actions s).2 (Action.run others t).2 := by
  induction hmatches generalizing s t with
  | nil => exact ⟨.nil, hst⟩
  | cons hrule _ ih =>
    obtain ⟨hanswer, hnext⟩ := hst.perform h hstrict hrule
    obtain ⟨hanswers, hend⟩ := ih hnext
    exact ⟨.cons hanswer hanswers, hend⟩

end Coupling
end OnePass
