/-
  OnePass/Proofs/Change.lean
  ==========================
  **Changes** — everything an action can do to a session, said once.

  Every rule is a sequence of a few changes, each of which leaves a session with
  all its parts in step.  A rule that fails has made some changes, and may have
  taken words from the frame for a symbol that found no scope.  What holds of a
  new session and is kept by every change therefore holds after every run.
  `Action.Writes` lists the lines an action may write.
-/
import OnePass.Proofs.Outcome
import Mathlib.Logic.Relation

namespace OnePass

open Asm Step

/-! ### Straight lines and straight actions -/

/-- The label an instruction names. -/
def Asm.Instruction.reference? : Instruction → Option String
  | .la _ label => some label
  | .b label => some label
  | .beqz _ label => some label
  | _ => none

/-- The instruction may continue elsewhere than at the next line. -/
def Asm.Instruction.isBranch : Instruction → Bool
  | .b _ => true
  | .beqz _ _ => true
  | _ => false

/-- The line neither branches nor is branched to. -/
def Asm.Line.isStraight : Line → Bool
  | .instruction i => !i.isBranch
  | .label _ => false
  | _ => true

theorem Asm.Line.isStraight_of_reference? {i : Instruction} (h : i.reference? = none) :
    (Line.instruction i).isStraight = true := by
  cases i <;> first | rfl | cases h

/-- The action opens or leaves no scope and binds no name a program can write. -/
def Action.isQuiet : Action → Bool
  | .enterScope => false
  | .leaveScope => false
  | .declare _ _ => false
  | .stringLiteral _ => false
  | _ => true

/-- The action places no label and writes no branch. -/
def Action.isStraight : Action → Bool
  | .branchIfZero _ => false
  | .branchThenLabel _ => false
  | .branchAndLabel _ _ => false
  | .defineLabel _ => false
  | _ => true

namespace Session

def withVariable (session : Session) (type : ValueType) (declarator : Declarator)
    (grown : Frame) : Session :=
  { session with
    environment := session.environment.bound
      { name := declarator.name, type, offset := session.frame.cursor, words := declarator.words }
    frame := grown }

def withStringLabel (session : Session) : Session :=
  { session with
    environment := session.environment.drew.bound
      { name := generatedName .stringLabel session.environment.drawn, type := .string,
        offset := 0, words := 0 } }

/-- One thing done to a session.  Of lines only those allowed are written,
    and only with `scoping` are scopes opened or left, names of a program bound,
    or texts stored. -/
inductive Change (allowed : Line → Prop) (scoping : Prop) : Session → Session → Prop
  | entered (s : Session) (hscoping : scoping) :
      Change allowed scoping s
        { s with environment := { s.environment with active := ∅ :: s.environment.active } }
  | left {s : Session} (hactive : s.environment.active ≠ []) (hscoping : scoping) :
      Change allowed scoping s { s with environment := s.environment.left }
  | drew (s : Session) : Change allowed scoping s s.drew
  | temporary {s : Session} {type : ValueType} {grown : Frame} (htype : type.isScalar = true)
      (hroom : s.frame.grow? 1 = some grown) (hactive : s.environment.active ≠ []) :
      Change allowed scoping s (s.withTemporary type grown)
  | declared {s : Session} {type : ValueType} {spec : String} {declarator : Declarator}
      {grown : Frame} (htype : type.isScalar = true)
      (hparse : Declarator.parse spec = .ok declarator)
      (hfresh : (s.environment.findLocal? declarator.name).bind s.environment.symbol? = none)
      (hroom : s.frame.grow? declarator.words = some grown)
      (hactive : s.environment.active ≠ []) (hscoping : scoping) :
      Change allowed scoping s (s.withVariable type declarator grown)
  | stringLabel {s : Session} (hactive : s.environment.active ≠ []) (hscoping : scoping) :
      Change allowed scoping s s.withStringLabel
  | wrote (s : Session) {lines : List Line} (hlines : ∀ line ∈ lines, allowed line) :
      Change allowed scoping s (s.wrote lines)
  | stored (s : Session) (entry : StringEntry) (hscoping : scoping) :
      Change allowed scoping s
        { s with listing := { s.listing with strings := s.listing.strings.push entry } }
  | rotated (s : Session) (pool : AddressPool) : Change allowed scoping s { s with pool := pool }

def Changes (allowed : Line → Prop) (scoping : Prop) : Session → Session → Prop :=
  Relation.ReflTransGen (Change allowed scoping)

/-- What a failing rule leaves: some changes, and perhaps words that belong to
    no symbol. -/
def Falls (allowed : Line → Prop) (scoping : Prop) (s t : Session) : Prop :=
  ∃ u, Changes allowed scoping s u ∧
    (t = u ∨ ∃ words grown, u.frame.grow? words = some grown ∧ t = { u with frame := grown })

variable {allowed : Line → Prop} {scoping : Prop} {s t u : Session}

theorem Changes.refl (s : Session) : Changes allowed scoping s s := Relation.ReflTransGen.refl

theorem Changes.single (h : Change allowed scoping s t) : Changes allowed scoping s t :=
  Relation.ReflTransGen.single h

theorem Changes.trans (hst : Changes allowed scoping s t) (htu : Changes allowed scoping t u) :
    Changes allowed scoping s u :=
  Relation.ReflTransGen.trans hst htu

theorem Changes.falls (h : Changes allowed scoping s t) : Falls allowed scoping s t :=
  ⟨t, h, Or.inl rfl⟩

theorem Changes.trans_falls (hst : Changes allowed scoping s t) (htu : Falls allowed scoping t u) :
    Falls allowed scoping s u := by
  obtain ⟨v, htv, hlost⟩ := htu
  exact ⟨v, hst.trans htv, hlost⟩

/-- The changes are the same if more lines are allowed. -/
theorem Change.mono {more : Line → Prop} (hmore : ∀ line, allowed line → more line)
    (h : Change allowed scoping s t) : Change more scoping s t := by
  cases h with
  | entered hscoping => exact .entered s hscoping
  | left hactive hscoping => exact .left hactive hscoping
  | drew => exact .drew s
  | temporary htype hroom hactive => exact .temporary htype hroom hactive
  | declared htype hparse hfresh hroom hactive hscoping =>
    exact .declared htype hparse hfresh hroom hactive hscoping
  | stringLabel hactive hscoping => exact .stringLabel hactive hscoping
  | wrote hlines => exact .wrote s fun line hline => hmore line (hlines line hline)
  | stored entry hscoping => exact .stored s entry hscoping
  | rotated pool => exact .rotated s pool

/-- What every change keeps, any number of them keeps. -/
theorem Changes.keeps {I : Session → Prop}
    (hkeep : ∀ {s t}, Change allowed scoping s t → I s → I t)
    (h : Changes allowed scoping s t) (hs : I s) : I t := by
  induction h with
  | refl => exact hs
  | tail _ hchange ih => exact hkeep hchange ih

theorem Changes.mono {more : Line → Prop} (hmore : ∀ line, allowed line → more line)
    (h : Changes allowed scoping s t) : Changes more scoping s t :=
  h.keeps (I := Changes more scoping s)
    (fun hchange ht => ht.trans (.single (hchange.mono hmore))) (.refl s)

theorem Change.firstFault_eq (h : Change allowed scoping s t) : t.firstFault = s.firstFault := by
  cases h <;> rfl

/-- A symbol keeps its number and everything it has. -/
theorem Change.symbol?_eq {id : SymbolId} {symbol : Symbol} (h : Change allowed scoping s t)
    (hs : s.environment.symbol? id = some symbol) : t.environment.symbol? id = some symbol := by
  cases h with
  | temporary => exact Environment.getElem?_push_of_some hs
  | declared => exact Environment.getElem?_push_of_some hs
  | stringLabel => exact Environment.getElem?_push_of_some hs
  | _ => exact hs

theorem Change.drawn_le (h : Change allowed scoping s t) :
    s.environment.drawn ≤ t.environment.drawn := by
  cases h with
  | drew => exact Nat.le_succ _
  | temporary => exact Nat.le_succ _
  | stringLabel => exact Nat.le_succ _
  | _ => exact Nat.le_refl _

theorem Change.body_eq (h : Change allowed scoping s t) :
    ∃ lines, t.body = s.body ++ lines ∧ ∀ line ∈ lines, allowed line := by
  cases h with
  | wrote hlines => exact ⟨_, body_wrote s _, hlines⟩
  | _ => exact ⟨[], (List.append_nil s.body).symm, List.forall_mem_nil _⟩

theorem Changes.firstFault_eq (h : Changes allowed scoping s t) : t.firstFault = s.firstFault :=
  h.keeps (I := fun t => t.firstFault = s.firstFault) (fun hc ht => hc.firstFault_eq.trans ht) rfl

theorem Changes.symbol?_eq {id : SymbolId} {symbol : Symbol} (h : Changes allowed scoping s t)
    (hs : s.environment.symbol? id = some symbol) : t.environment.symbol? id = some symbol :=
  h.keeps (I := fun t => t.environment.symbol? id = some symbol)
    (fun hchange ht => hchange.symbol?_eq ht) hs

theorem Changes.drawn_le (h : Changes allowed scoping s t) :
    s.environment.drawn ≤ t.environment.drawn :=
  h.keeps (I := fun t => s.environment.drawn ≤ t.environment.drawn)
    (fun hchange ht => Nat.le_trans ht hchange.drawn_le) (Nat.le_refl _)

theorem Changes.body_eq (h : Changes allowed scoping s t) :
    ∃ lines, t.body = s.body ++ lines ∧ ∀ line ∈ lines, allowed line := by
  induction h with
  | refl => exact ⟨[], (List.append_nil s.body).symm, List.forall_mem_nil _⟩
  | tail _ hchange ih =>
    obtain ⟨first, hbody, hfirst⟩ := ih
    obtain ⟨second, hmore, hsecond⟩ := hchange.body_eq
    refine ⟨first ++ second, by rw [hmore, hbody, List.append_assoc], fun line hline => ?_⟩
    exact (List.mem_append.mp hline).elim (hfirst line) (hsecond line)

theorem Falls.firstFault_eq (h : Falls allowed scoping s t) : t.firstFault = s.firstFault := by
  obtain ⟨u, hchanges, rfl | ⟨words, grown, hgrow, rfl⟩⟩ := h
  · exact hchanges.firstFault_eq
  · exact hchanges.firstFault_eq

theorem Falls.symbol?_eq {id : SymbolId} {symbol : Symbol} (h : Falls allowed scoping s t)
    (hs : s.environment.symbol? id = some symbol) : t.environment.symbol? id = some symbol := by
  obtain ⟨u, hchanges, rfl | ⟨words, grown, hgrow, rfl⟩⟩ := h
  · exact hchanges.symbol?_eq hs
  · exact hchanges.symbol?_eq hs

theorem Falls.drawn_le (h : Falls allowed scoping s t) :
    s.environment.drawn ≤ t.environment.drawn := by
  obtain ⟨u, hchanges, rfl | ⟨words, grown, hgrow, rfl⟩⟩ := h
  · exact hchanges.drawn_le
  · exact hchanges.drawn_le

/-- What every change keeps of the environment, a failing rule keeps. -/
theorem Falls.keeps {I : Environment → Prop}
    (hkeep : ∀ {s t}, Change allowed scoping s t → I s.environment → I t.environment)
    (h : Falls allowed scoping s t) (hs : I s.environment) : I t.environment := by
  obtain ⟨u, hchanges, hlost⟩ := h
  have hu : I u.environment := Changes.keeps (I := fun u => I u.environment) hkeep hchanges hs
  obtain rfl | ⟨words, grown, -, rfl⟩ := hlost
  · exact hu
  · exact hu

theorem Falls.body_eq (h : Falls allowed scoping s t) :
    ∃ lines, t.body = s.body ++ lines ∧ ∀ line ∈ lines, allowed line := by
  obtain ⟨u, hchanges, rfl | ⟨words, grown, hgrow, rfl⟩⟩ := h
  · exact hchanges.body_eq
  · exact hchanges.body_eq

/-! ### Steps made of changes -/

/-- Whatever its outcome, the step is a sequence of changes. -/
def Tracked {α : Type} (allowed : Line → Prop) (scoping : Prop) (step : Step Session α) : Prop :=
  ∀ s, (∃ a t, Yields step s a t ∧ Changes allowed scoping s t) ∨
    ∃ cause t, Refuses step s cause t ∧ Falls allowed scoping s t

namespace Tracked

variable {α β : Type}

theorem of_yields {step : Step Session α}
    (h : ∀ s, ∃ a t, Yields step s a t ∧ Changes allowed scoping s t) :
    Tracked allowed scoping step :=
  fun s => Or.inl (h s)

theorem pure (a : α) : Tracked allowed scoping (Pure.pure a : Step Session α) :=
  of_yields fun s => ⟨a, s, yields_pure a s, .refl s⟩

theorem fail (cause : Fault) : Tracked allowed scoping (Step.fail cause : Step Session α) :=
  fun s => Or.inr ⟨cause, s, refuses_fail cause s, (Changes.refl s).falls⟩

theorem ofExcept (result : Except Fault α) : Tracked allowed scoping (Step.ofExcept result) := by
  cases result with
  | ok a => exact pure a
  | error cause => exact fail cause

theorem bind {step : Step Session α} {next : α → Step Session β} (h : Tracked allowed scoping step)
    (hnext : ∀ a, Tracked allowed scoping (next a)) : Tracked allowed scoping (step >>= next) := by
  intro s
  rcases h s with ⟨a, t, hyields, hchanges⟩ | ⟨cause, t, hrefuses, hfalls⟩
  · rcases hnext a t with ⟨b, u, hthen, hmore⟩ | ⟨cause, u, hthen, hmore⟩
    · exact Or.inl ⟨b, u, hyields.bind hthen, hchanges.trans hmore⟩
    · exact Or.inr ⟨cause, u, hyields.bind_refuses hthen, hchanges.trans_falls hmore⟩
  · exact Or.inr ⟨cause, t, hrefuses.bind, hfalls⟩

theorem current_bind {next : Session → Step Session β} (h : ∀ s, Tracked allowed scoping (next s)) :
    Tracked allowed scoping (current >>= next) :=
  fun s => h s s

theorem mono {step : Step Session α} {more : Line → Prop}
    (hmore : ∀ line, allowed line → more line) (h : Tracked allowed scoping step) :
    Tracked more scoping step := by
  intro s
  rcases h s with ⟨a, t, hyields, hchanges⟩ | ⟨cause, t, hrefuses, u, hchanges, hlost⟩
  · exact Or.inl ⟨a, t, hyields, hchanges.mono hmore⟩
  · exact Or.inr ⟨cause, t, hrefuses, u, hchanges.mono hmore, hlost⟩

/-- A step made of changes that succeeds has made them. -/
theorem changes_of_ok {step : Step Session α} {s t : Journaled Session} {a : α}
    (h : Tracked allowed scoping step) (hok : step s = .ok a t) :
    Changes allowed scoping s.state t.state := by
  rcases h s.state with ⟨b, u, hyields, hchanges⟩ | ⟨cause, u, hrefuses, -⟩
  · obtain ⟨-, heq⟩ := hyields.eq_of_ok hok
    rw [heq]
    exact hchanges
  · exact absurd hok hrefuses.ne_ok

end Tracked

/-! ### Remarks -/

/-- The remark a declaration writes when annotations are on. -/
def declarationRemark (type : ValueType) (spec : String) (offset : Int) : String :=
  type.name ++ " " ++ spec ++ " at " ++ toString offset

/-- The remark a reference to an element writes when annotations are on. -/
def elementRemark (spec : String) (slot : Int) : String := "&" ++ spec ++ " -> " ++ toString slot

/-- The remark an operator writes when annotations are on. -/
def resultRemark (operator : Operator) (offset : Int) : String :=
  operator.name ++ " -> " ++ toString offset

/-! ### Rules made of changes -/

section Rules

variable (hplain : ∀ i : Instruction, i.reference? = none → allowed (.instruction i))

include hplain in
theorem tracked_emitAll {code : List Instruction} (h : ∀ i ∈ code, i.reference? = none) :
    Tracked allowed scoping (emitAll code) := by
  refine Tracked.of_yields fun s => ⟨(), _, yields_emitAll code s, .single (.wrote s ?_)⟩
  intro line hline
  obtain ⟨i, hi, rfl⟩ := List.mem_map.mp hline
  exact hplain i (h i hi)

include hplain in
theorem tracked_emit {i : Instruction} (h : i.reference? = none) :
    Tracked allowed scoping (emit i) := by
  refine Tracked.of_yields fun s => ⟨(), _, yields_emit i s, .single (.wrote s ?_)⟩
  intro line hline
  rw [List.mem_singleton.mp hline]
  exact hplain i h

theorem tracked_line {line : Line} (h : allowed line) :
    Tracked allowed scoping (inListing (Listing.emit line)) := by
  refine Tracked.of_yields fun s => ⟨(), _, yields_line line s, .single (.wrote s ?_)⟩
  intro written hwritten
  rw [List.mem_singleton.mp hwritten]
  exact h

theorem changes_remarked {text : String} (h : allowed (.remark text)) (s : Session) :
    Changes allowed scoping s (s.remarked text) := by
  by_cases hannotated : s.listing.annotated = true
  · rw [remarked_of_annotated hannotated]
    refine .single (.wrote s ?_)
    intro line hline
    rw [List.mem_singleton.mp hline]
    exact h
  · rw [remarked_of_plain (by simpa using hannotated)]
    exact .refl s

theorem tracked_annotate {text : String} (h : allowed (.remark text)) :
    Tracked allowed scoping (annotate text) :=
  Tracked.of_yields fun s => ⟨(), _, yields_annotate text s, changes_remarked h s⟩

/-- The label that was drawn is known by its number. -/
theorem tracked_newLabel_bind {α : Type} {next : String → Step Session α}
    (h : ∀ number, Tracked allowed scoping (next (generatedName .branchLabel number))) :
    Tracked allowed scoping (newLabel >>= next) := by
  intro s
  have hdrew : Changes allowed scoping s s.drew := .single (.drew s)
  rcases h s.environment.drawn s.drew with
    ⟨a, t, hyields, hchanges⟩ | ⟨cause, t, hrefuses, hfalls⟩
  · exact Or.inl ⟨a, t, (yields_newLabel s).bind hyields, hdrew.trans hchanges⟩
  · exact Or.inr ⟨cause, t, (yields_newLabel s).bind_refuses hrefuses, hdrew.trans_falls hfalls⟩

theorem tracked_newTemporary {type : ValueType} (htype : type.isScalar = true) :
    Tracked allowed scoping (newTemporary type) := by
  intro s
  cases hroom : s.frame.grow? 1 with
  | none =>
    exact Or.inr ⟨_, s, refuses_newTemporary_of_no_room hroom, (Changes.refl s).falls⟩
  | some grown =>
    by_cases hactive : s.environment.active = []
    · refine Or.inr ⟨_, _, refuses_newTemporary_of_no_scope hroom hactive, s.drew, ?_, ?_⟩
      · exact .single (.drew s)
      · exact Or.inr ⟨1, grown, hroom, rfl⟩
    · exact Or.inl ⟨_, _, yields_newTemporary hroom hactive,
        .single (.temporary htype hroom hactive)⟩

theorem tracked_acquire : Tracked allowed scoping (inPool AddressPool.acquire) := by
  intro s
  cases hfree : s.pool.acquire? with
  | none => exact Or.inr ⟨_, s, refuses_acquire hfree, (Changes.refl s).falls⟩
  | some taken => exact Or.inl ⟨_, _, yields_acquire hfree, .single (.rotated s taken.2)⟩

theorem tracked_release (target : Operand) : Tracked allowed scoping (release target) := by
  cases target with
  | slot offset => exact Tracked.pure ()
  | through r =>
    exact Tracked.of_yields fun s => ⟨(), _, yields_release r s, .single (.rotated s _)⟩

theorem tracked_requireScalar (record : Record) (role : String) :
    Tracked allowed scoping (requireScalar record role) := by
  unfold requireScalar
  split
  · exact Tracked.pure ()
  · exact Tracked.fail _

include hplain in
theorem tracked_operand (record : Record) (role : String) :
    Tracked allowed scoping (operand record role) := by
  refine (tracked_requireScalar record role).bind fun _ => ?_
  split
  · exact Tracked.pure _
  · refine tracked_acquire.bind fun r => ?_
    exact (tracked_emitAll hplain (by simp [addressCode, Instruction.reference?])).bind fun _ =>
      Tracked.pure _
  · exact Tracked.fail _

theorem tracked_lookupSymbol (name : String) : Tracked allowed scoping (lookupSymbol name) :=
  Tracked.current_bind fun _ => Tracked.ofExcept _

theorem tracked_lookupVariable (name : String) : Tracked allowed scoping (lookupVariable name) := by
  refine (tracked_lookupSymbol name).bind fun symbol => ?_
  split
  · exact Tracked.pure _
  · exact Tracked.fail _

include hplain in
theorem tracked_resolve {spec : String}
    (hremark : ∀ slot, allowed (.remark (elementRemark spec slot))) :
    Tracked allowed scoping (resolve spec) := by
  refine (Tracked.ofExcept _).bind fun access => ?_
  refine (tracked_lookupVariable access.name).bind fun symbol => ?_
  split
  · exact Tracked.pure _
  · split
    · exact Tracked.pure _
    · exact Tracked.fail _
  · next name _ =>
    refine (tracked_lookupSymbol name).bind fun index => ?_
    refine (tracked_newTemporary rfl).bind fun slot => ?_
    refine (tracked_annotate (hremark slot)).bind fun _ => ?_
    exact (tracked_emitAll hplain (by simp [elementCode, Instruction.reference?])).bind fun _ =>
      Tracked.pure _

include hplain in
theorem tracked_scalarLiteral {type : ValueType} (htype : type.isScalar = true) (value : Int) :
    Tracked allowed scoping (scalarLiteral type value) := by
  refine (tracked_newTemporary htype).bind fun offset => ?_
  exact (tracked_emitAll hplain (by simp [Instruction.reference?])).bind fun _ => Tracked.pure _

theorem tracked_stringLiteral (hscoping : scoping) (text : String) :
    Tracked allowed scoping (stringLiteral text) := by
  intro s
  by_cases hactive : s.environment.active = []
  · refine Or.inr ⟨_, _, (refuses_inEnvironment
      (Environment.refuses_newStringLabel hactive)).bind, Changes.falls ?_⟩
    exact .single (.drew s)
  · have hlabel := yields_inEnvironment (Environment.yields_newStringLabel hactive)
    refine Or.inl ⟨_, _, hlabel.bind ((yields_addString _ _).bind (yields_pure _ _)), ?_⟩
    exact (Changes.single (.stringLabel hactive hscoping)).trans
      (.single (.stored s.withStringLabel _ hscoping))

theorem reference?_code (operator : Operator) : ∀ i ∈ operator.code, i.reference? = none := by
  cases operator <;> simp [Operator.code, Instruction.reference?]

include hplain in
theorem tracked_apply {operator : Operator}
    (hremark : ∀ offset, allowed (.remark (resultRemark operator offset))) (left right : Record) :
    Tracked allowed scoping (apply operator left right) := by
  refine (tracked_requireScalar left _).bind fun _ => ?_
  refine (tracked_requireScalar right _).bind fun _ => ?_
  refine (tracked_newTemporary rfl).bind fun result => ?_
  refine (tracked_annotate (hremark result)).bind fun _ => ?_
  refine (tracked_operand hplain left _).bind fun lhs => ?_
  refine (tracked_operand hplain right _).bind fun rhs => ?_
  refine (tracked_emitAll hplain (by simp [Instruction.reference?])).bind fun _ => ?_
  refine (tracked_release lhs).bind fun _ => ?_
  refine (tracked_release rhs).bind fun _ => ?_
  refine (tracked_emitAll hplain (reference?_code operator)).bind fun _ => ?_
  exact (tracked_emit hplain rfl).bind fun _ => Tracked.pure _

include hplain in
theorem tracked_assign (target value : Record) : Tracked allowed scoping (assign target value) := by
  unfold assign
  split
  · refine (tracked_operand hplain target _).bind fun destination => ?_
    refine (tracked_operand hplain value _).bind fun source => ?_
    refine (tracked_emitAll hplain (by simp [Instruction.reference?])).bind fun _ => ?_
    exact (tracked_release source).bind fun _ => tracked_release destination
  · exact Tracked.fail _

include hplain in
theorem tracked_read (target : Record) : Tracked allowed scoping (read target) := by
  unfold read
  split
  · exact Tracked.fail _
  · refine (tracked_operand hplain target _).bind fun destination => ?_
    refine (tracked_emitAll hplain ?_).bind fun _ => tracked_release destination
    simp [Instruction.select, Instruction.reference?]

include hplain in
theorem tracked_write {value : Record}
    (haddress : ∀ name, value.place = .label name → allowed (.instruction (.la .a0 name))) :
    Tracked allowed scoping (write value) := by
  unfold write
  split
  · next name hplace =>
    have hprint : Tracked allowed scoping (emitAll [.select .printString, .syscall]) :=
      tracked_emitAll hplain (by simp [Instruction.select, Instruction.reference?])
    exact (tracked_line (haddress name hplace)).bind fun _ => hprint
  · refine (tracked_operand hplain value _).bind fun source => ?_
    refine (tracked_emit hplain rfl).bind fun _ => ?_
    refine (tracked_release source).bind fun _ => ?_
    exact tracked_emitAll hplain (by simp [Instruction.select, Instruction.reference?])

include hplain in
theorem tracked_newline : Tracked allowed scoping newline :=
  tracked_emitAll hplain (by simp [Instruction.select, Instruction.reference?])

include hplain in
theorem tracked_branchIfZero
    (hbranch : ∀ number,
      allowed (.instruction (.beqz (.t 0) (generatedName .branchLabel number))))
    (condition : Record) : Tracked allowed scoping (branchIfZero condition) := by
  refine tracked_newLabel_bind fun number => ?_
  refine (tracked_operand hplain condition _).bind fun source => ?_
  refine (tracked_emit hplain rfl).bind fun _ => ?_
  refine (tracked_release source).bind fun _ => ?_
  exact (tracked_line (hbranch number)).bind fun _ => Tracked.pure _

end Rules

/-! ### Declarations -/

/-- What a declaration has checked when it takes words from the frame. -/
structure Declarable (s : Session) (typeName spec : String) (type : ValueType)
    (declarator : Declarator) (grown : Frame) : Prop where
  type_eq : ValueType.ofName? typeName = some type
  parse_eq : Declarator.parse spec = .ok declarator
  fresh : (s.environment.findLocal? declarator.name).bind s.environment.symbol? = none
  room : s.frame.grow? declarator.words = some grown

theorem yields_requireFresh {s : Session} {name : String}
    (h : (s.environment.findLocal? name).bind s.environment.symbol? = none) :
    Yields (requireFresh name) s () s := by
  refine Yields.current_bind ?_
  simp only [h]
  exact yields_pure () s

theorem refuses_requireFresh {s : Session} {name : String} {previous : Symbol}
    (h : (s.environment.findLocal? name).bind s.environment.symbol? = some previous) :
    Refuses (requireFresh name) s (.duplicateDeclaration name previous.offset) s := by
  refine Refuses.current_bind ?_
  simp only [h]
  exact refuses_fail _ s

theorem yields_declaredType {s : Session} {typeName : String} {type : ValueType}
    (h : ValueType.ofName? typeName = some type) :
    Yields (Step.ofExcept (declaredType typeName)) s type s :=
  yields_ofExcept (by simp only [declaredType, h]) s

theorem yields_declare {s : Session} {typeName spec : String} {type : ValueType}
    {declarator : Declarator} {grown : Frame}
    (h : Declarable s typeName spec type declarator grown) (hactive : s.environment.active ≠ []) :
    Yields (declare typeName spec) s s.environment.symbols.size
      ((s.remarked (declarationRemark type spec s.frame.cursor)).withVariable type declarator
        grown) := by
  refine (yields_declaredType h.type_eq).bind ?_
  refine (yields_ofExcept h.parse_eq s).bind ?_
  refine (yields_requireFresh h.fresh).bind ?_
  refine (yields_allocate h.room).bind ?_
  refine (yields_report _ _).bind ?_
  refine (yields_annotate _ _).bind ?_
  exact yields_inEnvironment (Environment.yields_insert _ hactive)

/-- Without a scope the words are taken all the same. -/
theorem refuses_declare_of_no_scope {s : Session} {typeName spec : String} {type : ValueType}
    {declarator : Declarator} {grown : Frame}
    (h : Declarable s typeName spec type declarator grown) (hactive : s.environment.active = []) :
    Refuses (declare typeName spec) s (.noActiveScope declarator.name)
      { s.remarked (declarationRemark type spec s.frame.cursor) with frame := grown } := by
  refine (yields_declaredType h.type_eq).bind_refuses ?_
  refine (yields_ofExcept h.parse_eq s).bind_refuses ?_
  refine (yields_requireFresh h.fresh).bind_refuses ?_
  refine (yields_allocate h.room).bind_refuses ?_
  refine (yields_report _ _).bind_refuses ?_
  refine (yields_annotate _ _).bind_refuses ?_
  exact refuses_inEnvironment (Environment.refuses_insert _ hactive)

theorem refuses_declare_of_type {s : Session} {typeName spec : String}
    (htype : ValueType.ofName? typeName = none) :
    Refuses (declare typeName spec) s (.invalidType typeName) s :=
  (refuses_ofExcept (by simp only [declaredType, htype]) s).bind

section Typed

variable {s : Session} {typeName spec : String} {type : ValueType}
  (htype : ValueType.ofName? typeName = some type)

include htype in
theorem refuses_declare_of_form {cause : Fault} (hparse : Declarator.parse spec = .error cause) :
    Refuses (declare typeName spec) s cause s :=
  (yields_declaredType htype).bind_refuses (refuses_ofExcept hparse s).bind

variable {declarator : Declarator} (hparse : Declarator.parse spec = .ok declarator)

include htype hparse in
theorem refuses_declare_of_duplicate {previous : Symbol}
    (hbound : (s.environment.findLocal? declarator.name).bind s.environment.symbol? =
      some previous) :
    Refuses (declare typeName spec) s (.duplicateDeclaration declarator.name previous.offset) s :=
  (yields_declaredType htype).bind_refuses
    ((yields_ofExcept hparse s).bind_refuses (refuses_requireFresh hbound).bind)

include htype hparse in
theorem refuses_declare_of_no_room
    (hfresh : (s.environment.findLocal? declarator.name).bind s.environment.symbol? = none)
    (hroom : s.frame.grow? declarator.words = none) :
    Refuses (declare typeName spec) s (.frameOverflow declarator.words) s :=
  (yields_declaredType htype).bind_refuses
    ((yields_ofExcept hparse s).bind_refuses
      ((yields_requireFresh hfresh).bind_refuses (refuses_allocate hroom).bind))

end Typed

/-- A declaration that fails a check leaves everything as it was. -/
theorem declarable_or_refuses (s : Session) (typeName spec : String) :
    (∃ type declarator grown, Declarable s typeName spec type declarator grown) ∨
      ∃ cause, Refuses (declare typeName spec) s cause s := by
  cases htype : ValueType.ofName? typeName with
  | none => exact Or.inr ⟨_, refuses_declare_of_type htype⟩
  | some type =>
    cases hparse : Declarator.parse spec with
    | error cause => exact Or.inr ⟨cause, refuses_declare_of_form htype hparse⟩
    | ok declarator =>
      cases hfresh : (s.environment.findLocal? declarator.name).bind s.environment.symbol? with
      | some previous => exact Or.inr ⟨_, refuses_declare_of_duplicate htype hparse hfresh⟩
      | none =>
        cases hroom : s.frame.grow? declarator.words with
        | none => exact Or.inr ⟨_, refuses_declare_of_no_room htype hparse hfresh hroom⟩
        | some grown => exact Or.inl ⟨type, declarator, grown, htype, hparse, hfresh, hroom⟩

theorem tracked_declare {spec : String}
    (hremark : ∀ type offset, allowed (.remark (declarationRemark type spec offset)))
    (hscoping : scoping) (typeName : String) :
    Tracked allowed scoping (declare typeName spec) := by
  intro s
  rcases declarable_or_refuses s typeName spec with ⟨type, declarator, grown, h⟩ | ⟨cause, h⟩
  · have hremarked : Changes allowed scoping s _ :=
      changes_remarked (hremark type s.frame.cursor) s
    by_cases hactive : s.environment.active = []
    · exact Or.inr ⟨_, _, refuses_declare_of_no_scope h hactive, _, hremarked,
        Or.inr ⟨declarator.words, grown, h.room, rfl⟩⟩
    · have hscalar := (ValueType.ofName?_eq_some_iff.mp h.type_eq).1
      exact Or.inl ⟨_, _, yields_declare h hactive,
        hremarked.trans (.single (.declared hscalar h.parse_eq h.fresh h.room hactive hscoping))⟩
  · exact Or.inr ⟨cause, s, h, (Changes.refl s).falls⟩

end Session

namespace Action

open Session

variable {allowed : Line → Prop} {scoping : Prop}

/-- The lines an action may write. -/
inductive Writes : Action → Line → Prop
  /-- Most instructions name no label. -/
  | plain {action : Action} {i : Instruction} (h : i.reference? = none) :
      Writes action (.instruction i)
  | address {type : ValueType} {name : String} :
      Writes (.write ⟨type, .label name⟩) (.instruction (.la .a0 name))
  | zero {condition : Record} (number : Nat) :
      Writes (.branchIfZero condition)
        (.instruction (.beqz (.t 0) (generatedName .branchLabel number)))
  | forward {pending : String} (number : Nat) :
      Writes (.branchThenLabel pending) (.instruction (.b (generatedName .branchLabel number)))
  | pending {pending : String} : Writes (.branchThenLabel pending) (.label pending)
  | back {target label : String} : Writes (.branchAndLabel target label) (.instruction (.b target))
  | behind {target label : String} : Writes (.branchAndLabel target label) (.label label)
  | drawn (number : Nat) :
      Writes (.defineLabel none) (.label (generatedName .branchLabel number))
  | given {name : String} : Writes (.defineLabel (some name)) (.label name)
  | declared {typeName spec : String} (type : ValueType) (offset : Int) :
      Writes (.declare typeName spec) (.remark (declarationRemark type spec offset))
  | element {spec : String} (slot : Int) :
      Writes (.resolve spec) (.remark (elementRemark spec slot))
  | result {operator : Operator} {left right : Record} (offset : Int) :
      Writes (.apply operator left right) (.remark (resultRemark operator offset))

theorem Writes.isStraight {action : Action} {line : Line} (h : action.Writes line)
    (haction : action.isStraight = true) : line.isStraight = true := by
  cases h with
  | plain h => exact Line.isStraight_of_reference? h
  | address => rfl
  | declared => rfl
  | element => rfl
  | result => rfl
  | _ => cases haction

/-- Whatever an action does, it does by changes.  A quiet one leaves scopes and
    names alone. -/
theorem tracked_writes (action : Action) (hnames : action.isQuiet = true ∨ scoping) :
    Tracked action.Writes scoping action.rule := by
  have hplain : ∀ i : Instruction, i.reference? = none → action.Writes (.instruction i) :=
    fun _ h => .plain h
  cases action with
  | enterScope =>
    have hscoping := hnames.resolve_left nofun
    refine Tracked.bind (Tracked.of_yields fun s => ?_) fun _ => Tracked.pure _
    exact ⟨(), _, yields_inEnvironment (Environment.yields_enterScope _),
      .single (.entered s hscoping)⟩
  | leaveScope =>
    have hscoping := hnames.resolve_left nofun
    refine Tracked.bind (fun s => ?_) fun _ => Tracked.pure _
    by_cases hactive : s.environment.active = []
    · exact Or.inr ⟨_, s, refuses_inEnvironment (Environment.refuses_leaveScope hactive),
        (Changes.refl s).falls⟩
    · exact Or.inl ⟨(), _, yields_inEnvironment (Environment.yields_leaveScope hactive),
        .single (.left hactive hscoping)⟩
  | declare typeName spec =>
    have hscoping := hnames.resolve_left nofun
    exact (tracked_declare .declared hscoping typeName).bind fun _ => Tracked.pure _
  | resolve spec => exact (tracked_resolve hplain .element).bind fun _ => Tracked.pure _
  | intLiteral value =>
    exact (tracked_scalarLiteral hplain rfl value).bind fun _ => Tracked.pure _
  | charLiteral value =>
    exact (tracked_scalarLiteral hplain rfl value.toNat).bind fun _ => Tracked.pure _
  | stringLiteral text =>
    have hscoping := hnames.resolve_left nofun
    exact (tracked_stringLiteral hscoping text).bind fun _ => Tracked.pure _
  | apply operator left right =>
    exact (tracked_apply hplain .result left right).bind fun _ => Tracked.pure _
  | assign target value =>
    exact (tracked_assign hplain target value).bind fun _ => Tracked.pure _
  | branchIfZero condition =>
    exact (tracked_branchIfZero hplain .zero condition).bind fun _ => Tracked.pure _
  | branchThenLabel pending =>
    refine Tracked.bind ?_ fun _ => Tracked.pure _
    refine tracked_newLabel_bind fun number => ?_
    refine (tracked_line (.forward number)).bind fun _ => ?_
    exact (tracked_line .pending).bind fun _ => Tracked.pure _
  | branchAndLabel target label =>
    refine Tracked.bind ?_ fun _ => Tracked.pure _
    exact (tracked_line .back).bind fun _ => tracked_line .behind
  | defineLabel name =>
    refine Tracked.bind ?_ fun _ => Tracked.pure _
    cases name with
    | none =>
      refine tracked_newLabel_bind fun number => ?_
      exact (tracked_line (.drawn number)).bind fun _ => Tracked.pure _
    | some given =>
      have hplace : Tracked (Writes (.defineLabel (some given))) scoping
          (inListing (Listing.emit (.label given)) >>= fun _ => Pure.pure given) :=
        (tracked_line .given).bind fun _ => Tracked.pure given
      exact hplace
  | read target => exact (tracked_read hplain target).bind fun _ => Tracked.pure _
  | write value =>
    rcases value with ⟨type, place⟩
    refine (tracked_write hplain ?_).bind fun _ => Tracked.pure _
    rintro name rfl
    exact .address
  | newline => exact (tracked_newline hplain).bind fun _ => Tracked.pure _

/-- A straight action writes straight lines only. -/
theorem tracked_rule (hstraight : ∀ line : Line, line.isStraight = true → allowed line)
    (action : Action) (hflow : action.isStraight = true ∨ ∀ line, allowed line)
    (hnames : action.isQuiet = true ∨ scoping) :
    Tracked allowed scoping action.rule := by
  refine (action.tracked_writes hnames).mono ?_
  intro line h
  rcases hflow with haction | hall
  · exact hstraight line (h.isStraight haction)
  · exact hall line

theorem tracked (action : Action) : Tracked (fun _ => True) True action.rule :=
  tracked_rule (fun _ _ => trivial) action (Or.inr fun _ => trivial) (Or.inr trivial)

end Action

end OnePass
