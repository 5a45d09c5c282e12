/-
  OnePass/Proofs/History.lean
  ===========================
  **History is kept** — a session only ever adds.

  Lines, texts, symbols and scopes that were left stay where they are, whatever
  is done and whether or not it fails.  Scopes hold numbers of symbols that have
  their names, and no number twice.  So a number or a record that was handed out
  keeps its meaning.
-/
import OnePass.Proofs.Layout
import OnePass.Proofs.Literals
import OnePass.Proofs.Nesting
import OnePass.Proofs.Registers

namespace OnePass

open Asm Step Session

/-! ### Additions -/

/-- What was there is still there, at the same place, with more behind it. -/
structure Session.Extends (s t : Session) : Prop where
  body : s.body <+: t.body
  strings : s.listing.strings.toList <+: t.listing.strings.toList
  symbols : s.symbols <+: t.symbols
  retired : s.environment.retired.toList <+: t.environment.retired.toList
  cursor_le : t.frame.cursor ≤ s.frame.cursor
  drawn_le : s.environment.drawn ≤ t.environment.drawn

namespace Session.Extends

variable {s t u : Session}

theorem refl (s : Session) : s.Extends s :=
  ⟨List.prefix_refl _, List.prefix_refl _, List.prefix_refl _, List.prefix_refl _, le_refl _,
    le_refl _⟩

theorem trans (hst : s.Extends t) (htu : t.Extends u) : s.Extends u where
  body := hst.body.trans htu.body
  strings := hst.strings.trans htu.strings
  symbols := hst.symbols.trans htu.symbols
  retired := hst.retired.trans htu.retired
  cursor_le := htu.cursor_le.trans hst.cursor_le
  drawn_le := hst.drawn_le.trans htu.drawn_le

/-- A number stands for the same symbol as before. -/
theorem symbol?_eq (h : s.Extends t) {id : SymbolId} {symbol : Symbol}
    (hsymbol : s.environment.symbol? id = some symbol) :
    t.environment.symbol? id = some symbol := by
  obtain ⟨more, hmore⟩ := h.symbols
  rw [Session.symbol?_eq] at hsymbol ⊢
  obtain ⟨hlt, -⟩ := List.getElem?_eq_some_iff.mp hsymbol
  rw [← hmore, List.getElem?_append_left hlt, hsymbol]

theorem cursor_le_of_grow {frame grown : Frame} {words : Nat}
    (h : frame.grow? words = some grown) : grown.cursor ≤ frame.cursor := by
  obtain ⟨hcursor, -, -⟩ := Frame.grow?_eq_some_iff.mp h
  omega

theorem symbols_prefix (env : Environment) (symbol : Symbol) :
    env.symbols.toList <+: (env.bound symbol).symbols.toList := by
  rw [Environment.bound, Array.toList_push]
  exact List.prefix_append _ _

/-- No change takes anything away. -/
theorem of_change {allowed : Line → Prop} {scoping : Prop} (h : Change allowed scoping s t) :
    s.Extends t := by
  have hrefl := refl s
  cases h with
  | entered => exact { hrefl with }
  | left =>
    refine { hrefl with retired := ?_ }
    simp only [Environment.left]
    split
    · rw [Array.toList_append]
      exact List.prefix_append _ _
    · exact List.prefix_refl _
  | drew => exact { hrefl with drawn_le := Nat.le_succ _ }
  | @temporary type grown _ hroom _ =>
    refine { hrefl with symbols := ?_, cursor_le := ?_, drawn_le := Nat.le_succ _ }
    · exact symbols_prefix s.environment.drew _
    · exact cursor_le_of_grow hroom
  | declared _ _ _ hroom _ _ =>
    refine { hrefl with symbols := ?_, cursor_le := ?_ }
    · exact symbols_prefix s.environment _
    · exact cursor_le_of_grow hroom
  | stringLabel =>
    refine { hrefl with symbols := ?_, drawn_le := Nat.le_succ _ }
    exact symbols_prefix s.environment.drew _
  | @wrote lines _ =>
    refine { hrefl with body := ?_ }
    rw [body_wrote]
    exact List.prefix_append _ _
  | stored entry =>
    refine { hrefl with strings := ?_ }
    rw [Array.toList_push]
    exact List.prefix_append _ _
  | rotated => exact { hrefl with }

theorem of_changes {allowed : Line → Prop} {scoping : Prop} (h : Changes allowed scoping s t) :
    s.Extends t :=
  h.keeps (I := fun t => s.Extends t) (fun hchange ht => ht.trans (of_change hchange)) (refl s)

/-- Not even a failing rule does. -/
theorem of_falls {allowed : Line → Prop} {scoping : Prop} (h : Falls allowed scoping s t) :
    s.Extends t := by
  obtain ⟨u, hchanges, rfl | ⟨words, grown, hgrow, rfl⟩⟩ := h
  · exact of_changes hchanges
  · have hu := of_changes hchanges
    exact { hu with cursor_le := (cursor_le_of_grow hgrow).trans hu.cursor_le }

theorem perform (action : Action) (s : Journaled Session) :
    s.state.Extends (action.perform s).2.state := by
  obtain ⟨t, fault, hfalls, ht⟩ := action.falls_perform s
  have hextends := of_falls hfalls
  rw [ht]
  exact { hextends with }

theorem run (actions : List Action) (s : Journaled Session) :
    s.state.Extends (Action.run actions s).2.state := by
  induction actions generalizing s with
  | nil => exact refl _
  | cons action rest ih => exact (perform action s).trans (ih (action.perform s).2)

end Session.Extends

/-! ### Numbers in scopes -/

/-- No number is in both scopes. -/
def Scope.Apart (a b : Scope) : Prop :=
  ∀ {name other : String} {id : SymbolId}, a[name]? = some id → b[other]? ≠ some id

theorem Scope.Apart.symm {a b : Scope} (h : a.Apart b) : b.Apart a :=
  fun hb ha => h ha hb

namespace Environment

/-- The scopes that have not been left, from the innermost outward, and behind
    them those that have. -/
def scopes (env : Environment) : List Scope := env.active ++ env.retired.toList

theorem mem_scopes {env : Environment} {scope : Scope} :
    scope ∈ env.scopes ↔ scope ∈ env.active ∨ scope ∈ env.retired.toList :=
  List.mem_append

/-- What scopes bind are symbols of that name, and different scopes bind
    different symbols. -/
structure Separate (env : Environment) : Prop where
  faithful : env.Faithful
  apart : env.scopes.Pairwise Scope.Apart

namespace Separate

variable {env : Environment}

theorem drew (h : env.Separate) : env.drew.Separate := ⟨h.faithful, h.apart⟩

theorem entered (h : env.Separate) :
    Separate { env with active := ∅ :: env.active } := by
  refine ⟨h.faithful.entered, List.pairwise_cons.mpr ⟨?_, h.apart⟩⟩
  intro scope _ name other id hid
  simp at hid

/-- A scope that is left changes its place only, or is dropped. -/
theorem left (h : env.Separate) : env.left.Separate := by
  refine ⟨h.faithful.left, ?_⟩
  have hapart := h.apart
  unfold scopes at hapart ⊢
  cases hactive : env.active with
  | nil => simpa [Environment.left, hactive] using hapart
  | cons scope outer =>
    rw [hactive] at hapart
    cases hretains : env.retains with
    | false =>
      simp only [Environment.left, hactive, hretains, List.tail_cons]
      exact hapart.of_cons
    | true =>
      simp only [Environment.left, hactive, hretains, List.tail_cons, List.head?_cons, if_true,
        Array.toList_append, Option.toList_toArray, Option.toList_some]
      -- the scope goes from the front to the end
      have hmoved : (outer ++ (env.retired.toList ++ [scope])).Perm
          (scope :: outer ++ env.retired.toList) := by
        rw [← List.append_assoc]
        exact List.perm_append_singleton scope _
      exact (hmoved.pairwise_iff Scope.Apart.symm).mpr hapart

/-- The number of a new symbol is in no scope yet. -/
theorem bound (h : env.Separate) (symbol : Symbol) : (env.bound symbol).Separate := by
  refine ⟨h.faithful.bound symbol, ?_⟩
  have hapart := h.apart
  unfold scopes at hapart ⊢
  cases hactive : env.active with
  | nil =>
    simp only [Environment.bound, hactive, List.modifyHead_nil] at hapart ⊢
    exact hapart
  | cons scope outer =>
    simp only [Environment.bound, hactive, List.modifyHead_cons, List.cons_append,
      List.pairwise_cons] at hapart ⊢
    refine ⟨fun other hother => ?_, hapart.2⟩
    intro name name' id hid hid'
    rw [Scope.getElem?_bind] at hid
    split at hid
    · cases hid
      have hmem : other ∈ env.active ∨ other ∈ env.retired.toList := by
        rw [hactive, List.mem_cons, or_assoc]
        exact Or.inr (List.mem_append.mp hother)
      exact absurd (h.faithful.lt_size hmem hid') (Nat.lt_irrefl _)
    · exact hapart.1 other hother hid hid'

end Separate

end Environment

theorem invariant_separate :
    Invariant (fun s => s.environment.Separate) (fun s => s.environment.Separate) where
  start options := ⟨invariant_faithful.start options, List.Pairwise.nil⟩
  change hchange h := by
    cases hchange with
    | entered => exact h.entered
    | left => exact h.left
    | drew => exact h.drew
    | temporary => exact h.drew.bound _
    | declared => exact h.bound _
    | stringLabel => exact h.drew.bound _
    | _ => exact h
  fault _ h := h
  lost _ _ _ _ _ h := h

theorem Reachable.separate {s : Journaled Session} (hs : Reachable s) :
    s.state.environment.Separate := by
  rcases hs.intact_or_aborted invariant_separate with ⟨-, h⟩ | ⟨-, h⟩
  · exact h
  · exact h

/-- A number is bound in one scope at most, and to one name. -/
theorem Environment.Separate.unique {env : Environment} (h : env.Separate) {i j : Nat}
    {scope other : Scope} (hi : env.scopes[i]? = some scope) (hj : env.scopes[j]? = some other)
    {name name' : String} {id : SymbolId} (hname : scope[name]? = some id)
    (hname' : other[name']? = some id) : i = j ∧ name = name' := by
  have hpairs := List.pairwise_iff_getElem.mp h.apart
  obtain ⟨hilt, rfl⟩ := List.getElem?_eq_some_iff.mp hi
  obtain ⟨hjlt, rfl⟩ := List.getElem?_eq_some_iff.mp hj
  constructor
  · rcases Nat.lt_trichotomy i j with hlt | heq | hgt
    · exact absurd hname' (hpairs i j hilt hjlt hlt hname)
    · exact heq
    · exact absurd hname (hpairs j i hjlt hilt hgt hname')
  · obtain ⟨symbol, hsymbol, heq⟩ :=
      h.faithful _ (mem_scopes.mp (List.getElem_mem hilt)) hname
    obtain ⟨symbol', hsymbol', heq'⟩ :=
      h.faithful _ (mem_scopes.mp (List.getElem_mem hjlt)) hname'
    cases hsymbol.symm.trans hsymbol'
    exact heq.symm.trans heq'

/-! ### What a place stands for -/

/-- The symbol whose word is at a place, or the text under its label. -/
inductive Session.Denotes (s : Session) : Place → Symbol ⊕ StringEntry → Prop
  | stack {id : SymbolId} {symbol : Symbol} {offset : Int}
      (hsymbol : s.environment.symbol? id = some symbol) (hbyte : offset ∈ symbol.bytes) :
      Denotes s (.stack offset) (.inl symbol)
  | indirect {id : SymbolId} {symbol : Symbol} {offset : Int}
      (hsymbol : s.environment.symbol? id = some symbol) (hbyte : offset ∈ symbol.bytes) :
      Denotes s (.indirect offset) (.inl symbol)
  | label {entry : StringEntry} (hentry : entry ∈ s.listing.strings.toList) :
      Denotes s (.label entry.label) (.inr entry)

namespace Session.Denotes

variable {s t : Session} {place : Place} {owner other : Symbol ⊕ StringEntry}

theorem of_extends (h : s.Denotes place owner) (hst : s.Extends t) : t.Denotes place owner := by
  cases h with
  | stack hsymbol hbyte => exact .stack (hst.symbol?_eq hsymbol) hbyte
  | indirect hsymbol hbyte => exact .indirect (hst.symbol?_eq hsymbol) hbyte
  | label hentry => exact .label (hst.strings.subset hentry)

theorem owner_unique (h : Laid s) {i j : SymbolId} {a b : Symbol} {offset : Int}
    (ha : s.environment.symbol? i = some a) (hb : s.environment.symbol? j = some b)
    (hbyte : offset ∈ a.bytes) (hbyte' : offset ∈ b.bytes) : a = b := by
  rw [symbol?_eq] at ha hb
  by_cases hij : i = j
  · subst hij
    exact Option.some.inj (ha.symm.trans hb)
  · exact absurd hbyte' (Set.disjoint_left.mp (h.bytes_disjoint hij ha hb) hbyte)

/-- Symbols share no byte, and texts no label. -/
theorem unique (hlaid : Laid s) (hlabelled : Labelled s) (h : s.Denotes place owner)
    (h' : s.Denotes place other) : other = owner := by
  cases h with
  | stack ha hbyte =>
    cases h' with
    | stack hb hbyte' => rw [owner_unique hlaid hb ha hbyte' hbyte]
  | indirect ha hbyte =>
    cases h' with
    | indirect hb hbyte' => rw [owner_unique hlaid hb ha hbyte' hbyte]
  | @label entry hentry =>
    generalize hplace : Place.label entry.label = place at h'
    cases h' with
    | @label entry' hentry' =>
      rw [List.inj_on_of_nodup_map hlabelled.nodup hentry' hentry (Place.label.inj hplace).symm]
    | _ => cases hplace

end Session.Denotes

/-! ### Records that are handed out -/

/-- The action asks for an element that its array does not have. -/
inductive Action.Overruns (env : Environment) : Action → Place → Prop
  | element {spec : String} {access : Access} {index : Nat} {id : SymbolId} {symbol : Symbol}
      (hparse : Access.parse spec = .ok access) (hindex : access.subscript = some (.literal index))
      (hfind : env.find? access.name = some id) (hsymbol : env.symbol? id = some symbol)
      (hlong : symbol.words ≤ index) :
      Overruns env (.resolve spec) (.stack (symbol.offset - 4 * index))

namespace Session

variable {s : Session} {place : Place} {owner : Symbol ⊕ StringEntry}

/-- The rest of a rule leaves alone what a place stands for. -/
theorem ensures_bind_of_denotes {α β : Type} {step : Step Session α} {next : α → Step Session β}
    {post : β → Session → Prop} (hplace : s.Denotes place owner)
    (hstep : Tracked (fun _ => True) True step)
    (hnext : ∀ a t, t.Denotes place owner → Ensures t (next a) post) :
    Ensures s (step >>= next) post := by
  have hkept : Ensures s step fun _ t => t.Denotes place owner := by
    intro journal a t hok
    exact hplace.of_extends (Extends.of_changes (hstep.changes_of_ok hok))
  exact hkept.bind hnext

theorem symbol?_withTemporary (s : Session) (type : ValueType) (grown : Frame) :
    (s.withTemporary type grown).environment.symbol? s.environment.symbols.size =
      some (s.nextTemporary type) :=
  Array.getElem?_push_size

theorem offset_mem_bytes {symbol : Symbol} {index : Nat} (h : index < symbol.words) :
    symbol.offset - 4 * index ∈ symbol.bytes := by
  simp only [Symbol.bytes, Set.mem_Ico]
  omega

/-- A new temporary stands for its word, also if the word is an offset. -/
theorem denotes_temporary (s : Session) (type : ValueType) (grown : Frame) :
    (s.withTemporary type grown).Denotes (.stack s.frame.cursor) (.inl (s.nextTemporary type)) ∧
      (s.withTemporary type grown).Denotes (.indirect s.frame.cursor)
        (.inl (s.nextTemporary type)) := by
  have hsymbol := symbol?_withTemporary s type grown
  have hbyte : s.frame.cursor ∈ (s.nextTemporary type).bytes := by
    simp [Symbol.bytes, nextTemporary]
  exact ⟨.stack hsymbol hbyte, .indirect hsymbol hbyte⟩

theorem scalarLiteral_denotes (type : ValueType) (value : Int) (s : Session) :
    Ensures s (scalarLiteral type value) fun record t => ∃ owner, t.Denotes record.place owner := by
  refine (ensures_newTemporary type s).bind ?_
  rintro _ _ ⟨rfl, grown, rfl⟩
  refine ensures_bind_of_denotes (denotes_temporary s type grown).1 ?_ fun _ t ht => ?_
  · exact tracked_emitAll (fun _ _ => trivial) (by simp [Instruction.reference?])
  · exact Ensures.of_yields (yields_pure _ t) ⟨_, ht⟩

theorem apply_denotes (operator : Operator) (left right : Record) (s : Session) :
    Ensures s (Session.apply operator left right) fun record t =>
      ∃ owner, t.Denotes record.place owner := by
  have hoperand : ∀ record, Tracked (fun _ => True) True (operand record "arithmetic") :=
    fun record => tracked_operand (fun _ _ => trivial) record "arithmetic"
  have hcode : ∀ {code : List Instruction}, (∀ i ∈ code, i.reference? = none) →
      Tracked (fun _ => True) True (emitAll code) := tracked_emitAll fun _ _ => trivial
  refine (ensures_requireScalar left "arithmetic" s).bind ?_
  rintro _ s rfl
  refine (ensures_requireScalar right "arithmetic" s).bind ?_
  rintro _ s rfl
  refine (ensures_newTemporary .int s).bind ?_
  rintro _ _ ⟨rfl, grown, rfl⟩
  have hplace := (denotes_temporary s .int grown).1
  -- what is written behind the temporary leaves it alone
  refine ensures_bind_of_denotes hplace (tracked_annotate trivial) fun _ _ hplace => ?_
  refine ensures_bind_of_denotes hplace (hoperand left) fun lhs _ hplace => ?_
  refine ensures_bind_of_denotes hplace (hoperand right) fun rhs _ hplace => ?_
  refine ensures_bind_of_denotes hplace (hcode (by simp [Instruction.reference?]))
    fun _ _ hplace => ?_
  refine ensures_bind_of_denotes hplace (tracked_release lhs) fun _ _ hplace => ?_
  refine ensures_bind_of_denotes hplace (tracked_release rhs) fun _ _ hplace => ?_
  refine ensures_bind_of_denotes hplace (hcode (reference?_code operator)) fun _ _ hplace => ?_
  refine ensures_bind_of_denotes hplace (tracked_emit (fun _ _ => trivial) rfl)
    fun _ t hplace => ?_
  exact Ensures.of_yields (yields_pure _ t) ⟨_, hplace⟩

theorem stringLiteral_denotes (text : String) (s : Session) :
    Ensures s (stringLiteral text) fun record t => ∃ owner, t.Denotes record.place owner := by
  by_cases hactive : s.environment.active = []
  · exact Ensures.of_refuses (refuses_inEnvironment
      (Environment.refuses_newStringLabel hactive)).bind
  · have hlabel := yields_inEnvironment (Environment.yields_newStringLabel hactive)
    refine Ensures.of_yields (hlabel.bind ((yields_addString _ _).bind (yields_pure _ _))) ?_
    let entry : StringEntry := ⟨generatedName .stringLabel s.environment.drawn, text⟩
    refine ⟨.inr entry, @Denotes.label _ entry ?_⟩
    rw [Array.toList_push]
    exact List.mem_append_right _ List.mem_cons_self

/-- A variable stands for its words, and so does an element that it has. -/
theorem resolve_denotes (hlaid : Laid s) (spec : String) :
    Ensures s (resolve spec) fun record t => (∃ owner, t.Denotes record.place owner) ∨
      (Action.resolve spec).Overruns s.environment record.place := by
  cases hparse : Access.parse spec with
  | error cause => exact Ensures.of_refuses (refuses_ofExcept hparse s).bind
  | ok access =>
    refine Ensures.after (yields_ofExcept hparse s) ?_
    refine (ensures_lookupVariable access.name s).bind ?_
    rintro symbol s ⟨rfl, hscalar, id, hfind, hsymbol⟩
    cases hsubscript : access.subscript with
    | none =>
      have hwords : 0 < symbol.words := by
        rw [symbol?_eq] at hsymbol
        exact Nat.pos_of_ne_zero ((hlaid.words_iff hsymbol).mpr hscalar)
      have hbyte := offset_mem_bytes hwords
      rw [Nat.cast_zero, mul_zero, sub_zero] at hbyte
      exact Ensures.of_yields (yields_pure _ _) (Or.inl ⟨_, .stack hsymbol hbyte⟩)
    | some subscript =>
      cases subscript with
      | literal index =>
        cases hoffset : below? symbol.offset index with
        | none =>
          simp only [hoffset]
          exact Ensures.of_refuses (refuses_fail _ _)
        | some offset =>
          simp only [hoffset]
          refine Ensures.of_yields (yields_pure _ _) ?_
          obtain ⟨rfl, -, -⟩ := below?_eq_some_iff.mp hoffset
          by_cases hindex : index < symbol.words
          · exact Or.inl ⟨_, .stack hsymbol (offset_mem_bytes hindex)⟩
          · exact Or.inr (.element hparse hsubscript hfind hsymbol (Nat.le_of_not_lt hindex))
      | named name =>
        have hindex : Ensures s (lookupSymbol name) fun _ _ => True := fun _ _ _ _ => trivial
        refine hindex.bind fun index t _ => ?_
        refine (ensures_newTemporary .int t).bind ?_
        rintro _ _ ⟨rfl, grown, rfl⟩
        have hplace := (denotes_temporary t .int grown).2
        refine ensures_bind_of_denotes hplace (tracked_annotate trivial) fun _ _ hplace => ?_
        refine ensures_bind_of_denotes hplace (tracked_emitAll (fun _ _ => trivial)
          (by simp [elementCode, Instruction.reference?])) fun _ u hplace => ?_
        exact Ensures.of_yields (yields_pure _ u) (Or.inl ⟨_, hplace⟩)

theorem ensures_answer {step : Step Session Record} {post : Record → Session → Prop}
    (h : Ensures s step post) :
    Ensures s (step >>= fun record => pure (Reply.record record)) fun reply t =>
      ∀ record, reply = .record record → post record t := by
  refine h.bind fun record t hpost => Ensures.of_yields (yields_pure _ t) ?_
  rintro _ ⟨⟩
  exact hpost

theorem rule_denotes (hlaid : Laid s) (action : Action) :
    Ensures s action.rule fun reply t => ∀ record, reply = .record record →
      (∃ owner, t.Denotes record.place owner) ∨ action.Overruns s.environment record.place := by
  cases action with
  | resolve spec => exact ensures_answer (resolve_denotes hlaid spec)
  | intLiteral value =>
    exact ensures_answer fun _ _ _ hok => Or.inl (scalarLiteral_denotes .int value s hok)
  | charLiteral c =>
    exact ensures_answer fun _ _ _ hok => Or.inl (scalarLiteral_denotes .char c.toNat s hok)
  | stringLiteral text =>
    exact ensures_answer fun _ _ _ hok => Or.inl (stringLiteral_denotes text s hok)
  | apply operator left right =>
    exact ensures_answer fun _ _ _ hok => Or.inl (apply_denotes operator left right s hok)
  | _ =>
    -- the other rules answer no record
    rintro journal reply t hok record rfl
    obtain ⟨answer, u, -, hreply⟩ := bind_eq_ok hok
    cases hreply

end Session

/-- A record that is answered stands for something, unless an element was asked
    for that there is not. -/
theorem Action.denotes_of_answer {action : Action} {s : Journaled Session} {record : Record}
    (hs : Reachable s) (h : (action.perform s).1 = .ok (.record record)) :
    (∃ owner, (action.perform s).2.state.Denotes record.place owner) ∨
      action.Overruns s.state.environment record.place := by
  obtain ⟨-, hyields, -⟩ := Action.changes_of_answer h
  exact (rule_denotes (laid hs) action).of_outcome hyields record rfl

/-! ### Numbers that are handed out -/

theorem Action.eq_declare_of_symbol {action : Action} {s : Journaled Session} {id : SymbolId}
    (h : (action.perform s).1 = .ok (.symbol id)) :
    ∃ typeName spec, action = .declare typeName spec := by
  obtain ⟨journal, hok⟩ := Action.rule_of_answer h
  cases action with
  | declare typeName spec => exact ⟨typeName, spec, rfl⟩
  | _ =>
    obtain ⟨a, u, -, hreply⟩ := bind_eq_ok hok
    cases hreply

/-- The number that is answered to a declaration is that of a symbol. -/
theorem Action.symbol?_of_answer {action : Action} {s : Journaled Session} {id : SymbolId}
    (h : (action.perform s).1 = .ok (.symbol id)) :
    ∃ symbol, (action.perform s).2.state.environment.symbol? id = some symbol := by
  obtain ⟨typeName, spec, rfl⟩ := eq_declare_of_symbol h
  obtain ⟨t, hends, hkeeps⟩ := (Action.declare typeName spec).ends (live_of_ok h).1
  rw [hkeeps, environment_keeping]
  rw [h] at hends
  cases hends with
  | quiet hquiet => cases hquiet
  | declared => exact ⟨_, Array.getElem?_push_size⟩

/-- **History is kept.**  In every reachable session the scopes, whether or not
    they have been left, hold numbers of symbols that have the name bound, and no
    number twice.  Whatever is done next, and whether or not it fails, only adds.
    A number that is answered is that of a symbol, and a record stands for a word
    or a text, unless it is of an element that its array does not have.  From then
    on numbers stand for the same symbols, and places for the same words and
    texts. -/
theorem history_kept {s : Journaled Session} (hs : Reachable s) :
    let env := s.state.environment
    (∀ scope ∈ env.scopes, ∀ name id, scope[name]? = some id → id < env.symbols.size ∧
      ∃ symbol, env.symbol? id = some symbol ∧ symbol.name = name) ∧
    (∀ (i j : Nat) (scope other : Scope) (name name' : String) (id : SymbolId),
      env.scopes[i]? = some scope → env.scopes[j]? = some other →
      scope[name]? = some id → other[name']? = some id → i = j ∧ name = name') ∧
    (∀ action : Action, s.state.Extends (action.perform s).2.state ∧
      (∀ id, (action.perform s).1 = .ok (.symbol id) →
        ∃ symbol, (action.perform s).2.state.environment.symbol? id = some symbol) ∧
      ∀ record, (action.perform s).1 = .ok (.record record) →
        (∃ owner, (action.perform s).2.state.Denotes record.place owner) ∨
          action.Overruns env record.place) ∧
    ∀ actions, let t := (Action.run actions s).2.state
      s.state.Extends t ∧
      (∀ id symbol, env.symbol? id = some symbol → t.environment.symbol? id = some symbol) ∧
      ∀ place owner, s.state.Denotes place owner →
        ∀ other, t.Denotes place other ↔ other = owner := by
  intro env
  have hseparate := hs.separate
  refine ⟨?_, ?_, ?_, ?_⟩
  · intro scope hscope name id hid
    rw [Environment.mem_scopes] at hscope
    exact ⟨hseparate.faithful.lt_size hscope hid, hseparate.faithful scope hscope hid⟩
  · intro i j scope other name name' id hi hj hname hname'
    exact hseparate.unique hi hj hname hname'
  · intro action
    refine ⟨Extends.perform action s, fun id => Action.symbol?_of_answer, fun record => ?_⟩
    exact Action.denotes_of_answer hs
  · intro actions t
    have hextends : s.state.Extends t := Extends.run actions s
    refine ⟨hextends, fun id symbol => hextends.symbol?_eq, ?_⟩
    intro place owner howner other
    have hlater : t.Denotes place owner := howner.of_extends hextends
    constructor
    · exact hlater.unique (laid (hs.run actions)) (hs.run actions).labelled
    · rintro rfl
      exact hlater

-- A variable in a scope that has been left, and another of that name; then a failure.
theorem history_kept_of_left_scope :
    let s := (Action.run [.enterScope, .declare "int" "x", .stringLiteral "hi", .leaveScope,
      .enterScope, .declare "char" "x"] { state := Session.start {} }).2
    let t := (Action.run [.intLiteral 7, .declare "int" "x", .leaveScope] s).2.state
    s.state.environment.scopes.length = 2 ∧ t.firstFault = some (.duplicateDeclaration "x" (-4)) ∧
      s.state.Extends t ∧ ∀ other, t.Denotes (.stack 0) other ↔ other = .inl ⟨"x", .int, 0, 1⟩ := by
  intro s t
  have hscopes : s.state.environment.scopes.length = 2 := by unfold s; decide +kernel
  have hfault : t.firstFault = some (.duplicateDeclaration "x" (-4)) := by
    unfold t s
    decide +kernel
  have hsymbol : s.state.environment.symbol? 0 = some ⟨"x", .int, 0, 1⟩ := by
    unfold s
    decide +kernel
  have hreachable : Reachable s := ⟨_, _, _, rfl⟩
  obtain ⟨-, -, -, hlater⟩ := history_kept hreachable
  obtain ⟨hextends, -, hdenotes⟩ := hlater [.intLiteral 7, .declare "int" "x", .leaveScope]
  exact ⟨hscopes, hfault, hextends, hdenotes _ _ (.stack hsymbol (by simp [Symbol.bytes]))⟩

end OnePass
