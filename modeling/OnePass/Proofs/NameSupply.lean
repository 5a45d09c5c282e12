/-
  OnePass/Proofs/NameSupply.lean
  ==============================
  **The supply of names** — what is generated in one session, in order.

  Temporaries, string labels and branch labels take their numbers from one
  counter.  A generated name shows in one of three places: in the answer, with a
  symbol that is added, or in the complaint that there is no scope for it; only
  the label of a branch that cannot be written is lost.  `generated` collects the
  names from these places, and each action uses up as many numbers as it shows
  names.
-/
import OnePass.Proofs.Bindings
import OnePass.Proofs.Endings
import OnePass.Proofs.Parts
import OnePass.Proofs.Placing
import OnePass.Proofs.Spelling

namespace OnePass

open Asm Step Session

/-! ### Names in the order of their numbers -/

/-- The names are generated ones, numbered one after the other from the first. -/
def Numbered (first : Nat) (names : List (NameKind × String)) : Prop :=
  ∀ k kind name, names[k]? = some (kind, name) → name = generatedName kind (first + k)

namespace Numbered

variable {first : Nat} {names more : List (NameKind × String)}

theorem nil (first : Nat) : Numbered first [] := nofun

theorem single (kind : NameKind) (first : Nat) :
    Numbered first [(kind, generatedName kind first)] := by
  intro k found name h
  obtain ⟨hk, heq⟩ := List.getElem?_eq_some_iff.mp h
  have hzero : k = 0 := by simpa using hk
  subst hzero
  cases heq
  rfl

theorem append (h : Numbered first names) (hmore : Numbered (first + names.length) more) :
    Numbered first (names ++ more) := by
  intro k kind name hname
  by_cases hk : k < names.length
  · rw [List.getElem?_append_left hk] at hname
    exact h k kind name hname
  · rw [List.getElem?_append_right (Nat.le_of_not_lt hk)] at hname
    rw [hmore _ kind name hname]
    congr 1
    omega

/-- Numbers differ, and so do the names with them, whatever their kinds. -/
theorem nodup (h : Numbered first names) : (names.map Prod.snd).Nodup := by
  refine List.pairwise_iff_getElem.mpr fun i j hi hj hij heq => ?_
  rw [List.length_map] at hi hj
  rw [List.getElem_map, List.getElem_map] at heq
  have hfirst := h i names[i].1 names[i].2 (List.getElem?_eq_getElem hi)
  have hsecond := h j names[j].1 names[j].2 (List.getElem?_eq_getElem hj)
  rw [hfirst, hsecond] at heq
  have hkind := generatedName_kind heq
  rw [hkind] at heq
  have := generatedName_number heq
  omega

end Numbered

/-! ### Where names show -/

/-- The name in an answer: a label, or what there is no scope for. -/
def namesTold : Except Fault Reply → List String
  | .ok (.label name) => [name]
  | .error (.noActiveScope name) => [name]
  | _ => []

/-- The names of the symbols that an environment has more than another one. -/
def Environment.namesAdded (env after : Environment) : List String :=
  (after.symbols.toList.drop env.symbols.size).map Symbol.name

namespace Action

/-- What kind of name an action generates, if it generates one. -/
def nameKind? : Action → Option NameKind
  | resolve _ => some .temporary
  | intLiteral _ => some .temporary
  | charLiteral _ => some .temporary
  | apply _ _ _ => some .temporary
  | stringLiteral _ => some .stringLabel
  | branchIfZero _ => some .branchLabel
  | branchThenLabel _ => some .branchLabel
  | defineLabel none => some .branchLabel
  | _ => none

/-- The label of a branch that could not be written: the one the session had
    next. -/
def namesLost (action : Action) (s : Journaled Session) : List String :=
  match action, (action.perform s).1, (newLabel.perform s).1 with
  | branchIfZero _, .error _, .ok name => if s.state.isAborted then [] else [name]
  | _, _, _ => []

/-- The names an action generates, with their kinds. -/
def generated (action : Action) (s : Journaled Session) : List (NameKind × String) :=
  match action.nameKind? with
  | none => []
  | some kind =>
    (namesTold (action.perform s).1 ++
      s.state.environment.namesAdded (action.perform s).2.state.environment ++
      action.namesLost s).map (kind, ·)

/-- The names actions generate one after the other. -/
def generatedBy : List Action → Journaled Session → List (NameKind × String)
  | [], _ => []
  | action :: rest, s => action.generated s ++ generatedBy rest (action.perform s).2

end Action

namespace Environment.Operation

def nameKind? : Operation → Option NameKind
  | newTemporary _ _ => some .temporary
  | newStringLabel => some .stringLabel
  | newBranchLabel => some .branchLabel
  | _ => none

def generated (operation : Operation) (s : Journaled Environment) : List (NameKind × String) :=
  match operation.nameKind? with
  | none => []
  | some kind =>
    (namesTold (operation.perform s).1 ++ s.state.namesAdded (operation.perform s).2.state).map
      (kind, ·)

def generatedBy : List Operation → Journaled Environment → List (NameKind × String)
  | [], _ => []
  | operation :: rest, s => operation.generated s ++ generatedBy rest (operation.perform s).2

end Environment.Operation

namespace Environment

@[simp] theorem namesAdded_self (env : Environment) : env.namesAdded env = [] := by
  simp [namesAdded]

@[simp] theorem namesAdded_drew (env : Environment) : env.namesAdded env.drew = [] := by
  simp [namesAdded, drew]

@[simp] theorem namesAdded_bound (env : Environment) (symbol : Symbol) :
    env.namesAdded (env.drew.bound symbol) = [symbol.name] := by
  simp [namesAdded, drew, bound]

end Environment

/-! ### How a step ends -/

/-- However the step ends from the state, what is told of its answer and of the
    state it leaves is so. -/
def Step.Concludes {σ α : Type} (s : σ) (step : Step σ α) (post : Except Fault α → σ → Prop) :
    Prop :=
  (∃ a t, Yields step s a t ∧ post (.ok a) t) ∨
    ∃ cause t, Refuses step s cause t ∧ post (.error cause) t

namespace Step.Concludes

variable {σ α β : Type} {s : σ} {step : Step σ α} {next : α → Step σ β}
  {middle : Except Fault α → σ → Prop} {post : Except Fault β → σ → Prop}

theorem of_yields {a : α} {t : σ} (h : Yields step s a t) (hpost : middle (.ok a) t) :
    Concludes s step middle :=
  Or.inl ⟨a, t, h, hpost⟩

theorem of_refuses {cause : Fault} {t : σ} (h : Refuses step s cause t)
    (hpost : middle (.error cause) t) : Concludes s step middle :=
  Or.inr ⟨cause, t, h, hpost⟩

theorem bind (h : Concludes s step middle)
    (hok : ∀ a t, middle (.ok a) t → Concludes t (next a) post)
    (herror : ∀ cause t, middle (.error cause) t → post (.error cause) t) :
    Concludes s (step >>= next) post := by
  rcases h with ⟨a, t, hyields, ht⟩ | ⟨cause, t, hrefuses, ht⟩
  · rcases hok a t ht with ⟨b, u, hthen, hu⟩ | ⟨cause, u, hthen, hu⟩
    · exact of_yields (hyields.bind hthen) hu
    · exact of_refuses (hyields.bind_refuses hthen) hu
  · exact of_refuses hrefuses.bind (herror cause t ht)

theorem mono {more : Except Fault α → σ → Prop} (h : Concludes s step middle)
    (hmore : ∀ answer t, middle answer t → more answer t) : Concludes s step more := by
  rcases h with ⟨a, t, hyields, ht⟩ | ⟨cause, t, hrefuses, ht⟩
  · exact of_yields hyields (hmore _ t ht)
  · exact of_refuses hrefuses (hmore _ t ht)

end Step.Concludes

/-- An action ends as its rule does, unless a fault is kept. -/
theorem Action.of_concludes {action : Action} {s : Journaled Session}
    (hlive : s.state.firstFault = none) {post : Except Fault Reply → Session → Prop}
    (h : Concludes s.state action.rule post) :
    ∃ t, post (action.perform s).1 t ∧ (action.perform s).2.state.environment = t.environment := by
  rcases h with ⟨reply, t, hyields, ht⟩ | ⟨cause, t, hrefuses, ht⟩
  · obtain ⟨journal, hok⟩ := perform_of_yields hlive hyields
    rw [hok]
    exact ⟨t, ht, rfl⟩
  · obtain ⟨journal, hfails⟩ := perform_of_refuses hlive hrefuses
    rw [hfails]
    exact ⟨t, ht, rfl⟩

/-! ### Steps that generate no name -/

/-- The answer is not that there is no scope for a symbol. -/
def Housed {α : Type} (answer : Except Fault α) : Prop :=
  ∀ name, answer ≠ .error (.noActiveScope name)

theorem Housed.ok {α : Type} (a : α) : Housed (.ok a) := nofun

/-- What was to be answered does not matter to a failure. -/
theorem Housed.error {α β : Type} {cause : Fault} (h : Housed (.error cause : Except Fault α)) :
    Housed (.error cause : Except Fault β) :=
  fun name heq => h name (congrArg Except.error (Except.error.inj heq))

/-- The step leaves the environment alone and lacks no scope. -/
def Spares {α : Type} (step : Step Session α) : Prop :=
  ∀ s, Concludes s step fun answer t => t.environment = s.environment ∧ Housed answer

namespace Spares

variable {α β : Type}

theorem of_yields {step : Step Session α}
    (h : ∀ s, ∃ a t, Yields step s a t ∧ t.environment = s.environment) : Spares step := by
  intro s
  obtain ⟨a, t, hyields, ht⟩ := h s
  exact Concludes.of_yields hyields ⟨ht, .ok a⟩

theorem pure (a : α) : Spares (Pure.pure a : Step Session α) :=
  of_yields fun s => ⟨a, s, yields_pure a s, rfl⟩

theorem fail {cause : Fault} (hcheck : cause.isCheck = true) :
    Spares (Step.fail cause : Step Session α) := by
  intro s
  refine Concludes.of_refuses (refuses_fail cause s) ⟨rfl, ?_⟩
  rintro name heq
  cases heq
  cases hcheck

theorem bind {step : Step Session α} {next : α → Step Session β} (h : Spares step)
    (hnext : ∀ a, Spares (next a)) : Spares (step >>= next) := by
  intro s
  refine (h s).bind (fun a t ht => ?_) fun cause t ht => ?_
  · refine (hnext a t).mono fun answer u hu => ?_
    exact ⟨hu.1.trans ht.1, hu.2⟩
  · exact ⟨ht.1, ht.2.error⟩

theorem annotate (text : String) : Spares (annotate text) :=
  of_yields fun s => ⟨(), _, yields_annotate text s, by rw [remarked_eq_wrote, wrote]⟩

theorem allocate (words : Nat) : Spares (inFrame (Frame.allocate words)) := by
  intro s
  cases hroom : s.frame.grow? words with
  | none => exact Concludes.of_refuses (refuses_allocate hroom) ⟨rfl, nofun⟩
  | some grown => exact Concludes.of_yields (yields_allocate hroom) ⟨rfl, nofun⟩

theorem acquire : Spares (inPool AddressPool.acquire) := by
  intro s
  cases hfree : s.pool.acquire? with
  | none => exact Concludes.of_refuses (refuses_acquire hfree) ⟨rfl, nofun⟩
  | some taken => exact Concludes.of_yields (yields_acquire hfree) ⟨rfl, nofun⟩

theorem composed : Composed fun _ step => Spares step where
  pure := pure
  bind := bind
  current_bind h := fun s => h s s
  fail := fail
  line _ := of_yields fun s => ⟨(), _, yields_line _ s, rfl⟩
  annotate := annotate
  addString entry := of_yields fun s => ⟨(), _, yields_addString entry s, rfl⟩
  acquire := acquire
  free r := of_yields fun s => ⟨(), _, yields_release r s, rfl⟩

theorem defineLabel (given : String) : Spares (defineLabel (some given)) :=
  of_yields fun s => ⟨_, _, yields_defineLabel given s, rfl⟩

end Spares

/-! ### Steps that generate a name -/

/-- How a step that adds at most one symbol under a new name of the kind ends. -/
inductive Supplies {α : Type} (kind : NameKind) (env : Environment) :
    Except Fault α → Environment → Prop
  | spared {answer : Except Fault α} (hhoused : Housed answer) : Supplies kind env answer env
  | added {answer : Except Fault α} {symbol : Symbol}
      (hname : symbol.name = generatedName kind env.drawn) (hhoused : Housed answer) :
      Supplies kind env answer (env.drew.bound symbol)
  | homeless :
      Supplies kind env (.error (.noActiveScope (generatedName kind env.drawn))) env.drew

/-- The step adds at most one symbol under a new name, of the kind. -/
def Draws {α : Type} (kind : NameKind) (step : Step Session α) : Prop :=
  ∀ s, Concludes s step fun answer t => Supplies kind s.environment answer t.environment

namespace Draws

variable {α β : Type} {kind : NameKind}

theorem of_spares {step : Step Session α} (h : Spares step) : Draws kind step := by
  refine fun s => (h s).mono ?_
  rintro answer t ⟨ht, hanswer⟩
  rw [ht]
  exact .spared hanswer

/-- Steps without names may go before. -/
theorem after {step : Step Session α} {next : α → Step Session β} (h : Spares step)
    (hnext : ∀ a, Draws kind (next a)) : Draws kind (step >>= next) := by
  intro s
  refine (h s).bind (fun a t ht => ?_) fun cause t ht => ?_
  · have hthen := hnext a t
    rwa [ht.1] at hthen
  · rw [ht.1]
    exact .spared ht.2.error

/-- Steps without names may follow. -/
theorem before {step : Step Session α} {next : α → Step Session β} (h : Draws kind step)
    (hnext : ∀ a, Spares (next a)) : Draws kind (step >>= next) := by
  intro s
  refine (h s).bind (fun a t ht => (hnext a t).mono fun answer u hu => ?_) fun cause t ht => ?_
  · rw [hu.1]
    generalize hfound : (Except.ok a : Except Fault α) = found, t.environment = env at ht
    cases ht with
    | spared => exact .spared hu.2
    | added hname => exact .added hname hu.2
    | homeless => cases hfound
  · generalize hfound : (Except.error cause : Except Fault α) = found, t.environment = env at ht
    cases ht with
    | spared hhoused =>
      subst hfound
      exact .spared hhoused.error
    | added hname hhoused =>
      subst hfound
      exact .added hname hhoused.error
    | homeless =>
      cases hfound
      exact .homeless

end Draws

theorem Draws.around (kind : NameKind) :
    Around (fun _ step => Spares step) fun _ step => Draws kind step :=
  ⟨of_spares, after, before⟩

theorem draws_newTemporary (type : ValueType) : Draws .temporary (newTemporary type) := by
  refine .after (.allocate 1) fun offset => .before (fun s => ?_) fun _ => .pure _
  by_cases hactive : s.environment.active = []
  · have hrefuses := Environment.refuses_newTemporary type offset hactive
    exact Concludes.of_refuses (refuses_inEnvironment hrefuses) .homeless
  · have hyields := Environment.yields_newTemporary type offset hactive
    exact Concludes.of_yields (yields_inEnvironment hyields) (.added rfl (.ok _))

theorem draws_stringLiteral (text : String) : Draws .stringLabel (stringLiteral text) := by
  have hstore : ∀ entry, Spares (inListing (Listing.addString entry)) := Spares.composed.addString
  refine .before (fun s => ?_) fun _ => (hstore _).bind fun _ => .pure _
  by_cases hactive : s.environment.active = []
  · have hrefuses := Environment.refuses_newStringLabel hactive
    exact Concludes.of_refuses (refuses_inEnvironment hrefuses) .homeless
  · have hyields := Environment.yields_newStringLabel hactive
    exact Concludes.of_yields (yields_inEnvironment hyields) (.added rfl (.ok _))

/-- The label is drawn before the condition is looked at. -/
theorem concludes_branchIfZero (condition : Record) (s : Session) :
    Concludes s (branchIfZero condition) fun answer t =>
      t.environment = s.environment.drew ∧ Housed answer := by
  have hbehind := Spares.composed.branchTo (generatedName .branchLabel s.environment.drawn)
    condition
  rcases hbehind s.drew with ⟨label, t, hyields, ht⟩ | ⟨cause, t, hrefuses, ht⟩
  · exact Concludes.of_yields ((yields_newLabel s).bind hyields) ht
  · exact Concludes.of_refuses ((yields_newLabel s).bind_refuses hrefuses) ht

/-! ### Names and numbers used up -/

/-- The names are numbered from the first number on, and the last one comes next. -/
structure Counted (first : Nat) (names : List (NameKind × String)) (last : Nat) : Prop where
  numbered : Numbered first names
  last_eq : last = first + names.length

namespace Counted

theorem none (first : Nat) : Counted first [] first := ⟨.nil first, rfl⟩

theorem one (kind : NameKind) (first : Nat) :
    Counted first [(kind, generatedName kind first)] (first + 1) :=
  ⟨.single kind first, rfl⟩

theorem append {first middle last : Nat} {names more : List (NameKind × String)}
    (h : Counted first names middle) (hmore : Counted middle more last) :
    Counted first (names ++ more) last := by
  obtain ⟨hnames, rfl⟩ := h
  obtain ⟨hbehind, rfl⟩ := hmore
  exact ⟨hnames.append hbehind, by rw [List.length_append, Nat.add_assoc]⟩

end Counted

theorem namesTold_eq_nil {answer : Except Fault Reply} (hlabel : ∀ name, answer ≠ .ok (.label name))
    (hhoused : Housed answer) : namesTold answer = [] := by
  unfold namesTold
  split
  · next name => exact absurd rfl (hlabel name)
  · next name => exact absurd rfl (hhoused name)
  · rfl

theorem Supplies.map {α β : Type} {kind : NameKind} {env after : Environment}
    {answer : Except Fault α} (f : α → β) (h : Supplies kind env answer after) :
    Supplies kind env (answer.map f) after := by
  cases answer with
  | ok a =>
    cases h with
    | spared => exact .spared (.ok _)
    | added hname => exact .added hname (.ok _)
  | error cause =>
    cases h with
    | spared hhoused => exact .spared hhoused.error
    | added hname hhoused => exact .added hname hhoused.error
    | homeless => exact .homeless

/-- A name shows just if its number is used up. -/
theorem Supplies.counted {kind : NameKind} {env after : Environment} {answer : Except Fault Reply}
    (h : Supplies kind env answer after) (hlabel : ∀ name, answer ≠ .ok (.label name)) :
    Counted env.drawn ((namesTold answer ++ env.namesAdded after).map (kind, ·)) after.drawn := by
  cases h with
  | spared hhoused =>
    rw [namesTold_eq_nil hlabel hhoused, Environment.namesAdded_self]
    exact .none _
  | added hname hhoused =>
    rw [namesTold_eq_nil hlabel hhoused, Environment.namesAdded_bound, hname]
    exact .one kind env.drawn
  | homeless =>
    rw [Environment.namesAdded_drew]
    exact .one kind env.drawn

namespace Action

variable {action : Action} {s : Journaled Session}

/-- An action refused for an earlier fault generates no name. -/
theorem generated_of_aborted (h : s.state.firstFault ≠ none) : action.generated s = [] := by
  obtain ⟨cause, hcause⟩ := Option.ne_none_iff_exists'.mp h
  have hlost : action.namesLost s = [] := by
    cases action with
    | branchIfZero condition =>
      obtain ⟨journal, hnext⟩ := (yields_newLabel s.state).perform_eq
      simp [namesLost, isAborted, hcause, perform_of_aborted h, hnext]
    | _ => rfl
  unfold generated
  split
  · rfl
  · rw [hlost, perform_of_aborted h, Environment.namesAdded_self]
    rfl

theorem counted_of_no_kind (hkind : action.nameKind? = none)
    (hdrawn : (action.perform s).2.state.environment.drawn = s.state.environment.drawn) :
    Counted s.state.environment.drawn (action.generated s)
      (action.perform s).2.state.environment.drawn := by
  rw [generated, hkind, hdrawn]
  exact .none _

theorem counted_of_spares {α : Type} {step : Step Session α} (reply : α → Reply)
    (hlive : s.state.firstFault = none) (h : Spares step)
    (hrule : action.rule = step >>= fun a => pure (reply a)) (hkind : action.nameKind? = none) :
    Counted s.state.environment.drawn (action.generated s)
      (action.perform s).2.state.environment.drawn := by
  have hspares : Spares action.rule := by
    rw [hrule]
    exact h.bind fun a => .pure _
  obtain ⟨t, ⟨ht, -⟩, henv⟩ := of_concludes hlive (hspares s.state)
  exact counted_of_no_kind hkind (by rw [henv, ht])

theorem counted_of_draws {kind : NameKind} {step : Step Session Record}
    (hlive : s.state.firstFault = none) (h : Draws kind step)
    (hrule : action.rule = step >>= fun record => pure (.record record))
    (hkind : action.nameKind? = some kind) (hlost : action.namesLost s = []) :
    Counted s.state.environment.drawn (action.generated s)
      (action.perform s).2.state.environment.drawn := by
  have hends : Concludes s.state action.rule fun answer t =>
      Supplies kind s.state.environment answer t.environment ∧
        ∀ name, answer ≠ .ok (.label name) := by
    rw [hrule]
    rcases h s.state with ⟨record, t, hyields, ht⟩ | ⟨cause, t, hrefuses, ht⟩
    · exact Concludes.of_yields (hyields.bind (yields_pure _ t)) ⟨ht.map Reply.record, nofun⟩
    · exact Concludes.of_refuses hrefuses.bind ⟨ht.map Reply.record, nofun⟩
  obtain ⟨t, ⟨hsupplies, hlabel⟩, henv⟩ := of_concludes hlive hends
  rw [generated, hkind, hlost, henv]
  simp only [List.append_nil]
  exact hsupplies.counted hlabel

/-- A label that is answered is the next one. -/
theorem counted_of_label (hkind : action.nameKind? = some .branchLabel)
    (hanswer : (action.perform s).1 =
      .ok (.label (generatedName .branchLabel s.state.environment.drawn)))
    (henv : (action.perform s).2.state.environment = s.state.environment.drew) :
    Counted s.state.environment.drawn (action.generated s)
      (action.perform s).2.state.environment.drawn := by
  have hlost : action.namesLost s = [] := by
    unfold namesLost
    split
    · next _ hfails =>
      rw [hanswer] at hfails
      cases hfails
    · rfl
  rw [generated, hkind, hlost, henv, hanswer, Environment.namesAdded_drew]
  exact .one .branchLabel _

theorem counted_branchIfZero (condition : Record) (hlive : s.state.firstFault = none) :
    Counted s.state.environment.drawn ((branchIfZero condition).generated s)
      ((branchIfZero condition).perform s).2.state.environment.drawn := by
  have hends : Concludes s.state (branchIfZero condition).rule fun answer t =>
      t.environment = s.state.environment.drew ∧ Housed answer :=
    (concludes_branchIfZero condition s.state).bind
      (fun label t ht => Concludes.of_yields (yields_pure _ t) ⟨ht.1, .ok _⟩)
      fun cause t ht => ⟨ht.1, ht.2.error⟩
  obtain ⟨t, ⟨ht, hhoused⟩, henv⟩ := of_concludes hlive hends
  rw [ht] at henv
  cases hanswer : ((branchIfZero condition).perform s).1 with
  | ok reply =>
    obtain ⟨journal, hrule⟩ := rule_of_answer hanswer
    obtain ⟨label, u, hbranch, hreply⟩ := bind_eq_ok hrule
    cases hreply
    rw [(branchIfZero_eq_ok hbranch).1] at hanswer
    exact counted_of_label rfl hanswer henv
  | error cause =>
    obtain ⟨journal, hnext⟩ := (yields_newLabel s.state).perform_eq
    have hlost : (branchIfZero condition).namesLost s =
        [generatedName .branchLabel s.state.environment.drawn] := by
      simp [namesLost, hanswer, hnext, isAborted, hlive]
    rw [hanswer] at hhoused
    rw [generated, hlost, henv, hanswer, Environment.namesAdded_drew,
      namesTold_eq_nil (by simp) hhoused]
    exact .one .branchLabel _

/-- An action generates as many names as it uses up numbers, and they have these
    numbers. -/
theorem counted_generated (action : Action) (s : Journaled Session) :
    Counted s.state.environment.drawn (action.generated s)
      (action.perform s).2.state.environment.drawn := by
  by_cases hlive : s.state.firstFault = none
  swap
  · rw [generated_of_aborted hlive, perform_of_aborted hlive]
    exact .none _
  have hnew := Draws.around .temporary
  cases action with
  | enterScope =>
    obtain ⟨t, hends, ht⟩ := enterScope.ends hlive
    refine counted_of_no_kind rfl ?_
    rw [ht, environment_keeping]
    generalize (enterScope.perform s).1 = answer at hends
    cases hends with
    | quiet hquiet => cases hquiet
    | entered => rfl
  | leaveScope =>
    obtain ⟨t, hends, ht⟩ := leaveScope.ends hlive
    refine counted_of_no_kind rfl ?_
    rw [ht, environment_keeping]
    generalize (leaveScope.perform s).1 = answer at hends
    cases hends with
    | quiet hquiet => cases hquiet
    | left => rfl
    | underflow => rfl
  | declare typeName spec =>
    obtain ⟨t, hends, ht⟩ := (declare typeName spec).ends hlive
    refine counted_of_no_kind rfl ?_
    rw [ht, environment_keeping]
    generalize ((declare typeName spec).perform s).1 = answer at hends
    cases hends with
    | quiet hquiet => cases hquiet
    | declared => rw [remarked_eq_wrote]; rfl
    | homeless => rw [remarked_eq_wrote]; rfl
    | rejected => rfl
  | resolve spec =>
    exact counted_of_draws hlive (hnew.resolve Spares.composed draws_newTemporary spec) rfl rfl rfl
  | intLiteral value =>
    exact counted_of_draws hlive (hnew.scalarLiteral Spares.composed draws_newTemporary _ _)
      rfl rfl rfl
  | charLiteral value =>
    exact counted_of_draws hlive (hnew.scalarLiteral Spares.composed draws_newTemporary _ _)
      rfl rfl rfl
  | stringLiteral text => exact counted_of_draws hlive (draws_stringLiteral text) rfl rfl rfl
  | apply operator left right =>
    exact counted_of_draws hlive
      (hnew.apply Spares.composed draws_newTemporary operator left right) rfl rfl rfl
  | assign target value =>
    exact counted_of_spares (fun _ => .done) hlive (Spares.composed.assign target value) rfl rfl
  | branchIfZero condition => exact counted_branchIfZero condition hlive
  | branchThenLabel pending =>
    have hrule : Yields (branchThenLabel pending).rule s.state _ _ :=
      (yields_branchThenLabel pending s.state).bind (yields_pure _ _)
    obtain ⟨journal, hok⟩ := perform_of_yields hlive hrule
    exact counted_of_label rfl (by rw [hok]) (by rw [hok]; rfl)
  | branchAndLabel target label =>
    exact counted_of_spares (fun _ => .done) hlive (Spares.composed.branchAndLabel target label)
      rfl rfl
  | defineLabel name =>
    cases name with
    | none =>
      have hrule : Yields (defineLabel none).rule s.state _ _ :=
        (yields_defineLabel_new s.state).bind (yields_pure _ _)
      obtain ⟨journal, hok⟩ := perform_of_yields hlive hrule
      exact counted_of_label rfl (by rw [hok]) (by rw [hok]; rfl)
    | some given => exact counted_of_spares .label hlive (Spares.defineLabel given) rfl rfl
  | read target =>
    exact counted_of_spares (fun _ => .done) hlive (Spares.composed.read target) rfl rfl
  | write value =>
    exact counted_of_spares (fun _ => .done) hlive (Spares.composed.write value) rfl rfl
  | newline => exact counted_of_spares (fun _ => .done) hlive Spares.composed.newline rfl rfl

theorem counted_generatedBy (actions : List Action) (s : Journaled Session) :
    Counted s.state.environment.drawn (generatedBy actions s)
      (run actions s).2.state.environment.drawn := by
  induction actions generalizing s with
  | nil => exact .none _
  | cons action rest ih => exact (counted_generated action s).append (ih (action.perform s).2)

end Action

namespace Environment.Operation

theorem counted_generated (operation : Operation) (s : Journaled Environment) :
    Counted s.state.drawn (operation.generated s) (operation.perform s).2.state.drawn := by
  have hends := operation.ends s
  unfold generated
  generalize (operation.perform s).1 = answer, (operation.perform s).2.state = after at hends ⊢
  cases hends with
  | entered => exact .none _
  | left => exact .none _
  | underflow => exact .none _
  | added hsymbol =>
    cases operation with
    | newTemporary type offset =>
      cases hsymbol
      exact (Supplies.added rfl (.ok _)).counted (by simp)
    | newStringLabel =>
      cases hsymbol
      exact (Supplies.added rfl (.ok _)).counted (by simp)
    | insert symbol => exact .none _
    | _ => cases hsymbol
  | homeless hsymbol =>
    cases operation with
    | newTemporary type offset =>
      cases hsymbol
      exact Supplies.homeless.counted (by simp)
    | newStringLabel =>
      cases hsymbol
      exact Supplies.homeless.counted (by simp)
    | insert symbol => exact .none _
    | _ => cases hsymbol
  | drew =>
    rw [namesAdded_drew]
    exact .one .branchLabel _

theorem counted_generatedBy (operations : List Operation) (s : Journaled Environment) :
    Counted s.state.drawn (generatedBy operations s) (run operations s).2.state.drawn := by
  induction operations generalizing s with
  | nil => exact .none _
  | cons operation rest ih =>
    exact (counted_generated operation s).append (ih (operation.perform s).2)

end Environment.Operation

/-! ### No name is generated twice -/

/-- What a declaration binds is a name a program can write. -/
theorem Action.declared_ne_temporary {typeName spec : String} {s : Journaled Session}
    {id : SymbolId} (h : ((declare typeName spec).perform s).1 = .ok (.symbol id)) :
    ∃ symbol, ((declare typeName spec).perform s).2.state.environment.symbol? id = some symbol ∧
      ∀ number, symbol.name ≠ generatedName .temporary number := by
  obtain ⟨hlive, -, -⟩ := changes_of_answer h
  obtain ⟨t, hends, ht⟩ := (declare typeName spec).ends hlive
  rw [ht, environment_keeping]
  rw [h] at hends
  cases hends with
  | quiet hquiet => cases hquiet
  | @declared _ _ _ type declarator grown hdeclarable _ =>
    have hname := writable_of_isName (Declarator.parse_eq_ok hdeclarable.parse_eq).1
    refine ⟨⟨declarator.name, type, s.state.frame.cursor, declarator.words⟩, ?_, ?_⟩
    · rw [withVariable, remarked_eq_wrote]
      exact Array.getElem?_push_size
    · rintro number heq
      rw [show declarator.name = _ from heq] at hname
      exact not_writable_temporary number hname

/-- **No name is generated twice.**  However the actions of a session, or the
    operations on an environment, succeed and fail, the k-th of all generated names
    has the number k, there are as many as numbers were used up, and no two are
    equal.  A declaration binds no name a temporary can have. -/
theorem generated_names_differ :
    (∀ options level actions,
      let start : Journaled Session := { state := Session.start options, journal := { level } }
      let names := Action.generatedBy actions start
      names.length = (Action.run actions start).2.state.environment.drawn ∧
      (∀ k kind name, names[k]? = some (kind, name) → name = generatedName kind k) ∧
      (names.map Prod.snd).Nodup) ∧
    (∀ retains level operations,
      let start : Journaled Environment := { state := { retains }, journal := { level } }
      let names := Environment.Operation.generatedBy operations start
      names.length = (Environment.Operation.run operations start).2.state.drawn ∧
      (∀ k kind name, names[k]? = some (kind, name) → name = generatedName kind k) ∧
      (names.map Prod.snd).Nodup) ∧
    ∀ typeName spec (s : Journaled Session) id,
      ((Action.declare typeName spec).perform s).1 = .ok (.symbol id) →
      ∃ symbol, ((Action.declare typeName spec).perform s).2.state.environment.symbol? id =
          some symbol ∧
        ∀ number, symbol.name ≠ generatedName .temporary number := by
  have hall : ∀ {names last}, Counted 0 names last → names.length = last ∧
      (∀ k kind name, names[k]? = some (kind, name) → name = generatedName kind k) ∧
      (names.map Prod.snd).Nodup := by
    intro names last h
    refine ⟨by rw [h.last_eq, Nat.zero_add], fun k kind name hname => ?_, h.numbered.nodup⟩
    rw [h.numbered k kind name hname, Nat.zero_add]
  refine ⟨fun options level actions => ?_, fun retains level operations => ?_, ?_⟩
  · exact hall (Action.counted_generatedBy actions ⟨Session.start options, { level }⟩)
  · exact hall (Environment.Operation.counted_generatedBy operations ⟨{ retains }, { level }⟩)
  · exact fun typeName spec s id h => Action.declared_ne_temporary h

-- The temporary is there before the variable, and has a sign more in its name.
theorem generated_names_differ_from_declared :
    let s := (Action.run [.enterScope, .intLiteral 5] { state := Session.start {} }).2
    ((Action.declare "int" "t0").perform s).1 = .ok (.symbol 1) ∧
      ∃ symbol, ((Action.declare "int" "t0").perform s).2.state.environment.symbol? 1 =
          some symbol ∧
        ∀ number, symbol.name ≠ generatedName .temporary number := by
  intro s
  have hok : ((Action.declare "int" "t0").perform s).1 = .ok (.symbol 1) := by
    unfold s
    decide +kernel
  exact ⟨hok, generated_names_differ.2.2 "int" "t0" s 1 hok⟩

-- A text is no condition, but the label of the branch is gone.
example :
    Action.generatedBy
      [.enterScope, .intLiteral 5, .stringLiteral "no", .branchIfZero ⟨.string, .label "str_1"⟩]
      { state := Session.start {} } =
    [(.temporary, "t#0"), (.stringLabel, "str_1"), (.branchLabel, "label2")] := by
  decide +kernel

end OnePass
