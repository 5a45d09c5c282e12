/-
  OnePass/Proofs/Account.lean
  ===========================
  **The account a session gives of itself** — its log, against what it has become.

  What a step reports does not depend on the journal (`Step.Tells`), so a run
  reports the same events at every level and a journal keeps those that are severe
  enough.  `Account` relates the events between two sessions to the lines that were
  written, to the moves of scopes and of the frame, and to the first fault.  It
  holds of the basic steps and goes on along `>>=`, along actions and along runs.
-/
import OnePass.Proofs.Entries
import OnePass.Proofs.Parts

namespace OnePass

open Asm Step Session

/-! ### Events added to a journal -/

namespace Journal

def addAll (journal : Journal) (events : List Event) : Journal := events.foldl add journal

theorem addAll_append (journal : Journal) (events more : List Event) :
    journal.addAll (events ++ more) = (journal.addAll events).addAll more :=
  List.foldl_append

@[simp] theorem level_addAll (journal : Journal) (events : List Event) :
    (journal.addAll events).level = journal.level := by
  induction events generalizing journal with
  | nil => rfl
  | cons event rest ih => exact (ih (journal.add event)).trans (level_add journal event)

theorem toList_events_addAll (journal : Journal) (events : List Event) :
    (journal.addAll events).events.toList =
      journal.events.toList ++ events.filter fun e => keeps journal.level e.severity := by
  induction events generalizing journal with
  | nil => exact (List.append_nil _).symm
  | cons event rest ih =>
    have hrest := ih (journal.add event)
    rw [level_add, toList_events_add, List.append_assoc, ← List.filter_append] at hrest
    exact hrest

theorem keeps_trace (severity : Severity) : keeps (some .trace) severity = true := by
  cases severity <;> rfl

/-- A journal that keeps traces keeps everything. -/
theorem entries_addAll {journal : Journal} (hlevel : journal.level = some .trace)
    (events : List Event) :
    (journal.addAll events).entries = journal.entries ++ events.map Event.entry := by
  have hall : events.filter (fun e => keeps journal.level e.severity) = events := by
    rw [hlevel]
    exact List.filter_eq_self.mpr fun e _ => keeps_trace e.severity
  rw [entries, toList_events_addAll, hall, List.map_append, entries]

end Journal

/-! ### What a step reports -/

namespace Step

variable {σ τ α β : Type}

/-- From the first state the step answers and leaves the second one, and reports
    the events on the way. -/
def Tells (step : Step σ α) (s : σ) (answer : Except Fault α) (t : σ) (events : List Event) :
    Prop :=
  ∀ journal, step.perform ⟨s, journal⟩ = (answer, ⟨t, journal.addAll events⟩)

theorem perform_eq_ok_iff {step : Step σ α} {s t : Journaled σ} {a : α} :
    step.perform s = (.ok a, t) ↔ step s = .ok a t := by
  unfold perform
  cases step s <;> simp

theorem perform_eq_failed_iff {step : Step σ α} {s t : Journaled σ} {cause : Fault} :
    step.perform s = (.error cause, t) ↔ step s = .error cause t := by
  unfold perform
  cases step s <;> simp

theorem perform_bind_of_ok {step : Step σ α} {next : α → Step σ β} {s t : Journaled σ} {a : α}
    (h : step.perform s = (.ok a, t)) : (step >>= next).perform s = (next a).perform t := by
  rw [perform, perform, bind_apply_of_ok (perform_eq_ok_iff.mp h)]

theorem perform_bind_of_error {step : Step σ α} {next : α → Step σ β} {s t : Journaled σ}
    {cause : Fault} (h : step.perform s = (.error cause, t)) :
    (step >>= next).perform s = (.error cause, t) := by
  rw [perform, bind_apply_of_error (perform_eq_failed_iff.mp h)]

theorem Tells.bind {step : Step σ α} {next : α → Step σ β} {s t u : σ} {a : α}
    {answer : Except Fault β} {events more : List Event} (h : Tells step s (.ok a) t events)
    (hnext : Tells (next a) t answer u more) :
    Tells (step >>= next) s answer u (events ++ more) := by
  intro journal
  rw [perform_bind_of_ok (h journal), hnext, Journal.addAll_append]

theorem Tells.bind_error {step : Step σ α} {next : α → Step σ β} {s t : σ} {cause : Fault}
    {events : List Event} (h : Tells step s (.error cause) t events) :
    Tells (step >>= next) s (.error cause) t events :=
  fun journal => perform_bind_of_error (h journal)

theorem Tells.within {part : τ → σ} {put : τ → σ → τ} {step : Step σ α} {s : τ} {t : σ}
    {answer : Except Fault α} {events : List Event} (h : Tells step (part s) answer t events) :
    Tells (within part put step) s answer (put s t) events := by
  intro journal
  cases answer with
  | ok a =>
    rw [perform, within_apply_of_ok (perform_eq_ok_iff.mp (h journal))]
  | error cause =>
    rw [perform, within_apply_of_error (perform_eq_failed_iff.mp (h journal))]

/-- A relation between states and the events from one to the other, which goes on. -/
class Additive (R : σ → List Event → σ → Prop) : Prop where
  nil : ∀ s, R s [] s
  append : ∀ {s t u events more}, R s events t → R t more u → R s (events ++ more) u

/-- Whatever the outcome of the step, the relation holds of the events it reports;
    and it does not answer as if an earlier fault were kept. -/
def Audited (R : σ → List Event → σ → Prop) (step : Step σ α) : Prop :=
  ∀ s, ∃ answer t events, Tells step s answer t events ∧ R s events t ∧ answer ≠ .error .aborted

namespace Audited

variable {R : σ → List Event → σ → Prop}

theorem of_ok {step : Step σ α}
    (h : ∀ s, ∃ a t events, Tells step s (.ok a) t events ∧ R s events t) : Audited R step := by
  intro s
  obtain ⟨a, t, events, htells, ht⟩ := h s
  exact ⟨.ok a, t, events, htells, ht, nofun⟩

variable [Additive R]

theorem pure (a : α) : Audited R (Pure.pure a) :=
  of_ok fun s => ⟨a, s, [], fun _ => rfl, Additive.nil s⟩

theorem fail {cause : Fault} (h : cause ≠ .aborted) : Audited R (Step.fail cause : Step σ α) :=
  fun s => ⟨.error cause, s, [], fun _ => rfl, Additive.nil s, fun heq => h (Except.error.inj heq)⟩

theorem ofExcept {result : Except Fault α} (h : ∀ cause, result = .error cause → cause ≠ .aborted) :
    Audited R (Step.ofExcept result) := by
  cases result with
  | ok a => exact pure a
  | error cause => exact fail (h cause rfl)

theorem bind {step : Step σ α} {next : α → Step σ β} (h : Audited R step)
    (hnext : ∀ a, Audited R (next a)) : Audited R (step >>= next) := by
  intro s
  obtain ⟨answer, t, events, htells, ht, hanswer⟩ := h s
  cases answer with
  | ok a =>
    obtain ⟨last, u, more, hthen, hu, hlast⟩ := hnext a t
    exact ⟨last, u, events ++ more, htells.bind hthen, Additive.append ht hu, hlast⟩
  | error cause =>
    refine ⟨.error cause, t, events, htells.bind_error, ht, fun heq => ?_⟩
    exact hanswer (congrArg Except.error (Except.error.inj heq))

end Audited

end Step

/-! ### What the events tell of an environment -/

namespace Environment

/-- Between the environments scopes were entered and left as the events tell, and
    nothing was written. -/
structure Recorded (env : Environment) (events : List Event) (after : Environment) : Prop where
  moves_eq : ∀ cursor, (events.filterMap Event.move?).foldlM Move.step (env.depth, cursor) =
    some (after.depth, cursor)
  lines_eq : events.filterMap Event.line? = []
  errors_eq : events.filter (fun e => e.severity = .error) = []

instance additive_recorded : Additive Recorded where
  nil env := ⟨fun _ => rfl, rfl, rfl⟩
  append h hmore := by
    refine ⟨fun cursor => ?_, ?_, ?_⟩
    · rw [List.filterMap_append, List.foldlM_append, h.moves_eq]
      exact hmore.moves_eq cursor
    · rw [List.filterMap_append, h.lines_eq, hmore.lines_eq, List.append_nil]
    · rw [List.filter_append, h.errors_eq, hmore.errors_eq, List.append_nil]

theorem audited_insert (symbol : Symbol) : Audited Recorded (insert symbol) := by
  intro env
  cases hactive : env.active with
  | nil =>
    refine ⟨.error (.noActiveScope symbol.name), env, [], fun journal => ?_,
      Additive.nil env, by simp⟩
    simp only [perform, insert, bind_apply, current_apply, hactive, fail_apply]
    rfl
  | cons scope outer =>
    refine ⟨.ok env.symbols.size, env.bound symbol, [], fun journal => ?_, ?_, by simp⟩
    · simp only [perform, insert, bind_apply, current_apply, replace_apply, pure_apply, hactive,
        bound, List.modifyHead_cons]
      rfl
    · refine ⟨fun cursor => ?_, rfl, rfl⟩
      simp [depth, bound, hactive, List.foldlM_nil, Pure.pure]

theorem audited_drawName (kind : NameKind) : Audited Recorded (drawName kind) :=
  .of_ok fun env =>
    ⟨generatedName kind env.drawn, env.drew, [], fun _ => rfl, fun _ => rfl, rfl, rfl⟩

theorem audited_report {event : Event} (hmove : event.move? = none) (hline : event.line? = none)
    (hseverity : event.severity ≠ .error) : Audited Recorded (Step.report event) := by
  refine .of_ok fun env => ⟨(), env, [event], fun _ => rfl, fun cursor => ?_, ?_, ?_⟩
  · rw [List.filterMap_cons_none hmove]
    rfl
  · rw [List.filterMap_cons_none hline]
    rfl
  · rw [List.filter_cons_of_neg (by simpa using hseverity)]
    rfl

theorem audited_newTemporary (type : ValueType) (offset : Int) :
    Audited Recorded (newTemporary type offset) := by
  refine (audited_drawName .temporary).bind fun name => ?_
  exact (audited_report rfl rfl (by nofun)).bind fun _ => audited_insert _

theorem audited_newStringLabel : Audited Recorded newStringLabel := by
  refine (audited_drawName .stringLabel).bind fun name => ?_
  refine (audited_report rfl rfl (by nofun)).bind fun _ => ?_
  exact (audited_insert _).bind fun id => .pure _

theorem audited_enterScope : Audited Recorded enterScope := by
  refine .of_ok fun env => ⟨(), { env with active := ∅ :: env.active },
    [.enteredScope (env.depth + 1)], fun _ => rfl, fun cursor => ?_, rfl, rfl⟩
  simp [Event.move?, Move.step, depth]

theorem audited_leaveScope : Audited Recorded leaveScope := by
  intro env
  cases hactive : env.active with
  | nil =>
    refine ⟨.error .scopeUnderflow, env, [], fun journal => ?_, Additive.nil env, by simp⟩
    simp only [perform, leaveScope, bind_apply, current_apply, hactive, fail_apply]
    rfl
  | cons scope outer =>
    refine ⟨.ok (), env.left, [.leftScope env.depth scope.size], fun journal => ?_,
      ⟨fun cursor => ?_, rfl, rfl⟩, by simp⟩
    · simp only [perform, leaveScope, bind_apply, current_apply, report_apply, replace_apply,
        hactive, left, List.tail_cons, List.head?_cons]
      cases env.retains <;> simp [Journal.addAll]
    · simp [Event.move?, Move.step, depth, left, hactive]

end Environment

/-! ### What the events tell of a session -/

namespace Session

/-- How deep the scopes are, and where the frame ends. -/
def position (session : Session) : Nat × Int :=
  (session.environment.depth, session.frame.cursor)

/-- What is reported of the first fault. -/
def faults (session : Session) : List Event := session.firstFault.toList.map Event.aborted

/-- What the events tell of the second session, if it has become of the first. -/
structure Account (s : Session) (events : List Event) (t : Session) : Prop where
  code_eq : t.code = s.code ++ events.filterMap Event.line?
  moves_eq : (events.filterMap Event.move?).foldlM Move.step s.position = some t.position
  faults_eq : t.faults = s.faults ++ events.filter fun e => e.severity = .error

/-- A rule reports no fault and keeps none. -/
def Recorded (s : Session) (events : List Event) (t : Session) : Prop :=
  Account s events t ∧ t.firstFault = s.firstFault

theorem Account.nil (s : Session) : Account s [] s := by
  refine ⟨?_, rfl, ?_⟩
  · simp
  · simp

theorem Account.append {s t u : Session} {events more : List Event} (h : Account s events t)
    (hmore : Account t more u) : Account s (events ++ more) u := by
  refine ⟨?_, ?_, ?_⟩
  · rw [hmore.code_eq, h.code_eq, List.filterMap_append, List.append_assoc]
  · rw [List.filterMap_append, List.foldlM_append, h.moves_eq]
    exact hmore.moves_eq
  · rw [hmore.faults_eq, h.faults_eq, List.filter_append, List.append_assoc]

instance additive_recorded : Additive Recorded where
  nil s := ⟨.nil s, rfl⟩
  append h hmore := ⟨h.1.append hmore.1, hmore.2.trans h.2⟩

/-- Nothing happened that an account is about. -/
theorem Recorded.of_eq {s t : Session} (hcode : t.code = s.code)
    (hposition : t.position = s.position) (hfault : t.firstFault = s.firstFault) :
    Recorded s [] t := by
  refine ⟨⟨?_, ?_, ?_⟩, hfault⟩
  · rw [hcode]
    exact (List.append_nil _).symm
  · rw [hposition]
    rfl
  · rw [faults, hfault]
    exact (List.append_nil _).symm

variable {α : Type}

theorem audited_inEnvironment {step : Step Environment α}
    (h : Audited Environment.Recorded step) : Audited Recorded (inEnvironment step) := by
  intro s
  obtain ⟨answer, after, events, htells, hafter, hanswer⟩ := h s.environment
  refine ⟨answer, { s with environment := after }, events, htells.within, ⟨⟨?_, ?_, ?_⟩, rfl⟩,
    hanswer⟩
  · rw [hafter.lines_eq]
    exact (List.append_nil _).symm
  · exact hafter.moves_eq s.frame.cursor
  · rw [hafter.errors_eq]
    exact (List.append_nil _).symm

theorem audited_line {line : Line} (hcode : line.isCode = true) :
    Audited Recorded (inListing (Listing.emit line)) := by
  refine .of_ok fun s => ⟨(), s.wrote [line], [.emitted line], ?_, ⟨⟨?_, rfl, ?_⟩, rfl⟩⟩
  · refine Tells.within (t := { s.listing with body := s.listing.body ++ #[line] }) ?_
    intro journal
    simp only [perform, Listing.emit, bind_apply, report_apply, current_apply, replace_apply,
      Array.push_eq_append]
    rfl
  · rw [code_wrote, List.filter_cons_of_pos hcode]
    rfl
  · exact (List.append_nil _).symm

theorem audited_annotate (text : String) : Audited Recorded (annotate text) := by
  refine .of_ok fun s => ⟨(), s.remarked text, [], ?_, ?_⟩
  · intro journal
    have hstep : annotate text ⟨s, journal⟩ = .ok () ⟨s.remarked text, journal⟩ := by
      unfold annotate inListing Step.within Listing.annotate
      rw [bind_apply_of_ok (current_apply _)]
      by_cases hannotated : s.listing.annotated = true
      · simp [remarked, wrote, hannotated]
      · simp [remarked, hannotated]
    rw [perform, hstep]
    rfl
  · refine .of_eq (code_remarked s text) ?_ ?_
    · rw [remarked_eq_wrote]
      rfl
    · rw [remarked_eq_wrote]
      rfl

theorem audited_addString (entry : StringEntry) :
    Audited Recorded (inListing (Listing.addString entry)) := by
  refine .of_ok fun s => ⟨(),
    { s with listing := { s.listing with strings := s.listing.strings.push entry } }, [], ?_,
    .of_eq rfl rfl rfl⟩
  exact fun journal => rfl

theorem audited_allocate (words : Nat) : Audited Recorded (inFrame (Frame.allocate words)) := by
  intro s
  cases hroom : s.frame.grow? words with
  | none =>
    refine ⟨.error (.frameOverflow words), s, [], ?_, Additive.nil s, by simp⟩
    refine Tells.within (t := s.frame) fun journal => ?_
    rw [perform, Frame.allocate_of_no_room hroom]
    rfl
  | some grown =>
    have hcursor := (Frame.grow?_eq_some_iff.mp hroom).1
    refine ⟨.ok s.frame.cursor, { s with frame := grown },
      [.allocated words s.frame.cursor grown.cursor], ?_, ⟨⟨?_, ?_, ?_⟩, rfl⟩, by simp⟩
    · refine Tells.within (t := grown) fun journal => ?_
      rw [perform, Frame.allocate_of_room hroom]
      rfl
    · exact (List.append_nil _).symm
    · simp [Event.move?, Move.step, position, hcursor]
    · exact (List.append_nil _).symm

theorem audited_acquire : Audited Recorded (inPool AddressPool.acquire) := by
  intro s
  cases hfree : s.pool.acquire? with
  | none =>
    refine ⟨.error .registersExhausted, s, [], ?_, Additive.nil s, by simp⟩
    refine Tells.within (t := s.pool) fun journal => ?_
    simp only [perform, AddressPool.acquire, bind_apply, current_apply, hfree, fail_apply]
    rfl
  | some taken =>
    refine ⟨.ok taken.1, { s with pool := taken.2 }, [], ?_, .of_eq rfl rfl rfl, by simp⟩
    refine Tells.within (t := taken.2) fun journal => ?_
    simp only [perform, AddressPool.acquire, bind_apply, current_apply, hfree, replace_apply,
      pure_apply]
    rfl

theorem ne_aborted_of_isCheck {cause : Fault} (h : cause.isCheck = true) : cause ≠ .aborted := by
  rintro rfl
  cases h

/-- A step that depends on the session is looked at for each session. -/
theorem audited_current_bind {next : Session → Step Session α}
    (h : ∀ s, Audited Recorded (next s)) : Audited Recorded (current >>= next) :=
  fun s => h s s

theorem composed_recorded : Composed fun _ step => Audited Recorded step where
  pure := .pure
  bind := .bind
  current_bind := audited_current_bind
  fail hcheck := .fail (ne_aborted_of_isCheck hcheck)
  line := audited_line
  annotate := audited_annotate
  addString := audited_addString
  acquire := audited_acquire
  free r := .of_ok fun s => ⟨(), { s with pool := s.pool.free r }, [], fun _ => rfl,
    .of_eq rfl rfl rfl⟩

theorem audited_newTemporary (type : ValueType) : Audited Recorded (newTemporary type) := by
  refine (audited_allocate 1).bind fun offset => ?_
  have hadd := audited_inEnvironment (Environment.audited_newTemporary type offset)
  exact hadd.bind fun id => .pure offset

theorem audited_requireFresh (name : String) : Audited Recorded (requireFresh name) := by
  refine audited_current_bind fun s => ?_
  simp only
  split
  · exact .fail nofun
  · exact .pure ()

theorem audited_declared {type : ValueType} {name : String} {words : Nat} {offset : Int} :
    Audited Recorded (Step.report (.declared type name words offset)) := by
  refine .of_ok fun s => ⟨(), s, [.declared type name words offset], fun _ => rfl, ⟨?_, rfl, ?_⟩,
    rfl⟩
  · exact (List.append_nil _).symm
  · exact (List.append_nil _).symm

theorem audited_declare (typeName spec : String) : Audited Recorded (declare typeName spec) := by
  refine Audited.bind (composed_recorded.ofExcept fun _ => isCheck_of_declaredType) fun type => ?_
  refine Audited.bind (composed_recorded.ofExcept fun _ => Declarator.isCheck_of_parse)
    fun declarator => ?_
  refine (audited_requireFresh _).bind fun _ => ?_
  refine (audited_allocate _).bind fun offset => ?_
  refine audited_declared.bind fun _ => ?_
  refine (audited_annotate _).bind fun _ => ?_
  exact audited_inEnvironment (Environment.audited_insert _)

theorem naming_recorded : Composed.Naming fun _ step => Audited Recorded step where
  newTemporary := audited_newTemporary
  newLabel := audited_inEnvironment (Environment.audited_drawName .branchLabel)
  newStringLabel := audited_inEnvironment Environment.audited_newStringLabel
  enterScope := audited_inEnvironment Environment.audited_enterScope
  leaveScope := audited_inEnvironment Environment.audited_leaveScope
  declare := audited_declare

end Session

/-! ### Actions and runs -/

namespace Action

/-- The fault that an answer reports for the first time. -/
def failure? : Except Fault Reply → Option Fault
  | .ok _ => none
  | .error .aborted => none
  | .error cause => some cause

theorem failure?_error {cause : Fault} (h : cause ≠ .aborted) :
    failure? (.error cause) = some cause := by
  cases cause <;> first | rfl | exact absurd rfl h

/-- An action that is performed from the first session answers and leaves the
    second one, and the events are what it reports. -/
structure Reports (action : Action) (s : Session) (answer : Except Fault Reply) (t : Session)
    (events : List Event) : Prop where
  perform_eq : ∀ journal, action.perform ⟨s, journal⟩ = (answer, ⟨t, journal.addAll events⟩)
  account : Account s events t
  errors_eq : events.filter (fun e => e.severity = .error) =
    (failure? answer).toList.map Event.aborted
  refused : answer = .error .aborted → events = [] ∧ t = s

/-- The fault is the last thing that is reported. -/
theorem Reports.of_error {action : Action} {s t : Session} {cause : Fault} {events : List Event}
    (hlive : s.firstFault = none) (htells : Tells action.rule s (.error cause) t events)
    (ht : Recorded s events t) (hcause : cause ≠ .aborted) :
    action.Reports s (.error cause) { t with firstFault := some cause }
      (events ++ [.aborted cause]) := by
  have hfaults : s.faults = [] := by rw [faults, hlive]; rfl
  have herrors : events.filter (fun e => e.severity = .error) = [] := by
    have hsame := ht.1.faults_eq
    rwa [faults, ht.2, hlive, hfaults, List.nil_append, eq_comm] at hsame
  refine ⟨fun journal => ?_, ?_, ?_, fun heq => absurd (Except.error.inj heq) hcause⟩
  · have hrule := perform_eq_failed_iff.mp (htells journal)
    simp only [perform, act, Step.perform, hlive, hrule, Journal.addAll_append]
    rfl
  · have hnone : t.faults = [] := by rw [faults, ht.2, hlive]; rfl
    refine ht.1.append ⟨(List.append_nil _).symm, rfl, ?_⟩
    rw [hnone]
    rfl
  · rw [List.filter_append, herrors, failure?_error hcause]
    rfl

theorem Reports.of_ok {action : Action} {s t : Session} {reply : Reply} {events : List Event}
    (hlive : s.firstFault = none) (htells : Tells action.rule s (.ok reply) t events)
    (ht : Recorded s events t) : action.Reports s (.ok reply) t events := by
  refine ⟨fun journal => ?_, ht.1, ?_, nofun⟩
  · have hrule := perform_eq_ok_iff.mp (htells journal)
    simp only [perform, act, Step.perform, hlive, hrule]
  · have hsame := ht.1.faults_eq
    rwa [faults, faults, ht.2, hlive, eq_comm] at hsame

theorem Reports.of_aborted {action : Action} {s : Session} (h : s.firstFault ≠ none) :
    action.Reports s (.error .aborted) s [] :=
  ⟨fun _ => perform_of_aborted h, .nil s, rfl, fun _ => ⟨rfl, rfl⟩⟩

/-- What an action reports depends on the session alone. -/
theorem reports (action : Action) (s : Session) :
    ∃ answer t events, action.Reports s answer t events := by
  by_cases hlive : s.firstFault = none
  · have hrule := composed_recorded.rule naming_recorded action
    obtain ⟨answer, t, events, htells, ht, hanswer⟩ := hrule s
    cases answer with
    | ok reply => exact ⟨_, _, _, .of_ok hlive htells ht⟩
    | error cause =>
      exact ⟨_, _, _, .of_error hlive htells ht fun heq => hanswer (congrArg _ heq)⟩
  · exact ⟨_, _, _, .of_aborted hlive⟩

/-- So does what a run reports. -/
theorem reports_run (actions : List Action) (s : Session) :
    ∃ answers t events, Account s events t ∧
      ∀ journal, run actions ⟨s, journal⟩ = (answers, ⟨t, journal.addAll events⟩) := by
  induction actions generalizing s with
  | nil => exact ⟨[], s, [], .nil s, fun journal => rfl⟩
  | cons action rest ih =>
    obtain ⟨answer, t, events, hreports⟩ := action.reports s
    obtain ⟨answers, u, more, hmore, hrest⟩ := ih t
    refine ⟨answer :: answers, u, events ++ more, hreports.account.append hmore, fun journal => ?_⟩
    rw [run, hreports.perform_eq, Journal.addAll_append]
    simp only [hrest]

end Action

/-- The entry of a fault that ends a session. -/
def Fault.entry (cause : Fault) : LogEntry := ⟨.error, "compilation aborted: " ++ cause.message⟩

/-- **The log tells what happened.**  It is kept of a run of a session, at a level.
    At the level of traces the lines that were emitted are those of the body that
    are no remarks; the moves lead from the start to the depth of the scopes and
    the cursor of the frame; and there is an error just if a fault is kept, which
    it names.  What one more action adds has an error just if the action is the
    first to fail, and it is nothing if the action is refused.  At any level the
    answers and the session are the same, and the log is that of the traces less
    what is not severe enough. -/
theorem log_tells_run (options : Options) (actions : List Action) :
    let run (level : Option Severity) :=
      Action.run actions { state := Session.start options, journal := { level } }
    let s := (run (some .trace)).2
    let log := s.journal.entries
    (log.filterMap LogEntry.emitted? = s.state.code.map Line.text ∧
      (log.filterMap LogEntry.move?).foldlM Move.step (0, 0) =
        some (s.state.environment.depth, s.state.frame.cursor) ∧
      log.filter (fun entry => entry.severity = .error) =
        s.state.firstFault.toList.map Fault.entry) ∧
    (∀ action : Action, ∃ added, (action.perform s).2.journal.entries = log ++ added ∧
      added.filter (fun entry => entry.severity = .error) =
        (Action.failure? (action.perform s).1).toList.map Fault.entry ∧
      ((action.perform s).1 = .error .aborted → added = [] ∧ (action.perform s).2 = s)) ∧
    ∀ level, (run level).1 = (run (some .trace)).1 ∧ (run level).2.state = s.state ∧
      (run level).2.journal.entries =
        log.filter fun entry => Journal.keeps level entry.severity := by
  obtain ⟨answers, t, events, haccount, hrun⟩ := Action.reports_run actions (Session.start options)
  intro run s log
  have hs : s = ⟨t, ({ level := some .trace } : Journal).addAll events⟩ := by
    unfold s run
    rw [hrun]
  have hlevel : s.journal.level = some .trace := by
    rw [hs, Journal.level_addAll]
  have hlog : log = events.map Event.entry := by
    unfold log
    rw [hs]
    exact Journal.entries_addAll rfl events
  have hfaults : ∀ faults : List Fault, (faults.map Event.aborted).map Event.entry =
      faults.map Fault.entry := fun faults => List.map_map
  refine ⟨⟨?_, ?_, ?_⟩, fun action => ?_, fun level => ?_⟩
  · have hcode := haccount.code_eq
    rw [hlog, Event.filterMap_emitted?, hs, hcode]
    rfl
  · rw [hlog, Event.filterMap_move?, hs]
    exact haccount.moves_eq
  · have herrors := haccount.faults_eq
    rw [show (Session.start options).faults = [] from rfl, List.nil_append] at herrors
    rw [hlog, Event.filter_entry (fun severity => severity = .error), ← herrors, hs]
    exact hfaults _
  · obtain ⟨answer, u, added, hreports⟩ := action.reports s.state
    have hperform : action.perform s = (answer, ⟨u, s.journal.addAll added⟩) :=
      hreports.perform_eq s.journal
    rw [hperform]
    refine ⟨added.map Event.entry, Journal.entries_addAll hlevel added, ?_, fun hrefused => ?_⟩
    · rw [Event.filter_entry (fun severity => severity = .error), hreports.errors_eq]
      exact hfaults _
    · obtain ⟨hadded, hu⟩ := hreports.refused hrefused
      rw [hadded, hu]
      exact ⟨rfl, rfl⟩
  · unfold run
    rw [hrun, hrun, hlog]
    refine ⟨rfl, by rw [hs], ?_⟩
    rw [Event.filter_entry (Journal.keeps level), Journal.entries, Journal.toList_events_addAll]
    rfl

-- There is no such type, and nothing is reported behind that.
theorem log_tells_run_of_unknown_type :
    let s := (Action.run [.enterScope, .intLiteral 5, .declare "float" "x"]
      { state := Session.start {}, journal := { level := some .trace } }).2
    s.journal.entries =
        [⟨.trace, "entered scope 1"⟩,
         ⟨.trace, "allocated 1 word(s) at 0, cursor now -4"⟩,
         ⟨.debug, "temporary t#0: int at 0"⟩,
         ⟨.trace, "emit: li $t0, 5"⟩,
         ⟨.trace, "emit: sw $t0, 0($sp)"⟩,
         ⟨.error, "compilation aborted: invalid type in variable declaration: float"⟩] ∧
      (Action.newline.perform s).1 = .error .aborted ∧
      (Action.newline.perform s).2.journal.entries = s.journal.entries := by
  have hnext := (log_tells_run {} [.enterScope, .intLiteral 5, .declare "float" "x"]).2.1 .newline
  dsimp only at hnext ⊢
  obtain ⟨added, -, -, hnothing⟩ := hnext
  refine ⟨by decide +kernel, by decide +kernel, ?_⟩
  exact congrArg (·.journal.entries) (hnothing (by decide +kernel)).2

end OnePass
