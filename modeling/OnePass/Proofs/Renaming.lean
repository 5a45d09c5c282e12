/-
  OnePass/Proofs/Renaming.lean
  ============================
  **Renaming** — the code of a program does not depend on its names.

  Programs choose identifiers; the names of temporaries and of string labels
  are chosen for them.  Two programs that differ by an injective renaming of
  identifiers are compiled in lockstep: scopes bind the old names and the new
  ones to symbols of the same numbers, which differ in nothing but the name.
-/
import OnePass.Proofs.Lockstep
import OnePass.Proofs.Spelling
import Mathlib.Logic.Equiv.Basic

namespace OnePass

open Asm Step Session

/-! ### Identifiers and their renamings -/

/-- A name that a program can write and no string label is given. -/
structure Identifier where
  text : String
  isName : Text.isName text.toList = true
  ne_stringLabel : ∀ number, text ≠ generatedName .stringLabel number

@[ext] theorem Identifier.ext {x y : Identifier} (h : x.text = y.text) : x = y := by
  cases x
  cases y
  cases h
  rfl

instance : DecidableEq Identifier := fun x y =>
  decidable_of_iff (x.text = y.text) ⟨Identifier.ext, congrArg Identifier.text⟩

theorem Identifier.ne_generatedName (x : Identifier) {kind : NameKind} (hkind : kind ≠ .branchLabel)
    (number : Nat) : generatedName kind number ≠ x.text := by
  intro heq
  cases kind with
  | temporary => exact not_writable_temporary number (heq ▸ writable_of_isName x.isName)
  | stringLabel => exact x.ne_stringLabel number heq.symm
  | branchLabel => exact hkind rfl

/-- The text between the brackets of an element is meant as a number. -/
def Access.isLiteral (index : String) : Bool :=
  index.toList.all Subscripted.isIndexChar && isNumeric index.toList

/-- The action has no name of the program. -/
def Action.isUnspecified : Action → Bool
  | .declare _ _ => false
  | .resolve _ => false
  | _ => true

section Renaming

variable (f : Identifier → Identifier)

/-- The second action is the first with its identifiers renamed. -/
inductive Action.Renamed : Action → Action → Prop
  | declare (typeName : String) (x : Identifier) :
      Renamed (.declare typeName x.text) (.declare typeName (f x).text)
  | declareArray (typeName : String) (x : Identifier) (size : String) :
      Renamed (.declare typeName (Access.spelling x.text size))
        (.declare typeName (Access.spelling (f x).text size))
  | resolve (x : Identifier) : Renamed (.resolve x.text) (.resolve (f x).text)
  | resolveLiteral (x : Identifier) {index : String} (hindex : Access.isLiteral index = true) :
      Renamed (.resolve (Access.spelling x.text index))
        (.resolve (Access.spelling (f x).text index))
  | resolveNamed (x i : Identifier) :
      Renamed (.resolve (Access.spelling x.text i.text))
        (.resolve (Access.spelling (f x).text (f i).text))
  | other {action : Action} (h : action.isUnspecified = true) : Renamed action action

/-- The second fault is the first with its identifiers renamed. -/
inductive Fault.Renamed : Fault → Fault → Prop
  | undeclared (x : Identifier) :
      Renamed (.undeclaredSymbol x.text) (.undeclaredSymbol (f x).text)
  | duplicate (x : Identifier) (offset : Int) :
      Renamed (.duplicateDeclaration x.text offset) (.duplicateDeclaration (f x).text offset)
  | homeless (x : Identifier) : Renamed (.noActiveScope x.text) (.noActiveScope (f x).text)
  | size (x : Identifier) (size : String) :
      Renamed (.invalidArrayDeclaration (Access.spelling x.text size))
        (.invalidArrayDeclaration (Access.spelling (f x).text size))
  | index (x : Identifier) (index : String) :
      Renamed (.invalidArrayIndex (Access.spelling x.text index))
        (.invalidArrayIndex (Access.spelling (f x).text index))
  | generated (kind : NameKind) (number : Nat) :
      Renamed (.noActiveScope (generatedName kind number))
        (.noActiveScope (generatedName kind number))
  | anonymous {cause : Fault} (h : cause.isAnonymous = true) : Renamed cause cause

/-- What the first scope binds to an identifier, the second binds to its new name. -/
def Scope.Renamed (scope other : Scope) : Prop :=
  ∀ x : Identifier, other[(f x).text]? = scope[x.text]?

structure Environment.Renamed (e e' : Environment) : Prop where
  symbols_eq : e'.symbols.map Symbol.unnamed = e.symbols.map Symbol.unnamed
  drawn_eq : e'.drawn = e.drawn
  active : List.Forall₂ (Scope.Renamed f) e.active e'.active

/-- Sessions that differ in names, without remarks. -/
def renamer : Coupling where
  strict := True
  causes := Fault.Renamed f
  environments := Environment.Renamed f
  listings l m := m = l ∧ l.annotated = false

end Renaming

variable {f : Identifier → Identifier}

/-! ### Renamed scopes -/

namespace Scope.Renamed

variable {scope other : Scope}

theorem empty : Scope.Renamed f ∅ ∅ := by
  intro x
  simp

theorem bind (hf : Function.Injective f) (h : Scope.Renamed f scope other) (x : Identifier)
    (id : SymbolId) : Scope.Renamed f (scope.insert x.text id) (other.insert (f x).text id) := by
  intro y
  rw [Scope.getElem?_bind, Scope.getElem?_bind, h y]
  by_cases hxy : x = y
  · rw [hxy, if_pos rfl, if_pos rfl]
  · have hold : x.text ≠ y.text := fun heq => hxy (Identifier.ext heq)
    have hnew : (f x).text ≠ (f y).text := fun heq => hxy (hf (Identifier.ext heq))
    rw [if_neg hold, if_neg hnew]

/-- Generated names are not in the way of identifiers. -/
theorem bind_generated (h : Scope.Renamed f scope other) {kind : NameKind}
    (hkind : kind ≠ .branchLabel) (number : Nat) (id : SymbolId) :
    Scope.Renamed f (scope.insert (generatedName kind number) id)
      (other.insert (generatedName kind number) id) := by
  intro x
  rw [Scope.getElem?_bind, Scope.getElem?_bind, if_neg ((f x).ne_generatedName hkind number),
    if_neg (x.ne_generatedName hkind number), h x]

theorem findSome?_eq {active active' : List Scope}
    (h : List.Forall₂ (Scope.Renamed f) active active') (x : Identifier) :
    active'.findSome? (fun scope => scope[(f x).text]?) =
      active.findSome? fun scope => scope[x.text]? := by
  induction h with
  | nil => rfl
  | cons hscope _ ih => rw [List.findSome?_cons, List.findSome?_cons, hscope x, ih]

end Scope.Renamed

/-! ### Renamed environments -/

namespace Environment.Renamed

variable {e e' : Environment}

theorem size_eq (h : Environment.Renamed f e e') : e'.symbols.size = e.symbols.size := by
  have hsize := congrArg Array.size h.symbols_eq
  rwa [Array.size_map, Array.size_map] at hsize

theorem active_eq_nil_iff (h : Environment.Renamed f e e') : e.active = [] ↔ e'.active = [] := by
  rw [← List.length_eq_zero_iff, ← List.length_eq_zero_iff, h.active.length_eq]

theorem symbol?_eq (h : Environment.Renamed f e e') (id : SymbolId) :
    (e'.symbol? id).map Symbol.unnamed = (e.symbol? id).map Symbol.unnamed := by
  rw [symbol?, symbol?, ← Array.getElem?_map, ← Array.getElem?_map, h.symbols_eq]

theorem find?_eq (h : Environment.Renamed f e e') (x : Identifier) :
    e'.find? (f x).text = e.find? x.text :=
  Scope.Renamed.findSome?_eq h.active x

theorem findLocal?_eq (h : Environment.Renamed f e e') (x : Identifier) :
    e'.findLocal? (f x).text = e.findLocal? x.text := by
  have hactive := h.active
  unfold findLocal?
  generalize e.active = active, e'.active = active' at hactive
  cases hactive with
  | nil => rfl
  | cons hscope _ => exact hscope x

/-- One more symbol, bound to names that correspond. -/
theorem bound (h : Environment.Renamed f e e') {symbol twin : Symbol}
    (hunnamed : twin.unnamed = symbol.unnamed)
    (hscope : ∀ {scope other : Scope} (id : SymbolId), Scope.Renamed f scope other →
      Scope.Renamed f (scope.insert symbol.name id) (other.insert twin.name id)) :
    Environment.Renamed f (e.bound symbol) (e'.bound twin) where
  symbols_eq := by
    simp only [Environment.bound, Array.map_push, h.symbols_eq, hunnamed]
  drawn_eq := h.drawn_eq
  active := by
    have hactive := h.active
    simp only [Environment.bound, h.size_eq]
    generalize e.active = active, e'.active = active' at hactive
    cases hactive with
    | nil => exact .nil
    | cons hfirst hrest => exact .cons (hscope _ hfirst) hrest

theorem entered (h : Environment.Renamed f e e') :
    Environment.Renamed f { e with active := ∅ :: e.active } { e' with active := ∅ :: e'.active } :=
  ⟨h.symbols_eq, h.drawn_eq, .cons Scope.Renamed.empty h.active⟩

theorem left (h : Environment.Renamed f e e') : Environment.Renamed f e.left e'.left := by
  refine ⟨h.symbols_eq, h.drawn_eq, ?_⟩
  have htail := List.forall₂_drop 1 h.active
  rwa [List.drop_one, List.drop_one] at htail

end Environment.Renamed

/-! ### Rules under a renaming -/

theorem renamer_lawful (f : Identifier → Identifier) : (renamer f).Lawful where
  wrote := by
    rintro l m lines - ⟨rfl, hplain⟩
    exact ⟨rfl, hplain⟩
  remarked := by
    rintro s t text ⟨heq, hplain⟩
    rw [remarked_of_plain hplain, remarked_of_plain (heq ▸ hplain)]
    exact ⟨heq, hplain⟩
  stored := by
    rintro l m entry ⟨rfl, hplain⟩
    exact ⟨rfl, hplain⟩
  drawn_eq h := h.drawn_eq
  size_eq h := h.size_eq
  active_ne h hactive := fun hnil => hactive (h.active_eq_nil_iff.mpr hnil)
  active_eq h _ hactive := h.active_eq_nil_iff.mp hactive
  drew h := ⟨h.symbols_eq, congrArg (· + 1) h.drawn_eq, h.active⟩
  bound := by
    rintro e e' symbol kind number hname hkind - h
    apply h.bound rfl
    intro scope other id hscope
    rw [hname]
    exact hscope.bind_generated hkind number id
  anonymous h := .anonymous h
  homeless kind number := .generated kind number

namespace renamer

theorem twins (f : Identifier → Identifier) (x : Identifier) :
    (renamer f).Twins x.text (f x).text where
  undeclared := .undeclared x
  found_eq := by
    intro e e' h
    rw [h.find?_eq x]
    cases e.find? x.text with
    | none => rfl
    | some id => exact h.symbol?_eq id

theorem twinDeclarator (hf : Function.Injective f) (x : Identifier) (words : Nat) :
    (renamer f).TwinDeclarator ⟨x.text, words⟩ ⟨(f x).text, words⟩ := by
  have htaken : ∀ {e e'}, Environment.Renamed f e e' →
      ((e'.findLocal? (f x).text).bind e'.symbol?).map Symbol.unnamed =
        ((e.findLocal? x.text).bind e.symbol?).map Symbol.unnamed := by
    intro e e' h
    rw [h.findLocal?_eq x]
    cases e.findLocal? x.text with
    | none => rfl
    | some id => exact h.symbol?_eq id
  constructor
  · rfl
  · exact fun offset => .duplicate x offset
  · exact .homeless x
  · intro e e' h hfresh
    have heq := htaken h
    rwa [hfresh, Option.map_none, Option.map_eq_none_iff] at heq
  · exact fun _ => htaken
  · intro e e' type offset _ h
    refine Environment.Renamed.bound h ?_ fun id hscope => ?_
    · rfl
    · exact hscope.bind hf x id

/-- Without remarks it does not matter what they would say. -/
theorem matches_annotate (f : Identifier → Identifier) (text other : String) :
    (renamer f).Matches Eq (annotate text) (annotate other) := by
  apply Lockstep.of_yields
  intro s t hst
  obtain ⟨heq, hplain⟩ := hst.listing
  refine ⟨(), (), _, _, yields_annotate text s, yields_annotate other t, rfl, ?_⟩
  rw [remarked_of_plain hplain, remarked_of_plain (heq ▸ hplain)]
  exact hst

theorem matches_resolve (f : Identifier → Identifier) {spec other : String}
    (hparse : Alike (Fault.Renamed f) ((renamer f).TwinAccess spec other) (Access.parse spec)
      (Access.parse other)) :
    (renamer f).Matches Eq (Action.rule (.resolve spec)) (Action.rule (.resolve other)) := by
  apply Coupling.matches_reply
  apply Coupling.matches_resolve (renamer_lawful f) hparse
  intro slot
  exact matches_annotate f _ _

theorem matches_declare (f : Identifier → Identifier) (typeName : String) {spec other : String}
    (hparse : Alike (Fault.Renamed f) (renamer f).TwinDeclarator (Declarator.parse spec)
      (Declarator.parse other)) :
    (renamer f).Matches Eq (Action.rule (.declare typeName spec))
      (Action.rule (.declare typeName other)) := by
  apply Coupling.matches_reply
  apply Coupling.matches_declare (renamer_lawful f) hparse
  intro type offset
  exact matches_annotate f _ _

/-- An action and its renaming are performed in lockstep. -/
theorem matches_rule (hf : Function.Injective f) {action renamed : Action}
    (h : Action.Renamed f action renamed) :
    (renamer f).Matches Eq action.rule renamed.rule := by
  cases h with
  | declare typeName x =>
    apply matches_declare f typeName
    rw [Declarator.parse_name x.isName, Declarator.parse_name (f x).isName]
    exact .ok (twinDeclarator hf x 1)
  | declareArray typeName x size =>
    apply matches_declare f typeName
    rw [Declarator.parse_spelling size x.isName, Declarator.parse_spelling size (f x).isName]
    cases Declarator.bracketed? size with
    | none => exact .error (.size x size)
    | some words => exact .ok (twinDeclarator hf x words)
  | resolve x =>
    apply matches_resolve f
    rw [Access.parse_name x.isName, Access.parse_name (f x).isName]
    exact .ok (.name (twins f x))
  | @resolveLiteral x index hindex =>
    simp only [Access.isLiteral, Bool.and_eq_true, List.all_eq_true] at hindex
    apply matches_resolve f
    rw [Access.parse_numeric x.isName hindex.1 hindex.2,
      Access.parse_numeric (f x).isName hindex.1 hindex.2]
    cases Access.literal? index.toList with
    | none => exact .error (.index x index)
    | some value => exact .ok (.literal (twins f x) value (.index x index))
  | resolveNamed x i =>
    apply matches_resolve f
    rw [Access.parse_named x.isName i.isName, Access.parse_named (f x).isName (f i).isName]
    exact .ok (.named (twins f x) (twins f i))
  | @other action h =>
    cases action with
    | enterScope => exact Coupling.matches_enterScope Environment.Renamed.entered
    | leaveScope => exact Coupling.matches_leaveScope (renamer_lawful f) Environment.Renamed.left
    | declare typeName spec => cases h
    | resolve spec => cases h
    | _ => exact Coupling.matches_rule (renamer_lawful f) rfl

theorem together_start (f : Identifier → Identifier) {options : Options}
    (hplain : options.annotate = false) (level : Option Severity) :
    (renamer f).Together { state := Session.start options, journal := { level } }
      { state := Session.start options, journal := { level } } :=
  ⟨⟨⟨rfl, rfl, .nil⟩, ⟨rfl, hplain⟩, rfl, rfl⟩, .none⟩

end renamer

/-- **Names leave no trace in the code.**  A program and its renaming are
    answered alike, action by action: with the same records, numbers and
    labels, or with faults that tell the same of renamed identifiers.  After
    any number of actions frame, depth, body and assembly file are the same. -/
theorem run_renamed {f : Identifier → Identifier} (hf : Function.Injective f) {options : Options}
    (hplain : options.annotate = false) (level : Option Severity) {actions renamed : List Action}
    (h : List.Forall₂ (Action.Renamed f) actions renamed) (n : Nat) :
    let s : Journaled Session := { state := Session.start options, journal := { level } }
    let before := Action.run (actions.take n) s
    let after := Action.run (renamed.take n) s
    List.Forall₂ (Alike (Fault.Renamed f) Eq) before.1 after.1 ∧
      after.2.state.frame = before.2.state.frame ∧
      after.2.state.environment.depth = before.2.state.environment.depth ∧
      after.2.state.body = before.2.state.body ∧
      after.2.state.assembly = before.2.state.assembly := by
  intro s before after
  have hrules : List.Forall₂ (fun action other => (renamer f).Matches Eq action.rule other.rule)
      (actions.take n) (renamed.take n) :=
    (List.forall₂_take n h).imp fun _ _ hrenamed => renamer.matches_rule hf hrenamed
  obtain ⟨hanswers, hcouples, -⟩ := (renamer.together_start f hplain level).run
    (renamer_lawful f) trivial hrules
  obtain ⟨hlisting, -⟩ := hcouples.listing
  refine ⟨hanswers, hcouples.frame_eq, ?_, ?_, ?_⟩
  · exact hcouples.environment.active.length_eq.symm
  · exact congrArg (fun listing => listing.body.toList) hlisting
  · exact congrArg Listing.render hlisting

theorem ne_stringLabel_of_head {text : String} (h : text.toList.head? ≠ some 's') (number : Nat) :
    text ≠ generatedName .stringLabel number := by
  rintro rfl
  apply h
  simp [generatedName, NameKind.stem, String.toList_append]

-- An array and its index change names; the last declaration is one too many.
theorem run_renamed_of_swap :
    let s : Journaled Session := { state := Session.start {} }
    let before := Action.run [.enterScope, .declare "int" (Access.spelling "x" "3"),
      .declare "int" "i", .resolve (Access.spelling "x" "i"), .resolve (Access.spelling "x" "2"),
      .declare "char" "i"] s
    let after := Action.run [.enterScope, .declare "int" (Access.spelling "i" "3"),
      .declare "int" "x", .resolve (Access.spelling "i" "x"), .resolve (Access.spelling "i" "2"),
      .declare "char" "x"] s
    before.1 = [.ok .done, .ok (.symbol 0), .ok (.symbol 1),
      .ok (.record ⟨.int, .indirect (-16)⟩), .ok (.record ⟨.int, .stack (-8)⟩),
      .error (.duplicateDeclaration "i" (-12))] ∧
    after.1 = [.ok .done, .ok (.symbol 0), .ok (.symbol 1),
      .ok (.record ⟨.int, .indirect (-16)⟩), .ok (.record ⟨.int, .stack (-8)⟩),
      .error (.duplicateDeclaration "x" (-12))] ∧
    before.2.state.body.length = 6 ∧ after.2.state.body = before.2.state.body := by
  intro s before after
  have hbefore : before.1 = [.ok .done, .ok (.symbol 0), .ok (.symbol 1),
      .ok (.record ⟨.int, .indirect (-16)⟩), .ok (.record ⟨.int, .stack (-8)⟩),
      .error (.duplicateDeclaration "i" (-12))] := by
    unfold before s
    decide +kernel
  have hafter : after.1 = [.ok .done, .ok (.symbol 0), .ok (.symbol 1),
      .ok (.record ⟨.int, .indirect (-16)⟩), .ok (.record ⟨.int, .stack (-8)⟩),
      .error (.duplicateDeclaration "x" (-12))] := by
    unfold after s
    decide +kernel
  have hlength : before.2.state.body.length = 6 := by
    unfold before s
    decide +kernel
  obtain ⟨x, hxtext⟩ : ∃ x : Identifier, x.text = "x" :=
    ⟨⟨"x", by decide +kernel, ne_stringLabel_of_head (by decide)⟩, rfl⟩
  obtain ⟨i, hitext⟩ : ∃ i : Identifier, i.text = "i" :=
    ⟨⟨"i", by decide +kernel, ne_stringLabel_of_head (by decide)⟩, rfl⟩
  obtain ⟨f, hf, hx, hi⟩ : ∃ f : Identifier → Identifier, f.Injective ∧ f x = i ∧ f i = x :=
    ⟨Equiv.swap x i, (Equiv.swap x i).injective, Equiv.swap_apply_left x i,
      Equiv.swap_apply_right x i⟩
  have hopened : Action.Renamed f .enterScope .enterScope := .other rfl
  have harray : Action.Renamed f (.declare "int" (Access.spelling x.text "3"))
      (.declare "int" (Access.spelling (f x).text "3")) := .declareArray "int" x "3"
  have hindex (typeName : String) : Action.Renamed f (.declare typeName i.text)
      (.declare typeName (f i).text) := .declare typeName i
  have hnamed : Action.Renamed f (.resolve (Access.spelling x.text i.text))
      (.resolve (Access.spelling (f x).text (f i).text)) := .resolveNamed x i
  have hliteral : Action.Renamed f (.resolve (Access.spelling x.text "2"))
      (.resolve (Access.spelling (f x).text "2")) := .resolveLiteral x (by decide)
  simp only [hx, hi, hxtext, hitext] at harray hindex hnamed hliteral
  have hactions := List.Forall₂.cons hopened (.cons harray (.cons (hindex "int") (.cons hnamed
    (.cons hliteral (.cons (hindex "char") .nil)))))
  have hplain : ({} : Options).annotate = false := rfl
  obtain ⟨-, -, -, hbody, -⟩ := run_renamed hf hplain none hactions 6
  simp only [List.take_succ_cons, List.take_zero] at hbody
  refine ⟨hbefore, hafter, hlength, ?_⟩
  -- word for word the same, so that neither run is evaluated
  unfold before after s
  exact hbody

end OnePass
