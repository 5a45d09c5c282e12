/-
  OnePass/Proofs/Dump.lean
  ========================
  **The dump** — the names a session can see, read back from their text.

  A name that is bound in a scope is never empty and has no blank in it, whether
  a program has written it or it was generated.  A line of the dump therefore
  falls into the names of its scope again.  Names stand in increasing order, so
  nothing but the names themselves tells two dumps apart: neither what they are
  bound to, nor the order in which they were bound, nor any scope that was left.
-/
import OnePass.Proofs.Decoding
import OnePass.Proofs.Reachable
import OnePass.Proofs.Spelling

namespace OnePass

open Step Session Text

/-! ### Names in one piece -/

/-- The text is not empty and has no blank in it. -/
def Unbroken (text : List Char) : Prop := text ≠ [] ∧ ∀ c ∈ text, isBlank c = false

theorem Unbroken.not_mem {text : List Char} {c : Char} (h : Unbroken text)
    (hc : isBlank c = true) : c ∉ text := by
  intro hmem
  rw [h.2 c hmem] at hc
  cases hc

theorem unbroken_of_isName {name : List Char} (h : isName name = true) : Unbroken name := by
  refine ⟨?_, fun c hc => isBlank_of_isWord (isWord_of_isName h c hc)⟩
  rintro rfl
  cases h

theorem isBlank_of_isDigit {c : Char} (h : c.isDigit = true) : isBlank c = false := by
  have hindex := Subscripted.isIndexChar_of_isDigit h
  simp only [Subscripted.isIndexChar, Bool.and_eq_true, Bool.not_eq_true'] at hindex
  exact hindex.1

theorem unbroken_generatedName (kind : NameKind) (number : Nat) :
    Unbroken (generatedName kind number).toList := by
  have hne : kind.stem.toList ≠ [] := by cases kind <;> decide
  have hstem : kind.stem.toList.any isBlank = false := by cases kind <;> rfl
  rw [generatedName, String.toList_append]
  constructor
  · exact List.append_ne_nil_of_left_ne_nil hne _
  · intro c hc
    rcases List.mem_append.mp hc with hc | hc
    · simpa using List.any_eq_false.mp hstem c hc
    · exact isBlank_of_isDigit (isDigit_of_mem_toString hc)

/-- A character of texts put side by side is one of theirs or of what is between. -/
theorem not_mem_intercalate {c : Char} {between : List Char} {texts : List (List Char)}
    (hbetween : c ∉ between) (h : ∀ text ∈ texts, c ∉ text) : c ∉ between.intercalate texts := by
  induction texts with
  | nil => exact List.not_mem_nil
  | cons text rest ih =>
    have htext := h text List.mem_cons_self
    have hrest := ih fun other hother => h other (List.mem_cons_of_mem _ hother)
    cases rest with
    | nil => simpa using htext
    | cons other rest =>
      simp only [List.intercalate_cons_cons, List.mem_append, not_or]
      exact ⟨⟨htext, hbetween⟩, hrest⟩

/-- The names in a text that has a space between any two of them; the empty text
    has none. -/
def namesOf (text : List Char) : List String :=
  if text = [] then [] else (text.splitOn ' ').map String.ofList

/-- Names in one piece can be told apart when they are put side by side. -/
theorem namesOf_intercalate {names : List String}
    (h : ∀ name ∈ names, Unbroken name.toList) :
    namesOf (" ".intercalate names).toList = names := by
  rw [String.toList_intercalate, show " ".toList = [' '] from rfl]
  cases names with
  | nil => rfl
  | cons name rest =>
    have hne : [' '].intercalate ((name :: rest).map String.toList) ≠ [] := by
      have hname := (h name List.mem_cons_self).1
      cases rest with
      | nil => simpa using hname
      | cons other rest => simp [List.intercalate_cons_cons]
    have hspace : ∀ text ∈ (name :: rest).map String.toList, ' ' ∉ text := by
      intro text htext
      obtain ⟨member, hmember, rfl⟩ := List.mem_map.mp htext
      exact (h member hmember).not_mem (by decide)
    have hsplit := List.splitOn_intercalate ' ' hspace (by simp)
    rw [namesOf, if_neg hne, hsplit]
    simp

/-! ### The names of a scope -/

namespace Scope

/-- Names come in the order of their characters. -/
theorem pairwise_keys (scope : Scope) : scope.keys.Pairwise (· < ·) := by
  have hordered : scope.keys.Pairwise fun a b => compare a b = .lt := Std.ExtTreeMap.ordered_keys
  exact hordered.imp fun h => compareOfLessAndEq_eq_lt.mp h

theorem nodup_keys (scope : Scope) : scope.keys.Nodup :=
  scope.pairwise_keys.imp fun h => String.ne_of_lt h

/-- Scopes with the same names list them alike. -/
theorem keys_eq_iff {scope other : Scope} :
    scope.keys = other.keys ↔ ∀ name, name ∈ scope ↔ name ∈ other := by
  constructor
  · intro h name
    rw [← Std.ExtTreeMap.mem_keys, h, Std.ExtTreeMap.mem_keys]
  · intro h
    have hperm : scope.keys.Perm other.keys := by
      rw [List.perm_ext_iff_of_nodup scope.nodup_keys other.nodup_keys]
      intro name
      rw [Std.ExtTreeMap.mem_keys, Std.ExtTreeMap.mem_keys, h]
    refine hperm.eq_of_pairwise ?_ scope.pairwise_keys other.pairwise_keys
    intro a b _ _ hab hba
    exact absurd hba (String.lt_asymm hab)

end Scope

/-! ### Scopes of a session -/

namespace Environment

/-- Every name that is bound in an active scope is in one piece. -/
def Legible (env : Environment) : Prop :=
  ∀ scope ∈ env.active, ∀ name ∈ scope, Unbroken name.toList

theorem Legible.bound {env : Environment} (h : env.Legible) {symbol : Symbol}
    (hname : Unbroken symbol.name.toList) : (env.bound symbol).Legible := by
  intro scope hscope name hmem
  unfold Environment.bound at hscope
  unfold Legible at h
  generalize env.active = active at h hscope
  cases active with
  | nil => cases hscope
  | cons inner outer =>
    rcases List.mem_cons.mp hscope with rfl | hscope
    · rcases Std.ExtTreeMap.mem_insert.mp hmem with heq | hmem
      · rw [← compare_eq_iff_eq.mp heq]
        exact hname
      · exact h inner List.mem_cons_self name hmem
    · exact h scope (List.mem_cons_of_mem _ hscope) name hmem

end Environment

theorem invariant_legible :
    Invariant (fun s => s.environment.Legible) fun s => s.environment.Legible where
  start options := nofun
  change h hs := by
    cases h with
    | entered =>
      intro scope hscope name hmem
      rcases List.mem_cons.mp hscope with rfl | hscope
      · exact absurd hmem Std.ExtTreeMap.not_mem_empty
      · exact hs scope hscope name hmem
    | left => exact fun scope hscope => hs scope (List.mem_of_mem_tail hscope)
    | temporary => exact Environment.Legible.bound hs (unbroken_generatedName _ _)
    | declared _ hparse =>
      exact Environment.Legible.bound hs (unbroken_of_isName (Declarator.parse_eq_ok hparse).1)
    | stringLabel => exact Environment.Legible.bound hs (unbroken_generatedName _ _)
    | _ => exact hs
  fault _ hs := hs
  lost _ _ _ _ _ hs := hs

theorem Reachable.legible {s : Journaled Session} (hs : Reachable s) :
    s.state.environment.Legible := by
  rcases hs.intact_or_aborted invariant_legible with ⟨-, h⟩ | ⟨-, h⟩
  · exact h
  · exact h

/-! ### Lines of a dump -/

namespace Environment

/-- What a line of the dump starts with. -/
def heading (i : Nat) : List Char := ("scope " ++ toString (i + 1) ++ ": ").toList

/-- Names with a space between any two. -/
def listed (names : List String) : List Char := (" ".intercalate names).toList

/-- The names bound in each active scope; the outermost scope comes first. -/
def visibleNames (env : Environment) : List (List String) :=
  env.active.reverse.map Std.ExtTreeMap.keys

def dumpLines (env : Environment) : List (List Char) :=
  env.visibleNames.mapIdx fun i names => heading i ++ listed names

/-- The names in each line of a dump. -/
def readDump (dump : String) : List (List String) :=
  (linesOf dump.toList).mapIdx fun i line => namesOf (line.drop (heading i).length)

theorem toList_dump (env : Environment) : env.dump.toList = ofLines env.dumpLines := by
  simp only [dump, dumpLines, visibleNames, String.toList_join, ofLines, List.flatMap_def,
    List.mapIdx_eq_zipIdx_map, List.zipIdx_map, List.map_map]
  refine congrArg List.flatten (List.map_congr_left fun entry _ => ?_)
  simp [heading, listed, String.toList_append]

theorem not_mem_heading (i : Nat) : '\n' ∉ heading i := by
  simp only [heading, String.toList_append, List.mem_append, not_or]
  exact ⟨⟨by decide, not_mem_toString rfl⟩, by decide⟩

variable {env other : Environment}

theorem Legible.unbroken (h : env.Legible) :
    ∀ names ∈ env.visibleNames, ∀ name ∈ names, Unbroken name.toList := by
  intro names hnames name hname
  obtain ⟨scope, hscope, rfl⟩ := List.mem_map.mp hnames
  exact h scope (List.mem_reverse.mp hscope) name (Std.ExtTreeMap.mem_keys.mp hname)

/-- The dump falls into the lines it was made of. -/
theorem Legible.linesOf_dump (h : env.Legible) : linesOf env.dump.toList = env.dumpLines := by
  rw [toList_dump]
  apply linesOf_ofLines
  intro line hline
  obtain ⟨i, hi, rfl⟩ := List.mem_mapIdx.mp hline
  rw [List.mem_append, not_or, listed, String.toList_intercalate]
  refine ⟨not_mem_heading i, not_mem_intercalate (by decide) ?_⟩
  intro text htext
  obtain ⟨name, hname, rfl⟩ := List.mem_map.mp htext
  exact (h.unbroken _ (List.getElem_mem hi) name hname).not_mem (by decide)

/-- The names of the scopes can be read from the dump. -/
theorem Legible.readDump_dump (h : env.Legible) : readDump env.dump = env.visibleNames := by
  rw [readDump, h.linesOf_dump, dumpLines, List.mapIdx_mapIdx]
  apply List.ext_getElem
  · simp
  · intro i hi hi'
    simp only [List.getElem_mapIdx, Function.comp_apply, List.drop_left]
    exact namesOf_intercalate (h.unbroken _ (List.getElem_mem hi'))

/-- Two dumps are the same text just if the scopes have the same names. -/
theorem Legible.dump_eq_iff (h : env.Legible) (hother : other.Legible) :
    env.dump = other.dump ↔
      List.Forall₂ (fun scope twin => ∀ name, name ∈ scope ↔ name ∈ twin) env.active
        other.active := by
  have hkeys : env.dump = other.dump ↔ env.visibleNames = other.visibleNames := by
    constructor
    · intro hdump
      rw [← h.readDump_dump, hdump, hother.readDump_dump]
    · intro hnames
      rw [← String.toList_inj, toList_dump, toList_dump, dumpLines, hnames, dumpLines]
  have hsame : (fun scope twin : Scope => ∀ name, name ∈ scope ↔ name ∈ twin) =
      fun scope twin => scope.keys = twin.keys := by
    funext scope twin
    exact propext Scope.keys_eq_iff.symm
  rw [hkeys, hsame, visibleNames, visibleNames, ← List.forall₂_eq_eq_eq,
    List.forall₂_map_left_iff, List.forall₂_map_right_iff, List.forall₂_reverse_iff]

end Environment

/-- **The dump tells just the names in sight.**  It has one line for each active
    scope, the outermost first.  Behind its heading, a line holds the names bound
    in its scope, each once and in increasing order, with a space between any two.
    So two sessions have the same dump if and only if their active scopes have,
    one by one, the same names. -/
theorem dump_tells_names {s t : Journaled Session} (hs : Reachable s) (ht : Reachable t) :
    let env := s.state.environment
    let lines := linesOf env.dump.toList
    (env.dump.toList = ofLines lines ∧ lines.length = env.depth) ∧
      (∀ i scope, env.active.reverse[i]? = some scope →
        ∃ rest, lines[i]? = some (("scope " ++ toString (i + 1) ++ ": ").toList ++ rest) ∧
          (∀ name, name ∈ namesOf rest ↔ name ∈ scope) ∧ (namesOf rest).Pairwise (· < ·)) ∧
      (env.dump = t.state.environment.dump ↔
        List.Forall₂ (fun scope twin => ∀ name, name ∈ scope ↔ name ∈ twin) env.active
          t.state.environment.active) := by
  intro env lines
  have hlines : lines = env.dumpLines := hs.legible.linesOf_dump
  refine ⟨⟨?_, ?_⟩, ?_, hs.legible.dump_eq_iff ht.legible⟩
  · rw [hlines, Environment.toList_dump]
  · simp [hlines, Environment.dumpLines, Environment.visibleNames, Environment.depth]
  · intro i scope hscope
    have hnames : env.visibleNames[i]? = some scope.keys := by
      rw [Environment.visibleNames, List.getElem?_map, hscope, Option.map_some]
    have hread : namesOf (Environment.listed scope.keys) = scope.keys :=
      namesOf_intercalate (hs.legible.unbroken _ (List.mem_of_getElem? hnames))
    refine ⟨Environment.listed scope.keys, ?_, fun name => ?_, ?_⟩
    · rw [hlines, Environment.dumpLines, List.getElem?_mapIdx, hnames]
      rfl
    · rw [hread, Std.ExtTreeMap.mem_keys]
    · rw [hread]
      exact scope.pairwise_keys

-- The same names in another order, behind a scope that was left.
theorem dump_tells_names_of_reordered :
    let start : Journaled Session := { state := Session.start {} }
    let s := (Action.run [.enterScope, .declare "int" "b", .declare "char" "a[7]", .enterScope,
      .intLiteral 1] start).2
    let t := (Action.run [.enterScope, .declare "int" "a", .declare "int" "b", .enterScope,
      .declare "int" "c", .leaveScope, .enterScope, .charLiteral 'x'] start).2
    Reachable s ∧ Reachable t ∧ s.state.environment.dump = "scope 1: a b\nscope 2: t#0\n" ∧
      List.Forall₂ (fun scope twin => ∀ name, name ∈ scope ↔ name ∈ twin)
        s.state.environment.active t.state.environment.active := by
  intro start s t
  have hs : Reachable s := ⟨_, _, _, rfl⟩
  have ht : Reachable t := ⟨_, _, _, rfl⟩
  have hdump : s.state.environment.dump = "scope 1: a b\nscope 2: t#0\n" := by
    decide +kernel
  have hsame : s.state.environment.dump = t.state.environment.dump := by decide +kernel
  exact ⟨hs, ht, hdump, (dump_tells_names hs ht).2.2.mp hsame⟩

end OnePass
