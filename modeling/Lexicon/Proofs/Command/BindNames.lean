import Mathlib
import Lexicon.Program
import Lexicon.Proofs.Assignment

/-!
# Listing names and looking them up

The names command with a spelling to look up prints the value that the command lists for the normal
form of the spelling, and fails where it lists none (`names_bound_as_assigned`).
-/

namespace Lexicon

open Source Text Unicode CommandLine

/-! ## Lines of a listing -/

theorem space_notMem_toString (v : UInt64) : ' ' ∉ (toString v).toList :=
  notMem_toString (by decide) v.toNat

theorem eq_of_toString_eq {v w : UInt64} (h : (toString v).toList = (toString w).toList) :
    v = w := by
  have hv := Numeral.value?_toString v
  rw [h, Numeral.value?_toString, Option.some.injEq] at hv
  exact hv.symm

/-- A text is cut at its last blank in one way only. -/
theorem append_inj_of_space_notMem {a b x y : List Char} (hx : ' ' ∉ x) (hy : ' ' ∉ y)
    (h : a ++ ' ' :: x = b ++ ' ' :: y) : a = b ∧ x = y := by
  -- A blank between the two cuts would stand in the part behind the first.
  have hcut : ∀ {c x y : List Char}, ' ' ∉ x → ' ' :: x = c ++ ' ' :: y → c = [] ∧ x = y := by
    intro c x y hx h
    cases c with
    | nil => exact ⟨rfl, (List.cons.inj h).2⟩
    | cons d c =>
      have hxy : x = c ++ ' ' :: y := (List.cons.inj h).2
      exact absurd (hxy ▸ List.mem_append_right c List.mem_cons_self) hx
  rcases List.append_eq_append_iff.1 h with ⟨c, rfl, hc⟩ | ⟨c, rfl, hc⟩
  · obtain ⟨rfl, hxy⟩ := hcut hx hc
    exact ⟨(List.append_nil a).symm, hxy⟩
  · obtain ⟨rfl, hyx⟩ := hcut hy hc
    exact ⟨List.append_nil b, hyx.symm⟩

/-- A line tells its name and its value. -/
theorem bindingLine_inj {a b : String} {v w : UInt64} :
    s!"{a} = {v}" = s!"{b} = {w}" ↔ a = b ∧ v = w := by
  constructor
  · intro h
    have hline : ∀ (a : String) (v : UInt64), (s!"{a} = {v}").toList =
        (a.toList ++ [' ', '=']) ++ ' ' :: (toString v).toList := by
      intro a v
      change (a ++ " = " ++ toString v).toList = _
      rw [String.toList_append, String.toList_append, List.append_assoc, List.append_assoc]
      rfl
    have hchars := congrArg String.toList h
    rw [hline, hline] at hchars
    obtain ⟨hname, hvalue⟩ := append_inj_of_space_notMem (space_notMem_toString v)
      (space_notMem_toString w) hchars
    exact ⟨String.toList_inj.1 (List.append_cancel_right hname), eq_of_toString_eq hvalue⟩
  · rintro ⟨rfl, rfl⟩
    rfl

/-! ## The command -/

/-- What a lookup prints goes with what is listed: the value listed for the normal form of the
spelling, or nothing and a failure. -/
structure LookupAgrees (spelling : String) (found listed : Outcome) : Prop where
  prints_iff : ∀ value : UInt64, found.stdout = toString value ++ "\n" ∧ found.status = 0 ↔
    s!"{normalFormOf spelling} = {value}" ∈ listed.out
  fails : (∀ value : UInt64, s!"{normalFormOf spelling} = {value}" ∉ listed.out) →
    found.stdout = "" ∧ found.status = 1

/-- A lookup that fails before it prints anything goes with a listing without a line for it. -/
theorem lookupAgrees_of_failure {spelling : String} {found listed : Outcome}
    (hout : found.out = []) (hfailure : found.failure.isSome)
    (hlisted : ∀ value : UInt64, s!"{normalFormOf spelling} = {value}" ∉ listed.out) :
    LookupAgrees spelling found listed := by
  have hstatus : found.status = 1 := by rw [Outcome.status, if_pos hfailure]
  refine ⟨fun value => ?_, fun _ => ⟨?_, hstatus⟩⟩
  · rw [hstatus]
    simp [hlisted value]
  · rw [Outcome.stdout, hout]
    rfl

/-- A lookup that prints a value goes with a listing with the line for it only. -/
theorem lookupAgrees_of_value {spelling : String} {found listed : Outcome} {v : UInt64}
    (hout : found.out = [toString v]) (hfailure : found.failure = none)
    (hlisted : ∀ value : UInt64, s!"{normalFormOf spelling} = {value}" ∈ listed.out ↔ v = value) :
    LookupAgrees spelling found listed := by
  have hstatus : found.status = 0 := by rw [Outcome.status, hfailure]; rfl
  have hstdout : found.stdout = toString v ++ "\n" := by
    rw [Outcome.stdout, hout, Outcome.printed]
    exact String.empty_append
  refine ⟨fun value => ?_, fun hnone => absurd ((hlisted v).2 rfl) (hnone v)⟩
  rw [hlisted, hstdout, and_iff_left hstatus, String.append_left_inj]
  constructor
  · intro heq
    exact eq_of_toString_eq (congrArg String.toList heq)
  · rintro rfl
    rfl

theorem bindingLines_eq (names : Namespace UInt64) (symbols : SymbolTable) :
    bindingLines names symbols =
      (names.named symbols).map fun (name, value) => s!"{name} = {value}" := by
  rw [bindingLines, Namespace.named, List.map_map]
  rfl

theorem mem_bindingLines_iff {names : Namespace UInt64} {symbols : SymbolTable} {name : String}
    {value : UInt64} :
    s!"{name} = {value}" ∈ bindingLines names symbols ↔ (name, value) ∈ names.named symbols := by
  rw [bindingLines_eq, List.mem_map]
  constructor
  · rintro ⟨⟨n, v⟩, hmem, heq⟩
    obtain ⟨rfl, rfl⟩ := bindingLine_inj.1 heq
    exact hmem
  · intro hmem
    exact ⟨(name, value), hmem, rfl⟩

/-- A bound name is found with the value in its line. -/
theorem NamedAsSpelled.lookupAgrees {file : SourceFile} {tokens : List Token}
    {symbols : SymbolTable} (h : NamedAsSpelled file symbols tokens) (spelling path : String)
    (err : List String) :
    LookupAgrees spelling
      (.after [] err (namesOutcome (bindAssignments tokens) symbols path (some spelling)))
      (.after [] err (namesOutcome (bindAssignments tokens) symbols path none)) := by
  have hlisted : ∀ value : UInt64, s!"{normalFormOf spelling} = {value}" ∈
      (Outcome.after [] err (namesOutcome (bindAssignments tokens) symbols path none)).out ↔
        (bindAssignments tokens).resolve? symbols spelling = some value := by
    intro value
    have hnodup : (((bindAssignments tokens).named symbols).map (·.1)).Nodup := by
      rw [Namespace.map_fst_named]
      exact h.nodup_names
    rw [Namespace.resolve?, normalize_eq_nfkc, Namespace.get?_eq_lookup h.knownIn,
      lookup_eq_some_iff_mem hnodup]
    exact mem_bindingLines_iff
  cases hfound : (bindAssignments tokens).resolve? symbols spelling with
  | none =>
    have houtcome : namesOutcome (bindAssignments tokens) symbols path (some spelling) =
        .failed (.nameNotBound spelling path) := by
      rw [namesOutcome, hfound]
    rw [houtcome]
    refine lookupAgrees_of_failure rfl rfl fun value hmem => ?_
    rw [hlisted, hfound] at hmem
    cases hmem
  | some v =>
    have houtcome : namesOutcome (bindAssignments tokens) symbols path (some spelling) =
        { out := [toString v] } := by
      rw [namesOutcome, hfound]
    rw [houtcome]
    refine lookupAgrees_of_value rfl rfl fun value => ?_
    rw [hlisted, hfound, Option.some.injEq]

/-- What the command prints about a file with tokens. -/
theorem Lexing.names_eq {lexing : Lexing} {storage : Storage} {path : String} {file : SourceFile}
    {map : SourceMap} {tokens : Array SpannedToken} {lx : Lexer}
    (hload : loadSource storage {} path = .ok (file, map))
    (hrun : tokenize file lexing.options lexing.policy {} {} = (.ok tokens, lx))
    (lookup : Option String) :
    lexing.names storage lookup path =
      .after [] (lx.log.entries.toList.map (·.render map))
        (namesOutcome (bindAssignments (tokens.toList.map (·.token))) lx.symbols path lookup) := by
  unfold Lexing.names
  rw [hload]
  simp only [Lexing.lex, hrun]

theorem Lexing.lookupAgrees (lexing : Lexing) (storage : Storage) (spelling path : String) :
    LookupAgrees spelling (lexing.names storage (some spelling) path)
      (lexing.names storage none path) := by
  cases hload : loadSource storage {} path with
  | error e =>
    unfold Lexing.names
    rw [hload]
    exact lookupAgrees_of_failure rfl rfl fun _ => List.not_mem_nil
  | ok loaded =>
    obtain ⟨file, map⟩ := loaded
    cases hrun : tokenize file lexing.options lexing.policy {} {} with
    | mk result lx =>
      cases result with
      | error e =>
        unfold Lexing.names
        rw [hload]
        simp only [Lexing.lex, hrun]
        exact lookupAgrees_of_failure rfl rfl fun _ => List.not_mem_nil
      | ok tokens =>
        rw [Lexing.names_eq hload hrun, Lexing.names_eq hload hrun]
        exact (namedAsSpelled_tokenize hrun).lookupAgrees spelling path _

/-- Whatever a file holds, its lines `name = number` bind the normal forms of their identifiers, in
the order of the first and with the value of the last line for each, also when more names are
interned later.  The names command lists these bindings.  For a spelling to look up it prints the
value that it lists for the normal form, or fails. -/
theorem names_bound_as_assigned :
    (∀ (file : SourceFile) (options : LexOptions) (policy : RecoveryPolicy)
      (symbols symbols' : SymbolTable) (log : DiagnosticLog) (tokens : Array SpannedToken)
      (lx : Lexer), tokenize file options policy symbols log = (.ok tokens, lx) →
        symbols'.Extends lx.symbols →
        BindsAssigned file (tokens.toList.map (·.token)) symbols'
          (bindAssignments (tokens.toList.map (·.token)))) ∧
    ∀ (storage : Storage) (env : Environment) (i : Invocation) (recovery : Option RecoveryPolicy)
      (path : String) (listed : Outcome),
      { i with command := .names recovery none path }.execute storage env = listed →
      (∀ (settings : Settings) (file : SourceFile) (map : SourceMap)
        (tokens : Array SpannedToken) (lx : Lexer),
        loadSettings storage env i.config = .ok settings →
        loadSource storage {} path = .ok (file, map) →
        tokenize file settings.lex.options (recovery.getD settings.lex.recovery) {} {} =
          (.ok tokens, lx) →
        listed.status = 0 ∧ listed.out =
          ((bindAssignments (tokens.toList.map (·.token))).named lx.symbols).map
            fun (name, value) => s!"{name} = {value}") ∧
      ∀ spelling : String, LookupAgrees spelling
        ({ i with command := .names recovery (some spelling) path }.execute storage env) listed := by
  constructor
  · intro file options policy symbols symbols' log tokens lx hrun hx
    apply NamedAsSpelled.bindsAssigned
    intro ident hident
    obtain ⟨raw, hraw, hname⟩ := namedAsSpelled_tokenize hrun ident hident
    exact ⟨raw, hraw, hx _ _ hname⟩
  · rintro storage env i recovery path _ rfl
    unfold Invocation.execute
    constructor
    · intro settings file map tokens lx hsettings hload hrun
      have hrun' : tokenize file (settings.lex.lexing recovery).options
          (settings.lex.lexing recovery).policy {} {} = (.ok tokens, lx) := hrun
      rw [hsettings]
      change ((settings.lex.lexing recovery).names storage none path).status = 0 ∧
        ((settings.lex.lexing recovery).names storage none path).out = _
      rw [Lexing.names_eq hload hrun']
      exact ⟨rfl, bindingLines_eq _ _⟩
    · intro spelling
      cases loadSettings storage env i.config with
      | error e => exact lookupAgrees_of_failure rfl rfl fun _ => List.not_mem_nil
      | ok settings => exact (settings.lex.lexing recovery).lookupAgrees storage spelling path

/-- A storage with one file, `a`, which assigns to one name twice. -/
def storageOfTwoLines : Storage where
  read path := if path = "a" then .ok "x=1\nx=2".toUTF8 else .error .notFound

/-- The second of two lines for one name is listed. -/
theorem names_bound_as_assigned_twice :
    ∃ (file : SourceFile) (map : SourceMap) (tokens : Array SpannedToken) (lx : Lexer)
      (listed : Outcome),
      tokenize file {} .abort {} {} = (.ok tokens, lx) ∧ lx.symbols.Extends lx.symbols ∧
      BindsAssigned file (tokens.toList.map (·.token)) lx.symbols
        (bindAssignments (tokens.toList.map (·.token))) ∧
      Invocation.execute storageOfTwoLines {} ⟨false, false, none, .names none none "a"⟩ = listed ∧
      loadSettings storageOfTwoLines {} none = .ok {} ∧
      loadSource storageOfTwoLines {} "a" = .ok (file, map) ∧
      listed.status = 0 ∧ listed.out = ["x = 2"] ∧
      LookupAgrees "x"
        (Invocation.execute storageOfTwoLines {} ⟨false, false, none, .names none (some "x") "a"⟩)
        listed := by
  have hdecode : decodeText? "x=1\nx=2".toUTF8 = some "x=1\nx=2".toList := by
    cbv
  have hload : loadSource storageOfTwoLines {} "a" =
      .ok (SourceMap.addFile {} "a" "x=1\nx=2".toList) := by
    have hread : storageOfTwoLines.read "a" = .ok "x=1\nx=2".toUTF8 := rfl
    rw [loadSource, readSource, hread]
    simp only [hdecode]
    rfl
  have hsettings : loadSettings storageOfTwoLines {} none = .ok {} := by
    cbv
  have hok : (tokenize { id := 0, name := "a", text := "x=1\nx=2".toList } {} .abort {} {}).1 =
      .ok #[⟨.ident ⟨⟨0⟩, ⟨⟨0, 1, 1⟩, ⟨1, 1, 2⟩, 0⟩⟩, ⟨⟨0, 1, 1⟩, ⟨1, 1, 2⟩, 0⟩⟩,
        ⟨.punct .equal, ⟨⟨1, 1, 2⟩, ⟨2, 1, 3⟩, 0⟩⟩, ⟨.number 1, ⟨⟨2, 1, 3⟩, ⟨3, 1, 4⟩, 0⟩⟩,
        ⟨.newline, ⟨⟨3, 1, 4⟩, ⟨4, 2, 1⟩, 0⟩⟩,
        ⟨.ident ⟨⟨0⟩, ⟨⟨4, 2, 1⟩, ⟨5, 2, 2⟩, 0⟩⟩, ⟨⟨4, 2, 1⟩, ⟨5, 2, 2⟩, 0⟩⟩,
        ⟨.punct .equal, ⟨⟨5, 2, 2⟩, ⟨6, 2, 3⟩, 0⟩⟩, ⟨.number 2, ⟨⟨6, 2, 3⟩, ⟨7, 2, 4⟩, 0⟩⟩,
        ⟨.eof, ⟨⟨7, 2, 4⟩, ⟨7, 2, 4⟩, 0⟩⟩] := by
    cbv
  have hname : (tokenize { id := 0, name := "a", text := "x=1\nx=2".toList } {} .abort {}
      {}).2.symbols.textOf ⟨0⟩ = "x" := by
    cbv
  obtain ⟨tokens, lx, hrun, hnamed⟩ : ∃ tokens lx,
      tokenize { id := 0, name := "a", text := "x=1\nx=2".toList } {} .abort {} {} =
        (.ok tokens, lx) ∧
      (bindAssignments (tokens.toList.map (·.token))).named lx.symbols = [("x", 2)] :=
    ⟨_, _, Prod.ext hok rfl, congrArg (fun name => [(name, 2)]) hname⟩
  have hx := SymbolTable.extends_refl lx.symbols
  obtain ⟨hbound, hcommand⟩ := names_bound_as_assigned
  obtain ⟨hlisted, hlookup⟩ := hcommand storageOfTwoLines {}
    ⟨false, false, none, .names none none "a"⟩ none "a" _ rfl
  obtain ⟨hstatus, hout⟩ := hlisted _ _ _ _ _ hsettings hload hrun
  rw [hnamed] at hout
  exact ⟨_, _, tokens, lx, _, hrun, hx, hbound _ _ _ _ _ _ _ _ hrun hx, rfl, hsettings, hload,
    hstatus, hout, hlookup "x"⟩

end Lexicon
