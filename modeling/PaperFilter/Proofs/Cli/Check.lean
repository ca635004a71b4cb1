import PaperFilter.Proofs.Cli.Commands
import PaperFilter.Proofs.Filter.Expression

/-!
# Checking a text as a title

The command that checks a text against an expression makes the text the title of a document with an
empty abstract.  What the expression is evaluated on is then the field that the configuration names:
the text in normal form where that is the title, and nothing at all where it is the abstract.
-/

namespace PaperFilter

open Unicode

namespace Normal

/-- An empty abstract is its own normal form. -/
theorem ofAbstract_nil : ofAbstract [] = [] := by
  rw [ofAbstract, Text.mapRuns]
  decide

end Normal

/-- What a query sees of a document that has a title only. -/
theorem Document.normalText_ofTexts_nil (text : Text) (source : Source) :
    (ofTexts text []).normalText source =
      match source with
      | .title => Normal.ofTitle text
      | .abstractText => [] := by
  cases source with
  | title => rfl
  | abstractText => exact Normal.ofAbstract_nil

namespace Cli

variable {environment : Environment} {arguments : List Text} {config : Config} {text expr : Text}

/-- The arguments ask whether a text, as a title, matches an expression, under a configuration that
can be loaded. -/
structure AsksForTitle (environment : Environment) (arguments : List Text) (config : Config)
    (text expr : Text) where
  invocation : Invocation
  /-- The configuration file. -/
  name : Text
  read : readArguments arguments = .ok invocation
  command : invocation.command = .check text expr false
  named : invocation.config.or environment.defaultConfig = some name
  loaded : Config.load environment.files (Path.ofText environment.directory name) = .ok config

/-- The answer to an expression on what the configuration lets it see of a title. -/
def titleAnswer [PatternCompiler] (config : Config) (text expr : Text) : Except QueryError Bool :=
  (Node.parse (config.query.expression expr)).map fun node =>
    node.eval (Context.ofText ((Document.ofTexts text []).normalText config.filter.source))

/-! ## Arguments and settings -/

/-- What does not begin with a hyphen is an operand. -/
theorem readItems_operand {argument : Text} (h : argument.head? ≠ some '-') (options : List Opt)
    (rest : List Text) :
    readItems options (argument :: rest) = .operand argument :: readItems options rest := by
  cases argument with
  | nil => simp [readItems]
  | cons c others =>
      have hc : c ≠ '-' := fun hc => h (congrArg some hc)
      simp [readItems, hc]

theorem readArguments_check (htext : text.head? ≠ some '-') (hexpr : expr.head? ≠ some '-') :
    readArguments ["match".toList, text, expr] =
      .ok ⟨.check text expr false, none, 0, false⟩ := by
  have hleading : readLeading (.version :: commonOptions) ["match".toList, text, expr] =
      ([], some ("match".toList, [text, expr])) := by
    simp [readLeading]
  have hitems : readItems CommandName.check.options [text, expr] =
      [.operand text, .operand expr] := by
    rw [readItems_operand htext, readItems_operand hexpr, readItems]
  have hcollected : Collected.ofItems CommandName.check.operands [.operand text, .operand expr] =
      .ok { operands := [text, expr] } := rfl
  have hname : CommandName.ofText? "match".toList = some .check := by decide
  have hhelp : "match".toList ≠ helpName := by decide
  have hnone : Collected.ofItems .none [] = .ok {} := rfl
  simp only [readArguments, hleading, hnone, bind, Except.bind, if_neg hhelp, hname, hitems,
    hcollected]
  rfl

/-- Nothing around a command but a configuration file. -/
def Environment.ofSettings (settings : Text) : Environment where
  files := [("sift.toml".toList, .file (Text.toBytes settings))]
  directory := []
  defaultConfig := some "sift.toml".toList
  input := .empty

theorem load_ofSettings {settings : Text} (hconfig : Config.decode? settings = some config) :
    Config.load (Environment.ofSettings settings).files
      (Path.ofText (Environment.ofSettings settings).directory "sift.toml".toList) =
        .ok config := by
  have hentry : (Environment.ofSettings settings).files.entryAt
      (Path.ofText (Environment.ofSettings settings).directory "sift.toml".toList) =
        .ok (.file (Text.toBytes settings)) := by
    cbv
  rw [Config.load, FileTree.has, FileTree.readText, FileTree.readFile, hentry]
  simp [Except.isOk, Except.toBool, bind, Except.bind, pure, Except.pure,
    Text.ofBytes?_toBytes, hconfig]

/-- A command without options of its own takes its settings from the configuration file. -/
def AsksForTitle.ofSettings {settings : Text} (hconfig : Config.decode? settings = some config)
    (htext : text.head? ≠ some '-') (hexpr : expr.head? ≠ some '-') :
    AsksForTitle (.ofSettings settings) ["match".toList, text, expr] config text expr where
  invocation := ⟨.check text expr false, none, 0, false⟩
  name := "sift.toml".toList
  read := readArguments_check htext hexpr
  command := rfl
  named := rfl
  loaded := load_ofSettings hconfig

/-! ## One command -/

def AsksForTitle.asks (asks : AsksForTitle environment arguments config text expr) :
    Asks environment arguments config (.check text expr false) :=
  { asks with }

section

variable [PatternCompiler]

theorem run_eq_runCheck (asks : AsksForTitle environment arguments config text expr) :
    run environment arguments = runCheck environment config text expr false :=
  asks.asks.run_eq

/-- The command shows the answer, or the error that there is instead. -/
theorem runCheck_eq (hexpr : trim expr ≠ []) :
    runCheck environment config text expr false =
      match titleAnswer config text expr with
      | .error error => environment.failWith (.query error)
      | .ok found => environment.succeed (line (showBool found)) := by
  rw [runCheck, if_neg Bool.false_ne_true, DocumentFilter.build_eq hexpr, titleAnswer]
  cases Node.parse (config.query.expression expr) with
  | error error => rfl
  | ok node => rfl

end

/-! ## What is printed -/

theorem line_injective {first second : Text} : line first = line second ↔ first = second :=
  List.append_left_inj _

theorem showBool_injective {first second : Bool} : showBool first = showBool second ↔
    first = second := by
  revert first second
  decide

section

variable [PatternCompiler] (asks : AsksForTitle environment arguments config text expr)
  (hexpr : trim expr ≠ [])
include asks hexpr

theorem output_eq_line_iff {found : Bool} :
    (run environment arguments).output = line (showBool found) ↔
      titleAnswer config text expr = .ok found := by
  rw [run_eq_runCheck asks, runCheck_eq hexpr]
  cases titleAnswer config text expr with
  | error error =>
      -- A refused expression leaves the output empty.
      refine iff_of_false (fun h => ?_) nofun
      exact List.append_ne_nil_of_right_ne_nil _ (List.cons_ne_nil _ _) h.symm
  | ok answer =>
      rw [Except.ok.injEq]
      exact line_injective.trans showBool_injective

theorem status_ne_zero_iff :
    (run environment arguments).status ≠ 0 ↔
      ∃ error, Node.parse (config.query.expression expr) = .error error := by
  rw [run_eq_runCheck asks, runCheck_eq hexpr, titleAnswer]
  cases Node.parse (config.query.expression expr) with
  | error error => exact iff_of_true Nat.one_ne_zero ⟨error, rfl⟩
  | ok node => exact iff_of_false (fun h => h rfl) nofun

end

/--
A check fails exactly where its expression is refused, and otherwise prints whether the expression
holds of what the configured field has.  That is what it holds of the text as a title if titles are
what is looked at, or if the expression does not tell the title from an empty text.
-/
theorem run_check_title [PatternCompiler]
    (asks : AsksForTitle environment arguments config text expr)
    (hexpr : ∃ c ∈ expr, isBlank c = false) :
    ((run environment arguments).status ≠ 0 ↔
      ∃ error, Node.parse (config.query.expression expr) = .error error) ∧
    (∀ found, (run environment arguments).output = line (showBool found) ↔
      ∃ node, Node.parse (config.query.expression expr) = .ok node ∧
        node.eval (Context.ofText ((Document.ofTexts text []).normalText config.filter.source)) =
          found) ∧
    (((run environment arguments).output = line (showBool true) ↔
        ∃ node, Node.parse (config.query.expression expr) = .ok node ∧
          node.eval (Context.ofText (Normal.ofTitle text)) = true) ↔
      config.filter.source = .title ∨
        ∀ node, Node.parse (config.query.expression expr) = .ok node →
          node.eval (Context.ofText []) = node.eval (Context.ofText (Normal.ofTitle text))) := by
  have hexpr : trim expr ≠ [] := by
    obtain ⟨c, hc, hblank⟩ := hexpr
    exact fun h => Bool.false_ne_true (hblank.symm.trans (trim_eq_nil_iff.mp h c hc))
  have houtput (found : Bool) : (run environment arguments).output = line (showBool found) ↔
      ∃ node, Node.parse (config.query.expression expr) = .ok node ∧
        node.eval (Context.ofText ((Document.ofTexts text []).normalText config.filter.source)) =
          found :=
    (output_eq_line_iff asks hexpr).trans map_eq_ok_iff
  refine ⟨status_ne_zero_iff asks hexpr, houtput, ?_⟩
  rw [houtput true, Document.normalText_ofTexts_nil]
  cases config.filter.source with
  | title => exact iff_of_true Iff.rfl (.inl rfl)
  | abstractText =>
      cases Node.parse (config.query.expression expr) with
      | error error => simp
      | ok node =>
          simp only [Except.ok.injEq, exists_eq_left', forall_eq', reduceCtorEq, false_or]
          exact Bool.eq_iff_iff.symm

theorem run_check_title_without_folding :
    (∃ c ∈ " not B ".toList, isBlank c = false) ∧
      (run (.ofSettings "[query]\nfold_case = false\n".toList)
        ["match".toList, "A  b.".toList, " not B ".toList]).output = line (showBool true) := by
  have hconfig : Config.decode? "[query]\nfold_case = false\n".toList =
      some { query := { foldCase := false } } := by
    rw [Config.decode?, show Toml.read? "[query]\nfold_case = false\n".toList =
      some [("query".toList, .table .headed [("fold_case".toList, .boolean false)])] by cbv]
    rfl
  have hexpr : ∃ c ∈ " not B ".toList, isBlank c = false :=
    ⟨'n', List.mem_cons_of_mem _ List.mem_cons_self, by decide⟩
  have hparse : Node.parse ((QuerySettings.mk [] false).expression " not B ".toList) =
      .ok (.not (.word ⟨"B".toList⟩)) := by cbv
  -- Without folding the letter keeps its case, which the text in normal form has lost.
  have heval : (Node.not (.word ⟨"B".toList⟩)).eval
      (Context.ofText (Normal.ofTitle "A  b.".toList)) = true := by cbv
  have htext : "A  b.".toList.head? ≠ some '-' := by decide
  have hagree := (run_check_title (.ofSettings hconfig htext (by decide)) hexpr).2.2
  exact ⟨hexpr, (hagree.mpr (.inl rfl)).mpr ⟨_, hparse, heval⟩⟩

/-- Where abstracts are looked at, a text does not match its own words. -/
theorem run_check_title_of_abstract :
    (run (.ofSettings "[filter]\nsource = \"abstract\"\n".toList)
        ["match".toList, "video".toList, "video".toList]).output = line (showBool false) ∧
      matchesExpression (Normal.ofTitle "video".toList) "video".toList = .ok true := by
  have hconfig : Config.decode? "[filter]\nsource = \"abstract\"\n".toList =
      some { filter := { source := .abstractText } } := by
    rw [Config.decode?, show Toml.read? "[filter]\nsource = \"abstract\"\n".toList =
      some [("filter".toList, .table .headed [("source".toList, .string "abstract".toList)])] by
        cbv]
    rfl
  refine ⟨?_, by cbv⟩
  rw [output_eq_line_iff (.ofSettings hconfig (by decide) (by decide)) (by decide)]
  cbv

end Cli
end PaperFilter
