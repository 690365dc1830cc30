import TwinFiles.Program
import TwinFiles.Proofs.CommandLine.JsonErrors
import TwinFiles.Proofs.Report.Json
import TwinFiles.Proofs.Settings.ErrorTexts

/-!
# The two forms of an error

An error outside the scan is told as a line or as a JSON document, and both say the same
(`start_errors_say_the_same`): the code and the texts from the outermost context to the root cause.
The switch on the command line chooses the form and changes nothing else about a run
(`execute_of_fails`, `execute_of_not_fails`). Whatever makes a run fail is told in texts that are
UTF-8 (`Fails.valid_texts`), so that the document can always be read back.
-/

namespace TwinFiles

/-! ## One error in two forms -/

/-- A line that tells a code and a message. -/
def LineTells (code : ExitCode) (message line : Bytes) : Prop :=
  line = utf8 "[" ++ code.name ++ utf8 "] Error: " ++ message

/-- A JSON document that tells a code, by its name and by its number, and a message. -/
def JsonTells (code : ExitCode) (message document : Bytes) : Prop :=
  Json.parse? document = some (.object [
    (utf8 "code", .string code.name),
    (utf8 "exit_code", .nat code.number),
    (utf8 "message", .string message)])

namespace StartError

/-- A root cause behind its contexts, from the outermost on: each with a colon and a space. -/
def chain (contexts : List Bytes) (root : Bytes) : Bytes :=
  contexts.foldr (fun context rest => context ++ utf8 ": " ++ rest) root

theorem message_chain (code : ExitCode) (contexts : List Bytes) (root : Bytes) :
    message ⟨code, contexts ++ [root]⟩ = chain contexts root := by
  rw [message]
  dsimp only
  induction contexts with
  | nil => rfl
  | cons context contexts ih =>
    rw [chain, List.foldr_cons, ← chain, ← ih]
    -- behind a context there is always another text
    cases contexts <;> rfl

variable {e : StartError} (htexts : ∀ text ∈ e.texts, Utf8.Valid text)
include htexts

theorem isText_json : e.json.IsText := by
  have hname : Utf8.Valid e.code.name := by
    cases e.code <;> decide
  have hmessage : Utf8.Valid e.message := Utf8.valid_join (by decide) htexts
  apply JsonReport.isText_object
  · show ∀ name ∈ [utf8 "code", utf8 "exit_code", utf8 "message"], Utf8.IsAscii name
    decide
  · simp only [List.map_cons, List.map_nil, List.forall_mem_cons]
    exact ⟨.string hname, .number _ _, .string hmessage, List.forall_mem_nil _⟩

theorem jsonTells_compact : JsonTells e.code e.message e.json.compact :=
  Json.parse?_render Json.compact_blank (isText_json htexts)

theorem jsonTells_pretty : JsonTells e.code e.message e.json.pretty :=
  Json.parse?_render Json.pretty_blank (isText_json htexts)

end StartError

/-! ## Runs that fail -/

theorem Run.valid_failureTexts (e : ReportFailure) : ∀ text ∈ failureTexts e, Utf8.Valid text := by
  cases e with
  | text f => cases f <;> decide
  | json f => cases f <;> decide
  | csvRecord f => cases f <;> decide
  | csvEnd f => cases f <;> decide

namespace Program

variable (w : Wording) (v : View) (env : Environment) (c : CommandLine) (terminal : Bool)
  (duration : Duration) (time : Instant) (sink : Sink)

/-- The errors that a run ends with: the settings cannot be loaded, or the report cannot be written.
A variable that breaks the program off leads to none. -/
inductive Fails : StartError → Prop where
  | loading {e : LoadError} (hload : Settings.load v env c.config = .error e) (hwhole : e ≠ .torn) :
      Fails ⟨.generalError, e.texts w.reading⟩
  | writing {s : Settings} {e : ReportFailure} (hload : Settings.load v env c.config = .ok s)
      (hwrite : (Run.perform v (effective s c terminal) duration time sink).result = .error e) :
      Fails ⟨.generalError, Run.failureTexts e⟩

variable {w v env c terminal duration time sink} {e : StartError}

theorem Fails.valid_texts (h : Fails w v env c terminal duration time sink e) :
    ∀ text ∈ e.texts, Utf8.Valid text := by
  cases h with
  | loading hload _ => exact Settings.valid_texts_of_load w.reading_valid hload
  | writing _ _ => exact Run.valid_failureTexts _

/-- There is always a root cause, and so a chain that the message tells. -/
theorem Fails.exists_chain (h : Fails w v env c terminal duration time sink e) :
    ∃ contexts root, e.texts = contexts ++ [root] ∧ e.message = StartError.chain contexts root := by
  have hne : e.texts ≠ [] := by
    cases h with
    | @loading e _ _ => cases e <;> simp [LoadError.texts]
    | writing _ _ => exact List.cons_ne_nil _ _
  have htexts : e.texts = e.texts.dropLast ++ [e.texts.getLast hne] :=
    (List.dropLast_concat_getLast hne).symm
  refine ⟨_, _, htexts, ?_⟩
  rw [← StartError.message_chain e.code, ← htexts]

theorem logging_withJsonErrors (c : CommandLine) (env : Environment) :
    logging c.withJsonErrors env = logging c env :=
  rfl

theorem effective_withJsonErrors (s : Settings) (c : CommandLine) (terminal : Bool) :
    effective s c.withJsonErrors terminal = effective s c terminal :=
  rfl

/-- A run that fails leaves the same with and without the switch, up to the form of its error. -/
theorem execute_of_fails (h : Fails w v env c terminal duration time sink e) :
    ∃ output notes,
      execute w v env c terminal duration time sink =
        ⟨e.code.number, output, notes ++ errorText c e⟩ ∧
      execute w v env c.withJsonErrors terminal duration time sink =
        ⟨e.code.number, output, notes ++ errorText c.withJsonErrors e⟩ := by
  cases h with
  | @loading e hload hwhole =>
    simp only [execute, logging_withJsonErrors, hload]
    cases e with
    | torn => exact absurd rfl hwhole
    | _ => exact ⟨_, _, rfl, rfl⟩
  | writing hload hwrite =>
    simp only [execute, logging_withJsonErrors, hload, effective_withJsonErrors, hwrite]
    exact ⟨_, _, rfl, rfl⟩

/-- Any other run leaves just the same with and without the switch. -/
theorem execute_of_not_fails (h : ∀ e, ¬ Fails w v env c terminal duration time sink e) :
    execute w v env c.withJsonErrors terminal duration time sink =
      execute w v env c terminal duration time sink := by
  cases hload : Settings.load v env c.config with
  | error e =>
    have htorn : e = .torn := by
      by_contra hwhole
      exact h _ (.loading hload hwhole)
    subst htorn
    simp only [execute, logging_withJsonErrors, hload]
  | ok s =>
    cases hwrite : (Run.perform v (effective s c terminal) duration time sink).result with
    | error e => exact absurd (.writing hload hwrite) (h _)
    | ok code =>
      simp only [execute, logging_withJsonErrors, hload, effective_withJsonErrors, hwrite]

/-- The switch changes neither the exit code nor the output. -/
theorem execute_withJsonErrors (w : Wording) (v : View) (env : Environment) (c : CommandLine)
    (terminal : Bool) (duration : Duration) (time : Instant) (sink : Sink) :
    let plain := execute w v env c terminal duration time sink
    let marked := execute w v env c.withJsonErrors terminal duration time sink
    marked.exit = plain.exit ∧ marked.output = plain.output := by
  intro plain marked
  by_cases hfails : ∃ e, Fails w v env c terminal duration time sink e
  · obtain ⟨e, he⟩ := hfails
    obtain ⟨output, notes, hplain, hmarked⟩ := execute_of_fails he
    rw [show plain = _ from hplain, show marked = _ from hmarked]
    exact ⟨rfl, rfl⟩
  · rw [show marked = plain from execute_of_not_fails (not_exists.mp hfails)]
    exact ⟨rfl, rfl⟩

/-- Both forms of an error tell its code and the chain of its texts. The switch for JSON errors may
be put anywhere on a command line where a switch can stand, and a command line with the switch is
one without it: the switch changes the form of the error that a run ends with, and nothing else. -/
theorem start_errors_say_the_same :
    (∀ (code : ExitCode) (contexts : List Bytes) (root : Bytes),
      (∀ text ∈ contexts ++ [root], Utf8.Valid text) →
        let e : StartError := ⟨code, contexts ++ [root]⟩
        let message := StartError.chain contexts root
        e.message = message ∧ JsonTells code message e.json.compact ∧
          JsonTells code message e.json.pretty ∧ LineTells code message e.line) ∧
    ∀ (w : Wording) (v : View) (env : Environment) (front back : List Bytes) (terminal : Bool)
      (duration : Duration) (time : Instant) (sink : Sink), CommandLine.Complete front →
      let wish := env.get? (utf8 "NO_COLOR")
      let inserted := front ++ CommandLine.jsonErrorsArgument :: back
      let plain := run w v env (front ++ back) terminal duration time sink
      let marked := run w v env inserted terminal duration time sink
      (∀ d, CommandLine.parse inserted wish = .ok d ↔
        ∃ c, CommandLine.parse (front ++ back) wish = .ok c ∧ c.jsonErrors = false ∧
          c.withJsonErrors = d) ∧
      ∀ c, CommandLine.parse (front ++ back) wish = .ok c → c.jsonErrors = false →
        marked.exit = plain.exit ∧ marked.output = plain.output ∧
          (∀ e, Fails w v env c terminal duration time sink e →
            plain.exit = e.code.number ∧
              (∃ contexts root,
                e.texts = contexts ++ [root] ∧ e.message = StartError.chain contexts root) ∧
              ∃ notes line document,
                plain.diagnostics = notes ++ line ++ [Ascii.newline] ∧
                marked.diagnostics = notes ++ document ++ [Ascii.newline] ∧
                LineTells e.code e.message line ∧ JsonTells e.code e.message document) ∧
          ((∀ e, ¬ Fails w v env c terminal duration time sink e) → marked = plain) := by
  refine ⟨?_, ?_⟩
  · intro code contexts root htexts e message
    have hmessage : e.message = message := StartError.message_chain code contexts root
    rw [← hmessage]
    exact ⟨rfl, StartError.jsonTells_compact htexts, StartError.jsonTells_pretty htexts, rfl⟩
  · intro w v env front back terminal duration time sink hfront wish inserted plain marked
    refine ⟨fun d => CommandLine.parse_insert_jsonErrors_iff hfront, fun c hparse hoff => ?_⟩
    have hswitch : CommandLine.parse inserted wish = .ok c.withJsonErrors :=
      (CommandLine.parse_insert_jsonErrors_iff hfront).mpr ⟨c, hparse, hoff, rfl⟩
    have hplain : plain = execute w v env c terminal duration time sink := by
      simp only [plain, run]
      rw [hparse]
    have hmarked : marked = execute w v env c.withJsonErrors terminal duration time sink := by
      simp only [marked, run]
      rw [hswitch]
    rw [hplain, hmarked]
    obtain ⟨hexit, houtput⟩ := execute_withJsonErrors w v env c terminal duration time sink
    refine ⟨hexit, houtput, ?_, execute_of_not_fails⟩
    intro e he
    obtain ⟨output, notes, hrun, hrun'⟩ := execute_of_fails he
    rw [hrun, hrun']
    refine ⟨rfl, he.exists_chain, notes, e.line, e.json.pretty, ?_, ?_, rfl,
      StartError.jsonTells_pretty he.valid_texts⟩
    · show notes ++ errorText c e = _
      rw [errorText, hoff, List.append_assoc]
      rfl
    · show notes ++ errorText c.withJsonErrors e = _
      rw [List.append_assoc]
      rfl

/-- Quotes, a backslash, control characters and a character beyond ASCII are told alike; so are a
configuration file that is missing and an output that takes nothing. -/
theorem start_errors_say_the_same_awkward :
    let nothing : View := ⟨.empty, [], false, none⟩
    let asked := [utf8 "--config", utf8 "é\"\n"]
    let message := utf8 "Configuration file not found: é\"\n"
    JsonTells .success (utf8 "a\n: \"é\\: \u0001")
      (StartError.json ⟨.success, [utf8 "a\n", utf8 "\"é\\", utf8 "\u0001"]⟩).compact ∧
    (∃ notes line document,
      (run .brief nothing [] asked false ⟨0, 0⟩ ⟨0, 0⟩ .unlimited).diagnostics =
        notes ++ line ++ [Ascii.newline] ∧
      (run .brief nothing [] (asked ++ [CommandLine.jsonErrorsArgument]) false ⟨0, 0⟩ ⟨0, 0⟩
        .unlimited).diagnostics = notes ++ document ++ [Ascii.newline] ∧
      LineTells .generalError message line ∧ JsonTells .generalError message document) ∧
    let full : Sink := .new ⟨some 0, none⟩ false
    (run .brief nothing [] [CommandLine.jsonErrorsArgument] false ⟨0, 0⟩ ⟨0, 0⟩ full).exit = 1 := by
  intro nothing asked message
  obtain ⟨hforms, hruns⟩ := start_errors_say_the_same
  have hchain := hforms .success [utf8 "a\n", utf8 "\"é\\"] (utf8 "\u0001") (by decide +kernel)
  have hfront : CommandLine.Complete asked := ⟨_, _, rfl, rfl, rfl⟩
  have hmissing :=
    (hruns .brief nothing [] asked [] false ⟨0, 0⟩ ⟨0, 0⟩ .unlimited hfront).2 _ rfl rfl
  have hwriting := (hruns .brief nothing [] [] [] false ⟨0, 0⟩ ⟨0, 0⟩ (.new ⟨some 0, none⟩ false)
    CommandLine.complete_nil).2 .empty rfl rfl
  refine ⟨hchain.2.1, (hmissing.2.2.1 _ (.loading rfl (by decide))).2.2, ?_⟩
  exact hwriting.1.trans (hwriting.2.2.1 _ (.writing rfl rfl)).1

end Program

end TwinFiles
