import PlotScript.CommandLine.Report
import PlotScript.Proofs.Drawing.Failure
import PlotScript.Proofs.Errands
import PlotScript.Proofs.Grammar.Refusal
import PlotScript.Proofs.Printing.RoundTrip

/-!
How the program ends. Every run over a script that can be read ends with a report and status zero or
one, but for three kinds of script and options that end it with a fault.
-/

namespace PlotScript

open Outcome

theorem Raster.ofScript_eq_fault_iff {source text : String} {limit : Int} {fault : Fault} :
    Raster.ofScript source text limit = .error (.fault fault) ↔
      (∃ tokens, Token.scan source text = .ok tokens ∧
        Node.ofTokens tokens = .error (.fault fault)) ∨
      ∃ layout, (Layout.ofScript source text).outcome.1 = .ok layout ∧
        fault = .integerOutOfRange ∧ layout.TooLarge limit := by
  have interpreted (nodes : List Node) :
      (Interpretation.ofNodes nodes).result ≠ .error (.fault fault) := by
    rw [Interpretation.result]
    split <;> simp
  have compiled : (Layout.ofScript source text).outcome.1 = .error (.fault fault) ↔
      ∃ tokens, Token.scan source text = .ok tokens ∧
        Node.ofTokens tokens = .error (.fault fault) := by
    rw [Layout.outcome_ofScript, bind_eq_error_iff, Node.ofScript]
    simp only [interpreted, and_false, exists_false, or_false]
    cases Token.scan source text <;> simp
  rw [Raster.ofScript, bind_eq_error_iff, compiled]
  refine or_congr_right (exists_congr fun layout => ?_)
  exact and_congr_right fun found => (Layout.sized_of_ofScript found).render_eq_fault_iff

theorem Raster.ofScript_ne_outside (source text : String) (limit : Int) (raised : Raised) :
    Raster.ofScript source text limit ≠ .error (.fault (.outside raised)) := by
  intro undrawn
  rcases ofScript_eq_fault_iff.mp undrawn with ⟨tokens, scanned, refused⟩ | ⟨_, _, same, _⟩
  · cases Grammar.refusal_of_ofTokens scanned refused
  · cases same

theorem Plot.run_eq_error_iff {host : Host} {request : Request} {failure : Failure}
    (inside : ∀ cause : Cause, cause.IsExternal → failure ≠ .of cause none)
    (inside' : ∀ raised, failure ≠ .fault (.outside raised)) :
    (Plot.run host request).outcome.1 = .error failure ↔
      Raster.ofScript request.source request.text request.limit = .error failure := by
  rcases Plot.run_cases host request with ⟨found, drawn, ended⟩ | ⟨raster, drawn, ended⟩
  · rw [drawn, ended, Except.error.injEq, Except.error.injEq]
  · rw [drawn]
    cases ended' : (Plot.run host request).outcome.1 with
    | ok plot => simp
    | error other =>
      rw [ended'] at ended
      cases ended with
      | told external => simp [Ne.symm (inside _ external)]
      | escaped raised => simp [Ne.symm (inside' raised)]

/-- The script has a picture, and what is first refused of its errands is for an exception that no
clause catches. -/
def Plot.Interrupted (host : Host) (request : Request) (raised : Raised) : Prop :=
  ∃ layout raster, (Layout.ofScript request.source request.text).outcome.1 = .ok layout ∧
    layout.render request.limit = .ok raster ∧
      let path := if request.output.isEmpty then layout.path else request.output
      let errands := Plot.errands host request.allowPrint ⟨layout, raster, path⟩
      errands.findSome? Errand.refusal? = some (.escaped raised)

theorem Errand.ending_eq_outside_iff {α : Type} {errands : List Errand} {value : α}
    {raised : Raised} : ending errands value = .error (.fault (.outside raised)) ↔
      errands.findSome? refusal? = some (.escaped raised) := by
  rw [ending]
  rcases errands.findSome? refusal? with _ | (cause | other) <;> simp [Refusal.failure, Failure.of]

theorem Plot.run_eq_outside_iff {host : Host} {request : Request} {raised : Raised} :
    (Plot.run host request).outcome.1 = .error (.fault (.outside raised)) ↔
      Plot.Interrupted host request raised := by
  constructor
  · intro ended
    cases drawn : Raster.ofScript request.source request.text request.limit with
    | error failure =>
      have same : (Plot.run host request).outcome.1 = .error failure := (Plot.run_undrawn drawn {}).1
      rw [ended] at same
      cases same
      exact absurd drawn (Raster.ofScript_ne_outside _ _ _ raised)
    | ok raster =>
      obtain ⟨layout, compiled, rendered⟩ := bind_eq_ok_iff.mp drawn
      refine ⟨layout, raster, compiled, rendered, ?_⟩
      rw [Plot.outcome_of_drawn compiled rendered rfl] at ended
      exact Errand.ending_eq_outside_iff.mp ended
  · rintro ⟨layout, raster, compiled, drawn, refused⟩
    rw [Plot.outcome_of_drawn compiled drawn rfl]
    exact Errand.ending_eq_outside_iff.mpr refused

theorem Plot.run_eq_fault_iff {host : Host} {request : Request} {fault : Fault} :
    (Plot.run host request).outcome.1 = .error (.fault fault) ↔
      Raster.ofScript request.source request.text request.limit = .error (.fault fault) ∨
        ∃ raised, fault = .outside raised ∧ Plot.Interrupted host request raised := by
  by_cases outside : ∃ raised, fault = .outside raised
  · obtain ⟨raised, rfl⟩ := outside
    simp [Plot.run_eq_outside_iff, Raster.ofScript_ne_outside]
  · have inside : ∀ raised, Failure.fault fault ≠ .fault (.outside raised) := by
      rintro raised ⟨⟩
      exact outside ⟨raised, rfl⟩
    rw [Plot.run_eq_error_iff (fun cause _ same => by cases same) inside]
    refine ⟨.inl, fun found => found.resolve_right ?_⟩
    rintro ⟨raised, same, _⟩
    exact outside ⟨raised, same⟩

theorem Plot.Interrupted.uncaught {host : Host} {request : Request} {raised : Raised}
    (interrupted : Plot.Interrupted host request raised) : host.Uncaught raised := by
  obtain ⟨layout, raster, _, _, refused⟩ := interrupted
  obtain ⟨errand, listed, found⟩ := List.exists_of_findSome?_eq_some refused
  cases Plot.errands_refuse listed found with
  | escaped uncaught => exact uncaught

namespace CommandLine

/-- How a script ends the program without a report. -/
inductive Escapes (options : Options) (text : String) : Fault → Prop
  /-- An integer of a directive has more digits than are read. -/
  | longInteger {tokens : List Token} {token : Token} :
      Token.scan options.script text = .ok tokens →
        Node.ofTokens tokens = .error (.fault (.tooManyDigits token.value.length)) →
          Grammar.InDirective tokens token → Text.Integer.digitLimit < token.value.length →
            Escapes options text (.tooManyDigits token.value.length)
  /-- A number of the frame is beyond the doubles. -/
  | largeFrame {layout : Layout} :
      (Layout.ofScript options.script text).outcome.1 = .ok layout →
        layout.TooLarge (options.limit?.getD Report.leastLimit) →
          Escapes options text .integerOutOfRange
  /-- There is no limit that a number of branches could be compared with. -/
  | noLimit {found : Diagnostic} :
      options.limit? = none →
        Raster.ofScript options.script text Report.leastLimit = .error (.diagnostic found) →
          found.kind = "BranchLimitError" → Escapes options text .limitMissing

namespace Report

theorem ofOutcome_eq_error_iff {outcome : Except Failure Plot × Journal} {fault : Fault} :
    ofOutcome outcome = .error fault ↔ outcome.1 = .error (.fault fault) := by
  obtain ⟨ending, journal⟩ := outcome
  rcases ending with (_ | _ | _) | _ <;> simp [ofOutcome]

theorem ofOutcome_status {outcome : Except Failure Plot × Journal} {report : Report}
    (reported : ofOutcome outcome = .ok report) : report.status = 0 ∨ report.status = 1 := by
  obtain ⟨ending, journal⟩ := outcome
  rcases ending with (_ | _ | _) | _ <;> cases reported <;> simp

theorem kind_eq_branchLimit_iff {cause : Cause} :
    cause.kind = "BranchLimitError" ↔ ∃ node count limit, cause = .tooManyBranches node count limit := by
  cases cause <;> simp [Cause.kind]

theorem withoutLimit_eq_fault_iff {outcome : Except Failure Plot × Journal} {fault : Fault} :
    (withoutLimit outcome).1 = .error (.fault fault) ↔
      outcome.1 = .error (.fault fault) ∨ fault = .limitMissing ∧
        ∃ found : Diagnostic, outcome.1 = .error (.diagnostic found) ∧
          found.kind = "BranchLimitError" := by
  obtain ⟨ending, journal⟩ := outcome
  rcases ending with (⟨cause, span⟩ | errors | other) | plot
  · by_cases crowded : cause.kind = "BranchLimitError"
    · obtain ⟨node, count, limit, rfl⟩ := kind_eq_branchLimit_iff.mp crowded
      simp [withoutLimit, Diagnostic.kind, Cause.kind, eq_comm]
    · have unchanged : withoutLimit (.error (.diagnostic ⟨cause, span⟩), journal) =
          (.error (.diagnostic ⟨cause, span⟩), journal) := by
        cases cause with
        | tooManyBranches => exact absurd rfl crowded
        | _ => rfl
      simp [unchanged, Diagnostic.kind, crowded]
  · simp [withoutLimit]
  · simp [withoutLimit]
  · simp [withoutLimit]

theorem run_eq_branchLimit_iff {host : Host} {request : Request} {found : Diagnostic}
    (kind : found.kind = "BranchLimitError") :
    (Plot.run host request).outcome.1 = .error (.diagnostic found) ↔
      Raster.ofScript request.source request.text request.limit = .error (.diagnostic found) := by
  refine Plot.run_eq_error_iff (fun cause external same => ?_) (fun raised same => by cases same)
  cases same
  obtain ⟨_, _, _, rfl⟩ := kind_eq_branchLimit_iff.mp kind
  exact external.elim

def limit (options : Options) : Int := options.limit?.getD leastLimit

variable {host : Host} {options : Options} {text : String} {fault : Fault}

theorem escapes_iff : Escapes options text fault ↔
    Raster.ofScript options.script text (limit options) = .error (.fault fault) ∨
      options.limit? = none ∧ fault = .limitMissing ∧ ∃ found : Diagnostic,
        Raster.ofScript options.script text leastLimit = .error (.diagnostic found) ∧
          found.kind = "BranchLimitError" := by
  rw [Raster.ofScript_eq_fault_iff]
  constructor
  · intro escape
    cases escape with
    | longInteger scanned refused inside long => exact .inl (.inl ⟨_, scanned, refused⟩)
    | largeFrame compiled large => exact .inl (.inr ⟨_, compiled, rfl, large⟩)
    | noLimit missing drawn kind => exact .inr ⟨missing, rfl, _, drawn, kind⟩
  · rintro ((⟨tokens, scanned, refused⟩ | ⟨layout, compiled, rfl, large⟩) |
      ⟨missing, rfl, found, drawn, kind⟩)
    · cases Grammar.refusal_of_ofTokens scanned refused with
      | long inside long => exact .longInteger scanned refused inside long
    · exact .largeFrame compiled large
    · exact .noLimit missing drawn kind

theorem ofText_eq_error_iff : ofText host options text = .error fault ↔
    Escapes options text fault ∨ ∃ raised, fault = .outside raised ∧
      Plot.Interrupted host (request options (limit options) text) raised := by
  have run (limit : Int) : (Plot.run host (request options limit text)).outcome.1 =
      .error (.fault fault) ↔ Raster.ofScript options.script text limit = .error (.fault fault) ∨
        ∃ raised, fault = .outside raised ∧
          Plot.Interrupted host (request options limit text) raised :=
    Plot.run_eq_fault_iff
  rw [escapes_iff, ofText, limit]
  cases limited : options.limit? with
  | some limit => simp [ofOutcome_eq_error_iff, run]
  | none =>
    simp only [ofOutcome_eq_error_iff, withoutLimit_eq_fault_iff, run, Option.getD_none, true_and]
    rw [or_right_comm]
    refine or_congr_left (or_congr_right (and_congr_right fun _ => exists_congr fun found => ?_))
    exact and_congr_left run_eq_branchLimit_iff

theorem ofText_status {report : Report} (reported : ofText host options text = .ok report) : report.status = 0 ∨ report.status = 1 := by
  rw [ofText] at reported
  split at reported
  · exact ofOutcome_status reported
  · exact ofOutcome_status reported

end Report

/-- A script that can be read ends with a report and status zero or one, unless a directive of it has
an integer of too many digits, its frame is too large for doubles, or a number of branches is to be
compared with a limit that is missing: for as long as nothing is raised outside but what is caught
around the call. Anything else that is raised there ends the program too. -/
theorem report_unless_escapes {bytes : List UInt8} {chars : List Char}
    (decoded : Text.Utf8.decode bytes = .ok chars) (host : Host) (options : Options) :
    let text := String.ofList (Text.unifyLineEnds chars)
    ((∀ raised, ¬ host.Uncaught raised) → ∀ fault,
      Report.ofOpening host options (.bytes bytes) = .error fault ↔ Escapes options text fault) ∧
    (∀ fault, Report.ofOpening host options (.bytes bytes) = .error fault ↔
      Escapes options text fault ∨ ∃ raised, fault = .outside raised ∧
        Plot.Interrupted host (Report.request options (Report.limit options) text) raised) ∧
    ∀ report, Report.ofOpening host options (.bytes bytes) = .ok report →
      report.status = 0 ∨ report.status = 1 := by
  intro text
  have opened : Report.ofOpening host options (.bytes bytes) = Report.ofText host options text := by
    rw [Report.ofOpening, decoded]
  rw [opened]
  refine ⟨fun caught fault => ?_, fun fault => Report.ofText_eq_error_iff, fun report =>
    Report.ofText_status⟩
  rw [Report.ofText_eq_error_iff, or_iff_left]
  rintro ⟨raised, _, interrupted⟩
  exact caught raised interrupted.uncaught

theorem report_unless_escapes_sum :
    Text.Utf8.decode [0x79, 0x3d, 0x78, 0x2b, 0x31] = .ok ['y', '=', 'x', '+', '1'] ∧
      Escapes { script := "sum.plot", limit? := none } "y=x+1" .limitMissing := by
  have decoded : Text.Utf8.decode [0x79, 0x3d, 0x78, 0x2b, 0x31] = .ok ['y', '=', 'x', '+', '1'] := by
    decide +kernel
  refine ⟨decoded, ?_⟩
  have escaped : Report.ofOpening {} { script := "sum.plot", limit? := none }
      (.bytes [0x79, 0x3d, 0x78, 0x2b, 0x31]) = .error .limitMissing := by
    decide +kernel
  have caught (raised : Raised) : ¬ Host.Uncaught {} raised := by
    simp [Host.Uncaught, Spooling.result]
  exact ((report_unless_escapes decoded {} _).1 caught .limitMissing).mp escaped

def farOut : Int := 2 * 10 ^ 308

/-- The bytes of `#frame(2000…, 0, 1, 1)`, whose first number has 309 digits. -/
def wideFrame : List UInt8 :=
  [0x23, 0x66, 0x72, 0x61, 0x6d, 0x65, 0x28, 0x32] ++ List.replicate 308 0x30 ++
    [0x2c, 0x20, 0x30, 0x2c, 0x20, 0x31, 0x2c, 0x20, 0x31, 0x29]

/-- A frame that begins beyond the doubles ends the program without a report. -/
theorem wide_frame_escapes :
    Report.ofOpening {} { script := "wide.plot" } (.bytes wideFrame) = .error .integerOutOfRange := by
  let node : Node := .directive (.frame farOut 0 1 1) none
  let layout : Layout := { frame? := some ⟨farOut, 0, 1, 1⟩ }
  let chars : List Char := ['#', 'f', 'r', 'a', 'm', 'e', '(', '2'] ++ List.replicate 308 '0' ++
    [',', ' ', '0', ',', ' ', '1', ',', ' ', '1', ')']
  have decoded : Text.Utf8.decode wideFrame = .ok chars := by decide +kernel
  have line : String.ofList (Text.unifyLineEnds chars) = node.line := by decide +kernel
  have small : ∀ number ∈ (Directive.frame farOut 0 1 1).integers,
      number.natAbs < 10 ^ Text.Integer.digitLimit := by
    decide +kernel
  -- The line is read by what holds of all lines: its integer is long for an evaluation.
  have sentence : Printing.Sentence node := .directive small (by simp)
  obtain ⟨again, read, same⟩ :=
    sentence.reads_back (by simp [node, Node.numbers]) (by simp [node]) "wide.plot"
  have compiled : (Layout.ofScript "wide.plot" node.line).outcome.1 = .ok layout := by
    cases again with
    | directive command span =>
      cases same
      exact Layout.ofScript_eq_ok_iff.mpr ⟨_, read, rfl, rfl⟩
    | _ => cases same
  have drawn : layout.render defaultLimit = .error (.fault .integerOutOfRange) := by decide +kernel
  have large := ((Layout.sized_of_ofScript compiled).render_eq_fault_iff.mp drawn).2
  have opened : Report.ofOpening {} { script := "wide.plot" } (.bytes wideFrame) =
      Report.ofText {} { script := "wide.plot" } node.line := by
    rw [Report.ofOpening, decoded, ← line]
  rw [opened]
  exact Report.ofText_eq_error_iff.mpr (.inl (.largeFrame compiled large))

end CommandLine

end PlotScript
