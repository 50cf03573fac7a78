import PlotScript.Plot
import PlotScript.Proofs.Layout
import PlotScript.Proofs.Outcome

/-!
Runs by what they come to. A journal is only written to, so a run ends in the same way whatever has been
noted before it: as the stages of a script do one after the other, and then as the world lets it.
-/

namespace PlotScript

open Outcome

namespace Run

variable {α β : Type} {run : Run α} {next : α → Run β}

def Yields (run : Run α) (outcome : Except Failure α) : Prop :=
  ∀ journal, (run.run.run journal).1 = outcome

theorem bind_run (journal : Journal) :
    (run >>= next).run.run journal = match run.run.run journal with
      | (.ok value, later) => (next value).run.run later
      | (.error failure, later) => (.error failure, later) := by
  change (ExceptT.bind run next).run.run journal = _
  simp only [ExceptT.bind, ExceptT.run, ExceptT.mk, StateT.run, bind, StateT.bind]
  rcases run journal with ⟨failure | value, later⟩ <;> rfl

theorem Yields.bind {outcome : Except Failure α} {result : α → Except Failure β}
    (yields : run.Yields outcome) (later : ∀ value, (next value).Yields (result value)) :
    (run >>= next).Yields (outcome >>= result) := by
  intro journal
  rw [bind_run]
  have found := yields journal
  cases ended : run.run.run journal with
  | mk ending noted =>
    rw [ended] at found
    subst found
    cases ending with
    | error failure => rfl
    | ok value => exact later value noted

theorem Yields.after_log {level : Level} {topic : Topic} {message : String} {next : Unit → Run β}
    {outcome : Except Failure β} (yields : (next ()).Yields outcome) :
    (log level topic message >>= next).Yields outcome :=
  fun _ => yields _

theorem Yields.after_logAll {lines : List LogLine} {next : Unit → Run β} {outcome : Except Failure β}
    (yields : (next ()).Yields outcome) : (logAll lines >>= next).Yields outcome :=
  fun _ => yields _

theorem ofExcept_yields (result : Except Failure α) : (ofExcept result).Yields result := fun _ => rfl

end Run

theorem Layout.ofScript_yields (source text : String) :
    (Layout.ofScript source text).Yields
      (Node.ofScript source text >>= fun nodes => (Interpretation.ofNodes nodes).result) := by
  have stages : (Node.ofScript source text >>= fun nodes => (Interpretation.ofNodes nodes).result) =
      (Token.scan source text).mapError .diagnostic >>= fun tokens =>
        Node.ofTokens tokens >>= fun nodes => (Interpretation.ofNodes nodes).result := by
    rw [Node.ofScript]
    cases Token.scan source text <;> rfl
  rw [stages]
  refine .after_log ((Run.ofExcept_yields _).bind fun tokens => ?_)
  refine .after_log (.after_log ((Run.ofExcept_yields _).bind fun nodes => ?_))
  exact .after_logAll (.after_log (.after_logAll (Run.ofExcept_yields _)))

theorem Layout.outcome_ofScript (source text : String) :
    (Layout.ofScript source text).outcome.1 =
      Node.ofScript source text >>= fun nodes => (Interpretation.ofNodes nodes).result :=
  Layout.ofScript_yields source text {}

theorem Interpretation.result_eq_ok_iff {state : Interpretation} {layout : Layout} :
    state.result = .ok layout ↔ state.errors = [] ∧ state.layout = layout := by
  rw [result]
  split <;> simp_all

theorem Layout.ofScript_eq_ok_iff {source text : String} {layout : Layout} :
    (Layout.ofScript source text).outcome.1 = .ok layout ↔
      ∃ nodes, Node.ofScript source text = .ok nodes ∧
        (Interpretation.ofNodes nodes).errors = [] ∧
          (Interpretation.ofNodes nodes).layout = layout := by
  simp only [outcome_ofScript, bind_eq_ok_iff, Interpretation.result_eq_ok_iff]

theorem Layout.sized_of_ofScript {source text : String} {layout : Layout}
    (compiled : (Layout.ofScript source text).outcome.1 = .ok layout) : layout.Sized := by
  obtain ⟨nodes, _, _, rfl⟩ := ofScript_eq_ok_iff.mp compiled
  exact Interpretation.ofNodes_sized nodes

def Raster.ofScript (source text : String) (limit : Int) : Except Failure Raster :=
  (Layout.ofScript source text).outcome.1 >>= fun layout => layout.render limit

def Cause.IsExternal : Cause → Prop
  | .notWritten _ _ | .noSpooler _ | .spoolerNotRun _ _ | .spoolerFailed _ _ _ => True
  | _ => False

/-- Nothing has gone wrong inside. -/
inductive External {α : Type} : Except Failure α → Prop
  | ok (value : α) : External (.ok value)
  | told {cause : Cause} : cause.IsExternal → External (.error (.of cause none))
  | escaped (raised : Raised) : External (.error (.fault (.outside raised)))

namespace Run

variable {α β : Type} {run : Run α} {next : α → Run β}

/-- Nothing can go wrong in the run but what the world outside does. -/
def Relies (run : Run α) : Prop := ∀ journal, External (run.run.run journal).1

theorem Relies.bind (relies : run.Relies) (later : ∀ value, (next value).Relies) :
    (run >>= next).Relies := by
  intro journal
  rw [bind_run]
  have found := relies journal
  cases ended : run.run.run journal with
  | mk ending noted =>
    rw [ended] at found
    cases found with
    | ok value => exact later value noted
    | told external => exact .told external
    | escaped raised => exact .escaped raised

theorem pure_relies (value : α) : (pure value : Run α).Relies := fun _ => .ok value

theorem log_relies (level : Level) (topic : Topic) (message : String) :
    (log level topic message).Relies :=
  fun _ => .ok ()

theorem ofExcept_relies (value : α) : (ofExcept (.ok value)).Relies := fun _ => .ok value

theorem effect_relies (found : Effect) : (effect found).Relies := fun _ => .ok ()

theorem fail_relies {cause : Cause} (external : cause.IsExternal) : (fail cause : Run α).Relies :=
  fun _ => .told external

theorem raise_relies (caught : Raised → Bool) (cause : String → Cause)
    (external : ∀ reason, (cause reason).IsExternal) (raised : Raised) :
    (raise caught cause raised : Run α).Relies := by
  rw [raise]
  split
  · exact fail_relies (external raised.text)
  · exact fun _ => .escaped raised

end Run

theorem Raster.unlessRaised_relies (path : String) (raised? : Option Raised) :
    (Raster.unlessRaised path raised?).Relies := by
  cases raised? with
  | none => exact Run.pure_relies ()
  | some raised => exact Run.raise_relies _ (.notWritten path) (fun _ => trivial) raised

theorem Raster.write_relies (host : Host) (raster : Raster) (path : String) :
    (raster.write host path).Relies := by
  have folder : (Raster.makeFolder host path).Relies := by
    simp only [Raster.makeFolder]
    split
    · exact Run.pure_relies ()
    · exact (Run.effect_relies _).bind fun _ => Raster.unlessRaised_relies path host.noFolder?
  refine folder.bind fun _ => ?_
  refine (Raster.unlessRaised_relies path host.noSave?).bind fun _ => ?_
  exact (Run.effect_relies _).bind fun _ => Run.log_relies _ _ _

theorem Spooler.print_relies (host : Host) (platform? : Option String) (path : String) :
    (Spooler.print host platform? path).Relies := by
  have command : (Spooler.command host platform? path).Relies := by
    rw [Spooler.command]
    split
    · exact Run.pure_relies _
    · exact Run.fail_relies trivial
  refine command.bind fun program => ?_
  refine (Run.log_relies _ _ _).bind fun _ => (Run.effect_relies _).bind fun _ => ?_
  rcases host.spooling.result with raised | ⟨status, errors⟩
  · exact Run.raise_relies _ (.spoolerNotRun _) (fun _ => trivial) raised
  · dsimp only
    split
    · exact Run.pure_relies _
    · exact Run.fail_relies trivial

theorem Plot.publish_relies (host : Host) (allowPrint : Bool) (plot : Plot) :
    (Plot.publish host allowPrint plot).Relies := by
  refine (Raster.write_relies host plot.raster plot.path).bind fun _ => ?_
  split
  · exact (Spooler.print_relies host none plot.path).bind fun _ => Run.pure_relies plot
  · exact Run.pure_relies plot

theorem Plot.run_cases (host : Host) (request : Request) :
    (∃ failure, Raster.ofScript request.source request.text request.limit = .error failure ∧
      (Plot.run host request).outcome.1 = .error failure) ∨
    ∃ raster, Raster.ofScript request.source request.text request.limit = .ok raster ∧
      External (Plot.run host request).outcome.1 := by
  rw [Raster.ofScript, Run.outcome, Run.outcome, Plot.run, Run.bind_run]
  rcases (Layout.ofScript request.source request.text).run.run {} with ⟨failure | layout, noted⟩
  · exact .inl ⟨failure, rfl, rfl⟩
  dsimp only
  rw [ok_bind]
  cases rendered : layout.render request.limit with
  | error failure => exact .inl ⟨failure, rfl, rfl⟩
  | ok raster =>
    refine .inr ⟨raster, rfl, ?_⟩
    refine ((Run.log_relies _ _ _).bind fun _ => ?_) noted
    exact (Run.ofExcept_relies raster).bind fun drawn => Plot.publish_relies host _ _

end PlotScript
