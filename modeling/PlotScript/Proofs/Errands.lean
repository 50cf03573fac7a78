import Mathlib.Data.List.Basic
import PlotScript.Proofs.Run

/-!
What a run does outside of the program. Making a folder, saving the image and printing it are errands,
done one after the other up to the first that is refused. A script that has no picture sends on none.
-/

namespace PlotScript

open Outcome

/-- Why something outside is not done: for a cause that is told, or for an exception that is not
caught. -/
inductive Refusal
  | told (cause : Cause)
  | escaped (raised : Raised)
  deriving DecidableEq

def Refusal.failure : Refusal → Failure
  | told cause => .of cause none
  | escaped raised => .fault (.outside raised)

/-- Something to be done outside: what is asked for, and why it is refused, if it is. -/
structure Errand where
  asked : List Effect
  refusal? : Option Refusal

namespace Errand

def effects : List Errand → List Effect
  | [] => []
  | errand :: rest => errand.asked ++ if errand.refusal? = none then effects rest else []

def ending {α : Type} (errands : List Errand) (value : α) : Except Failure α :=
  match errands.findSome? refusal? with
  | none => .ok value
  | some refusal => .error refusal.failure

variable {α : Type} {errands others : List Errand}

theorem effects_append : effects (errands ++ others) =
    effects errands ++ if errands.findSome? refusal? = none then effects others else [] := by
  induction errands with
  | nil => rfl
  | cons errand rest ih =>
    rw [List.cons_append, effects, effects, ih, List.findSome?_cons]
    cases errand.refusal? with
    | none => rw [if_pos rfl, if_pos rfl, List.append_assoc]
    | some refusal => simp

theorem effects_of_done (done : ∀ errand ∈ errands, errand.refusal? = none) :
    effects errands = errands.flatMap asked := by
  induction errands with
  | nil => rfl
  | cons errand rest ih =>
    obtain ⟨first, later⟩ := List.forall_mem_cons.mp done
    simp [effects, first, ih later]

/-- The errands ask for what is wished as far as they come, and for all of it when nothing is
refused. -/
structure Covers (errands : List Errand) (wishes : List Effect) : Prop where
  front : effects errands <+: wishes
  whole : (∀ errand ∈ errands, errand.refusal? = none) → effects errands = wishes

theorem covers_nil : Covers [] [] := ⟨List.prefix_rfl, fun _ => rfl⟩

theorem Covers.cons {errand : Errand} {wish wishes : List Effect} (later : Covers errands wishes)
    (front : errand.asked <+: wish) (whole : errand.refusal? = none → errand.asked = wish) :
    Covers (errand :: errands) (wish ++ wishes) := by
  cases refused : errand.refusal? with
  | none =>
    have asked : effects (errand :: errands) = wish ++ effects errands := by
      simp [effects, refused, whole refused]
    constructor
    · rw [asked]
      exact (List.prefix_append_right_inj wish).mpr later.front
    · intro done
      rw [asked, later.whole (List.forall_mem_cons.mp done).2]
  | some cause =>
    have asked : effects (errand :: errands) = errand.asked := by simp [effects, refused]
    constructor
    · rw [asked]
      exact front.trans (List.prefix_append wish wishes)
    · intro done
      rw [(List.forall_mem_cons.mp done).1] at refused
      cases refused

theorem ending_eq_ok_iff {value other : α} :
    ending errands value = .ok other ↔
      other = value ∧ ∀ errand ∈ errands, errand.refusal? = none := by
  rw [ending]
  cases found : errands.findSome? refusal? with
  | none => simpa [eq_comm] using fun _ => List.findSome?_eq_none_iff.mp found
  | some cause =>
    simp only [reduceCtorEq, false_iff, not_and]
    intro _ done
    rw [List.findSome?_eq_none_iff.mpr done] at found
    cases found

theorem ending_eq_error {value : α} {failure : Failure}
    (failed : ending errands value = .error failure) :
    ∃ before errand after refusal, errands = before ++ errand :: after ∧
      (∀ done ∈ before, done.refusal? = none) ∧ errand.refusal? = some refusal ∧
        failure = refusal.failure ∧ effects errands = before.flatMap asked ++ errand.asked := by
  rw [ending] at failed
  split at failed
  · cases failed
  · next refusal found =>
    cases failed
    obtain ⟨before, errand, after, rfl, refused, done⟩ := List.findSome?_eq_some_iff.mp found
    refine ⟨before, errand, after, refusal, rfl, done, refused, rfl, ?_⟩
    rw [effects_append, if_pos (List.findSome?_eq_none_iff.mpr done), effects_of_done done]
    simp [effects, refused]

end Errand

namespace Run

variable {α β : Type} {run : Run α} {next : α → Run β}

/-- The run comes to the outcome and asks for the effects, whatever the journal. -/
def Asks (run : Run α) (outcome : Except Failure α) (effects : List Effect) : Prop :=
  ∀ journal, (run.run.run journal).1 = outcome ∧
    (run.run.run journal).2.effects = journal.effects ++ effects

theorem Asks.bind {value : α} {outcome : Except Failure β} {effects others : List Effect}
    (asks : run.Asks (.ok value) effects) (later : (next value).Asks outcome others) :
    (run >>= next).Asks outcome (effects ++ others) := by
  intro journal
  rw [bind_run]
  obtain ⟨found, noted⟩ := asks journal
  cases ended : run.run.run journal with
  | mk ending last =>
    rw [ended] at found noted
    subst found
    obtain ⟨found', noted'⟩ := later last
    exact ⟨found', by rw [noted', noted, List.append_assoc]⟩

theorem Asks.after {value : α} {outcome : Except Failure β} {effects : List Effect}
    (later : (next value).Asks outcome effects) (asks : run.Asks (.ok value) []) :
    (run >>= next).Asks outcome effects :=
  asks.bind later

theorem Asks.bind_error {failure : Failure} {effects : List Effect}
    (asks : run.Asks (.error failure) effects) : (run >>= next).Asks (.error failure) effects := by
  intro journal
  rw [bind_run]
  obtain ⟨found, noted⟩ := asks journal
  cases ended : run.run.run journal with
  | mk ending last =>
    rw [ended] at found noted
    subst found
    exact ⟨rfl, noted⟩

theorem pure_asks (value : α) : (pure value : Run α).Asks (.ok value) [] :=
  fun _ => ⟨rfl, (List.append_nil _).symm⟩

theorem log_asks (level : Level) (topic : Topic) (message : String) :
    (log level topic message).Asks (.ok ()) [] :=
  fun _ => ⟨rfl, (List.append_nil _).symm⟩

theorem logAll_asks (lines : List LogLine) : (logAll lines).Asks (.ok ()) [] :=
  fun _ => ⟨rfl, (List.append_nil _).symm⟩

theorem ofExcept_asks (result : Except Failure α) : (ofExcept result).Asks result [] :=
  fun _ => ⟨rfl, (List.append_nil _).symm⟩

theorem effect_asks (found : Effect) : (effect found).Asks (.ok ()) [found] := fun _ => ⟨rfl, rfl⟩

theorem fail_asks (cause : Cause) : (fail cause : Run α).Asks (.error (.of cause none)) [] :=
  fun _ => ⟨rfl, (List.append_nil _).symm⟩

theorem raise_asks_of_caught {caught : Raised → Bool} (cause : String → Cause) {raised : Raised}
    (handled : caught raised) :
    (raise caught cause raised : Run α).Asks (.error (.of (cause raised.text) none)) [] := by
  rw [raise, if_pos handled]
  exact fail_asks _

theorem raise_asks_of_uncaught {caught : Raised → Bool} (cause : String → Cause) {raised : Raised}
    (unhandled : ¬ caught raised) :
    (raise caught cause raised : Run α).Asks (.error (.fault (.outside raised))) [] := by
  rw [raise, if_neg unhandled]
  exact fun _ => ⟨rfl, (List.append_nil _).symm⟩

def Quiet (run : Run α) : Prop := ∃ outcome, run.Asks outcome []

theorem Quiet.bind (quiet : run.Quiet) (later : ∀ value, (next value).Quiet) :
    (run >>= next).Quiet := by
  obtain ⟨failure | value, asks⟩ := quiet
  · exact ⟨_, asks.bind_error⟩
  · obtain ⟨outcome, asks'⟩ := later value
    exact ⟨outcome, asks.bind asks'⟩

theorem Quiet.asks (quiet : run.Quiet) : run.Asks run.outcome.1 [] := by
  obtain ⟨outcome, asks⟩ := quiet
  have same : run.outcome.1 = outcome := (asks {}).1
  rw [same]
  exact asks

/-- The run is over errands in turn, and has the value when they are done. -/
def Sends (run : Run α) (errands : List Errand) (value : α) : Prop :=
  run.Asks (Errand.ending errands value) (Errand.effects errands)

theorem Sends.bind {errands others : List Errand} {value : α} {result : β}
    (sends : run.Sends errands value) (later : (next value).Sends others result) :
    (run >>= next).Sends (errands ++ others) result := by
  rw [Sends, Errand.ending] at sends
  rw [Sends, Errand.ending, List.findSome?_append, Errand.effects_append]
  cases found : errands.findSome? Errand.refusal? with
  | none =>
    rw [found] at sends
    rw [if_pos rfl]
    exact sends.bind later
  | some refusal =>
    rw [found] at sends
    rw [if_neg (Option.some_ne_none refusal), List.append_nil]
    exact sends.bind_error

end Run

def Raised.unwritten (path : String) : Raised → Refusal
  | system reason | value reason | undecodable reason => .told (.notWritten path reason)
  | other kind text => .escaped (.other kind text)

def Spooling.refusal? (program : String) : Spooling → Option Refusal
  | raised (.system reason) => some (.told (.spoolerNotRun program reason))
  | raised found => some (.escaped found)
  | undecodable _ reason => some (.escaped (.undecodable reason))
  | finished status errors =>
    if status = 0 then none
    else some (.told (.spoolerFailed program status (Spooler.trimmed errors)))

def Errand.folder (host : Host) (path : String) : List Errand :=
  let folder := String.ofList (Text.Path.folder path.toList)
  if folder.isEmpty then [] else [⟨[.makeFolder folder], host.noFolder?.map (Raised.unwritten path)⟩]

def Errand.image (host : Host) (path : String) (raster : Raster) : Errand :=
  match host.noSave? with
  | none => ⟨[.save path raster], none⟩
  | some raised => ⟨[], some (raised.unwritten path)⟩

def Errand.paper (host : Host) (path : String) : Errand :=
  match Spooler.command? host host.platform path with
  | none => ⟨[], some (.told (.noSpooler host.platform))⟩
  | some command => ⟨[.spool command], host.spooling.refusal? (command.headD "")⟩

def Plot.errands (host : Host) (allowPrint : Bool) (plot : Plot) : List Errand :=
  Errand.folder host plot.path ++ Errand.image host plot.path plot.raster ::
    if plot.layout.printNow && allowPrint then [Errand.paper host plot.path] else []

/-- What is asked for when nothing is refused. -/
def Plot.wishes (host : Host) (allowPrint : Bool) (plot : Plot) : List Effect :=
  let folder := String.ofList (Text.Path.folder plot.path.toList)
  (if folder.isEmpty then [] else [.makeFolder folder]) ++ .save plot.path plot.raster ::
    if plot.layout.printNow && allowPrint then
      (Spooler.command? host host.platform plot.path).toList.map .spool
    else []

section

variable (host : Host) (path : String) {errands : List Errand} {wishes : List Effect}

theorem Errand.covers_paper : Errand.Covers [Errand.paper host path]
    ((Spooler.command? host host.platform path).toList.map .spool) := by
  rw [Errand.paper]
  cases Spooler.command? host host.platform path with
  | none => exact Errand.covers_nil.cons List.prefix_rfl fun _ => rfl
  | some command => exact Errand.covers_nil.cons List.prefix_rfl fun _ => rfl

theorem Errand.Covers.image (later : Errand.Covers errands wishes) (raster : Raster) :
    Errand.Covers (Errand.image host path raster :: errands) (.save path raster :: wishes) := by
  rw [Errand.image]
  cases host.noSave? with
  | none => exact later.cons List.prefix_rfl fun _ => rfl
  | some reason => exact @Errand.Covers.cons _ _ [_] _ later List.nil_prefix (by simp)

theorem Errand.Covers.folder (later : Errand.Covers errands wishes) :
    Errand.Covers (Errand.folder host path ++ errands)
      ((let folder := String.ofList (Text.Path.folder path.toList)
        if folder.isEmpty then [] else [.makeFolder folder]) ++ wishes) := by
  simp only [Errand.folder]
  split
  · exact later
  · exact later.cons List.prefix_rfl fun _ => rfl

end

theorem Plot.covers_wishes (host : Host) (allowPrint : Bool) (plot : Plot) :
    Errand.Covers (plot.errands host allowPrint) (plot.wishes host allowPrint) := by
  rw [Plot.errands, Plot.wishes]
  cases plot.layout.printNow && allowPrint with
  | false => exact (Errand.covers_nil.image host plot.path plot.raster).folder host plot.path
  | true =>
    have paper := Errand.covers_paper host plot.path
    exact (paper.image host plot.path plot.raster).folder host plot.path

theorem Raster.unlessRaised_asks (path : String) (raised : Raised) :
    (Raster.unlessRaised path (some raised)).Asks (.error (raised.unwritten path).failure) [] := by
  cases raised with
  | other kind text => exact Run.raise_asks_of_uncaught _ Bool.false_ne_true
  | _ => exact Run.raise_asks_of_caught _ rfl

theorem Raster.makeFolder_sends (host : Host) (path : String) :
    (Raster.makeFolder host path).Sends (Errand.folder host path) () := by
  simp only [Raster.makeFolder, Errand.folder]
  split
  · exact Run.pure_asks ()
  · cases host.noFolder? with
    | none => exact (Run.effect_asks _).bind (Run.pure_asks ())
    | some raised => exact (Run.effect_asks _).bind (Raster.unlessRaised_asks path raised)

theorem Raster.write_sends (host : Host) (raster : Raster) (path : String) :
    (raster.write host path).Sends (Errand.folder host path ++ [Errand.image host path raster]) () := by
  refine (Raster.makeFolder_sends host path).bind ?_
  rw [Errand.image]
  cases host.noSave? with
  | none =>
    exact (Run.pure_asks ()).bind ((Run.effect_asks _).bind (Run.log_asks _ _ _))
  | some raised => exact (Raster.unlessRaised_asks path raised).bind_error

theorem Spooler.print_sends (host : Host) (path : String) :
    (Spooler.print host none path).Sends [Errand.paper host path] 0 := by
  have platform : Spooler.platformOf host none = host.platform := rfl
  rw [Spooler.print, Spooler.command, platform, Errand.paper]
  cases Spooler.command? host host.platform path with
  | none => exact (Run.fail_asks _).bind_error
  | some command =>
    refine (Run.pure_asks command).bind ((Run.log_asks _ _ _).bind ((Run.effect_asks _).bind ?_))
    cases host.spooling with
    | raised found =>
      cases found with
      | system reason => exact Run.raise_asks_of_caught _ rfl
      | _ => exact Run.raise_asks_of_uncaught _ Bool.false_ne_true
    | undecodable status reason => exact Run.raise_asks_of_uncaught _ Bool.false_ne_true
    | finished status errors =>
      by_cases good : status = 0
      · subst good
        exact Run.pure_asks 0
      · simp only [Spooling.result, good, if_false, Spooling.refusal?]
        exact Run.fail_asks _

theorem Plot.publish_sends (host : Host) (allowPrint : Bool) (plot : Plot) :
    (Plot.publish host allowPrint plot).Sends (plot.errands host allowPrint) plot := by
  have split (rest : List Errand) :
      Errand.folder host plot.path ++ Errand.image host plot.path plot.raster :: rest =
        Errand.folder host plot.path ++ [Errand.image host plot.path plot.raster] ++ rest := by
    simp
  rw [Plot.errands, split]
  refine (Raster.write_sends host plot.raster plot.path).bind ?_
  split
  · exact (Spooler.print_sends host plot.path).bind (Run.pure_asks plot)
  · exact Run.pure_asks plot

theorem Layout.ofScript_quiet (source text : String) : (Layout.ofScript source text).Quiet := by
  have log (level : Level) (message : String) : (Run.log level .script message).Quiet :=
    ⟨_, Run.log_asks level .script message⟩
  refine (log _ _).bind fun _ => Run.Quiet.bind ⟨_, Run.ofExcept_asks _⟩ fun tokens => ?_
  refine (log _ _).bind fun _ => (log _ _).bind fun _ => ?_
  refine Run.Quiet.bind ⟨_, Run.ofExcept_asks _⟩ fun nodes => ?_
  refine Run.Quiet.bind ⟨_, Run.logAll_asks _⟩ fun _ => (log _ _).bind fun _ => ?_
  exact Run.Quiet.bind ⟨_, Run.logAll_asks _⟩ fun _ => ⟨_, Run.ofExcept_asks _⟩

section

variable {host : Host} {request : Request}

theorem Plot.run_undrawn {failure : Failure}
    (failed : Raster.ofScript request.source request.text request.limit = .error failure) :
    (Plot.run host request).Asks (.error failure) [] := by
  have compiling := (Layout.ofScript_quiet request.source request.text).asks
  rw [Raster.ofScript, bind_eq_error_iff] at failed
  rw [Plot.run]
  rcases failed with failed | ⟨layout, compiled, failed⟩
  · rw [failed] at compiling
    exact compiling.bind_error
  · rw [compiled] at compiling
    refine .after (.after ?_ (Run.log_asks _ _ _)) compiling
    rw [failed]
    exact (Run.ofExcept_asks (.error failure)).bind_error

theorem Plot.run_drawn {layout : Layout} {raster : Raster}
    (compiled : (Layout.ofScript request.source request.text).outcome.1 = .ok layout)
    (drawn : layout.render request.limit = .ok raster) {plot : Plot}
    (made : plot = ⟨layout, raster,
      if request.output.isEmpty then layout.path else request.output⟩) :
    (Plot.run host request).Sends (plot.errands host request.allowPrint) plot := by
  have compiling := (Layout.ofScript_quiet request.source request.text).asks
  rw [compiled] at compiling
  have published := Plot.publish_sends host request.allowPrint plot
  subst made
  rw [Plot.run]
  refine .after (.after ?_ (Run.log_asks _ _ _)) compiling
  rw [drawn]
  exact .after published (Run.ofExcept_asks (.ok raster))

theorem Plot.outcome_of_drawn {layout : Layout} {raster : Raster}
    (compiled : (Layout.ofScript request.source request.text).outcome.1 = .ok layout)
    (drawn : layout.render request.limit = .ok raster) {plot : Plot}
    (made : plot = ⟨layout, raster,
      if request.output.isEmpty then layout.path else request.output⟩) :
    (Plot.run host request).outcome.1 =
      Errand.ending (plot.errands host request.allowPrint) plot :=
  (Plot.run_drawn compiled drawn made {}).1

end

def Cause.outsideKinds : List String := ["ExportError", "UnsupportedPlatformError", "PrintCommandError"]

theorem Cause.IsExternal.kind {cause : Cause} (external : cause.IsExternal) :
    cause.kind ∈ Cause.outsideKinds := by
  cases cause <;> first | exact external.elim | simp [Cause.kind, Cause.outsideKinds]

theorem Spooler.command?_path {host : Host} {platform path : String} {command : List String}
    (found : Spooler.command? host platform path = some command) :
    command.getLast? = some path := by
  rw [Spooler.command?] at found
  split at found
  · cases found
    rfl
  · obtain ⟨program, _, rfl⟩ := Option.map_eq_some_iff.mp found
    rfl

theorem Plot.spooled_path {host : Host} {allowPrint : Bool} {plot : Plot} {command : List String}
    (asked : .spool command ∈ plot.wishes host allowPrint) : command.getLast? = some plot.path := by
  simp only [Plot.wishes, List.mem_append, List.mem_cons, reduceCtorEq, false_or] at asked
  rcases asked with asked | asked
  · split at asked <;> simp at asked
  · split at asked
    · obtain ⟨found, listed, same⟩ := List.mem_map.mp asked
      cases same
      exact Spooler.command?_path (Option.mem_toList.mp listed)
    · cases asked

/-- An exception of the world outside that no clause catches: around the writing of an image those of
the system and of values are caught, around the spooler those of the system. -/
def Host.Uncaught (host : Host) (raised : Raised) : Prop :=
  (host.noFolder? = some raised ∨ host.noSave? = some raised) ∧ ¬ (raised.isSystem ∨ raised.isValue) ∨
    host.spooling.result = .error raised ∧ ¬ raised.isSystem

inductive Host.Refuses (host : Host) : Refusal → Prop
  | told {cause : Cause} : cause.IsExternal → Refuses host (.told cause)
  | escaped {raised : Raised} : host.Uncaught raised → Refuses host (.escaped raised)

section

variable {host : Host} {refusal : Refusal}

theorem Raised.unwritten_refuses {raised : Raised} (path : String)
    (found : host.noFolder? = some raised ∨ host.noSave? = some raised) :
    host.Refuses (raised.unwritten path) := by
  cases raised with
  | other kind text => exact .escaped (.inl ⟨found, by simp [isSystem, isValue]⟩)
  | _ => exact .told trivial

theorem Spooling.refuses {program : String} (refused : host.spooling.refusal? program = some refusal) :
    host.Refuses refusal := by
  have escaped {raised : Raised} (found : host.spooling.result = .error raised)
      (unhandled : ¬ raised.isSystem) : host.Refuses (.escaped raised) :=
    .escaped (.inr ⟨found, unhandled⟩)
  cases ended : host.spooling with
  | raised found =>
    rw [ended] at refused
    cases found with
    | system reason =>
      cases refused
      exact .told trivial
    | _ =>
      cases refused
      exact escaped (by rw [ended]; rfl) (by simp [Raised.isSystem])
  | undecodable status reason =>
    rw [ended] at refused
    cases refused
    exact escaped (by rw [ended]; rfl) (by simp [Raised.isSystem])
  | finished status errors =>
    rw [ended, Spooling.refusal?] at refused
    split at refused
    · cases refused
    · cases refused
      exact .told trivial

theorem Plot.errands_refuse {allowPrint : Bool} {plot : Plot} {errand : Errand}
    (listed : errand ∈ plot.errands host allowPrint) (refused : errand.refusal? = some refusal) :
    host.Refuses refusal := by
  rcases List.mem_append.mp listed with folder | listed
  · simp only [Errand.folder] at folder
    split at folder
    · cases folder
    · cases List.mem_singleton.mp folder
      obtain ⟨raised, found, rfl⟩ := Option.map_eq_some_iff.mp refused
      exact raised.unwritten_refuses plot.path (.inl found)
  rcases List.mem_cons.mp listed with rfl | listed
  · rw [Errand.image] at refused
    split at refused
    · cases refused
    · next raised found =>
      cases refused
      exact raised.unwritten_refuses plot.path (.inr found)
  · split at listed
    · cases List.mem_singleton.mp listed
      rw [Errand.paper] at refused
      split at refused
      · cases refused
        exact .told trivial
      · exact Spooling.refuses refused
    · cases listed

end

/-- Nothing is done outside for a script that has no picture. Otherwise the folder of the image, the
image with the pixels of the picture and the print are asked for in this order and at one path, each
only when the one before it has been done; the run ends with the plot when all are done that are due,
and else with the failure of the first that is not. That failure is told as one of the image or of the
spooler, or it is an exception from outside as it was raised, where no clause catches it. -/
theorem Plot.run_outside (host : Host) (request : Request) :
    let result := (Plot.run host request).outcome
    (∀ failure, Raster.ofScript request.source request.text request.limit = .error failure →
      result.1 = .error failure ∧ result.2.effects = []) ∧
    ∀ layout raster, (Layout.ofScript request.source request.text).outcome.1 = .ok layout →
      layout.render request.limit = .ok raster →
        let path := if request.output.isEmpty then layout.path else request.output
        let plot : Plot := ⟨layout, raster, path⟩
        let errands := plot.errands host request.allowPrint
        let wishes := plot.wishes host request.allowPrint
        result.2.effects <+: wishes ∧
        (∀ command, .spool command ∈ wishes → command.getLast? = some path) ∧
        (∀ other, result.1 = .ok other ↔
          other = plot ∧ ∀ errand ∈ errands, errand.refusal? = none) ∧
        (∀ other, result.1 = .ok other → result.2.effects = wishes) ∧
        ∀ failure, result.1 = .error failure →
          (∃ before errand after refusal, errands = before ++ errand :: after ∧
            (∀ done ∈ before, done.refusal? = none) ∧ errand.refusal? = some refusal ∧
              failure = refusal.failure ∧
                result.2.effects = before.flatMap Errand.asked ++ errand.asked) ∧
          ((∃ cause : Cause, failure = .of cause none ∧ cause.kind ∈ Cause.outsideKinds) ∨
            ∃ raised, failure = .fault (.outside raised) ∧ host.Uncaught raised) := by
  intro result
  constructor
  · intro failure undrawn
    exact Plot.run_undrawn undrawn {}
  intro layout raster compiled drawn path plot errands wishes
  obtain ⟨ended, asked⟩ : result.1 = Errand.ending errands plot ∧
      result.2.effects = [] ++ Errand.effects errands := Plot.run_drawn compiled drawn rfl {}
  rw [List.nil_append] at asked
  have covers : Errand.Covers errands wishes := Plot.covers_wishes host request.allowPrint plot
  rw [ended, asked]
  refine ⟨covers.front, fun command => Plot.spooled_path, fun other => Errand.ending_eq_ok_iff, ?_, ?_⟩
  · intro other finished
    exact covers.whole (Errand.ending_eq_ok_iff.mp finished).2
  · intro failure failed
    obtain ⟨before, errand, after, refusal, split, done, refused, rfl, effects⟩ :=
      Errand.ending_eq_error failed
    refine ⟨⟨before, errand, after, refusal, split, done, refused, rfl, effects⟩, ?_⟩
    have listed : errand ∈ errands := by simp [split]
    cases Plot.errands_refuse listed refused with
    | told external => exact .inl ⟨_, rfl, external.kind⟩
    | escaped uncaught => exact .inr ⟨_, rfl, uncaught⟩

def Request.printedLine : Request :=
  { text := "#print_now()\n#frame(0,0,1,1)\nx", output := "out/p.png" }

def Plot.printedLine : Plot where
  layout := { frame? := some ⟨0, 0, 1, 1⟩, printNow := true,
              equations := [.symbol "x" (some ⟨"<script>", 29, 30⟩)] }
  raster := ⟨1, 1, #v[#v[true]]⟩
  path := "out/p.png"

theorem Plot.printedLine_drawn :
    (Layout.ofScript Request.printedLine.source Request.printedLine.text).outcome.1 =
        .ok Plot.printedLine.layout ∧
      Plot.printedLine.layout.render Request.printedLine.limit = .ok Plot.printedLine.raster := by
  decide +kernel

theorem Plot.printedLine_path :
    (if Request.printedLine.output.isEmpty then printedLine.layout.path
      else Request.printedLine.output) = printedLine.path := by
  decide +kernel

theorem Plot.run_outside_printed :
    (Plot.run {} .printedLine).outcome.1 = .ok .printedLine ∧
      (Plot.run {} .printedLine).outcome.2.effects =
        [.makeFolder "out", .save "out/p.png" Plot.printedLine.raster, .spool ["lp", "out/p.png"]] := by
  obtain ⟨compiled, drawn⟩ := Plot.printedLine_drawn
  have outside := (Plot.run_outside {} .printedLine).2 _ _ compiled drawn
  rw [Plot.printedLine_path] at outside
  obtain ⟨_, _, ends, whole, _⟩ := outside
  have ended : (Plot.run {} .printedLine).outcome.1 = .ok .printedLine :=
    (ends _).mpr ⟨rfl, by decide +kernel⟩
  have asked : Plot.printedLine.wishes {} Request.printedLine.allowPrint =
      [.makeFolder "out", .save "out/p.png" Plot.printedLine.raster, .spool ["lp", "out/p.png"]] := by
    decide +kernel
  exact ⟨ended, (whole _ ended).trans asked⟩

def Host.garbled : Host := { spooling := .undecodable 1 "invalid start byte" }

/-- A print whose spooler fails and complains in bytes that are no text: the run ends with them and not
with the failure of the print. -/
theorem Plot.undecodable_escapes :
    (Plot.run .garbled .printedLine).outcome.1 =
        .error (.fault (.outside (.undecodable "invalid start byte"))) ∧
      ∀ cause : Cause, (Plot.run .garbled .printedLine).outcome.1 ≠ .error (.of cause none) := by
  obtain ⟨compiled, drawn⟩ := Plot.printedLine_drawn
  have made : Plot.printedLine = ⟨Plot.printedLine.layout, Plot.printedLine.raster,
      if Request.printedLine.output.isEmpty then Plot.printedLine.layout.path
      else Request.printedLine.output⟩ := by
    rw [Plot.printedLine_path]
  have refused : Errand.ending (Plot.printedLine.errands .garbled Request.printedLine.allowPrint)
      Plot.printedLine = .error (.fault (.outside (.undecodable "invalid start byte"))) := by
    decide +kernel
  rw [Plot.outcome_of_drawn compiled drawn made, refused]
  exact ⟨rfl, fun cause same => by cases same⟩

end PlotScript
