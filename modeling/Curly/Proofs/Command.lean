import Curly.Command
import Curly.Proofs.Loading
import Curly.Proofs.Program.Overrun

/-!
How requests end. A request is carried out, or it ends with a failure that is reported to the user,
or a fault escapes. When one does is told stage by stage, and for each stage by the files and texts
that it reads; and no other class of faults escapes than those of looking at files, of decoding
them, of documents and of numbers that are too long.
-/

namespace Curly.Command

open Except

variable {s : Surroundings} {r : Request} {settings : Settings} {f : Fault} {e : CommandFailure}

/-! ## Stages -/

/-- How the text of a template is not read: the file is not looked at, or is no text. -/
inductive TemplateFault (find : String → FileState) (path encoding : String) : Fault → Prop
  | unreachable {problem : FileProblem} (hpath : path ≠ inputPath)
      (hfile : (find (plainPath path)).isFile = .error problem) :
      TemplateFault find path encoding (.unreachable problem (plainPath path))
  | reading {f : Fault} (hpath : path ≠ inputPath)
      (hfile : (find (plainPath path)).isFile = .ok true)
      (h : ReadFault find (plainPath path) encoding f) : TemplateFault find path encoding f

/-- How the data of a request are not built: the mapping of their file is not read, or the value of
an assignment is not, when those in front of it are fine. -/
inductive ContextFault (s : Surroundings) (settings : Settings) (r : Request) (f : Fault) : Prop
  | data {path : String} (hpath : nonEmpty r.context = some path)
      (h : MappingFault s.find path settings.encoding f)
  | assignment {front back : List String} {text : String}
      (hdata : ∀ path, nonEmpty r.context = some path →
        ∃ data, readMapping s.find path settings.encoding = .ok data)
      (heq : r.assignments = front ++ text :: back)
      (hfront : ∀ other ∈ front, ∃ a, Assignment.parse other = .ok a)
      (h : Assignment.ParseFault text f)

/-- How the expressions of a template are not read: the first text in it that cannot be read has a
number that is too long. -/
def ExpressionFault (template : String) (e : ExpressionFailure) : Prop :=
  ∃ t front o back, Tree.ofTemplate template = .ok t ∧ t.occurrences = front ++ o :: back ∧
    (∀ x ∈ front, ∃ u, x.read = .ok u) ∧ o.Overruns ∧ o.read = .error e

/-- The faults that escape from a request. -/
inductive Escapes (s : Surroundings) (r : Request) : CommandFailure → Prop
  | settings {f : Fault} (h : Settings.LoadFault s.find (nonEmpty r.config) f) :
      Escapes s r (.loading (.fault f))
  | template {settings : Settings} {f : Fault}
      (hsettings : Settings.load s.find (nonEmpty r.config) = .ok settings)
      (h : TemplateFault s.find r.template settings.encoding f) : Escapes s r (.loading (.fault f))
  | context {settings : Settings} {template : String} {f : Fault}
      (hsettings : Settings.load s.find (nonEmpty r.config) = .ok settings)
      (htemplate : readTemplate s r.template settings.encoding = .ok template)
      (hsub : r.subcommand = .render) (h : ContextFault s settings r f) :
      Escapes s r (.loading (.fault f))
  | expression {settings : Settings} {template : String} {e : ExpressionFailure}
      (hsettings : Settings.load s.find (nonEmpty r.config) = .ok settings)
      (htemplate : readTemplate s r.template settings.encoding = .ok template)
      (hsub : r.subcommand = .compile ∨
        r.subcommand = .render ∧ ∃ context, contextOf s settings r = .ok context)
      (h : ExpressionFault template e) : Escapes s r (.rendering (.template (.expression e)))

theorem readTemplate_eq_fault_iff {path encoding : String} :
    readTemplate s path encoding = .error (.fault f) ↔ TemplateFault s.find path encoding f := by
  rw [readTemplate]
  by_cases hpath : path = inputPath
  · rw [if_pos (beq_iff_eq.2 hpath)]
    refine iff_of_false nofun fun h => ?_
    cases h with
    | unreachable hne _ => exact hne hpath
    | reading hne _ _ => exact hne hpath
  · rw [if_neg fun h => hpath (beq_iff_eq.1 h), isFileAt_bind_eq_fault_iff]
    constructor
    · rintro (⟨problem, hfile, rfl⟩ | ⟨isFile, hfile, h⟩)
      · exact .unreachable hpath hfile
      · cases isFile with
        | true => exact .reading hpath hfile (mapError_ofRead_eq_fault_iff.1 h)
        | false => cases h
    · rintro (⟨-, hfile⟩ | ⟨-, hfile, h⟩)
      · exact .inl ⟨_, hfile, rfl⟩
      · exact .inr ⟨true, hfile, mapError_ofRead_eq_fault_iff.2 h⟩

theorem contextOf_eq_fault_iff :
    contextOf s settings r = .error (.fault f) ↔ ContextFault s settings r f := by
  rw [contextOf]
  cases hpath : nonEmpty r.context with
  | none =>
      -- without a file of data, only an assignment can fail
      show (buildData settings.data [] r.assignments).map Loaded.entryValues = _ ↔ _
      rw [map_eq_error_iff, buildData_eq_fault_iff]
      constructor
      · rintro ⟨front, text, back, heq, hfront, h⟩
        refine .assignment (fun path hsome => ?_) heq hfront h
        rw [hpath] at hsome
        cases hsome
      · rintro (⟨hsome, -⟩ | ⟨-, heq, hfront, h⟩)
        · rw [hpath] at hsome
          cases hsome
        · exact ⟨_, _, _, heq, hfront, h⟩
  | some path =>
      -- the file is read first, and the assignments come behind it
      show (readMapping s.find path settings.encoding >>= fun data =>
        (buildData settings.data data r.assignments).map Loaded.entryValues) = _ ↔ _
      rw [bind_eq_error_iff, readMapping_eq_fault_iff]
      constructor
      · rintro (h | ⟨data, hdata, h⟩)
        · exact .data hpath h
        · obtain ⟨front, text, back, heq, hfront, h⟩ :=
            buildData_eq_fault_iff.1 (map_eq_error_iff.1 h)
          refine .assignment (fun path' hsome => ?_) heq hfront h
          rw [hpath] at hsome
          cases hsome
          exact ⟨data, hdata⟩
      · rintro (⟨hsome, h⟩ | ⟨hdata, heq, hfront, h⟩)
        · rw [hpath] at hsome
          cases hsome
          exact .inl h
        · obtain ⟨data, hdata⟩ := hdata path hpath
          exact .inr ⟨data, hdata, map_eq_error_iff.2
            (buildData_eq_fault_iff.2 ⟨_, _, _, heq, hfront, h⟩)⟩

/-! ## Results -/

/-- What escapes from a computation: a failure that the user cannot mend. -/
def Throws {α : Type} (e : CommandFailure) (x : Except CommandFailure α) : Prop :=
  x.FailsWith fun e' => e' = e ∧ e'.isUserError = false

theorem not_throws_ok {α : Type} (a : α) : ¬Throws e (.ok a : Except CommandFailure α) :=
  not_failsWith_ok a

theorem not_throws_error {α : Type} {e' : CommandFailure} (he : e'.isUserError = true) :
    ¬Throws e (.error e' : Except CommandFailure α) := by
  rw [Throws, failsWith_error, he]
  exact fun h => Bool.noConfusion h.2

theorem throws_reportOn {α : Type} {x : Except CommandFailure α} {next : α → Report} :
    Throws e (reportOn x next).result ↔
      Throws e x ∨ ∃ a, x = .ok a ∧ Throws e (next a).result := by
  have hbind : (reportOn x next).result = x >>= fun a => (next a).result := by
    cases x <;> rfl
  rw [hbind]
  exact failsWith_bind

/-- What is thrown by loading is a fault. -/
theorem throws_loading {α : Type} {x : Load α} :
    Throws e (x.mapError .loading) ↔ ∃ f, e = .loading (.fault f) ∧ x = .error (.fault f) := by
  rw [Throws, failsWith_mapError]
  constructor
  · rintro ⟨e', hx, rfl, huser⟩
    cases e' with
    | config failure => cases huser
    | fault f => exact ⟨f, rfl, hx⟩
  · rintro ⟨f, rfl, hx⟩
    exact ⟨.fault f, hx, rfl, rfl⟩

theorem throws_withTokens {template : String} {next : List Token → Report} :
    Throws e (withTokens template next).result ↔
      ∃ ts, tokenize template = .ok ts ∧ Throws e (next ts).result := by
  rw [withTokens, throws_reportOn, or_iff_right]
  · simp only [mapError_eq_ok_iff]
    rfl
  · rw [Throws, failsWith_mapError]
    rintro ⟨e', -, rfl, huser⟩
    cases huser

theorem throws_withTree {template : String} {next : Tree → Report} :
    Throws e (withTree template next).result ↔
      ∃ t, Tree.ofTemplate template = .ok t ∧ Throws e (next t).result := by
  have htree (ts : List Token) :
      Throws e (reportOn ((Tree.ofTokens ts).mapError (.rendering ∘ .template ∘ .structural))
        fun t => (next t).after [.parsed ts.length t.children.length]).result ↔
        ∃ t, Tree.ofTokens ts = .ok t ∧ Throws e (next t).result := by
    -- an error of the structure is reported, so it does not escape
    rw [throws_reportOn, or_iff_right]
    · simp only [mapError_eq_ok_iff]
      rfl
    · rw [Throws, failsWith_mapError]
      rintro ⟨e', -, rfl, huser⟩
      cases huser
  rw [withTree, throws_withTokens]
  constructor
  · rintro ⟨ts, hts, h⟩
    obtain ⟨t, ht, h⟩ := (htree ts).1 h
    exact ⟨t, bind_eq_ok_iff.2 ⟨ts, mapError_eq_ok_iff.2 hts, mapError_eq_ok_iff.2 ht⟩, h⟩
  · rintro ⟨t, ht, h⟩
    obtain ⟨ts, hts, ht⟩ := bind_eq_ok_iff.1 ht
    exact ⟨ts, mapError_eq_ok_iff.1 hts, (htree ts).2 ⟨t, mapError_eq_ok_iff.1 ht, h⟩⟩

/-- The expressions of a tree throw what the first one throws that cannot be read. -/
theorem throws_compile {t : Tree} :
    Throws e ((Program.compile t).mapError (.rendering ∘ .template ∘ .expression)) ↔
      ∃ e', e = .rendering (.template (.expression e')) ∧ ∃ front o back,
        t.occurrences = front ++ o :: back ∧ (∀ x ∈ front, ∃ u, x.read = .ok u) ∧ o.Overruns ∧
          o.read = .error e' := by
  rw [Throws, failsWith_mapError, Program.failsWith_compile fun _ h => h.2,
    Program.failsWith_ofTree, failsWith_mapM]
  constructor
  · rintro ⟨front, o, back, heq, hfront, e', hread, rfl, huser⟩
    exact ⟨e', rfl, front, o, back, heq, hfront, o.overran_read.1 ⟨e', hread, huser⟩, hread⟩
  · rintro ⟨e', rfl, front, o, back, heq, hfront, ho, hread⟩
    obtain ⟨e'', hread', huser⟩ := o.overran_read.2 ho
    obtain rfl : e' = e'' := error.inj (hread.symm.trans hread')
    exact ⟨front, o, back, heq, hfront, e', hread, rfl, huser⟩

theorem throws_withProgram {template : String} {next : Program → Report}
    (hnext : ∀ p, ¬Throws e (next p).result) :
    Throws e (withProgram template next).result ↔
      ∃ e', e = .rendering (.template (.expression e')) ∧ ExpressionFault template e' := by
  -- What comes after a program throws nothing, so the compilation is all that can.
  have hcompile (t : Tree) : Throws e ((reportOn ((Program.compile t).mapError
      (.rendering ∘ .template ∘ .expression)) next).after t.trace).result ↔
      Throws e ((Program.compile t).mapError (.rendering ∘ .template ∘ .expression)) :=
    throws_reportOn.trans (or_iff_left fun ⟨p, _, h⟩ => hnext p h)
  rw [withProgram, throws_withTree]
  constructor
  · rintro ⟨t, ht, h⟩
    obtain ⟨e', rfl, front, o, back, h⟩ := throws_compile.1 ((hcompile t).1 h)
    exact ⟨e', rfl, t, front, o, back, ht, h⟩
  · rintro ⟨e', rfl, t, front, o, back, ht, h⟩
    exact ⟨t, ht, (hcompile t).2 (throws_compile.2 ⟨e', rfl, front, o, back, h⟩)⟩

/-- Running a program throws nothing: what goes wrong then is reported. -/
theorem throws_renderWith {template : String} {context : List (Value × Value)} :
    Throws e (renderWith template context).result ↔
      ∃ e', e = .rendering (.template (.expression e')) ∧ ExpressionFault template e' := by
  refine throws_withProgram fun p => ?_
  cases p.render (.dict context) with
  | ok output => exact not_throws_ok output
  | error e' => exact not_throws_error rfl

theorem throws_perform {template : String} :
    Throws e (perform s settings r template).result ↔
      (r.subcommand = .render ∧ ∃ f, e = .loading (.fault f) ∧ ContextFault s settings r f) ∨
        (r.subcommand = .compile ∨
          r.subcommand = .render ∧ ∃ context, contextOf s settings r = .ok context) ∧
        ∃ e', e = .rendering (.template (.expression e')) ∧ ExpressionFault template e' := by
  rw [perform]
  cases r.subcommand with
  | render =>
      -- the data are built before the template is looked into
      simp only [throws_reportOn, throws_loading, contextOf_eq_fault_iff, mapError_eq_ok_iff,
        throws_renderWith]
      simp
  | compile =>
      have hcompile :
          Throws e (withProgram template fun p => { result := .ok p.source }).result ↔ _ :=
        throws_withProgram fun p => not_throws_ok p.source
      simp [hcompile]
  | tokens =>
      rw [throws_withTokens]
      simp [not_throws_ok]
  | tree =>
      rw [throws_withTree]
      simp [not_throws_ok]

/-- What a request throws is what escapes from it. -/
theorem throws_run : Throws e (run s r).result ↔ Escapes s r e := by
  -- notes do not touch the result
  have hnotes (level : LogLevel) (report : Report) :
      (if level.isDetailed then report else { report with notes := [] }).result =
        report.result := by
    cases level.isDetailed <;> rfl
  rw [run, throws_reportOn, throws_loading]
  simp only [hnotes, throws_reportOn, throws_loading, Settings.load_eq_fault_iff,
    readTemplate_eq_fault_iff, mapError_eq_ok_iff, throws_perform]
  constructor
  · rintro (⟨f, rfl, h⟩ | ⟨settings, hsettings, ⟨f, rfl, h⟩ | ⟨template, htemplate,
      ⟨hsub, f, rfl, h⟩ | ⟨hsub, e', rfl, h⟩⟩⟩)
    · exact .settings h
    · exact .template hsettings h
    · exact .context hsettings htemplate hsub h
    · exact .expression hsettings htemplate hsub h
  · intro h
    cases h with
    | settings h => exact .inl ⟨_, rfl, h⟩
    | template hsettings h => exact .inr ⟨_, hsettings, .inl ⟨_, rfl, h⟩⟩
    | context hsettings htemplate hsub h =>
        exact .inr ⟨_, hsettings, .inr ⟨_, htemplate, .inl ⟨hsub, _, rfl, h⟩⟩⟩
    | expression hsettings htemplate hsub h =>
        exact .inr ⟨_, hsettings, .inr ⟨_, htemplate, .inr ⟨hsub, _, rfl, h⟩⟩⟩

/-! ## Classes -/

/-- The classes of the faults that escape while files, documents and arguments are read: those of
documents, of names of encodings, of decoding, and of looking at files. -/
def escapingClasses : List FaultClass :=
  Yaml.faultClasses ++ [.lookup, .unicode, .decoding, .system, .permission]

theorem class_of_document {text : String} (h : Yaml.load text = .error (.fault f)) :
    f.faultClass ∈ escapingClasses := by
  obtain ⟨n, -, hcauses⟩ := Yaml.exists_causes_of_load h
  exact List.mem_append_left _ hcauses.faultClass_mem

theorem class_of_reading {find : String → FileState} {path encoding : String}
    (h : ReadFault find path encoding f) : f.faultClass ∈ escapingClasses := by
  cases h with
  | encodingName | pathName =>
      show FaultClass.valueError ∈ escapingClasses
      decide
  | decoding _ _ _ h =>
      cases h with
      | other | unknown =>
          show FaultClass.lookup ∈ escapingClasses
          decide
      | undecodable =>
          show FaultClass.decoding ∈ escapingClasses
          decide
      | unmarked =>
          show FaultClass.unicode ∈ escapingClasses
          decide

theorem class_of_mapping {find : String → FileState} {path encoding : String}
    (h : MappingFault find path encoding f) : f.faultClass ∈ escapingClasses := by
  cases h with
  | reading h => exact class_of_reading h
  | document _ h => exact class_of_document h

theorem class_of_unreachable (problem : FileProblem) (path : String) :
    (Fault.unreachable problem path).faultClass ∈ escapingClasses := by
  cases problem with
  | denied =>
      show FaultClass.permission ∈ escapingClasses
      decide
  | missing | blocked | directory | nameTooLong =>
      show FaultClass.system ∈ escapingClasses
      decide

theorem class_of_settings {find : String → FileState} {path : Option String}
    (h : Settings.LoadFault find path f) : f.faultClass ∈ escapingClasses := by
  have hfile {path : String} {f : Fault} (h : Settings.FileFault find path f) :
      f.faultClass ∈ escapingClasses := by
    cases h with
    | reading h => exact class_of_mapping h
    | entries _ h =>
        obtain ⟨-, rfl, -⟩ := h
        show FaultClass.valueError ∈ escapingClasses
        decide
  cases h with
  | named h => exact hfile h
  | unreachable => exact class_of_unreachable _ _
  | usual _ h => exact hfile h

/-- The faults that escape while files, documents and arguments are read are of few classes. -/
theorem Escapes.class_mem (h : Escapes s r (.loading (.fault f))) :
    f.faultClass ∈ escapingClasses := by
  cases h with
  | settings h => exact class_of_settings h
  | template _ h =>
      cases h with
      | unreachable => exact class_of_unreachable _ _
      | reading _ _ h => exact class_of_reading h
  | context _ _ _ h =>
      cases h with
      | data _ h => exact class_of_mapping h
      | assignment _ _ _ h =>
          obtain ⟨_, _, -, -, -, h⟩ := h
          exact class_of_document h

/-- A request that is carried out ends with the code zero, and its output is printed. -/
theorem ends_of_ok {report : Report} {output : String} (h : report.result = .ok output) :
    report.code = 0 ∧ report.output = output := by
  constructor
  · rw [Report.code, h]
  · rw [Report.output, h]
    rfl

/-- A request that is refused ends with the code of its failure, and nothing but messages is
printed, that of the failure as the last one. -/
theorem ends_of_error {report : Report} (h : report.result = .error e) :
    report.code = (if e.isUserError then 2 else 1) ∧ report.output = "" ∧
      ∃ notes, report.messages = notes ++ Report.failureLine e := by
  refine ⟨?_, ?_, String.join (report.notes.map Report.noteLine), ?_⟩
  · rw [Report.code, h]
  · rw [Report.output, h]
    rfl
  · rw [Report.messages, h]

/-- A failure that the user cannot mend is what escapes. -/
theorem escapes_iff : Escapes s r e ↔ (run s r).result = .error e ∧ e.isUserError = false := by
  rw [← throws_run, Throws]
  constructor
  · rintro ⟨_, he, rfl, huser⟩
    exact ⟨he, huser⟩
  · rintro ⟨he, huser⟩
    exact ⟨e, he, rfl, huser⟩

end Curly.Command
