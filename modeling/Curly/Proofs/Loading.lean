import Curly.Assignment
import Curly.Proofs.Value.Data
import Curly.Proofs.Yaml.Fault

/-!
Faults of loading. Files that cannot be opened, documents that are no mappings and texts that are no
assignments are reported to the user, who can mend them. What is not reported is told here for each
thing that is loaded: bytes that are no text in their encoding, documents that end in a fault, and
settings that have no text.
-/

namespace Curly

open Except

/-! ## Files -/

/-- How the bytes of a file are no text: nothing is known under the name of the encoding, or the
bytes stand for no text in it. -/
inductive DecodeFault (encoding : String) (bytes : List UInt8) : Fault → Prop
  | other (hother : Text.Encoding.isOther encoding = true) :
      DecodeFault encoding bytes (.otherEncoding encoding "open")
  | unknown (hother : Text.Encoding.isOther encoding = false)
      (hname : Text.Encoding.ofName? encoding = none) :
      DecodeFault encoding bytes (.unknownEncoding encoding)
  | undecodable {e : Text.Encoding} {cause : Text.Undecodable}
      (hother : Text.Encoding.isOther encoding = false)
      (hname : Text.Encoding.ofName? encoding = some e) (hbytes : e.decode bytes = .error cause) :
      DecodeFault encoding bytes (.undecodable cause)
  | unmarked {s : List Char} (hother : Text.Encoding.isOther encoding = false)
      (hname : Text.Encoding.ofName? encoding = some .utf16)
      (hbytes : Text.Encoding.utf16.decode bytes = .ok s) (hempty : bytes ≠ [])
      (hmark : hasByteOrder bytes = false) : DecodeFault encoding bytes .noByteOrder

/-- How the text of a file is not read although the file can be opened, or is not looked for. -/
inductive ReadFault (find : String → FileState) (path encoding : String) : Fault → Prop
  | encodingName (hencoding : encoding.contains '\x00' = true) :
      ReadFault find path encoding .nullCharacter
  | pathName (hencoding : encoding.contains '\x00' = false) (hpath : path.contains '\x00' = true) :
      ReadFault find path encoding .nullByte
  | decoding {bytes : List UInt8} {f : Fault} (hencoding : encoding.contains '\x00' = false)
      (hpath : path.contains '\x00' = false) (hfile : find path = .file bytes)
      (h : DecodeFault encoding bytes f) : ReadFault find path encoding f

variable {find : String → FileState} {path encoding : String} {f : Fault}

theorem encodingNamed_eq_ok_iff {reader name : String} {e : Text.Encoding} :
    encodingNamed reader name = .ok e ↔
      Text.Encoding.isOther name = false ∧ Text.Encoding.ofName? name = some e := by
  rw [encodingNamed]
  cases Text.Encoding.isOther name with
  | true => simp
  | false => cases Text.Encoding.ofName? name <;> simp

theorem encodingNamed_eq_error_iff {reader name : String} :
    encodingNamed reader name = .error f ↔
      Text.Encoding.isOther name = true ∧ f = .otherEncoding name reader ∨
        Text.Encoding.isOther name = false ∧ Text.Encoding.ofName? name = none ∧
          f = .unknownEncoding name := by
  rw [encodingNamed]
  cases Text.Encoding.isOther name with
  | true => simp [eq_comm]
  | false => cases Text.Encoding.ofName? name <;> simp [eq_comm]

theorem decodeFile_eq_error_iff {bytes : List UInt8} :
    decodeFile encoding bytes = .error f ↔ DecodeFault encoding bytes f := by
  rw [decodeFile, bind_eq_error_iff, encodingNamed_eq_error_iff]
  constructor
  · rintro ((⟨hother, rfl⟩ | ⟨hother, hname, rfl⟩) | ⟨e, he, h⟩)
    · exact .other hother
    · exact .unknown hother hname
    · -- a known encoding fails on the bytes, or on a text that should begin with a mark
      obtain ⟨hother, hname⟩ := encodingNamed_eq_ok_iff.1 he
      obtain h | ⟨s, hs, h⟩ := bind_eq_error_iff.1 h
      · obtain ⟨cause, hcause, rfl⟩ := mapError_eq_error_iff.1 h
        exact .undecodable hother hname hcause
      · split at h
        · next hopen =>
            cases h
            simp only [Bool.and_eq_true, decide_eq_true_eq, Bool.not_eq_true',
              List.isEmpty_eq_false_iff] at hopen
            obtain ⟨⟨rfl, hempty⟩, hmark⟩ := hopen
            exact .unmarked hother hname (mapError_eq_ok_iff.1 hs) hempty hmark
        · cases h
  · intro h
    cases h with
    | other hother => exact .inl (.inl ⟨hother, rfl⟩)
    | unknown hother hname => exact .inl (.inr ⟨hother, hname, rfl⟩)
    | undecodable hother hname hbytes =>
        refine .inr ⟨_, encodingNamed_eq_ok_iff.2 ⟨hother, hname⟩, bind_eq_error_iff.2 (.inl ?_)⟩
        exact mapError_eq_error_iff.2 ⟨_, hbytes, rfl⟩
    | unmarked hother hname hbytes hempty hmark =>
        refine .inr ⟨_, encodingNamed_eq_ok_iff.2 ⟨hother, hname⟩, bind_eq_error_iff.2 (.inr ?_)⟩
        refine ⟨_, mapError_eq_ok_iff.2 hbytes, ?_⟩
        rw [if_pos]
        · rfl
        · simp [hempty, hmark]

theorem FileState.bytes_eq_ok_iff {state : FileState} {bytes : List UInt8} :
    state.bytes = .ok bytes ↔ state = .file bytes := by
  cases state <;> simp [FileState.bytes]

theorem readFile_eq_fault_iff :
    readFile find path encoding = .error (.fault f) ↔ ReadFault find path encoding f := by
  -- with both names fine only the bytes can be at fault
  have hread (hencoding : encoding.contains '\x00' = false) (hpath : path.contains '\x00' = false) :
      readFile find path encoding = .error (.fault f) ↔
        ∃ bytes, find path = .file bytes ∧ DecodeFault encoding bytes f := by
    rw [readFile, hencoding, hpath]
    show ((find path).bytes.mapError ReadFailure.problem >>= fun bytes =>
      (decodeFile encoding bytes).mapError ReadFailure.fault) = _ ↔ _
    rw [bind_eq_error_iff]
    constructor
    · rintro (h | ⟨bytes, hbytes, h⟩)
      · obtain ⟨problem, -, hproblem⟩ := mapError_eq_error_iff.1 h
        cases hproblem
      · obtain ⟨f', hdecode, hf⟩ := mapError_eq_error_iff.1 h
        cases hf
        exact ⟨bytes, FileState.bytes_eq_ok_iff.1 (mapError_eq_ok_iff.1 hbytes),
          decodeFile_eq_error_iff.1 hdecode⟩
    · rintro ⟨bytes, hfile, h⟩
      exact .inr ⟨bytes, mapError_eq_ok_iff.2 (FileState.bytes_eq_ok_iff.2 hfile),
        mapError_eq_error_iff.2 ⟨f, decodeFile_eq_error_iff.2 h, rfl⟩⟩
  constructor
  · intro h
    cases hencoding : encoding.contains '\x00' with
    | true =>
        rw [readFile, hencoding] at h
        cases h
        exact .encodingName hencoding
    | false =>
        cases hpath : path.contains '\x00' with
        | true =>
            rw [readFile, hencoding, hpath] at h
            cases h
            exact .pathName hencoding hpath
        | false =>
            obtain ⟨bytes, hfile, h⟩ := (hread hencoding hpath).1 h
            exact .decoding hencoding hpath hfile h
  · intro h
    cases h with
    | encodingName hencoding =>
        rw [readFile, hencoding]
        rfl
    | pathName hencoding hpath =>
        rw [readFile, hencoding, hpath]
        rfl
    | decoding hencoding hpath hfile h => exact (hread hencoding hpath).2 ⟨_, hfile, h⟩

/-! ## Mappings -/

/-- How the mapping of a file is not read: the file is no text, or its document ends in a fault. -/
inductive MappingFault (find : String → FileState) (path encoding : String) (f : Fault) : Prop
  | reading (h : ReadFault find (plainPath path) encoding f)
  | document {text : String} (htext : readFile find (plainPath path) encoding = .ok text)
      (h : Yaml.load text = .error (.fault f))

theorem loadMapping_eq_fault_iff {source text : String} :
    loadMapping source text = .error (.fault f) ↔ Yaml.load text = .error (.fault f) := by
  rw [loadMapping]
  split
  · next h => simp [h]
  · next h => simp [h]
  · next h => simp [h]
  · next h => simp [h]
  · next h => simp [h]

/-- What failed in a file ends loading as a fault only if it is one. -/
theorem mapError_ofRead_eq_fault_iff {unreadable : FileProblem → ConfigFailure} :
    (readFile find path encoding).mapError (LoadFailure.ofRead unreadable) = .error (.fault f) ↔
      ReadFault find path encoding f := by
  rw [mapError_eq_error_iff, ← readFile_eq_fault_iff]
  constructor
  · rintro ⟨e, he, hf⟩
    cases e with
    | problem p => cases hf
    | fault f' =>
        cases hf
        exact he
  · exact fun h => ⟨_, h, rfl⟩

theorem readMapping_eq_fault_iff :
    readMapping find path encoding = .error (.fault f) ↔ MappingFault find path encoding f := by
  rw [readMapping, bind_eq_error_iff, mapError_ofRead_eq_fault_iff]
  constructor
  · rintro (h | ⟨text, htext, h⟩)
    · exact .reading h
    · exact .document (mapError_eq_ok_iff.1 htext) (loadMapping_eq_fault_iff.1 h)
  · rintro (h | ⟨htext, h⟩)
    · exact .inl h
    · exact .inr ⟨_, mapError_eq_ok_iff.2 htext, loadMapping_eq_fault_iff.2 h⟩

/-- What is done where a file stands fails as it does, or because the system does not tell. -/
theorem isFileAt_bind_eq_fault_iff {α : Type} {k : Bool → Load α} :
    (isFileAt find path >>= k) = .error (.fault f) ↔
      (∃ problem, (find path).isFile = .error problem ∧ f = .unreachable problem path) ∨
        ∃ isFile, (find path).isFile = .ok isFile ∧ k isFile = .error (.fault f) := by
  rw [bind_eq_error_iff, isFileAt, mapError_eq_error_iff]
  simp only [mapError_eq_ok_iff, LoadFailure.fault.injEq]
  exact or_congr_left (exists_congr fun _ => and_congr_right fun _ => eq_comm)

/-! ## Settings -/

namespace Settings

/-- How entries are no settings although the defaults among them are fine: the encoding or the level
has an integer with too many digits. -/
def EntriesFault (entries : List (Value × Loaded)) (f : Fault) : Prop :=
  (∃ defaults, defaultsOf entries = .ok defaults) ∧ f = .numberTooLong none ∧
    ∃ key ∈ ["encoding", "log_level"], ∃ d, Value.field? key entries = some d ∧
      ∃ n ∈ d.value.integers, ¬Value.IsWritable n

/-- How the settings of a file are not loaded. -/
inductive FileFault (find : String → FileState) (path : String) (f : Fault) : Prop
  | reading (h : MappingFault find path "utf-8" f)
  | entries {entries : List (Value × Loaded)}
      (hentries : readMapping find path "utf-8" = .ok entries) (h : EntriesFault entries f)

/-- How settings are not loaded, from the file that is named, or from the usual one, which has to be
looked for. -/
inductive LoadFault (find : String → FileState) : Option String → Fault → Prop
  | named {path : String} {f : Fault} (h : FileFault find path f) : LoadFault find (some path) f
  | unreachable {problem : FileProblem} (hfile : (find fileName).isFile = .error problem) :
      LoadFault find none (.unreachable problem fileName)
  | usual {f : Fault} (hfile : (find fileName).isFile = .ok true) (h : FileFault find fileName f) :
      LoadFault find none f

theorem textOr_eq_error_iff {usual key : String} {entries : List (Value × Loaded)}
    {e : LoadFailure} :
    textOr usual key entries = .error e ↔ e = .fault (.numberTooLong none) ∧
      ∃ d, Value.field? key entries = some d ∧ ∃ n ∈ d.value.integers, ¬Value.IsWritable n := by
  rw [textOr]
  cases hd : Value.field? key entries with
  | none => simp
  | some d =>
      show d.value.text.mapError LoadFailure.fault = _ ↔ _
      rw [mapError_eq_error_iff]
      simp only [Value.text_eq_error_iff, Option.some.injEq, exists_eq_left']
      constructor
      · rintro ⟨_, ⟨rfl, hlong⟩, rfl⟩
        exact ⟨rfl, hlong⟩
      · rintro ⟨rfl, hlong⟩
        exact ⟨_, ⟨rfl, hlong⟩, rfl⟩

theorem defaultsOf_ne_fault {entries : List (Value × Loaded)} :
    defaultsOf entries ≠ .error (.fault f) := by
  rw [defaultsOf]
  split
  · split
    · exact nofun
    · split
      · exact nofun
      · exact nofun
  · exact nofun

theorem ofEntries_eq_fault_iff {entries : List (Value × Loaded)} :
    ofEntries entries = .error (.fault f) ↔ EntriesFault entries f := by
  rw [ofEntries, bind_eq_error_iff, or_iff_right defaultsOf_ne_fault]
  constructor
  · rintro ⟨defaults, hdefaults, h⟩
    obtain h | ⟨encoding, -, h⟩ := bind_eq_error_iff.1 h
    · obtain ⟨hf, hlong⟩ := textOr_eq_error_iff.1 h
      cases hf
      exact ⟨⟨defaults, hdefaults⟩, rfl, "encoding", by simp, hlong⟩
    · obtain h | ⟨level, -, h⟩ := bind_eq_error_iff.1 h
      · obtain ⟨hf, hlong⟩ := textOr_eq_error_iff.1 h
        cases hf
        exact ⟨⟨defaults, hdefaults⟩, rfl, "log_level", by simp, hlong⟩
      · cases h
  · rintro ⟨⟨defaults, hdefaults⟩, rfl, key, hkey, hlong⟩
    refine ⟨defaults, hdefaults, bind_eq_error_iff.2 ?_⟩
    cases hencoding : textOr "utf-8" "encoding" entries with
    | error e =>
        -- whatever has no text has none for the same reason
        obtain ⟨rfl, -⟩ := textOr_eq_error_iff.1 hencoding
        exact .inl rfl
    | ok encoding =>
        refine .inr ⟨encoding, rfl, bind_eq_error_iff.2 (.inl ?_)⟩
        have hlevel : key = "log_level" := by
          obtain rfl | hkey := List.mem_cons.1 hkey
          · rw [textOr_eq_error_iff.2 ⟨rfl, hlong⟩] at hencoding
            cases hencoding
          · exact List.mem_singleton.1 hkey
        exact textOr_eq_error_iff.2 ⟨rfl, hlevel ▸ hlong⟩

theorem load_file_eq_fault_iff :
    (readMapping find path "utf-8" >>= ofEntries) = .error (.fault f) ↔ FileFault find path f := by
  rw [bind_eq_error_iff, readMapping_eq_fault_iff]
  constructor
  · rintro (h | ⟨entries, hentries, h⟩)
    · exact .reading h
    · exact .entries hentries (ofEntries_eq_fault_iff.1 h)
  · rintro (h | ⟨hentries, h⟩)
    · exact .inl h
    · exact .inr ⟨_, hentries, ofEntries_eq_fault_iff.2 h⟩

theorem load_eq_fault_iff {path : Option String} :
    load find path = .error (.fault f) ↔ LoadFault find path f := by
  cases path with
  | some path =>
      rw [load, load_file_eq_fault_iff]
      constructor
      · exact .named
      · rintro (h | _ | _)
        exact h
  | none =>
      rw [load, isFileAt_bind_eq_fault_iff]
      constructor
      · rintro (⟨problem, hfile, rfl⟩ | ⟨isFile, hfile, h⟩)
        · exact .unreachable hfile
        · cases isFile with
          | true => exact .usual hfile (load_file_eq_fault_iff.1 h)
          | false => cases h
      · rintro (_ | hfile | ⟨hfile, h⟩)
        · exact .inl ⟨_, hfile, rfl⟩
        · exact .inr ⟨true, hfile, load_file_eq_fault_iff.2 h⟩

end Settings

/-! ## Assignments -/

namespace Assignment

/-- How a text with a key and a value is no assignment: the value is a document that ends in a
fault. -/
def ParseFault (text : String) (f : Fault) : Prop :=
  ∃ key value, Text.cut ['='] text.toList = some (key, value) ∧ Text.strip key ≠ [] ∧
    Text.strip value ≠ [] ∧ Yaml.load (String.ofList value) = .error (.fault f)

theorem dataOf_eq_error_iff {text : String} {e : LoadFailure} :
    dataOf text = .error e ↔ Text.strip text.toList ≠ [] ∧
      ∃ f, e = .fault f ∧ Yaml.load text = .error (.fault f) := by
  rw [dataOf]
  cases hempty : (Text.strip text.toList).isEmpty with
  | true => simp [List.isEmpty_iff.1 hempty]
  | false =>
      rw [and_iff_right (List.isEmpty_eq_false_iff.1 hempty)]
      cases Yaml.load text with
      | ok v => simp
      | error e' => cases e' <;> simp [eq_comm]

theorem parse_eq_fault_iff {text : String} :
    parse text = .error (.fault f) ↔ ParseFault text f := by
  rw [parse]
  cases hcut : Text.cut ['='] text.toList with
  | none => simp [ParseFault, hcut]
  | some parts =>
      obtain ⟨key, value⟩ := parts
      -- the key is compared as a text, and the fault speaks of its characters
      have hkey : (String.ofList (Text.strip key)).isEmpty = true ↔ Text.strip key = [] := by
        rw [String.isEmpty_iff, String.ofList_eq_empty_iff]
      have hvalue : ParseFault text f ↔ Text.strip key ≠ [] ∧
          dataOf (String.ofList value) = .error (.fault f) := by
        rw [ParseFault, hcut, dataOf_eq_error_iff]
        simp
      rw [hvalue]
      dsimp only
      split
      · next h => exact iff_of_false nofun fun hne => hne.1 (hkey.1 h)
      · next h =>
          rw [and_iff_right fun hempty => h (hkey.2 hempty)]
          exact map_eq_error_iff

end Assignment

/-- Assignments are made in turn, so the first one that cannot be read is what fails. -/
theorem buildData_eq_map (defaults data : List (Value × Loaded)) (assignments : List String) :
    buildData defaults data assignments =
      (assignments.mapM Assignment.parse).map
        (·.foldl Assignment.apply (mergeData defaults data)) := by
  rw [buildData]
  -- For any entries to begin with, since each assignment changes them.
  generalize mergeData defaults data = entries
  induction assignments generalizing entries with
  | nil => rfl
  | cons text texts ih =>
      rw [List.foldlM_cons, List.mapM_cons]
      cases Assignment.parse text with
      | error e => rfl
      | ok a =>
          refine (ih (Assignment.apply entries a)).trans ?_
          cases texts.mapM Assignment.parse <;> rfl

theorem buildData_eq_fault_iff {defaults data : List (Value × Loaded)}
    {assignments : List String} :
    buildData defaults data assignments = .error (.fault f) ↔
      ∃ front text back, assignments = front ++ text :: back ∧
        (∀ other ∈ front, ∃ a, Assignment.parse other = .ok a) ∧ Assignment.ParseFault text f := by
  rw [buildData_eq_map, map_eq_error_iff, ← failsWith_eq, failsWith_mapM]
  simp only [failsWith_eq, Assignment.parse_eq_fault_iff]

end Curly
