import ToolRelay.Proofs.Answers
import ToolRelay.Proofs.Invocations

/-!
# Where a parameter has its value from

Arguments are collected in one place, and a file is loaded into what is there already
(`ParameterFile.load`). It is read as a whole before anything is put in, so a file that is refused
leaves everything as it was, and one that is not adds what it has under new keys (`run_load`). Of
several files, the first one with a key counts (`get?_loadEach`). Of the arguments on a command line
it is the last one, and they come before the file (`Invocation.get?_provided`).
-/

set_option autoImplicit false

namespace ToolRelay

/-- A file of arguments. -/
structure ParameterFile where
  path : String
  /-- What the file holds, if it can be read. -/
  octets : Option (List UInt8)

namespace ParameterFile

open Argument

/-! ## What a file says -/

/-- The text of the file, if it can be read and is UTF-8. -/
def text? (f : ParameterFile) : Option String :=
  (f.octets.bind Text.Utf8.decode?).map String.ofList

/-- Whether the file says a value, in YAML if its name says so and in JSON otherwise. -/
inductive Says (f : ParameterFile) (v : Json) : Prop
  | yaml (text : String) (y : Yaml.Value) (read : f.text? = some text)
      (named : isYamlPath f.path = true) (parsed : Yaml.ofText? text = some y)
      (converted : y.toJson? = some v)
  | json (text : String) (read : f.text? = some text) (named : isYamlPath f.path = false)
      (parsed : Json.ofText? text = some v)

/-- The reason for which the file is refused. -/
inductive Refused (f : ParameterFile) : FileError → Prop
  | unreadable (unread : f.text? = none) : Refused f (.unreadable f.path)
  | malformedYaml (text : String) (read : f.text? = some text) (named : isYamlPath f.path = true)
      (unparsed : Yaml.ofText? text = none) : Refused f .malformedYaml
  | unconvertible (text : String) (y : Yaml.Value) (read : f.text? = some text)
      (named : isYamlPath f.path = true) (parsed : Yaml.ofText? text = some y)
      (unconverted : y.toJson? = none) : Refused f .unconvertible
  | malformedJson (text : String) (read : f.text? = some text) (named : isYamlPath f.path = false)
      (unparsed : Json.ofText? text = none) : Refused f .malformedJson
  | notObject (v : Json) (value : f.Says v) (other : ∀ members, v ≠ .obj members) :
      Refused f .notObject

variable {f : ParameterFile}

/-- The arguments of a file are the members of the object that its text is read as. -/
theorem fileArguments_eq (f : ParameterFile) :
    fileArguments f.path f.octets = match f.text? with
      | none => .error (.unreadable f.path)
      | some text => match fileValue f.path text with
        | .error e => .error e
        | .ok (.obj members) => .ok ((Dict.ofList members).map fun _ v => fileText v)
        | .ok _ => .error .notObject := by
  unfold fileArguments text?
  cases f.octets.bind Text.Utf8.decode? <;> rfl

/-- A file says a value exactly if its text is read as it. -/
theorem says_iff {v : Json} :
    f.Says v ↔ ∃ text, f.text? = some text ∧ fileValue f.path text = .ok v := by
  constructor
  · intro h
    cases h with
    | yaml text y read named parsed converted =>
      exact ⟨text, read, by simp [fileValue, named, parsed, converted]⟩
    | json text read named parsed =>
      exact ⟨text, read, by simp [fileValue, named, parsed]⟩
  · rintro ⟨text, read, h⟩
    unfold fileValue at h
    split at h
    · next named =>
      split at h
      · cases h
      · next y parsed =>
        split at h
        · next w converted =>
          cases h
          exact .yaml text y read named parsed converted
        · cases h
    · next named =>
      split at h
      · next w parsed =>
        cases h
        exact .json text read (by simpa using named) parsed
      · cases h

/-- A file with a text that cannot be read is refused for that. -/
theorem refused_of_fileValue {text : String} {e : FileError} (read : f.text? = some text)
    (h : fileValue f.path text = .error e) : f.Refused e := by
  unfold fileValue at h
  split at h
  · next named =>
    split at h
    · next unparsed =>
      cases h
      exact .malformedYaml text read named unparsed
    · next y parsed =>
      split at h
      · cases h
      · next unconverted =>
        cases h
        exact .unconvertible text y read named parsed unconverted
  · next named =>
    split at h
    · cases h
    · next unparsed =>
      cases h
      exact .malformedJson text read (by simpa using named) unparsed

/-- A file gives no arguments exactly if it is refused, for that reason. -/
theorem fileArguments_eq_error_iff {e : FileError} :
    fileArguments f.path f.octets = .error e ↔ f.Refused e := by
  rw [fileArguments_eq]
  constructor
  · intro h
    split at h
    · next unread =>
      cases h
      exact .unreadable unread
    · next text read =>
      split at h
      · next e' hvalue =>
        cases h
        exact refused_of_fileValue read hvalue
      · cases h
      · next v hother hvalue =>
        cases h
        exact .notObject v (says_iff.2 ⟨text, read, hvalue⟩) hother
  · intro h
    cases h with
    | unreadable unread => rw [unread]
    | malformedYaml text read named unparsed => simp [read, fileValue, named, unparsed]
    | unconvertible text y read named parsed unconverted =>
      simp [read, fileValue, named, parsed, unconverted]
    | malformedJson text read named unparsed => simp [read, fileValue, named, unparsed]
    | notObject v value other =>
      obtain ⟨text, read, hvalue⟩ := says_iff.1 value
      rw [read]
      cases v with
      | obj members => exact absurd rfl (other members)
      | _ => simp [hvalue]

/-- A file gives the members of the object that it says, as texts. -/
theorem fileArguments_eq_ok_iff {held : Dict String} :
    fileArguments f.path f.octets = .ok held ↔ ∃ members, f.Says (.obj members) ∧
      held = (Dict.ofList members).map fun _ v => fileText v := by
  rw [fileArguments_eq]
  constructor
  · intro h
    split at h
    · cases h
    · next text read =>
      split at h
      · cases h
      · next members hvalue =>
        cases h
        exact ⟨members, says_iff.2 ⟨text, read, hvalue⟩, rfl⟩
      · cases h
  · rintro ⟨members, hsays, rfl⟩
    obtain ⟨text, read, hvalue⟩ := says_iff.1 hsays
    rw [read]
    simp only [hvalue]

/-- A file says an object exactly if it holds one. -/
theorem exists_says_object_iff :
    (∃ members, f.Says (.obj members)) ↔ HoldsObject f.path f.octets := by
  simp only [says_iff, HoldsObject, text?, Option.map_eq_some_iff]
  constructor
  · rintro ⟨members, _, ⟨l, hl, rfl⟩, hvalue⟩
    exact ⟨l, members, hl, hvalue⟩
  · rintro ⟨l, members, hl, hvalue⟩
    exact ⟨members, _, ⟨l, hl, rfl⟩, hvalue⟩

/-- The text that a file has for a key; one that is refused has none. -/
def argument? (key : String) (f : ParameterFile) : Option String :=
  match fileArguments f.path f.octets with
  | .ok held => held.get? key
  | .error _ => none

/-- An argument of a file is the text of a member of what it says. -/
theorem argument?_eq_some_iff {key raw : String} :
    f.argument? key = some raw ↔ ∃ members v, f.Says (.obj members) ∧
      (Dict.ofList members).get? key = some v ∧ fileText v = raw := by
  have hheld : f.argument? key = some raw ↔
      ∃ held, fileArguments f.path f.octets = .ok held ∧ held.get? key = some raw := by
    unfold argument?
    cases fileArguments f.path f.octets <;> simp
  simp only [hheld, fileArguments_eq_ok_iff]
  constructor
  · rintro ⟨held, ⟨members, hsays, rfl⟩, hraw⟩
    rw [Dict.get?_map, Option.map_eq_some_iff] at hraw
    obtain ⟨v, hv, hraw⟩ := hraw
    exact ⟨members, v, hsays, hv, hraw⟩
  · rintro ⟨members, v, hsays, hv, rfl⟩
    exact ⟨_, ⟨members, hsays, rfl⟩, by rw [Dict.get?_map, hv, Option.map_some]⟩

/-! ## Loading -/

/-- Puts the arguments of the file among those that are there, where a key in use keeps its value. -/
def load (f : ParameterFile) : EStateM FileError (Dict String) Unit :=
  match f.text? with
  | none => throw (.unreadable f.path)
  | some text => match fileValue f.path text with
    | .error e => throw e
    | .ok (.obj members) =>
      (Dict.ofList members).entries.forM fun (key, v) =>
        modify fun known => known.insertNew key (fileText v)
    | .ok _ => throw .notObject

/-- Putting entries in one after the other never fails. -/
theorem run_forM_insertNew (l : List (String × Json)) (known : Dict String) :
    (l.forM fun (key, v) => modify fun d : Dict String => d.insertNew key (fileText v) :
      EStateM FileError (Dict String) Unit).run known =
      .ok () (l.foldl (fun d (key, v) => d.insertNew key (fileText v)) known) := by
  induction l generalizing known with
  | nil => rfl
  | cons e r ih => exact ih (known.insertNew e.1 (fileText e.2))

/-- Loading in place gives what `loadFile` gives, and changes nothing where that gives nothing. -/
theorem run_load (f : ParameterFile) (known : Dict String) :
    f.load.run known = match loadFile known f.path f.octets with
      | .ok all => .ok () all
      | .error e => .error e known := by
  rw [load, loadFile, fileArguments_eq]
  cases f.text? with
  | none => rfl
  | some text =>
    dsimp only
    cases fileValue f.path text with
    | error e => rfl
    | ok v =>
      cases v with
      | obj members =>
        -- all errors are behind, and the loop only puts entries in
        dsimp only [Except.map]
        rw [run_forM_insertNew, withFile, Dict.map, List.foldl_map]
      | _ => rfl

/-- Loading fails exactly for a file that is refused, and has changed nothing by then. -/
theorem run_load_eq_error_iff {known all : Dict String} {e : FileError} :
    f.load.run known = .error e all ↔ f.Refused e ∧ all = known := by
  rw [run_load, loadFile, ← fileArguments_eq_error_iff]
  cases fileArguments f.path f.octets with
  | error e' => simp [Except.map, eq_comm]
  | ok held => simp [Except.map]

/-- Loading puts the members of an object among what is there, and what is there comes first. -/
theorem run_load_eq_ok_iff {known all : Dict String} :
    f.load.run known = .ok () all ↔ ∃ members, f.Says (.obj members) ∧
      ∀ key, all.get? key =
        (known.get? key).or (((Dict.ofList members).get? key).map fileText) := by
  have hrun : f.load.run known = .ok () all ↔
      ∃ held, fileArguments f.path f.octets = .ok held ∧ all = withFile known held := by
    rw [run_load, loadFile]
    cases fileArguments f.path f.octets <;> simp [Except.map, eq_comm]
  have hunion : ∀ members, all = withFile known ((Dict.ofList members).map fun _ v => fileText v) ↔
      ∀ key, all.get? key =
        (known.get? key).or (((Dict.ofList members).get? key).map fileText) := by
    intro members
    have hget : ∀ key, (withFile known ((Dict.ofList members).map fun _ v => fileText v)).get? key =
        (known.get? key).or (((Dict.ofList members).get? key).map fileText) := by
      intro key
      rw [get?_withFile, Dict.get?_map]
    constructor
    · rintro rfl
      exact hget
    · intro h
      exact Dict.ext_get? fun key => (h key).trans (hget key).symm
  simp only [hrun, fileArguments_eq_ok_iff]
  constructor
  · rintro ⟨held, ⟨members, hsays, rfl⟩, hall⟩
    exact ⟨members, hsays, (hunion members).1 hall⟩
  · rintro ⟨members, hsays, hall⟩
    exact ⟨_, ⟨members, hsays, rfl⟩, (hunion members).2 hall⟩

/-- Loads a file if it is not refused, and tells the reason if it is. -/
def attempt (f : ParameterFile) : StateM (Dict String) (Option FileError) := fun known =>
  match f.load.run known with
  | .ok () all => (none, all)
  | .error e all => (some e, all)

/-- Loads files one after the other, whatever comes of each. -/
def loadEach (files : List ParameterFile) : StateM (Dict String) (List (Option FileError)) :=
  files.mapM attempt

/-- After an attempt there is what was there before, and what the file has. -/
theorem get?_attempt (f : ParameterFile) (known : Dict String) (key : String) :
    (f.attempt.run known).2.get? key = (known.get? key).or (f.argument? key) := by
  unfold attempt argument?
  rw [StateT.run, run_load, loadFile]
  cases fileArguments f.path f.octets with
  | error e => simp [Except.map]
  | ok held => exact get?_withFile known held key

/-- An attempt fails for the reason that the file is refused for. -/
theorem attempt_eq_some_iff {known : Dict String} {e : FileError} :
    (f.attempt.run known).1 = some e ↔ f.Refused e := by
  rw [← fileArguments_eq_error_iff, StateT.run, attempt, run_load, loadFile]
  cases fileArguments f.path f.octets <;> simp [Except.map]

/-- Files are loaded one after the other. -/
theorem run_loadEach_cons (f : ParameterFile) (files : List ParameterFile) (start : Dict String) :
    (loadEach (f :: files)).run start =
      ((f.attempt.run start).1 :: ((loadEach files).run (f.attempt.run start).2).1,
        ((loadEach files).run (f.attempt.run start).2).2) := by
  rw [loadEach, List.mapM_cons]
  rfl

/-- What is there at first comes before the files, and of these an earlier one before a later. -/
theorem get?_loadEach (files : List ParameterFile) (start : Dict String) (key : String) :
    ((loadEach files).run start).2.get? key =
      (start.get? key).or (files.findSome? (argument? key)) := by
  induction files generalizing start with
  | nil =>
    rw [List.findSome?_nil, Option.or_none]
    rfl
  | cons f files ih =>
    -- what the first file has counts for the others as there already
    rw [run_loadEach_cons, ih, get?_attempt, Option.or_assoc, List.findSome?_cons]
    cases f.argument? key <;> rfl

/-- Each file is refused for its own reason, whatever came before. -/
theorem forall₂_loadEach (files : List ParameterFile) (start : Dict String) :
    List.Forall₂ (fun f refusal => ∀ e, refusal = some e ↔ Refused f e) files
      ((loadEach files).run start).1 := by
  induction files generalizing start with
  | nil => exact .nil
  | cons f files ih =>
    rw [run_loadEach_cons]
    exact .cons (fun e => attempt_eq_some_iff) (ih _)

end ParameterFile

/-! ## The command line -/

namespace Argument

/-- The value of an argument if it is one for the key. -/
def given? (key text : String) : Option String :=
  match pair text with
  | .ok (k, v) => if k = key then some v else none
  | .error _ => none

/-- Of arguments given one after the other the last one of a key counts. -/
theorem find?_reverse_of_mapM {given : List String} {l : List (String × String)}
    (h : given.mapM pair = .ok l) (key : String) :
    Dict.find? key l.reverse = given.reverse.findSome? (given? key) := by
  induction given generalizing l with
  | nil =>
    cases h
    rfl
  | cons text given ih =>
    rw [List.mapM_cons] at h
    cases hpair : pair text with
    | error e =>
      rw [hpair] at h
      cases h
    | ok entry =>
      cases hrest : given.mapM pair with
      | error e =>
        rw [hpair, hrest] at h
        cases h
      | ok rest =>
        rw [hpair, hrest] at h
        cases h
        obtain ⟨k, v⟩ := entry
        -- turned around, the first argument is the last one to be asked
        have hlast : given? key text = Dict.find? key [(k, v)] := by
          simp only [given?, hpair, Dict.find?]
        rw [List.reverse_cons, List.reverse_cons, Dict.find?_append, List.findSome?_append, ih hrest,
          List.findSome?_singleton, hlast]

/-- What is known under a key is what was given for it last. -/
theorem get?_of_pairs {given : List String} {known : Dict String} (h : pairs given = .ok known)
    (key : String) : known.get? key = given.reverse.findSome? (given? key) := by
  obtain ⟨l, hmap, rfl⟩ := map_eq_ok_iff.1 h
  rw [Dict.get?_ofList_reverse, find?_reverse_of_mapM hmap]

end Argument

namespace Invocation

/-- The file of an invocation with what is read under its path, if it names one. -/
def parameterFile? (i : Invocation) (fileAt : String → Option (List UInt8)) :
    Option ParameterFile :=
  i.file.map fun path => ⟨path, fileAt path⟩

/-- What a text for a key comes to: a value of the type of the parameter, or the text itself where no
operation has the name. -/
def reading (i : Invocation) (registry : Registry) (key raw : String) : Json :=
  match registry.find? (Text.trimmed i.operation) with
  | some s => Coercion.coerce raw (Coercion.typeOf s key)
  | none => .str raw

/-- An argument is the last one given, or else the one of the file. -/
theorem get?_provided {i : Invocation} {fileAt : String → Option (List UInt8)} {all : Dict String}
    (h : i.provided fileAt = .ok all) (key : String) :
    all.get? key = (i.params.reverse.findSome? (Argument.given? key)).or
      ((i.parameterFile? fileAt).bind (·.argument? key)) := by
  unfold provided at h
  cases hpairs : Argument.pairs i.params with
  | error e =>
    rw [hpairs] at h
    cases h
  | ok known =>
    rw [hpairs] at h
    rw [parameterFile?, ← Argument.get?_of_pairs hpairs]
    cases hfile : i.file with
    | none =>
      rw [hfile] at h
      cases h
      rw [Option.map_none, Option.bind_none, Option.or_none]
    | some path =>
      rw [hfile] at h
      dsimp only at h
      cases hload : Argument.loadFile known path (fileAt path) with
      | error e =>
        rw [hload] at h
        cases h
      | ok merged =>
        rw [hload] at h
        cases h
        obtain ⟨held, hheld, rfl⟩ := map_eq_ok_iff.1 hload
        rw [Option.map_some, Option.bind_some, ParameterFile.argument?, hheld]
        exact Argument.get?_withFile known held key

/-- A prepared argument is read from its text. -/
theorem get?_prepared (i : Invocation) (registry : Registry) (provided : Dict String)
    (key : String) :
    (i.prepared registry provided).arguments.get? key =
      (provided.get? key).map (i.reading registry key) := by
  unfold prepared reading
  dsimp only
  cases registry.find? (Text.trimmed i.operation) <;> exact Dict.get?_map provided _ key

/-- A call can be made ready exactly if no argument is malformed and the file, if there is one, says
an object. -/
theorem exists_prepare_eq_ok_iff (i : Invocation) (registry : Registry)
    (fileAt : String → Option (List UInt8)) :
    (∃ call, i.prepare registry fileAt = .ok call) ↔
      (∀ text ∈ i.params, ¬Argument.Malformed text) ∧
        ∀ f, i.parameterFile? fileAt = some f → ∃ members, f.Says (.obj members) := by
  have hfile : (∀ f, i.parameterFile? fileAt = some f → ∃ members, f.Says (.obj members)) ↔
      ∀ path, i.file = some path → Argument.HoldsObject path (fileAt path) := by
    simp only [ParameterFile.exists_says_object_iff, parameterFile?, Option.map_eq_some_iff,
      forall_exists_index, and_imp, forall_apply_eq_imp_iff₂]
  have herror := i.exists_provided_eq_error_iff fileAt
  rw [hfile, prepare]
  cases hprovided : i.provided fileAt with
  | error e =>
    have hbad := herror.1 ⟨e, hprovided⟩
    simp only [Except.map, reduceCtorEq, exists_false, false_iff]
    rintro ⟨hparams, hnamed⟩
    rcases hbad with ⟨text, hgiven, hmalformed⟩ | ⟨path, hpath, hunusable⟩
    · exact hparams text hgiven hmalformed
    · exact hunusable (hnamed path hpath)
  | ok all =>
    have hgood : ¬∃ e, i.provided fileAt = .error e := by
      rw [hprovided]
      simp
    rw [herror, not_or] at hgood
    simp only [Except.map, Except.ok.injEq, exists_eq', true_iff]
    refine ⟨fun text hgiven hmalformed => hgood.1 ⟨text, hgiven, hmalformed⟩, ?_⟩
    intro path hpath
    exact Classical.byContradiction fun hunusable => hgood.2 ⟨path, hpath, hunusable⟩

/-- A prepared argument is read from the last text given for it, or else from that of the file. -/
theorem get?_of_prepare {i : Invocation} {registry : Registry}
    {fileAt : String → Option (List UInt8)} {call : PreparedCall}
    (h : i.prepare registry fileAt = .ok call) (key : String) :
    call.arguments.get? key = ((i.params.reverse.findSome? (Argument.given? key)).or
      ((i.parameterFile? fileAt).bind (·.argument? key))).map (i.reading registry key) := by
  obtain ⟨all, hprovided, rfl⟩ := map_eq_ok_iff.1 h
  rw [get?_prepared, get?_provided hprovided]

end Invocation

/-- **Which source of a parameter counts.** A file that is refused leaves what is there as it was. One
that is not says an object, and adds the texts of its members under the keys that are not in use.
After any number of files, a key has what it had at first, or else what the first file with it says.
An invocation has arguments if none of those on the command line is malformed and the file says an
object. Then a key has the last value on the command line, or else the one of the file. -/
theorem parameter_precedence :
    (∀ (f : ParameterFile) (known all : Dict String),
      (∀ e, f.load.run known = .error e all ↔ f.Refused e ∧ all = known) ∧
      (f.load.run known = .ok () all ↔ ∃ members, f.Says (.obj members) ∧ ∀ key, all.get? key =
        (known.get? key).or (((Dict.ofList members).get? key).map Argument.fileText))) ∧
    (∀ (f : ParameterFile) (key raw : String), f.argument? key = some raw ↔
      ∃ members v, f.Says (.obj members) ∧ (Dict.ofList members).get? key = some v ∧
        Argument.fileText v = raw) ∧
    (∀ (files : List ParameterFile) (start : Dict String),
      List.Forall₂ (fun f refusal => ∀ e, refusal = some e ↔ ParameterFile.Refused f e) files
        ((ParameterFile.loadEach files).run start).1 ∧
      ∀ key, ((ParameterFile.loadEach files).run start).2.get? key =
        (start.get? key).or (files.findSome? (ParameterFile.argument? key))) ∧
    ∀ (i : Invocation) (registry : Registry) (fileAt : String → Option (List UInt8)),
      ((∃ call, i.prepare registry fileAt = .ok call) ↔
        (∀ text ∈ i.params, ¬Argument.Malformed text) ∧
          ∀ f, i.parameterFile? fileAt = some f → ∃ members, f.Says (.obj members)) ∧
      ∀ call, i.prepare registry fileAt = .ok call → ∀ key, call.arguments.get? key =
        ((i.params.reverse.findSome? (Argument.given? key)).or
          ((i.parameterFile? fileAt).bind (·.argument? key))).map (i.reading registry key) := by
  refine ⟨?_, ?_, ?_, ?_⟩
  · intro f known all
    exact ⟨fun e => ParameterFile.run_load_eq_error_iff, ParameterFile.run_load_eq_ok_iff⟩
  · intro f key raw
    exact ParameterFile.argument?_eq_some_iff
  · intro files start
    exact ⟨ParameterFile.forall₂_loadEach files start, ParameterFile.get?_loadEach files start⟩
  · intro i registry fileAt
    exact ⟨i.exists_prepare_eq_ok_iff registry fileAt, fun call => Invocation.get?_of_prepare⟩

/-- The file with a text. -/
def ParameterFile.ofText (path text : String) : ParameterFile :=
  ⟨path, some text.toUTF8.toList⟩

/-- Five files of which the second-last and the first two are refused. -/
def ParameterFile.mixed : List ParameterFile :=
  [⟨"n.json", none⟩, .ofText "l.json" "[1]", .ofText "p.YML" "a: 1\nb: [x, 2]\n",
    .ofText "m.json" "\x7b\"a\":2,\"c\"\x7d", .ofText "q.json" "\x7b\"b\":3,\"c\":4\x7d"]

/-- An invocation with the same argument twice and in a file. -/
def Invocation.twice : Invocation :=
  ⟨"SEARCH_CODE", ["query=a", " query = b"], some "p.json"⟩

/-- The file of that invocation. -/
def Invocation.twiceFile (_ : String) : Option (List UInt8) :=
  some "\x7b\"query\":\"c\",\"max_results\":\"3\"\x7d".toUTF8.toList

/-- Two files are loaded although others are refused before and between them, the first one in YAML.
Of an argument that is given twice and in a file, the last value on the command line counts. -/
theorem parameter_precedence_search :
    ["a", "b", "c"].map ((ParameterFile.loadEach ParameterFile.mixed).run (.ofList [("a", "0")])).2.get? =
        [some "0", some "x,2", some "4"] ∧
      ∃ call, Invocation.twice.prepare Profile.searxng.registry Invocation.twiceFile = .ok call ∧
        call.arguments.get? "query" = some (.str "b") ∧
        call.arguments.get? "max_results" = some (.int 3) := by
  obtain ⟨-, -, hfiles, hcall⟩ := parameter_precedence
  have hready : (Invocation.twice.prepare Profile.searxng.registry
      Invocation.twiceFile).toOption.isSome = true := by decide +kernel
  constructor
  · simp only [List.map_cons, List.map_nil, (hfiles _ _).2]
    decide +kernel
  · cases hprepare : Invocation.twice.prepare Profile.searxng.registry Invocation.twiceFile with
    | error e =>
      rw [hprepare] at hready
      cases hready
    | ok call =>
      have hget := (hcall _ _ _).2 call hprepare
      have hquery : (Invocation.twice.params.reverse.findSome? (Argument.given? "query")).or
          ((Invocation.twice.parameterFile? Invocation.twiceFile).bind (·.argument? "query")) =
            some "b" := by decide +kernel
      have hmax : (Invocation.twice.params.reverse.findSome? (Argument.given? "max_results")).or
          ((Invocation.twice.parameterFile? Invocation.twiceFile).bind
            (·.argument? "max_results")) = some "3" := by decide +kernel
      refine ⟨call, rfl, ?_, ?_⟩
      · rw [hget, hquery]
        cbv
      · rw [hget, hmax]
        cbv

end ToolRelay
