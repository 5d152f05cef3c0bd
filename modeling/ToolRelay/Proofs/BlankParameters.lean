import ToolRelay.Proofs.Calls
import ToolRelay.Proofs.ParameterSources

/-!
# Arguments that are given as nothing

On the command line an argument may be given with nothing behind its equals sign, or with white
space alone. It is then there for people to see, and the call is that without it: an empty text does
not count as supplied, whatever the type of the parameter. `blank_argument_unnoticed` says so of the
whole command, and that a faulty invocation stays faulty in the same way.
-/

set_option autoImplicit false

namespace ToolRelay

/-! ## One more argument -/

/-- A list with one item more that does not fail comes to the same failure. -/
theorem mapM_insert_eq_error_iff {α β ε : Type} {f : α → Except ε β} {x : α} {y : β}
    (hx : f x = .ok y) (front back : List α) (e : ε) :
    (front ++ x :: back).mapM f = .error e ↔ (front ++ back).mapM f = .error e := by
  rw [List.mapM_append, List.mapM_append, List.mapM_cons, hx]
  -- a failure in front comes first, and one behind is that of the items behind
  cases front.mapM f with
  | error e' => rfl
  | ok ys => cases back.mapM f <;> simp [bind, Except.bind, pure, Except.pure]

namespace Argument

/-- Whether a text gives a key nothing but white space. -/
def GivesBlank (key text : String) : Prop :=
  ∃ name value, text.toList = name ++ '=' :: value ∧ '=' ∉ name ∧ Text.trim name = key.toList ∧
    key ≠ "" ∧ ∀ c ∈ value, Text.isBlank c = true

/-- A blank argument has its key and an empty value. -/
theorem pair_of_givesBlank {key text : String} (h : GivesBlank key text) :
    pair text = .ok (key, "") := by
  obtain ⟨name, value, htext, hname, hkey, hne, hblank⟩ := h
  have hvalue : Text.trim value = [] := by
    rw [Text.trim_eq_nil_iff, List.all_eq_true]
    exact hblank
  have hfull : key.toList ≠ [] := by simpa using hne
  rw [pair, htext, Text.cut_append hname]
  simp only [hkey, hvalue, if_neg hfull, String.ofList_toList, String.ofList_nil]

/-- A blank argument gives an empty text under its key and nothing under any other. -/
theorem given?_of_givesBlank {key text : String} (h : GivesBlank key text) (other : String) :
    given? other text = if key = other then some "" else none := by
  rw [given?, pair_of_givesBlank h]

/-- A blank argument causes no error and hides none. -/
theorem pairs_insert_eq_error_iff {key text : String} (h : GivesBlank key text)
    (front back : List String) (e : PairError) :
    pairs (front ++ text :: back) = .error e ↔ pairs (front ++ back) = .error e := by
  rw [pairs, pairs, map_eq_error_iff, map_eq_error_iff]
  exact mapM_insert_eq_error_iff (pair_of_givesBlank h) front back e

end Argument

/-! ## The same call -/

namespace Invocation

/-- The same invocation with other arguments on the command line. -/
def withParams (i : Invocation) (params : List String) : Invocation :=
  { i with params }

/-- A call depends on the texts that are not empty only. -/
theorem dispatch_prepared_congr (i : Invocation) (p : Profile) {provided provided' : Dict String}
    (h : ∀ key, provided'.given? key = provided.given? key) :
    Dispatch.prepare p.registry (i.prepared p.registry provided').name
        (i.prepared p.registry provided').arguments =
      Dispatch.prepare p.registry (i.prepared p.registry provided).name
        (i.prepared p.registry provided).arguments := by
  unfold prepared
  dsimp only
  cases hfind : p.registry.find? (Text.trimmed i.operation) with
  | none =>
    -- without an operation the arguments are not looked at
    have hlookup : p.registry.lookup (Text.trimmed i.operation) = none := by
      cases hlookup : p.registry.lookup (Text.trimmed i.operation) with
      | none => rfl
      | some spec => simp [Registry.find?, hlookup] at hfind
    simp only [Dispatch.prepare, hlookup]
  | some spec =>
    obtain ⟨op, hop, rfl, hlookup⟩ := Profile.exists_operation_of_find? hfind
    refine Dispatch.prepare_congr hlookup fun key hkey => ?_
    rw [← Signature.map_name_rules] at hkey
    obtain ⟨r, hr, rfl⟩ := List.mem_map.1 hkey
    rw [Coercion.get?_dropUnsupplied_arguments hop hr, Coercion.get?_dropUnsupplied_arguments hop hr,
      h r.name]

variable {i : Invocation} {fileAt : String → Option (List UInt8)} {key text : String}
variable {front back : List String}

/-- With a blank argument the same errors keep the arguments from being put together. -/
theorem provided_insert_eq_error_iff (h : Argument.GivesBlank key text)
    (hparams : i.params = front ++ back) (e : InvocationError) :
    (i.withParams (front ++ text :: back)).provided fileAt = .error e ↔
      i.provided fileAt = .error e := by
  have hpairs := Argument.pairs_insert_eq_error_iff h front back
  rw [← hparams] at hpairs
  unfold provided withParams
  dsimp only
  cases hlong : Argument.pairs (front ++ text :: back) with
  | error e' => rw [(hpairs e').1 hlong]
  | ok known' =>
    cases hshort : Argument.pairs i.params with
    | error e' =>
      rw [(hpairs e').2 hshort] at hlong
      cases hlong
    | ok known =>
      cases i.file with
      | none => simp
      | some path =>
        -- whether the file is refused is up to the file alone
        simp only [Argument.loadFile]
        cases Argument.fileArguments path (fileAt path) <;> simp [Except.map]

/-- With a blank argument the same arguments are given, as far as empty texts count for none. -/
theorem given?_provided_insert (h : Argument.GivesBlank key text)
    (hparams : i.params = front ++ back)
    (hunset : ∀ other ∈ i.params, Argument.given? key other = none)
    (hfile : (i.parameterFile? fileAt).bind (·.argument? key) = none)
    {all all' : Dict String} (hall : i.provided fileAt = .ok all)
    (hall' : (i.withParams (front ++ text :: back)).provided fileAt = .ok all') (name : String) :
    all'.given? name = all.given? name := by
  have hget := get?_provided hall name
  have hget' := get?_provided hall' name
  have hsame : (i.withParams (front ++ text :: back)).parameterFile? fileAt =
      i.parameterFile? fileAt := rfl
  rw [hsame] at hget'
  simp only [withParams, hparams, List.reverse_append, List.reverse_cons, List.findSome?_append,
    List.findSome?_singleton, Argument.given?_of_givesBlank h] at hget hget'
  rw [Dict.given?, Dict.given?, hget, hget']
  by_cases hname : key = name
  · subst hname
    -- the key has no text without the blank one, and that is dropped
    have hnone : ∀ l : List String, l ⊆ i.params → l.reverse.findSome? (Argument.given? key) = none := by
      intro l hl
      rw [List.findSome?_eq_none_iff]
      intro other hother
      exact hunset other (hl (List.mem_reverse.1 hother))
    rw [hnone front (by simp [hparams]), hnone back (by simp [hparams]), hfile]
    simp
  · rw [if_neg hname, Option.or_none]

/-- With a blank argument the same errors keep a call from being made ready. -/
theorem prepare_insert_eq_error_iff (h : Argument.GivesBlank key text)
    (hparams : i.params = front ++ back) (registry : Registry) (e : InvocationError) :
    (i.withParams (front ++ text :: back)).prepare registry fileAt = .error e ↔
      i.prepare registry fileAt = .error e := by
  rw [prepare, prepare, map_eq_error_iff, map_eq_error_iff]
  exact provided_insert_eq_error_iff h hparams e

/-- With the blank argument there is a call exactly when there is one without, and then it names the
same operation and comes to the same. -/
theorem exists_prepare_insert (h : Argument.GivesBlank key text) (hparams : i.params = front ++ back)
    (hunset : ∀ other ∈ i.params, Argument.given? key other = none)
    (hfile : (i.parameterFile? fileAt).bind (·.argument? key) = none) (p : Profile)
    {call : PreparedCall} (hcall : i.prepare p.registry fileAt = .ok call) :
    ∃ call', (i.withParams (front ++ text :: back)).prepare p.registry fileAt = .ok call' ∧
      call'.name = call.name ∧
      Dispatch.call p.registry call'.name (some call'.arguments) =
        Dispatch.call p.registry call.name (some call.arguments) := by
  obtain ⟨all, hall, rfl⟩ := map_eq_ok_iff.1 hcall
  cases hall' : (i.withParams (front ++ text :: back)).provided fileAt with
  | error e =>
    rw [(provided_insert_eq_error_iff h hparams e).1 hall'] at hall
    cases hall
  | ok all' =>
    refine ⟨i.prepared p.registry all', ?_, ?_, ?_⟩
    · rw [prepare, hall']
      rfl
    · unfold prepared
      dsimp only
      cases p.registry.find? (Text.trimmed i.operation) <;> rfl
    · have hsame := i.dispatch_prepared_congr p
        (given?_provided_insert h hparams hunset hfile hall hall')
      simp only [Dispatch.call, Option.getD_some, hsame]

end Invocation

/-- **A blank argument is none.** Let a text that gives a key nothing but white space be put among
the arguments on a command line of which neither another nor the file gives the key. Whether or not
an operation has the key, the command is prepared to the same error, or to a call of the same
operation that makes the same request and has the same answer, whatever lies outside. So it makes
the same requests and ends in the same error. -/
theorem blank_argument_unnoticed {i : Invocation} {front back : List String} {key text : String}
    {w : Surroundings} (h : Argument.GivesBlank key text) (hparams : i.params = front ++ back)
    (hunset : ∀ other ∈ i.params, Argument.given? key other = none)
    (hfile : (i.parameterFile? w.fileAt).bind (·.argument? key) = none) (p : Profile) :
    (∀ e, (i.withParams (front ++ text :: back)).prepare p.registry w.fileAt = .error e ↔
      i.prepare p.registry w.fileAt = .error e) ∧
    (∀ call, i.prepare p.registry w.fileAt = .ok call →
      ∃ call', (i.withParams (front ++ text :: back)).prepare p.registry w.fileAt = .ok call' ∧
        call'.name = call.name ∧
        Dispatch.call p.registry call'.name (some call'.arguments) =
          Dispatch.call p.registry call.name (some call.arguments)) ∧
    ∀ timeout elapsed json,
      (w.call timeout elapsed p (i.withParams (front ++ text :: back)) json).requests =
        (w.call timeout elapsed p i json).requests ∧
      (w.call timeout elapsed p (i.withParams (front ++ text :: back)) json).error =
        (w.call timeout elapsed p i json).error := by
  have herror : ∀ e, (i.withParams (front ++ text :: back)).prepare p.registry w.fileAt = .error e ↔
      i.prepare p.registry w.fileAt = .error e := by
    intro e
    exact Invocation.prepare_insert_eq_error_iff h hparams p.registry e
  have hcalls : ∀ call, i.prepare p.registry w.fileAt = .ok call →
      ∃ call', (i.withParams (front ++ text :: back)).prepare p.registry w.fileAt = .ok call' ∧
        call'.name = call.name ∧
        Dispatch.call p.registry call'.name (some call'.arguments) =
          Dispatch.call p.registry call.name (some call.arguments) := by
    intro call hcall
    exact Invocation.exists_prepare_insert h hparams hunset hfile p hcall
  refine ⟨herror, hcalls, ?_⟩
  intro timeout elapsed json
  cases hconfig : w.config timeout with
  | error e => simp [Surroundings.call, hconfig]
  | ok config =>
    cases hprepare : i.prepare p.registry w.fileAt with
    | error e =>
      rw [Surroundings.call_of_not_prepared hconfig hprepare,
        Surroundings.call_of_not_prepared hconfig ((herror e).2 hprepare)]
      exact ⟨rfl, rfl⟩
    | ok call =>
      obtain ⟨call', hprepare', hname, hsame⟩ := hcalls call hprepare
      rw [Surroundings.call_of_prepared hconfig hprepare,
        Surroundings.call_of_prepared hconfig hprepare', hsame]
      simp [Surroundings.report, hname]

/-- An invocation of a search for pictures. -/
def Invocation.pictures : Invocation :=
  ⟨"search_images", ["query=cats"], none⟩

/-- A search for pictures of which the count is given as white space is the search without it. -/
theorem blank_argument_unnoticed_pictures :
    Argument.GivesBlank "max_results" " max_results =\t " ∧
    (Surroundings.silent.call none 0 .searxng
        (Invocation.pictures.withParams ["query=cats", " max_results =\t "]) true).requests =
      [.search ⟨"/search", [("q", "cats"), ("format", "json"), ("categories", "images")]⟩] := by
  have hblank : Argument.GivesBlank "max_results" " max_results =\t " := by
    refine ⟨" max_results ".toList, "\t ".toList, rfl, by decide, rfl, by decide, ?_⟩
    simp [Text.isBlank]
  have hparams : Invocation.pictures.params = ["query=cats"] ++ [] := rfl
  have hunset : ∀ other ∈ Invocation.pictures.params,
      Argument.given? "max_results" other = none := by decide
  have hfile : (Invocation.pictures.parameterFile? Surroundings.silent.fileAt).bind
      (·.argument? "max_results") = none := rfl
  obtain ⟨-, -, hsame⟩ := blank_argument_unnoticed hblank hparams hunset hfile .searxng
  refine ⟨hblank, (hsame none 0 true).1.trans ?_⟩
  decide +kernel

end ToolRelay
