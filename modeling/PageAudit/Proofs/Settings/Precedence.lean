import Mathlib
import PageAudit.Settings.Resolve

/-!
# Which source settles a key

The four keys of the settings are settled one by one: by the caller, else by the environment, else
by the file, else by a default (`Sources.Wins`, `Sources.Settles`). What is asked of the sources on
the way is a list of stages, and the first stage that fails is what is complained about
(`Sources.Decided`). Each step of the merge is decided by its own stages, and `Decided.bind` puts
the steps together. `settings_merge_by_key` is the main result.
-/

namespace PageAudit.Settings

/-! ## Keys -/

/-- One of the four things that settings tell. -/
inductive Key where
  | snapshot
  | trace
  | debug
  | failFast
  deriving DecidableEq, Repr

namespace Key

/-- What a source tells under a key. -/
abbrev Value : Key → Type
  | snapshot | trace => Text
  | debug | failFast => Bool

/-- What a plan has under a key. -/
abbrev Outcome : Key → Type
  | snapshot | trace => Path
  | debug | failFast => Bool

/-- The member of a settings file that tells a key. -/
def memberName : Key → Text
  | snapshot => "smaps_file"
  | trace => "trace_file"
  | debug => "debug"
  | failFast => "fail_fast"

/-- The variable that tells a key. -/
def variableName : Key → Text
  | snapshot => "PAGECHECK_SMAPS_FILE"
  | trace => "PAGECHECK_TRACE_FILE"
  | debug => "PAGECHECK_DEBUG"
  | failFast => "PAGECHECK_FAIL_FAST"

/-- A value as JSON: of the right type for its key. -/
def toJson : (k : Key) → k.Value → Json
  | snapshot, text | trace, text => .string text
  | debug, b | failFast, b => .bool b

/-- The switch that a word tells, in any case and between blanks. -/
def switchWord? (text : Text) : Option Bool :=
  let word := Text.toLower (Text.strip text)
  if word ∈ onWords then some true else if word ∈ offWords then some false else none

/-- What the value of a variable tells under a key. -/
def ofVariable? : (k : Key) → Text → Option k.Value
  | snapshot, text | trace, text => some text
  | debug, text | failFast, text => switchWord? text

/-- What a told value makes of a plan. No file is named by the empty text. -/
def outcome? : (k : Key) → k.Value → Option k.Outcome
  | snapshot, text | trace, text => if text = [] then none else some (Path.ofText text)
  | debug, b | failFast, b => some b

/-- What a plan has where no source tells the key: the switches only. -/
def default? : (k : Key) → Option k.Outcome
  | snapshot | trace => none
  | debug => some false
  | failFast => some true

/-- What is said of a member of the wrong type. -/
def mistyped (k : Key) : Complaint :=
  match k with
  | snapshot | trace => .notString k.memberName
  | debug | failFast => .notBool k.memberName

/-- What is said where a key cannot be settled. -/
def missing? : Key → Option Complaint
  | snapshot => some (.missing "smaps file" "--smaps")
  | trace => some (.missing "trace file" "--trace")
  | debug | failFast => none

/-- Different values of a key are written differently. -/
lemma toJson_injective {k : Key} {v v' : k.Value} (same : k.toJson v = k.toJson v') : v = v' := by
  cases k <;> exact (by injection same)

end Key

/-- What settings tell under a key. -/
def get (s : Settings) : (k : Key) → Option k.Value
  | .snapshot => s.snapshot
  | .trace => s.trace
  | .debug => s.debug
  | .failFast => s.failFast

/-- Each key is overridden by itself. -/
lemma get_overriding (upper lower : Settings) (k : Key) :
    (upper.overriding lower).get k = (upper.get k).or (lower.get k) := by
  cases k <;> rfl

/-- What a plan has under a key. -/
def planned (plan : Audit.Plan) : (k : Key) → k.Outcome
  | .snapshot => plan.snapshot
  | .trace => plan.trace
  | .debug => plan.debug
  | .failFast => plan.failFast

/-! ## Sources -/

/-- What a plan is made from: the path and the content of the settings file, if there is one, the
environment, and what the caller tells. -/
structure Sources where
  file : Option (Path × Json)
  environment : Environment
  explicit : Settings

namespace Sources

/-- The member of the settings file that tells a key. -/
def member? (s : Sources) (k : Key) : Option Json :=
  s.file.bind fun (_, j) => j.member? k.memberName

/-- The settings file, if there is one, is read as the JSON of these sources. -/
structure Holds (s : Sources) (read : FileReader) (room : Nat) (file : Option Path) : Prop where
  named : file = s.file.map Prod.fst
  reads : ∀ path j, s.file = some (path, j) →
    ∃ bytes, read path = .ok bytes ∧ readJson room bytes = .ok j

/-- The value that wins under a key: that of the caller, else that of a variable that is set and not
empty, else that of the file. -/
inductive Wins (s : Sources) (k : Key) : k.Value → Prop
  | explicit {v : k.Value} (given : s.explicit.get k = some v) : Wins s k v
  | environment {v : k.Value} {text : Text} (ungiven : s.explicit.get k = none)
    (set : s.environment.lookup k.variableName = some text) (nonempty : text ≠ [])
    (told : k.ofVariable? text = some v) : Wins s k v
  | file {v : k.Value} (ungiven : s.explicit.get k = none)
    (unset : ∀ text, s.environment.lookup k.variableName = some text → text = [])
    (present : s.member? k = some (k.toJson v)) : Wins s k v

/-- How a key is settled: by the value that wins or, if no source tells it, by its default. -/
inductive Settles (s : Sources) (k : Key) : k.Outcome → Prop
  | told {v : k.Value} {o : k.Outcome} (wins : s.Wins k v) (makes : k.outcome? v = some o) :
    Settles s k o
  | default {o : k.Outcome} (untold : ∀ v, ¬s.Wins k v) (falls : k.default? = some o) :
    Settles s k o

/-- Two choices of sources tell a key alike. -/
structure AgreeAt (s s' : Sources) (k : Key) : Prop where
  explicit : s'.explicit.get k = s.explicit.get k
  environment : s'.environment.lookup k.variableName = s.environment.lookup k.variableName
  member : s'.member? k = s.member? k

section settled

variable {s s' : Sources} {k : Key} {v v' : k.Value} {o o' : k.Outcome}

/-- Only one value wins. -/
lemma Wins.unique (wins : s.Wins k v) (wins' : s.Wins k v') : v = v' := by
  cases wins with
  | explicit given =>
    cases wins' with
    | explicit given' => exact Option.some.inj (given.symm.trans given')
    | environment ungiven => cases given.symm.trans ungiven
    | file ungiven => cases given.symm.trans ungiven
  | environment ungiven set nonempty told =>
    cases wins' with
    | explicit given => cases given.symm.trans ungiven
    | environment _ set' _ told' =>
      cases set.symm.trans set'
      exact Option.some.inj (told.symm.trans told')
    | file _ unset => exact absurd (unset _ set) nonempty
  | file ungiven unset present =>
    cases wins' with
    | explicit given => cases given.symm.trans ungiven
    | environment _ set nonempty => exact absurd (unset _ set) nonempty
    | file _ _ present' =>
      exact Key.toJson_injective (Option.some.inj (present.symm.trans present'))

/-- Only one outcome is settled. -/
lemma Settles.unique (settles : s.Settles k o) (settles' : s.Settles k o') : o = o' := by
  cases settles with
  | told wins makes =>
    cases settles' with
    | told wins' makes' =>
      cases wins.unique wins'
      exact Option.some.inj (makes.symm.trans makes')
    | default untold => exact absurd wins (untold _)
  | default untold falls =>
    cases settles' with
    | told wins => exact absurd wins (untold _)
    | default _ falls' => exact Option.some.inj (falls.symm.trans falls')

/-- Sources agree at a key with each other. -/
lemma AgreeAt.symm (agree : AgreeAt s s' k) : AgreeAt s' s k :=
  ⟨agree.explicit.symm, agree.environment.symm, agree.member.symm⟩

/-- A value wins by what the sources tell of its own key. -/
lemma Wins.of_agreeAt (wins : s.Wins k v) (agree : AgreeAt s s' k) : s'.Wins k v := by
  cases wins with
  | explicit given => exact .explicit (agree.explicit.trans given)
  | environment ungiven set nonempty told =>
    exact .environment (agree.explicit.trans ungiven) (agree.environment.trans set) nonempty told
  | file ungiven unset present =>
    refine .file (agree.explicit.trans ungiven) ?_ (agree.member.trans present)
    rwa [agree.environment]

/-- Sources that agree at a key settle it alike. -/
lemma Settles.of_agreeAt (settles : s.Settles k o) (agree : AgreeAt s s' k) :
    s'.Settles k o := by
  cases settles with
  | told wins makes => exact .told (wins.of_agreeAt agree) makes
  | default untold falls =>
    exact .default (fun v wins => untold v (wins.of_agreeAt agree.symm)) falls

end settled

end Sources

/-! ## Stages -/

/-- What is asked of the sources. -/
inductive Stage where
  /-- The settings file holds an object. -/
  | object
  /-- Its member for a key, if it has one, is of the right type. -/
  | member (k : Key)
  /-- The variable for a switch, if it is set and not empty, is one of the words for it. -/
  | word (k : Key)
  /-- A key can be settled. -/
  | given (k : Key)
  deriving DecidableEq, Repr

/-- The stages in their order. -/
def Stage.inOrder : List Stage :=
  [.object, .member .snapshot, .member .trace, .member .debug, .member .failFast, .word .debug,
    .word .failFast, .given .snapshot, .given .trace]

namespace Sources

/-- A stage fails, and this is what is complained about. -/
inductive Fails (s : Sources) : Stage → Complaint → Prop
  | object {path : Path} {j : Json} (held : s.file = some (path, j))
    (other : j.isObject = false) : Fails s .object (.notObject path)
  | member {k : Key} {value : Json} (present : s.member? k = some value)
    (mistyped : ∀ v, value ≠ k.toJson v) : Fails s (.member k) k.mistyped
  | word {k : Key} {text : Text} (set : s.environment.lookup k.variableName = some text)
    (nonempty : text ≠ []) (unrecognised : k.ofVariable? text = none) :
    Fails s (.word k) (.notSwitchWord k.variableName text)
  | given {k : Key} {c : Complaint} (unsettled : ∀ o, ¬s.Settles k o)
    (missing : k.missing? = some c) : Fails s (.given k) c

/-- A stage does not fail. -/
def Passes (s : Sources) (stage : Stage) : Prop := ∀ c, ¬s.Fails stage c

/-- The first of some stages that fails gives this complaint. -/
def FirstFails (s : Sources) (stages : List Stage) (c : Complaint) : Prop :=
  ∃ before stage after, stages = before ++ stage :: after ∧
    (∀ earlier ∈ before, s.Passes earlier) ∧ s.Fails stage c

/-- A result is decided by some stages: if all pass it is as told, and otherwise it is the complaint
of the first that fails. -/
inductive Decided (s : Sources) {α : Type} (stages : List Stage) (Told : α → Prop) :
    Except Complaint α → Prop
  | ok {a : α} (passes : ∀ stage ∈ stages, s.Passes stage) (told : Told a) :
    Decided s stages Told (.ok a)
  | error {c : Complaint} (fails : s.FirstFails stages c) : Decided s stages Told (.error c)

section decided

variable {s : Sources} {α β : Type} {stages stages' : List Stage} {stage : Stage} {c : Complaint}
  {Told : α → Prop} {Told' : β → Prop}

/-- If a stage fails, not all of them pass. -/
lemma FirstFails.not_passes (fails : s.FirstFails stages c) :
    ¬∀ stage ∈ stages, s.Passes stage := by
  obtain ⟨before, stage, after, rfl, -, fails⟩ := fails
  exact fun passes => passes stage (List.mem_append_right _ List.mem_cons_self) c fails

/-- A first stage that fails decides with its complaint. -/
lemma Decided.of_fails (fails : s.Fails stage c) : s.Decided (stage :: stages) Told (.error c) :=
  .error ⟨[], stage, stages, rfl, nofun, fails⟩

/-- Without a stage, what is told is decided. -/
lemma Decided.pure {a : α} (told : Told a) : s.Decided [] Told (.ok a) := .ok nofun told

/-- A first stage that passes leaves the decision to the others. -/
lemma Decided.after {x : Except Complaint α} (passes : s.Passes stage)
    (rest : s.Decided stages Told x) : s.Decided (stage :: stages) Told x := by
  cases rest with
  | ok passes' told => exact .ok (List.forall_mem_cons.mpr ⟨passes, passes'⟩) told
  | error fails =>
    obtain ⟨before, stage', after, rfl, passes', fails⟩ := fails
    exact .error ⟨stage :: before, stage', after, rfl, List.forall_mem_cons.mpr ⟨passes, passes'⟩,
      fails⟩

/-- A single stage that passes decides what is told. -/
lemma Decided.of_passes (passes : s.Passes stage) {a : α} (told : Told a) :
    s.Decided [stage] Told (.ok a) :=
  .after passes (.pure told)

/-- Two results one after the other are decided by the stages of both. -/
lemma Decided.bind {x : Except Complaint α} {f : α → Except Complaint β}
    (hx : s.Decided stages Told x) (hf : ∀ a, Told a → s.Decided stages' Told' (f a)) :
    s.Decided (stages ++ stages') Told' (x >>= f) := by
  cases hx with
  | error fails =>
    obtain ⟨before, stage, after, rfl, passes, fails⟩ := fails
    exact .error ⟨before, stage, after ++ stages', List.append_assoc .., passes, fails⟩
  | @ok a passes told =>
    have rest := hf a told
    show s.Decided (stages ++ stages') Told' (f a)
    generalize f a = r at rest ⊢
    cases rest with
    | ok passes' told' =>
      refine .ok (fun stage mem => ?_) told'
      exact (List.mem_append.mp mem).elim (passes stage) (passes' stage)
    | error fails =>
      obtain ⟨before, stage, after, rfl, passes', fails⟩ := fails
      refine .error ⟨stages ++ before, stage, after, (List.append_assoc ..).symm, ?_, fails⟩
      exact fun earlier mem => (List.mem_append.mp mem).elim (passes earlier) (passes' earlier)

end decided

end Sources

/-! ## The file -/

/-- What a JSON value tells under a key. -/
def Key.ofMember (k : Key) (j : Json) : Except Complaint (Option k.Value) :=
  match k with
  | .snapshot => textMember j Key.snapshot.memberName
  | .trace => textMember j Key.trace.memberName
  | .debug => boolMember j Key.debug.memberName
  | .failFast => boolMember j Key.failFast.memberName

/-- Settings have what the file among the sources tells, if there is one. -/
def Sources.TellsFile (s : Sources) (t : Settings) : Prop :=
  ∀ k : Key, s.member? k = (t.get k).map k.toJson

/-- The stages of the settings file. -/
def Stage.ofFile : List Stage :=
  [.object, .member .snapshot, .member .trace, .member .debug, .member .failFast]

section file

variable {s : Sources} {path : Path} {j : Json} {read : FileReader} {room : Nat}
  {file : Option Path}

/-- A member is read if it is absent or of the right type. -/
lemma Key.ofMember_cases (k : Key) (j : Json) :
    (∃ v, k.ofMember j = .ok v ∧ j.member? k.memberName = v.map k.toJson) ∨
      ∃ value, j.member? k.memberName = some value ∧ (∀ v, value ≠ k.toJson v) ∧
        k.ofMember j = .error k.mistyped := by
  cases k <;>
    · simp only [Key.ofMember, textMember, boolMember]
      rcases j.member? _ with - | (_ | b | n | literal | text | items | members)
      · exact .inl ⟨none, rfl, rfl⟩
      all_goals first
        | exact .inl ⟨some _, rfl, rfl⟩
        | exact .inr ⟨_, rfl, nofun, rfl⟩

/-- The member of a key is looked up in the file that is held. -/
lemma Sources.member?_of_held (held : s.file = some (path, j)) (k : Key) :
    s.member? k = j.member? k.memberName := by
  rw [Sources.member?, held]
  rfl

/-- The stage of a member passes that is absent or of the right type. -/
lemma Sources.passes_member {k : Key} {v : Option k.Value}
    (told : s.member? k = v.map k.toJson) : s.Passes (.member k) := by
  intro c fails
  cases fails with
  | member present mistyped =>
    obtain ⟨v, -, rfl⟩ := Option.map_eq_some_iff.mp (told.symm.trans present)
    exact mistyped v rfl

/-- A member is decided by its own stage. -/
lemma decided_ofMember (held : s.file = some (path, j)) (k : Key) :
    s.Decided [.member k] (fun v => s.member? k = v.map k.toJson) (k.ofMember j) := by
  rw [s.member?_of_held held k]
  obtain ⟨v, reads, told⟩ | ⟨value, present, mistyped, unread⟩ := k.ofMember_cases j
  · rw [reads]
    exact .of_passes (s.passes_member ((s.member?_of_held held k).trans told)) told
  · rw [unread]
    exact .of_fails (.member ((s.member?_of_held held k).trans present) mistyped)

/-- The stage of the object passes exactly for an object. -/
lemma Sources.passes_object_iff (held : s.file = some (path, j)) :
    s.Passes .object ↔ j.isObject = true := by
  constructor
  · exact fun passes => Bool.of_not_eq_false fun other => passes _ (.object held other)
  · rintro object _ ⟨held', other⟩
    cases held.symm.trans held'
    exact Bool.false_ne_true (other.symm.trans object)

/-- What is read of the file is decided by the object and then its members. -/
lemma decided_ofJson (held : s.file = some (path, j)) :
    s.Decided Stage.ofFile s.TellsFile (ofJson path j) := by
  by_cases object : j.isObject = true
  · rw [ofJson, if_pos object]
    refine .after ((s.passes_object_iff held).mpr object) ?_
    exact (decided_ofMember held .snapshot).bind fun _ snapshot =>
      (decided_ofMember held .trace).bind fun _ trace =>
      (decided_ofMember held .debug).bind fun _ debug =>
      (decided_ofMember held .failFast).bind fun _ failFast =>
        .pure fun
          | .snapshot => snapshot
          | .trace => trace
          | .debug => debug
          | .failFast => failFast
  · rw [ofJson, if_neg object]
    exact .of_fails (.object held (Bool.eq_false_iff.mpr object))

/-- What is read of the file, if any, is decided by its stages. -/
lemma decided_ofFile? (holds : s.Holds read room file) :
    ∃ r, ofFile? read room file = r.mapError .complaint ∧ s.Decided Stage.ofFile s.TellsFile r := by
  cases held : s.file with
  | none =>
    have no_file : file = none := by rw [holds.named, held]; rfl
    have untold (k : Key) : s.member? k = none := by rw [Sources.member?, held]; rfl
    refine ⟨.ok {}, by rw [no_file]; rfl, .ok (fun stage mem c fails => ?_) fun k => ?_⟩
    · -- Both stages of a file fail only by what is in it.
      cases fails with
      | object held' => cases held.symm.trans held'
      | member present => cases (untold _).symm.trans present
      | word | given => simp [Stage.ofFile] at mem
    · rw [untold]
      cases k <;> rfl
  | some source =>
    obtain ⟨path, j⟩ := source
    have the_file : file = some path := by rw [holds.named, held]; rfl
    obtain ⟨bytes, reads, parses⟩ := holds.reads path j held
    refine ⟨ofJson path j, ?_, decided_ofJson held⟩
    rw [the_file, ofFile?, ofFile, reads]
    simp only [parses]
    rfl

end file

/-! ## The environment -/

/-- What the environment tells under a key. -/
def Key.ofEnvironment (k : Key) (environment : Environment) :
    Except Complaint (Option k.Value) :=
  match k with
  | .snapshot => .ok (environment.value? Key.snapshot.variableName)
  | .trace => .ok (environment.value? Key.trace.variableName)
  | .debug => environment.switch? Key.debug.variableName
  | .failFast => environment.switch? Key.failFast.variableName

/-- The stages of the environment. -/
def Stage.ofEnvironment : List Stage := [.word .debug, .word .failFast]

/-- Settings have what the variables among the sources tell. -/
def Sources.TellsEnvironment (s : Sources) (t : Settings) : Prop :=
  ∀ k : Key, (s.environment.value? k.variableName).map k.ofVariable? = (t.get k).map some

section environment

variable {s : Sources} {environment : Environment} {name text : Text}

/-- A variable has a value exactly if it is set to a text that is not empty. -/
lemma value?_eq_some_iff :
    environment.value? name = some text ↔ environment.lookup name = some text ∧ text ≠ [] := by
  rw [Environment.value?, Option.filter_eq_some_iff]
  simp [show ("" : Text) = [] from rfl]

/-- A variable has no value exactly if it is unset or empty. -/
lemma value?_eq_none_iff :
    environment.value? name = none ↔ ∀ text, environment.lookup name = some text → text = [] := by
  rw [Environment.value?, Option.filter_eq_none_iff]
  simp [show ("" : Text) = [] from rfl]

/-- A switch is read by its word, or complained of. -/
lemma readSwitch_cases (name value : Text) :
    (∃ b, readSwitch name value = .ok b ∧ Key.switchWord? value = some b) ∨
      Key.switchWord? value = none ∧
        readSwitch name value = .error (.notSwitchWord name value) := by
  simp only [readSwitch, Key.switchWord?, List.contains_iff_mem]
  split
  · exact .inl ⟨true, rfl, rfl⟩
  · split
    · exact .inl ⟨false, rfl, rfl⟩
    · exact .inr ⟨rfl, rfl⟩

/-- A switch is read if its variable is empty or not set, or one of the words for it. -/
lemma switch?_cases (environment : Environment) (name : Text) :
    (∃ v, environment.switch? name = .ok v ∧
      (environment.value? name).map Key.switchWord? = v.map some) ∨
      ∃ text, environment.value? name = some text ∧ Key.switchWord? text = none ∧
        environment.switch? name = .error (.notSwitchWord name text) := by
  unfold Environment.switch?
  cases environment.value? name with
  | none => exact .inl ⟨none, rfl, rfl⟩
  | some text =>
    obtain ⟨b, reads, word⟩ | ⟨other, unread⟩ := readSwitch_cases name text
    · exact .inl ⟨some b, by simp only [reads]; rfl, by simp [word]⟩
    · exact .inr ⟨text, rfl, other, by simp only [unread]; rfl⟩

/-- A variable is read to a value of its key, or complained of. -/
lemma Key.ofEnvironment_cases (k : Key) (environment : Environment) :
    (∃ v, k.ofEnvironment environment = .ok v ∧
      (environment.value? k.variableName).map k.ofVariable? = v.map some) ∨
      ∃ text, environment.value? k.variableName = some text ∧ k.ofVariable? text = none ∧
        k.ofEnvironment environment = .error (.notSwitchWord k.variableName text) := by
  cases k with
  | snapshot | trace => exact .inl ⟨_, rfl, rfl⟩
  | debug | failFast => exact switch?_cases environment _

/-- A variable is decided by its own stage. -/
lemma decided_ofVariable (s : Sources) (k : Key) :
    s.Decided [.word k]
      (fun v => (s.environment.value? k.variableName).map k.ofVariable? = v.map some)
      (k.ofEnvironment s.environment) := by
  obtain ⟨v, reads, told⟩ | ⟨text, set, unrecognised, unread⟩ := k.ofEnvironment_cases s.environment
  · rw [reads]
    refine .of_passes (fun _ fails => ?_) told
    -- A variable that is read tells something, so its word is recognised.
    cases fails with
    | word set nonempty unrecognised =>
      rw [value?_eq_some_iff.mpr ⟨set, nonempty⟩, Option.map_some, unrecognised] at told
      cases v <;> cases told
  · rw [unread]
    obtain ⟨set, nonempty⟩ := value?_eq_some_iff.mp set
    exact .of_fails (.word set nonempty unrecognised)

/-- What is read of the environment is decided by its variables in turn. -/
lemma decided_ofEnvironment (s : Sources) :
    s.Decided Stage.ofEnvironment s.TellsEnvironment (ofEnvironment s.environment) :=
  (decided_ofVariable s .debug).bind fun _ debug =>
    (decided_ofVariable s .failFast).bind fun _ failFast =>
    .pure fun
      | .snapshot | .trace => rfl
      | .debug => debug
      | .failFast => failFast

end environment

/-! ## What wins -/

section merged

variable {s : Sources} {k : Key} {v : k.Value} {fromFile fromEnvironment : Settings}

/-- The file gives a key exactly the value of its member. -/
lemma Sources.TellsFile.get_iff (tells : s.TellsFile fromFile) :
    fromFile.get k = some v ↔ s.member? k = some (k.toJson v) := by
  rw [tells k, Option.map_eq_some_iff]
  constructor
  · intro told
    exact ⟨v, told, rfl⟩
  · rintro ⟨v', told, same⟩
    rwa [Key.toJson_injective same] at told

/-- The environment gives a key exactly the value that its variable is a word for. -/
lemma Sources.TellsEnvironment.get_iff (tells : s.TellsEnvironment fromEnvironment) :
    fromEnvironment.get k = some v ↔ ∃ text,
      (s.environment.lookup k.variableName = some text ∧ text ≠ []) ∧
        k.ofVariable? text = some v := by
  have some_iff : fromEnvironment.get k = some v ↔
      (fromEnvironment.get k).map some = some (some v) := by
    simp
  simp only [some_iff, ← tells k, Option.map_eq_some_iff, value?_eq_some_iff]

/-- The environment gives a key no value exactly if its variable is unset or empty. -/
lemma Sources.TellsEnvironment.get_none_iff (tells : s.TellsEnvironment fromEnvironment) :
    fromEnvironment.get k = none ↔
      ∀ text, s.environment.lookup k.variableName = some text → text = [] := by
  rw [← value?_eq_none_iff, ← Option.map_eq_none_iff, ← tells k, Option.map_eq_none_iff]

/-- The value that wins is the one that the sources have, put together. -/
lemma Sources.wins_iff (file : s.TellsFile fromFile)
    (environment : s.TellsEnvironment fromEnvironment) :
    s.Wins k v ↔
      (s.explicit.overriding (fromEnvironment.overriding fromFile)).get k = some v := by
  rw [get_overriding, get_overriding, Option.or_eq_some_iff, Option.or_eq_some_iff, file.get_iff,
    environment.get_iff, environment.get_none_iff]
  constructor
  · intro wins
    cases wins with
    | explicit given => exact .inl given
    | environment ungiven set nonempty told =>
      exact .inr ⟨ungiven, .inl ⟨_, ⟨set, nonempty⟩, told⟩⟩
    | file ungiven unset present => exact .inr ⟨ungiven, .inr ⟨unset, present⟩⟩
  · rintro (given | ⟨ungiven, ⟨_, ⟨set, nonempty⟩, told⟩ | ⟨unset, present⟩⟩)
    · exact .explicit given
    · exact .environment ungiven set nonempty told
    · exact .file ungiven unset present

end merged

/-! ## The plan -/

/-- What a plan has under a key for a setting, told or not. -/
def Key.planned? (k : Key) (setting : Option k.Value) : Option k.Outcome :=
  setting.elim k.default? k.outcome?

/-- The part of a plan that a setting makes. -/
def Key.plan (k : Key) (setting : Option k.Value) : Except Complaint k.Outcome :=
  match k with
  | .snapshot => pathOf setting "smaps file" "--smaps"
  | .trace => pathOf setting "trace file" "--trace"
  | .debug => .ok (setting.getD false)
  | .failFast => .ok (setting.getD true)

section plan

variable {s : Sources} {k : Key} {o : k.Outcome} {t : Settings}

/-- A path is taken from its setting, or missed. -/
lemma pathOf_cases (setting : Option Text) (what option : Text) :
    (∃ path, pathOf setting what option = .ok path ∧
      setting.elim none Key.snapshot.outcome? = some path) ∨
      setting.elim none Key.snapshot.outcome? = none ∧
        pathOf setting what option = .error (.missing what option) := by
  rcases setting with - | (- | ⟨c, cs⟩)
  · exact .inr ⟨rfl, rfl⟩
  · exact .inr ⟨rfl, rfl⟩
  · exact .inl ⟨Path.ofText (c :: cs), rfl, rfl⟩

/-- A key is planned from its setting, or missed. -/
lemma Key.plan_cases (k : Key) (setting : Option k.Value) :
    (∃ o, k.plan setting = .ok o ∧ k.planned? setting = some o) ∨
      ∃ c, k.missing? = some c ∧ k.planned? setting = none ∧ k.plan setting = .error c := by
  cases k with
  | snapshot | trace =>
    obtain ⟨path, makes, told⟩ | ⟨untold, missing⟩ := pathOf_cases setting _ _
    · exact .inl ⟨path, makes, told⟩
    · exact .inr ⟨_, rfl, untold, missing⟩
  | debug | failFast => cases setting <;> exact .inl ⟨_, rfl, rfl⟩

/-- A key is settled by the setting that wins. -/
lemma Sources.settles_iff (wins : ∀ v, s.Wins k v ↔ t.get k = some v) :
    s.Settles k o ↔ k.planned? (t.get k) = some o := by
  constructor
  · intro settles
    cases settles with
    | told won makes => rwa [(wins _).mp won]
    | default untold falls =>
      rwa [Option.eq_none_iff_forall_ne_some.mpr fun v got => untold v ((wins v).mpr got)]
  · intro planned
    cases got : t.get k with
    | none =>
      rw [got] at planned
      exact .default (fun v won => nomatch got.symm.trans ((wins v).mp won)) planned
    | some v =>
      rw [got] at planned
      exact .told ((wins v).mpr got) planned

/-- A key that is planned is settled. -/
lemma Sources.settles_of_plan (wins : ∀ v, s.Wins k v ↔ t.get k = some v)
    (made : k.plan (t.get k) = .ok o) : s.Settles k o := by
  obtain ⟨o', makes, told⟩ | ⟨c, -, -, unmade⟩ := k.plan_cases (t.get k)
  · cases made.symm.trans makes
    exact (settles_iff wins).mpr told
  · cases made.symm.trans unmade

/-- A part of the plan is decided by its own stage. -/
lemma decided_part (wins : ∀ v, s.Wins k v ↔ t.get k = some v) :
    s.Decided [.given k] (s.Settles k) (k.plan (t.get k)) := by
  obtain ⟨o, makes, -⟩ | ⟨c, missing, untold, unmade⟩ := k.plan_cases (t.get k)
  · rw [makes]
    have settles := Sources.settles_of_plan wins makes
    refine .of_passes (fun _ fails => ?_) settles
    cases fails with
    | given unsettled => exact unsettled o settles
  · rw [unmade]
    refine .of_fails (.given (fun o settles => ?_) missing)
    cases untold.symm.trans ((Sources.settles_iff wins).mp settles)

/-- What is asked of settings that are put together. -/
def Stage.ofPlan : List Stage := [.given .snapshot, .given .trace]

/-- The plan is decided by its parts in turn. -/
lemma decided_plan (wins : ∀ (k : Key) (v : k.Value), s.Wins k v ↔ t.get k = some v) :
    s.Decided Stage.ofPlan (fun plan => ∀ k, s.Settles k (planned plan k)) (Settings.plan t) :=
  (decided_part (wins .snapshot)).bind fun _ snapshot =>
    (decided_part (wins .trace)).bind fun _ trace =>
    .pure fun
      | .snapshot => snapshot
      | .trace => trace
      | .debug => Sources.settles_of_plan (wins .debug) rfl
      | .failFast => Sources.settles_of_plan (wins .failFast) rfl

end plan

/-! ## The whole merge -/

section resolved

variable {read : FileReader} {room : Nat} {file : Option Path} {s : Sources}

/-- The plan that the sources make, or what is complained about. -/
lemma decided_resolve (holds : s.Holds read room file) :
    ∃ r, resolve read room file s.environment s.explicit = r.mapError .complaint ∧
      s.Decided Stage.inOrder (fun plan => ∀ k, s.Settles k (planned plan k)) r := by
  obtain ⟨r, reads, decided⟩ := decided_ofFile? holds
  refine ⟨do
    let fromFile ← r
    let fromEnvironment ← ofEnvironment s.environment
    plan (s.explicit.overriding (fromEnvironment.overriding fromFile)), ?_, ?_⟩
  · rw [resolve, reads]
    cases r with
    | error c => rfl
    | ok fromFile => cases ofEnvironment s.environment <;> rfl
  · exact decided.bind fun _ file =>
      (decided_ofEnvironment s).bind fun _ environment =>
      decided_plan fun k v => Sources.wins_iff file environment

/-- A plan that is resolved settles every key. -/
lemma settles_of_resolve {plan : Audit.Plan} (holds : s.Holds read room file)
    (resolved : resolve read room file s.environment s.explicit = .ok plan) (k : Key) :
    s.Settles k (planned plan k) := by
  obtain ⟨r, eq, decided⟩ := decided_resolve holds
  rw [eq] at resolved
  cases decided with
  | ok passes told =>
    cases resolved
    exact told k
  | error => cases resolved

/-- **Settings are merged key by key.** Each key of a plan is settled by the caller, else by a
variable that is set and not empty, else by the file, else by its default, whatever the sources tell
of the other keys. There is a plan exactly if no stage fails, and otherwise the complaint is that of
the first stage that does. -/
theorem settings_merge_by_key (holds : s.Holds read room file) :
    (∀ plan, resolve read room file s.environment s.explicit = .ok plan →
      ∀ k, s.Settles k (planned plan k)) ∧
    ((∃ plan, resolve read room file s.environment s.explicit = .ok plan) ↔
      ∀ stage ∈ Stage.inOrder, s.Passes stage) ∧
    (∀ fault, resolve read room file s.environment s.explicit = .error fault →
      ∃ c, fault = .complaint c ∧ s.FirstFails Stage.inOrder c) ∧
    (∀ s' read' room' file' k plan plan', s'.Holds read' room' file' → Sources.AgreeAt s s' k →
      resolve read room file s.environment s.explicit = .ok plan →
      resolve read' room' file' s'.environment s'.explicit = .ok plan' →
      planned plan' k = planned plan k) := by
  refine ⟨fun plan resolved => settles_of_resolve holds resolved, ?_, ?_, ?_⟩
  · obtain ⟨r, eq, decided⟩ := decided_resolve holds
    rw [eq]
    cases decided with
    | @ok plan passes => exact ⟨fun _ => passes, fun _ => ⟨plan, rfl⟩⟩
    | error fails => exact ⟨nofun, fun passes => absurd passes fails.not_passes⟩
  · obtain ⟨r, eq, decided⟩ := decided_resolve holds
    rw [eq]
    cases decided with
    | ok => nofun
    | error fails =>
      rintro _ ⟨⟩
      exact ⟨_, rfl, fails⟩
  · intro s' read' room' file' k plan plan' holds' agree resolved resolved'
    exact ((settles_of_resolve holds resolved k).of_agreeAt agree).unique
      (settles_of_resolve holds' resolved' k) |>.symm

end resolved

/-! ## Three layers -/

/-- A settings file with three of the keys. -/
def layeredText : Text :=
  "\x7b\"smaps_file\": \"old\", \"trace_file\": \"trace\", \"debug\": true\x7d"

/-- Where every file is that one. -/
def readLayered : FileReader := fun _ =>
  (Text.encode Text.bytes? layeredText).mapError .unencodable

/-- The file, an environment that overrides two of its keys, and the fourth key from the caller. -/
def layered : Sources where
  file := some (.ofText "settings",
    .object [("smaps_file", .string "old"), ("trace_file", .string "trace"), ("debug", .bool true)])
  environment := [("PAGECHECK_SMAPS_FILE", "new"), ("PAGECHECK_TRACE_FILE", ""),
    ("PAGECHECK_DEBUG", " Off ")]
  explicit := { failFast := some false }

/-- The plan that they make. -/
def layeredPlan : Audit.Plan where
  snapshot := .ofText "new"
  trace := .ofText "trace"
  debug := false
  failFast := false

/-- The environment overrides two keys of the file, one of them with another switch; a variable that
is empty leaves the third as it is. -/
theorem settings_of_three_layers :
    resolve readLayered 1 (some (.ofText "settings")) layered.environment layered.explicit =
        .ok layeredPlan ∧
      (∀ k, layered.Settles k (planned layeredPlan k)) ∧
      ∀ stage ∈ Stage.inOrder, layered.Passes stage := by
  have holds : layered.Holds readLayered 1 (some (.ofText "settings")) := by
    refine ⟨rfl, ?_⟩
    rintro _ _ ⟨⟩
    exact ⟨_, rfl, by cbv⟩
  have resolved : resolve readLayered 1 (some (.ofText "settings")) layered.environment
      layered.explicit = .ok layeredPlan := by cbv
  obtain ⟨settled, succeeds, -, -⟩ := settings_merge_by_key holds
  exact ⟨resolved, settled _ resolved, succeeds.mp ⟨_, resolved⟩⟩

end PageAudit.Settings
