import PageAudit.Proofs.Settings
import PageAudit.Proofs.Settings.Precedence
import PageAudit.Proofs.Text.Utf8

/-!
# What a settings file comes to

The settings of a file are its own values for exactly those of the four keys that it has
(`ofFile_eq_ok_iff`). A file that has no such settings is complained about, unless it breaks off
what reads it: the file system, the decoder and the reader of JSON each have faults of their own
that are not complained about (`BreaksOff`). `settings_file_told_or_faulted` is the main result.
-/

namespace PageAudit.Settings

/-- Settings have the values of their own members of a JSON value, and no others. -/
def TellsOf (j : Json) (t : Settings) : Prop :=
  ∀ k : Key, j.member? k.memberName = (t.get k).map k.toJson

section

variable {path : Path} {j : Json} {read : FileReader} {room : Nat} {t t' : Settings}

/-- Settings are the same that have the same value at every key. -/
lemma eq_of_get (same : ∀ k : Key, t.get k = t'.get k) : t = t' := by
  cases t
  cases t'
  simp only [mk.injEq]
  exact ⟨same .snapshot, same .trace, same .debug, same .failFast⟩

/-- An object tells one group of settings only. -/
lemma TellsOf.unique (tells : TellsOf j t) (tells' : TellsOf j t') : t = t' :=
  eq_of_get fun k =>
    Option.map_injective (fun _ _ => Key.toJson_injective) ((tells k).symm.trans (tells' k))

/-- The file alone. -/
def Sources.ofFile (path : Path) (j : Json) : Sources where
  file := some (path, j)
  environment := []
  explicit := {}

/-- Settings are made exactly of an object that tells them. -/
lemma ofJson_eq_ok_iff : ofJson path j = .ok t ↔ j.isObject = true ∧ TellsOf j t := by
  have decided := decided_ofJson (s := .ofFile path j) rfl
  have passes_object_iff := Sources.passes_object_iff (s := .ofFile path j) rfl
  constructor
  · intro reads
    rw [reads] at decided
    cases decided with
    | ok passes told => exact ⟨passes_object_iff.mp (passes _ List.mem_cons_self), told⟩
  · rintro ⟨object, tells⟩
    generalize ofJson path j = r at decided
    cases decided with
    | ok passes told => exact congrArg _ (TellsOf.unique told tells)
    | error fails =>
      -- An object that tells settings has no member of another type, so no stage fails.
      refine absurd (fun stage mem => ?_) fails.not_passes
      cases stage with
      | object => exact passes_object_iff.mpr object
      | member k => exact Sources.passes_member (tells k)
      | word | given => simp [Stage.ofFile] at mem

/-- A complaint that is told as a fault gives no settings. -/
lemma of_mapError_eq_ok {r : Except Complaint Settings}
    (told : r.mapError Fault.complaint = .ok t) : r = .ok t := by
  cases r with
  | error c => cases told
  | ok t' =>
    cases told
    rfl

/-- The settings of a file are those of the object in it. -/
lemma ofFile_eq_ok_iff : ofFile read room path = .ok t ↔
    ∃ bytes j, read path = .ok bytes ∧ readJson room bytes = .ok j ∧ j.isObject = true ∧
      TellsOf j t := by
  constructor
  · intro told
    unfold ofFile at told
    split at told
    · cases told
    · cases told
    · cases told
    · next bytes reads =>
      cases parses : readJson room bytes with
      | error fault =>
        rw [parses] at told
        cases told
      | ok j =>
        rw [parses] at told
        exact ⟨bytes, j, reads, parses, ofJson_eq_ok_iff.mp (of_mapError_eq_ok told)⟩
  · rintro ⟨bytes, j, reads, parses, told⟩
    rw [ofFile, reads]
    simp only [parses]
    show (ofJson path j).mapError Fault.complaint = .ok t
    rw [ofJson_eq_ok_iff.mpr told]
    rfl

end

/-- **What a settings file comes to.** Its settings are its own values, each of the right type, for
exactly those of the four keys that it has. Otherwise it is complained about, or it breaks off what
reads it for a reason that is in its path or in its bytes, and nothing but a file breaks off the
making of a plan. -/
theorem settings_file_told_or_faulted {read : FileReader} (truthful : read.Truthful)
    (room : Nat) :
    (∀ path t, ofFile read room path = .ok t ↔
      ∃ bytes j, read path = .ok bytes ∧ readJson room bytes = .ok j ∧ j.isObject = true ∧
        TellsOf j t) ∧
    (∀ path, ComplainsOr (BreaksOff read room path) (ofFile read room path)) ∧
    ∀ file environment explicit,
      ComplainsOr (fun fault => ∃ path ∈ file, BreaksOff read room path fault)
        (resolve read room file environment explicit) :=
  ⟨fun _ _ => ofFile_eq_ok_iff, ofFile_complains truthful room, resolve_complains truthful room⟩

/-! ## Two settings files -/

/-- Settings with two of the keys, one of which is written twice, and with another member. -/
def twiceToldText : Text :=
  "\x7b\"debug\": 0, \"trace_file\": \"log\", \"depth\": [[[]]], \"debug\": true\x7d"

/-- A store of these settings, and of a settings file that is no text. -/
def settingsStore : FileStore where
  entries := [([FileStore.partName "settings"], .file (Text.bytesOf twiceToldText)),
    ([FileStore.partName "illegible"], .file [0xff])]

/-- The settings are told with the value that was written last. If there is less room than they take
up, they break off what reads them: their bytes nest too deep, though they are JSON. -/
theorem settings_told_where_room :
    ofFile settingsStore.read 4 (.ofText "settings") =
      .ok { trace := some "log", debug := some true } ∧
    ofFile settingsStore.read 3 (.ofText "settings") = .error (.tooDeep .array) ∧
    BreaksOff settingsStore.read 3 (.ofText "settings") (.tooDeep .array) := by
  have truthful := FileStore.truthful_read settingsStore
  have parses : ∃ bytes j, settingsStore.read (.ofText "settings") = .ok bytes ∧
      readJson 4 bytes = .ok j ∧ j.isObject = true ∧
        TellsOf j { trace := some "log", debug := some true } := by
    refine ⟨_, _, rfl, by cbv, rfl, fun k => ?_⟩
    cases k <;> rfl
  have breaks : ofFile settingsStore.read 3 (.ofText "settings") = .error (.tooDeep .array) := by
    cbv
  have faulted := (settings_file_told_or_faulted truthful 3).2.1 _ _ breaks
  refine ⟨((settings_file_told_or_faulted truthful 4).1 _ _).mpr parses, breaks, ?_⟩
  refine faulted.resolve_left ?_
  rintro ⟨c, told⟩
  cases told

/-- Settings whose only byte begins no character are not complained about: they break off what reads
them, and the making of a plan with it. -/
theorem illegible_settings_break_off :
    let fault : Fault :=
      .undecodable { cause := .invalidStart, first := 0, last := 0, byte := 0xff }
    ofFile settingsStore.read 988 (.ofText "illegible") = .error fault ∧
      resolve settingsStore.read 988 (some (.ofText "illegible")) [] {} = .error fault ∧
      ¬∃ c, fault = .complaint c :=
  ⟨by decide +kernel, by decide +kernel, nofun⟩

end PageAudit.Settings
