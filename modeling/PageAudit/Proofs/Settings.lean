import PageAudit.Proofs.FileReader
import PageAudit.Proofs.Json.Reader
import PageAudit.Settings.Resolve

/-!
# When settings are only complained about

What is wrong with the settings of a run is a complaint about them, unless the settings file breaks
the run off (`resolve_complains`): its path may be no path, and what it holds may be no text, or
JSON beyond what is read. None of this happens to a file at a path that is `Usable`, if what it
holds is `Legible` (`complaint_of_resolve`).
-/

namespace PageAudit.Settings

/-- The text in the bytes of a settings file, if they are UTF-8, with its ends of line unified. -/
def textOf (bytes : List UInt8) : Except Text.Utf8.Fault Text :=
  (Text.Utf8.decode .refused bytes).map (Text.unifyBreaks Text.isFileBreak)

/-- The bytes are a text in which, outside of its strings, no integer is too long and no more than
`room` objects and arrays stand in one another. -/
def Legible (room : Nat) (bytes : List UInt8) : Prop :=
  ∃ text, textOf bytes = .ok text ∧ ¬Json.HasLongInteger text ∧ ¬Json.NestsBeyond room text

/-- Bytes cannot be read as JSON, for this reason, though they need not be malformed. -/
inductive Illegible (room : Nat) (bytes : List UInt8) : Fault → Prop
  | undecodable {f : Text.Utf8.Fault} (undecoded : textOf bytes = .error f) :
    Illegible room bytes (.undecodable f)
  | overlong {text : Text} {o : Numeral.Overlong} (decoded : textOf bytes = .ok text)
    (long : Json.HasLongInteger text) : Illegible room bytes (.overlong o)
  | tooDeep {text : Text} {c : Json.Container} (decoded : textOf bytes = .ok text)
    (deep : Json.NestsBeyond room text) : Illegible room bytes (.tooDeep c)

/-- The result is a value, or a complaint, or else a fault of this kind. -/
def ComplainsOr {α : Type} (Other : Fault → Prop) (r : Except Fault α) : Prop :=
  ∀ fault, r = .error fault → (∃ c, fault = .complaint c) ∨ Other fault

/-- A settings file breaks off what reads it: it is not complained about, though it is not read. -/
inductive BreaksOff (read : FileReader) (room : Nat) (path : Path) : Fault → Prop
  | embeddedNull (unusable : path.Unusable .embeddedNull) : BreaksOff read room path .embeddedNull
  | unencodable {u : Text.Unencodable} (unusable : path.Unusable (.unencodable u)) :
    BreaksOff read room path (.unencodable u)
  | illegible {bytes : List UInt8} {fault : Fault} (reads : read path = .ok bytes)
    (illegible : Illegible room bytes fault) : BreaksOff read room path fault

section

variable {read : FileReader} {room : Nat} {path : Path} {file : Option Path} {bytes : List UInt8}
  {fault : Fault}

/-- Legible bytes are not illegible for any reason. -/
lemma Legible.not_illegible (legible : Legible room bytes) : ¬Illegible room bytes fault := by
  obtain ⟨text, decoded, short, shallow⟩ := legible
  rintro (undecoded | ⟨decoded', long⟩ | ⟨decoded', deep⟩)
  · cases decoded.symm.trans undecoded
  · cases decoded.symm.trans decoded'
    exact short long
  · cases decoded.symm.trans decoded'
    exact shallow deep

/-- A short text is legible if there is room for as many objects and arrays as it has characters. -/
lemma legible_of_length_le (text : Text) (decoded : textOf bytes = .ok text)
    (short : text.length ≤ Numeral.maxDigits) (shallow : text.length ≤ room) :
    Legible room bytes :=
  ⟨text, decoded, fun long => Nat.not_lt.mpr short long.lt_length,
    fun deep => Nat.not_lt.mpr shallow deep.lt_length⟩

/-- Bytes that are not read as JSON bring a complaint or are illegible. -/
lemma readJson_complains (room : Nat) (bytes : List UInt8) :
    ComplainsOr (Illegible room bytes) (readJson room bytes) := by
  intro fault unread
  unfold readJson at unread
  split at unread
  · next f undecoded =>
    cases unread
    exact .inr (.undecodable (by rw [textOf, undecoded]; rfl))
  · next text decoded =>
    have decoded : textOf bytes = .ok (Text.unifyBreaks Text.isFileBreak text) := by
      rw [textOf, decoded]
      rfl
    split at unread
    · cases unread
    · cases unread
      exact .inl ⟨_, rfl⟩
    · next refused =>
      cases unread
      exact .inr (.overlong decoded (Json.justified_of_read refused))
    · next refused =>
      cases unread
      exact .inr (.tooDeep decoded (Json.justified_of_read refused))

/-- A result brings no complaint. -/
lemma complains_ok {α : Type} {Other : Fault → Prop} (a : α) : ComplainsOr Other (.ok a) := nofun

/-- A complaint that is told as a fault is a complaint. -/
lemma complains_mapError {α : Type} {Other : Fault → Prop} (r : Except Complaint α) :
    ComplainsOr Other (r.mapError .complaint) := by
  cases r with
  | ok a => exact complains_ok a
  | error c =>
    rintro _ ⟨⟩
    exact .inl ⟨c, rfl⟩

/-- What goes on from a result complains, if both parts do. -/
lemma ComplainsOr.bind {α β : Type} {Other : Fault → Prop} {r : Except Fault α}
    {f : α → Except Fault β} (hr : ComplainsOr Other r) (hf : ∀ a, ComplainsOr Other (f a)) :
    ComplainsOr Other (r >>= f) := by
  cases r with
  | ok a => exact hf a
  | error fault =>
    rintro _ ⟨⟩
    exact hr fault rfl

/-- A file that gives no settings brings a complaint, or reading it breaks off. -/
lemma ofFile_complains (truthful : read.Truthful) (room : Nat) (path : Path) :
    ComplainsOr (BreaksOff read room path) (ofFile read room path) := by
  unfold ofFile
  cases reads : read path with
  | error f =>
    -- Only a refusal is complained about; a path that names no file breaks the reading off.
    obtain ⟨cause, rfl⟩ | unusable := truthful path f reads
    · rintro _ ⟨⟩
      exact .inl ⟨_, rfl⟩
    · cases f with
      | refused => cases unusable
      | embeddedNull =>
        rintro _ ⟨⟩
        exact .inr (.embeddedNull unusable)
      | unencodable u =>
        rintro _ ⟨⟩
        exact .inr (.unencodable unusable)
  | ok bytes =>
    have from_bytes : ComplainsOr (BreaksOff read room path) (readJson room bytes) :=
      fun fault unread => (readJson_complains room bytes fault unread).imp_right (.illegible reads)
    exact from_bytes.bind fun j => complains_mapError _

/-- Whatever is wrong with the settings of a run is a complaint, or the settings file that is named
breaks the run off. -/
lemma resolve_complains (truthful : read.Truthful) (room : Nat) (file : Option Path)
    (environment : Environment) (explicit : Settings) :
    ComplainsOr (fun fault => ∃ path ∈ file, BreaksOff read room path fault)
      (resolve read room file environment explicit) := by
  have from_file : ComplainsOr (fun fault => ∃ path ∈ file, BreaksOff read room path fault)
      (ofFile? read room file) := by
    cases file with
    | none => exact complains_ok _
    | some path =>
      intro fault unread
      have complains := ofFile_complains truthful room path fault unread
      exact complains.imp_right fun breaks => ⟨path, rfl, breaks⟩
  exact from_file.bind fun _ => (complains_mapError _).bind fun _ => complains_mapError _

/-- Reading does not break off at a usable path with legible content. -/
lemma BreaksOff.not_usable_legible (usable : path.Usable)
    (legible : ∀ bytes, read path = .ok bytes → Legible room bytes) :
    ¬BreaksOff read room path fault := by
  rintro (unusable | unusable | ⟨reads, illegible⟩)
  · exact usable.not_unusable unusable
  · exact usable.not_unusable unusable
  · exact (legible _ reads).not_illegible illegible

/-- Settings whose file, if there is one, is legible and at a usable path are only complained
about. -/
lemma complaint_of_resolve {environment : Environment} {explicit : Settings}
    (truthful : read.Truthful) (usable : ∀ path ∈ file, path.Usable)
    (legible : ∀ path ∈ file, ∀ bytes, read path = .ok bytes → Legible room bytes)
    (unresolved : resolve read room file environment explicit = .error fault) :
    ∃ c, fault = .complaint c :=
  (resolve_complains truthful room file environment explicit fault unresolved).resolve_right
    fun ⟨path, named, breaks⟩ => breaks.not_usable_legible (usable path named) (legible path named)

end

end PageAudit.Settings
