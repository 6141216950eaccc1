import Mathlib.Tactic.Lemma
import Mathlib.Tactic.SplitIfs
import PageAudit.FileStore

/-!
# Readers of files

What a reader of files says of a file that it does not read is the truth if the system refuses the
file, or if its path can name none (`FileReader.Truthful`): a path that has no bytes names no file,
and neither does one with a null among its bytes. The reader of a file store is truthful
(`FileStore.truthful_read`), and so is that of a file system, whatever files there are and for
whatever cause the system refuses some of them.
-/

namespace PageAudit

/-- A path that can name a file: it has bytes, and none of them is null. -/
def Path.Usable (p : Path) : Prop :=
  ∃ bytes, Text.encode Text.nameBytes? p.text = .ok bytes ∧ bytes.contains 0 = false

/-- The path cannot name a file, for this reason. -/
inductive Path.Unusable (p : Path) : FileFault → Prop
  | embeddedNull {bytes : List UInt8} (encoded : Text.encode Text.nameBytes? p.text = .ok bytes)
    (null : bytes.contains 0 = true) : Unusable p .embeddedNull
  | unencodable {u : Text.Unencodable}
    (unencoded : Text.encode Text.nameBytes? p.text = .error u) : Unusable p (.unencodable u)

/-- A usable path is not unusable for any reason. -/
lemma Path.Usable.not_unusable {path : Path} {f : FileFault} (usable : path.Usable) :
    ¬path.Unusable f := by
  obtain ⟨bytes, encoded, nonnull⟩ := usable
  rintro (⟨encoded', null⟩ | unencoded)
  · cases encoded.symm.trans encoded'
    exact Bool.false_ne_true (nonnull.symm.trans null)
  · cases encoded.symm.trans unencoded

/-- A file that is not read is refused by the file system, or its path can name none. -/
def FileReader.Truthful (read : FileReader) : Prop :=
  ∀ path f, read path = .error f → (∃ cause, f = .refused cause path) ∨ path.Unusable f

/-- A file at a usable path is read, or the file system refuses it. -/
lemma FileReader.Truthful.read_ends {read : FileReader} (truthful : read.Truthful) {path : Path}
    (usable : path.Usable) :
    (∃ bytes, read path = .ok bytes) ∨ ∃ cause, read path = .error (.refused cause path) := by
  cases reads : read path with
  | ok bytes => exact .inl ⟨bytes, rfl⟩
  | error f =>
    obtain ⟨cause, rfl⟩ := (truthful path f reads).resolve_right usable.not_unusable
    exact .inr ⟨cause, rfl⟩

/-- The reader of a file store is truthful. -/
lemma FileStore.truthful_read (store : FileStore) : FileReader.Truthful store.read := by
  intro path f unread
  unfold read at unread
  split at unread
  · next unencoded =>
    cases unread
    exact .inr (.unencodable unencoded)
  · next bytes encoded =>
    split_ifs at unread with null long
    · cases unread
      exact .inr (.embeddedNull encoded null)
    · cases unread
      exact .inl ⟨_, rfl⟩
    · dsimp only at unread
      generalize store.walk _ _ = walked at unread
      cases walked with
      | error cause =>
        cases unread
        exact .inl ⟨cause, rfl⟩
      | ok bytes => cases unread

end PageAudit
