import PageAudit.Proofs.Audit.Ending
import PageAudit.Proofs.Text.Utf8

/-!
# Files that hold texts

A file `Holds` a text if its bytes are those of the text. A check of two files that hold texts comes
to what the audit of the lines of these texts comes to (`fst_checkFiles_of_holds`).
-/

namespace PageAudit.Audit

/-- The file at a path holds a text. -/
def Holds (read : FileReader) (path : Path) (text : Text) : Prop :=
  ∃ bytes, Text.encode Text.bytes? text = .ok bytes ∧ read path = .ok bytes

variable {read : FileReader} {plan : Plan} {snapshot trace : Text}

/-- What is read of a file is the text that it holds. -/
lemma Holds.decodeLenient_eq {path : Path} {text : Text} (held : Holds read path text)
    {bytes : List UInt8} (reads : read path = .ok bytes) :
    Text.Utf8.decodeLenient bytes = text := by
  obtain ⟨bytes', encoded, reads'⟩ := held
  cases reads'.symm.trans reads
  exact Text.Utf8.decodeLenient_of_encode encoded

/-- A file is cut into the lines of the text that it holds. -/
lemma Holds.readLines_eq {path : Path} {text : Text} (held : Holds read path text) :
    readLines read path = .ok (Text.fileLines text) := by
  have ⟨bytes, _, reads⟩ := held
  rw [readLines, reads, ← held.decodeLenient_eq reads]
  rfl

/-- A check of files comes to what the audit of their lines comes to. -/
lemma fst_checkFiles_of_holds (snapshot_held : Holds read plan.snapshot snapshot)
    (trace_held : Holds read plan.trace trace) (journal : Option Journal) :
    ((checkFiles read plan).on journal).1 =
      (outcome (Text.fileLines snapshot) (Text.fileLines trace) plan.failFast).mapError .fault := by
  rw [fst_checkFiles, result_inspect_of_read snapshot_held.readLines_eq trace_held.readLines_eq]

/-! ## A store of two files -/

/-- A store of two files with the bytes of two texts. -/
def holding (snapshot trace : Text) : FileStore where
  entries :=
    [([FileStore.partName "smaps"], .file (Text.bytesOf snapshot)),
     ([FileStore.partName "trace"], .file (Text.bytesOf trace))]

/-- The plan of a check of these files. -/
def heldPlan : Plan := { snapshot := .ofText "smaps", trace := .ofText "trace" }

/-- The store that holds two texts holds the first as the snapshot. -/
lemma holding_snapshot (scalar : Text.Scalar snapshot) :
    Holds (holding snapshot trace).read heldPlan.snapshot snapshot :=
  ⟨Text.bytesOf snapshot, Text.encode_of_scalar scalar, rfl⟩

/-- The store that holds two texts holds the second as the trace. -/
lemma holding_trace (scalar : Text.Scalar trace) :
    Holds (holding snapshot trace).read heldPlan.trace trace :=
  ⟨Text.bytesOf trace, Text.encode_of_scalar scalar, rfl⟩

/-- A mapping of one page and its size. -/
def onePage : Text := "1-2 rw-p /lib\nKernelPageSize: 4 kB\n"

/-- A claim of that size. -/
def onePageClaim : Text := "base=0x1 page_size=4K"

end PageAudit.Audit
