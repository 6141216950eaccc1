import PageAudit.Proofs.Audit.Held
import PageAudit.Proofs.Snapshot.Grammar
import PageAudit.Proofs.Text.Lines
import PageAudit.Proofs.Text.Parts

/-!
# The pathnames of mappings

Behind the permissions of a header stands text that anyone may have chosen, such as the name of the
file that is mapped. As long as it ends no line, it does not matter for what is read of a snapshot
file, whatever its bytes are (`pathname_never_matters`): it begins behind the blank that the header
needs, it stays within its line, and the rest of the file is read as it is without it.

A carriage return ends a line of a file, so a pathname with one makes a line of its own, and that
may be a header (`pathname_with_carriage_return`).
-/

namespace PageAudit.Audit

open Snapshot Text.Utf8

/-! ## Headers -/

/-- A character that spells an address ends no line. -/
lemma not_isFileBreak_of_isAddressChar {c : CodePoint} (spells : isAddressChar c = true) :
    Text.isFileBreak c = false := by
  rw [Bool.eq_false_iff]
  intro ends
  simp only [Text.isFileBreak, Bool.or_eq_true, beq_iff_eq] at ends
  obtain rfl | rfl := ends
  · cases spells
  · cases spells

/-- A character that stands for a permission ends no line. -/
lemma not_isFileBreak_of_isPermission {c : CodePoint} (permits : isPermission c = true) :
    Text.isFileBreak c = false := by
  rw [Bool.eq_false_iff]
  intro ends
  simp only [Text.isFileBreak, Bool.or_eq_true, beq_iff_eq] at ends
  obtain rfl | rfl := ends
  · cases permits
  · cases permits

/-- The front of a header ends no line. -/
lemma unbroken_of_heading {front start stop : Text} (heading : Heading front start stop) :
    ∀ c ∈ front, Text.isFileBreak c = false := by
  obtain ⟨permissions, rfl, -, permits⟩ := heading.split
  have starts := List.all_eq_true.mp heading.start_all
  have stops := List.all_eq_true.mp heading.stop_all
  have permits := List.all_eq_true.mp permits
  intro c mem
  simp only [List.mem_append, List.mem_cons] at mem
  obtain mem | rfl | mem | rfl | mem := mem
  · exact not_isFileBreak_of_isAddressChar (starts c mem)
  · rfl
  · exact not_isFileBreak_of_isAddressChar (stops c mem)
  · rfl
  · exact not_isFileBreak_of_isPermission (permits c mem)

/-- A file with a header whose permissions are followed by a blank, less what stands behind that
blank in the line: the bytes above the header, those of the header through the blank, and those
below it, which begin with the end of its line. -/
structure AroundPathname (above header below : List UInt8) : Prop where
  starts : ∀ b ∈ above.getLast?, isBreakByte b = true
  header : ∃ front start stop blank, Heading front start stop ∧ Text.isBlank blank = true ∧
    Text.isFileBreak blank = false ∧ Text.encode Text.bytes? (front ++ [blank]) = .ok header
  ends : ∀ b ∈ below.head?, isBreakByte b = true

variable {above header below rest rest' : List UInt8}

/-- Whatever bytes stand behind the blank, the lines of the file say the same, if they end no line.
-/
lemma AroundPathname.exists_kinds (around : AroundPathname above header below) :
    ∃ kinds, ∀ rest : List UInt8, (∀ b ∈ rest, isBreakByte b = false) →
      (Text.fileLines (decodeLenient (above ++ (header ++ (rest ++ below))))).map
        LineKind.ofLine = kinds := by
  obtain ⟨front, start, stop, blank, heading, separates, single, encoded⟩ := around.header
  obtain ⟨linesAbove, linesBelow, ending, fed, lines⟩ :=
    Text.exists_fileLines_around (getLast?_decodeLenient around.starts)
      (head?_decodeLenient around.ends)
  refine ⟨linesAbove.map LineKind.ofLine ++ .header start stop :: linesBelow.map LineKind.ofLine,
    fun rest within => ?_⟩
  let piece := front ++ blank :: decodeLenient rest
  have unbroken : ∀ c ∈ piece, Text.isFileBreak c = false := by
    intro c mem
    obtain mem | mem := List.mem_append.mp mem
    · exact unbroken_of_heading heading c mem
    · obtain rfl | mem := List.mem_cons.mp mem
      · exact single
      · exact unbroken_decodeLenient within c mem
  have decoded : decodeLenient (above ++ (header ++ (rest ++ below))) =
      decodeLenient above ++ (piece ++ decodeLenient below) := by
    rw [decodeLenient_append_of_getLast? fun b mem => ascii_of_isBreakByte (around.starts b mem),
      decodeLenient_encode_append encoded,
      decodeLenient_append_of_head? fun b mem => ascii_of_isBreakByte (around.ends b mem)]
    simp [piece]
  have header : LineKind.ofLine (piece ++ ending) = .header start stop := by
    have unfed : CodePoint.char '\n' ∉ piece := fun mem => by cases unbroken _ mem
    have read : header? piece = some (start, stop) :=
      heading.header? fun c head => by cases head; exact separates
    rw [LineKind.ofLine, Text.chomp_append_ending unfed fed, LineKind.ofText, read]
  rw [decoded, lines piece (by simp [piece]) unbroken, List.map_append, List.map_cons, header]

/-- **Pathnames do not matter.** In a snapshot file what stands behind the blank after the
permissions of a header may be replaced by any other bytes, if neither end a line: the same mappings
are loaded, or the same is found wrong. -/
theorem pathname_never_matters (around : AroundPathname above header below)
    (within : ∀ b ∈ rest, isBreakByte b = false) (within' : ∀ b ∈ rest', isBreakByte b = false)
    {read read' : FileReader} {path : Path}
    (reads : read path = .ok (above ++ (header ++ (rest ++ below))))
    (reads' : read' path = .ok (above ++ (header ++ (rest' ++ below))))
    (journal journal' : Option Journal) :
    ((loadSnapshot read path).on journal).1 = ((loadSnapshot read' path).on journal').1 := by
  obtain ⟨kinds, same⟩ := around.exists_kinds
  rw [(oblivious_loadSnapshot read path).on_eq, (oblivious_loadSnapshot read' path).on_eq]
  show (loadSnapshot read path).result = (loadSnapshot read' path).result
  rw [result_loadSnapshot, result_loadSnapshot, readLines, readLines, reads, reads']
  show (Snapshot.read _).result.mapError Stop.fault = (Snapshot.read _).result.mapError Stop.fault
  rw [result_read_congr ((same rest within).trans (same rest' within').symm)]

/-- A store of a snapshot file with these bytes. -/
def storing (bytes : List UInt8) : FileStore where
  entries := [([FileStore.partName "smaps"], .file bytes)]

/-- A pathname of bytes that are no text, the last of them the first byte of a character, does as
well as another. -/
theorem pathname_of_broken_bytes :
    let header := Text.bytesOf "1-2 rw-p\t"
    let below := Text.bytesOf "\r\nKernelPageSize: 4 kB\n"
    let file := (storing (header ++ (Text.bytesOf "/lib" ++ below))).read
    let file' := (storing (header ++ ([0x80, 0xff, 0xe2] ++ below))).read
    let m : Mapping := ⟨1, 2, 4, false, false, by decide, by decide, by decide⟩
    AroundPathname [] header below ∧
      ((loadSnapshot file (.ofText "smaps")).on none).1 = .ok [m] ∧
      ((loadSnapshot file' (.ofText "smaps")).on none).1 = .ok [m] := by
  intro header below file file' m
  have heading : Heading "1-2 rw-p" "1" "2" :=
    ⟨nofun, rfl, nofun, rfl, "rw-p", rfl, rfl, rfl⟩
  have around : AroundPathname [] header below :=
    ⟨nofun, ⟨_, _, _, '\t', heading, rfl, rfl, Text.encode_of_scalar (by decide)⟩,
      by decide +kernel⟩
  have loads : ((loadSnapshot file (.ofText "smaps")).on none).1 = .ok [m] := by decide +kernel
  have within : ∀ b ∈ Text.bytesOf "/lib", isBreakByte b = false := by decide +kernel
  have within' : ∀ b ∈ [0x80, 0xff, 0xe2], isBreakByte b = false := by decide +kernel
  have reads : file (.ofText "smaps") = .ok ([] ++ (header ++ (Text.bytesOf "/lib" ++ below))) :=
    rfl
  have reads' : file' (.ofText "smaps") = .ok ([] ++ (header ++ ([0x80, 0xff, 0xe2] ++ below))) :=
    rfl
  have same := pathname_never_matters around within within' reads reads' none none
  exact ⟨around, loads, same.symm.trans loads⟩

/-- A carriage return in a pathname ends the line, and what stands behind it is read as a header:
the mapping whose pathname it is has no page size any more. -/
theorem pathname_with_carriage_return :
    let file (pathname : Text) : FileReader :=
      (storing (Text.bytesOf "1-2 rw-p " ++ Text.bytesOf pathname ++
        Text.bytesOf "\nKernelPageSize: 4 kB\n")).read
    let m : Mapping := ⟨1, 2, 4, false, false, by decide, by decide, by decide⟩
    0x0a ∉ Text.bytesOf "/" ∧ 0x0a ∉ Text.bytesOf "/\r3-4 rw-p" ∧
      ((loadSnapshot (file "/") (.ofText "smaps")).on none).1 = .ok [m] ∧
      ((loadSnapshot (file "/\r3-4 rw-p") (.ofText "smaps")).on none).1 =
        .error (.fault (.finding (.snapshot (.noPageSize 1 2) (some 1)))) := by
  decide +kernel

end PageAudit.Audit
