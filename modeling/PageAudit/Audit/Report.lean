import PageAudit.Audit.Auditor

/-!
# Reporting a verdict

The text that tells a verdict: one line if every claim held, and otherwise one line for the whole
and an indented one for each failure.
-/

namespace PageAudit.Audit

/-- The verdict in words. -/
def Verdict.report (v : Verdict) : Text :=
  if v.passed then
    "PASS: " ++ toString v.checked ++ " page sizes checked (" ++ toString v.tolerated ++
      " THP tolerated)"
  else
    let head : Text :=
      "FAIL: " ++ toString v.violations.length ++ " of " ++ toString v.checked ++
        " page sizes failed"
    Text.join "\n" (head :: v.violations.map fun f => "  " ++ f.message)

end PageAudit.Audit
