import PageAudit.HostName.Row

/-!
# Joined letters

The foldings of letters as they stand within a word, alone or several as one sign, to the letters
themselves.
-/

namespace PageAudit.HostName

/-- The rows of joined letters. -/
def joinedRows : List Row :=
  [⟨0xfb00, 2, "fffifl"⟩, ⟨0xfb03, 3, "ffiffl"⟩, ⟨0xfb05, 2, "stst"⟩, ⟨0xfb13, 2, "մնմեմիվնմխ"⟩,
   ⟨0xfb1d, 2, "\u05d9\u05b4"⟩, ⟨0xfb1f, 2, "\u05f2\u05b7"⟩,
   ⟨0xfb20, 1, "\u05e2\u05d0\u05d3\u05d4\u05db\u05dc\u05dd\u05e8\u05ea+"⟩,
   ⟨0xfb2a, 2, "\u05e9\u05c1\u05e9\u05c2"⟩, ⟨0xfb2c, 3, "\u05e9\u05bc\u05c1\u05e9\u05bc\u05c2"⟩,
   ⟨0xfb2e, 2, "\u05d0\u05b7\u05d0\u05b8\u05d0\u05bc\u05d1\u05bc\u05d2\u05bc"⟩,
   ⟨0xfb33, 2, "\u05d3\u05bc\u05d4\u05bc\u05d5\u05bc\u05d6\u05bc"⟩,
   ⟨0xfb38, 2, "\u05d8\u05bc\u05d9\u05bc\u05da\u05bc\u05db\u05bc\u05dc\u05bc"⟩,
   ⟨0xfb3e, 2, "\u05de\u05bc"⟩, ⟨0xfb40, 2, "\u05e0\u05bc\u05e1\u05bc"⟩,
   ⟨0xfb43, 2, "\u05e3\u05bc\u05e4\u05bc"⟩,
   ⟨0xfb46, 2, "\u05e6\u05bc\u05e7\u05bc\u05e8\u05bc\u05e9\u05bc\u05ea\u05bc"⟩,
   ⟨0xfb4b, 2, "\u05d5\u05b9\u05d1\u05bf\u05db\u05bf\u05e4\u05bf\u05d0\u05dc"⟩,
   ⟨0xfb50, 1, "\u0671\u0671\u067b\u067b\u067b\u067b\u067e\u067e\u067e\u067e"⟩,
   ⟨0xfb5a, 1, "\u0680\u0680\u0680\u0680\u067a\u067a\u067a\u067a\u067f\u067f"⟩,
   ⟨0xfb64, 1, "\u067f\u067f\u0679\u0679\u0679\u0679\u06a4\u06a4\u06a4\u06a4"⟩,
   ⟨0xfb6e, 1, "\u06a6\u06a6\u06a6\u06a6\u0684\u0684\u0684\u0684\u0683\u0683"⟩,
   ⟨0xfb78, 1, "\u0683\u0683\u0686\u0686\u0686\u0686\u0687\u0687\u0687\u0687"⟩,
   ⟨0xfb82, 1, "\u068d\u068d\u068c\u068c\u068e\u068e\u0688\u0688\u0698\u0698"⟩,
   ⟨0xfb8c, 1, "\u0691\u0691\u06a9\u06a9\u06a9\u06a9\u06af\u06af\u06af\u06af"⟩,
   ⟨0xfb96, 1, "\u06b3\u06b3\u06b3\u06b3\u06b1\u06b1\u06b1\u06b1\u06ba\u06ba"⟩,
   ⟨0xfba0, 1, "\u06bb\u06bb\u06bb\u06bb\u06c0\u06c0\u06c1\u06c1\u06c1\u06c1"⟩,
   ⟨0xfbaa, 1, "\u06be\u06be\u06be\u06be\u06d2\u06d2\u06d3\u06d3"⟩,
   ⟨0xfbd3, 1, "\u06ad\u06ad\u06ad\u06ad\u06c7\u06c7\u06c6\u06c6\u06c8\u06c8"⟩,
   ⟨0xfbdd, 2, "\u06c7\u0674"⟩,
   ⟨0xfbde, 1, "\u06cb\u06cb\u06c5\u06c5\u06c9\u06c9\u06d0\u06d0\u06d0\u06d0"⟩,
   ⟨0xfbe8, 1, "\u0649\u0649"⟩,
   ⟨0xfbea, 2, "\u0626\u0627\u0626\u0627\u0626\u06d5\u0626\u06d5\u0626\u0648"⟩,
   ⟨0xfbef, 2, "\u0626\u0648\u0626\u06c7\u0626\u06c7\u0626\u06c6\u0626\u06c6"⟩,
   ⟨0xfbf4, 2, "\u0626\u06c8\u0626\u06c8\u0626\u06d0\u0626\u06d0\u0626\u06d0"⟩,
   ⟨0xfbf9, 2, "\u0626\u0649\u0626\u0649\u0626\u0649"⟩, ⟨0xfbfc, 1, "\u06cc\u06cc\u06cc\u06cc"⟩,
   ⟨0xfc00, 2, "\u0626\u062c\u0626\u062d\u0626\u0645\u0626\u0649\u0626\u064a"⟩,
   ⟨0xfc05, 2, "\u0628\u062c\u0628\u062d\u0628\u062e\u0628\u0645\u0628\u0649"⟩,
   ⟨0xfc0a, 2, "\u0628\u064a\u062a\u062c\u062a\u062d\u062a\u062e\u062a\u0645"⟩,
   ⟨0xfc0f, 2, "\u062a\u0649\u062a\u064a\u062b\u062c\u062b\u0645\u062b\u0649"⟩,
   ⟨0xfc14, 2, "\u062b\u064a\u062c\u062d\u062c\u0645\u062d\u062c\u062d\u0645"⟩,
   ⟨0xfc19, 2, "\u062e\u062c\u062e\u062d\u062e\u0645\u0633\u062c\u0633\u062d"⟩,
   ⟨0xfc1e, 2, "\u0633\u062e\u0633\u0645\u0635\u062d\u0635\u0645\u0636\u062c"⟩,
   ⟨0xfc23, 2, "\u0636\u062d\u0636\u062e\u0636\u0645\u0637\u062d\u0637\u0645"⟩,
   ⟨0xfc28, 2, "\u0638\u0645\u0639\u062c\u0639\u0645\u063a\u062c\u063a\u0645"⟩,
   ⟨0xfc2d, 2, "\u0641\u062c\u0641\u062d\u0641\u062e\u0641\u0645\u0641\u0649"⟩,
   ⟨0xfc32, 2, "\u0641\u064a\u0642\u062d\u0642\u0645\u0642\u0649\u0642\u064a"⟩,
   ⟨0xfc37, 2, "\u0643\u0627\u0643\u062c\u0643\u062d\u0643\u062e\u0643\u0644"⟩,
   ⟨0xfc3c, 2, "\u0643\u0645\u0643\u0649\u0643\u064a\u0644\u062c\u0644\u062d"⟩,
   ⟨0xfc41, 2, "\u0644\u062e\u0644\u0645\u0644\u0649\u0644\u064a\u0645\u062c"⟩,
   ⟨0xfc46, 2, "\u0645\u062d\u0645\u062e\u0645\u0645\u0645\u0649\u0645\u064a"⟩,
   ⟨0xfc4b, 2, "\u0646\u062c\u0646\u062d\u0646\u062e\u0646\u0645\u0646\u0649"⟩,
   ⟨0xfc50, 2, "\u0646\u064a\u0647\u062c\u0647\u0645\u0647\u0649\u0647\u064a"⟩,
   ⟨0xfc55, 2, "\u064a\u062c\u064a\u062d\u064a\u062e\u064a\u0645\u064a\u0649"⟩,
   ⟨0xfc5a, 2, "\u064a\u064a\u0630\u0670\u0631\u0670\u0649\u0670"⟩,
   ⟨0xfc5e, 3, " \u064c\u0651 \u064d\u0651 \u064e\u0651 \u064f\u0651"⟩,
   ⟨0xfc62, 3, " \u0650\u0651 \u0651\u0670"⟩,
   ⟨0xfc64, 2, "\u0626\u0631\u0626\u0632\u0626\u0645\u0626\u0646\u0626\u0649"⟩,
   ⟨0xfc69, 2, "\u0626\u064a\u0628\u0631\u0628\u0632\u0628\u0645\u0628\u0646"⟩,
   ⟨0xfc6e, 2, "\u0628\u0649\u0628\u064a\u062a\u0631\u062a\u0632\u062a\u0645"⟩,
   ⟨0xfc73, 2, "\u062a\u0646\u062a\u0649\u062a\u064a\u062b\u0631\u062b\u0632"⟩,
   ⟨0xfc78, 2, "\u062b\u0645\u062b\u0646\u062b\u0649\u062b\u064a\u0641\u0649"⟩,
   ⟨0xfc7d, 2, "\u0641\u064a\u0642\u0649\u0642\u064a\u0643\u0627\u0643\u0644"⟩,
   ⟨0xfc82, 2, "\u0643\u0645\u0643\u0649\u0643\u064a\u0644\u0645\u0644\u0649"⟩,
   ⟨0xfc87, 2, "\u0644\u064a\u0645\u0627\u0645\u0645\u0646\u0631\u0646\u0632"⟩,
   ⟨0xfc8c, 2, "\u0646\u0645\u0646\u0646\u0646\u0649\u0646\u064a\u0649\u0670"⟩,
   ⟨0xfc91, 2, "\u064a\u0631\u064a\u0632\u064a\u0645\u064a\u0646\u064a\u0649"⟩,
   ⟨0xfc96, 2, "\u064a\u064a\u0626\u062c\u0626\u062d\u0626\u062e\u0626\u0645"⟩,
   ⟨0xfc9b, 2, "\u0626\u0647\u0628\u062c\u0628\u062d\u0628\u062e\u0628\u0645"⟩,
   ⟨0xfca0, 2, "\u0628\u0647\u062a\u062c\u062a\u062d\u062a\u062e\u062a\u0645"⟩,
   ⟨0xfca5, 2, "\u062a\u0647\u062b\u0645\u062c\u062d\u062c\u0645\u062d\u062c"⟩,
   ⟨0xfcaa, 2, "\u062d\u0645\u062e\u062c\u062e\u0645\u0633\u062c\u0633\u062d"⟩,
   ⟨0xfcaf, 2, "\u0633\u062e\u0633\u0645\u0635\u062d\u0635\u062e\u0635\u0645"⟩,
   ⟨0xfcb4, 2, "\u0636\u062c\u0636\u062d\u0636\u062e\u0636\u0645\u0637\u062d"⟩,
   ⟨0xfcb9, 2, "\u0638\u0645\u0639\u062c\u0639\u0645\u063a\u062c\u063a\u0645"⟩,
   ⟨0xfcbe, 2, "\u0641\u062c\u0641\u062d\u0641\u062e\u0641\u0645\u0642\u062d"⟩,
   ⟨0xfcc3, 2, "\u0642\u0645\u0643\u062c\u0643\u062d\u0643\u062e\u0643\u0644"⟩,
   ⟨0xfcc8, 2, "\u0643\u0645\u0644\u062c\u0644\u062d\u0644\u062e\u0644\u0645"⟩,
   ⟨0xfccd, 2, "\u0644\u0647\u0645\u062c\u0645\u062d\u0645\u062e\u0645\u0645"⟩,
   ⟨0xfcd2, 2, "\u0646\u062c\u0646\u062d\u0646\u062e\u0646\u0645\u0646\u0647"⟩,
   ⟨0xfcd7, 2, "\u0647\u062c\u0647\u0645\u0647\u0670\u064a\u062c\u064a\u062d"⟩,
   ⟨0xfcdc, 2, "\u064a\u062e\u064a\u0645\u064a\u0647\u0626\u0645\u0626\u0647"⟩,
   ⟨0xfce1, 2, "\u0628\u0645\u0628\u0647\u062a\u0645\u062a\u0647\u062b\u0645"⟩,
   ⟨0xfce6, 2, "\u062b\u0647\u0633\u0645\u0633\u0647\u0634\u0645\u0634\u0647"⟩,
   ⟨0xfceb, 2, "\u0643\u0644\u0643\u0645\u0644\u0645\u0646\u0645\u0646\u0647"⟩,
   ⟨0xfcf0, 2, "\u064a\u0645\u064a\u0647"⟩,
   ⟨0xfcf2, 3, "\u0640\u064e\u0651\u0640\u064f\u0651\u0640\u0650\u0651"⟩,
   ⟨0xfcf5, 2, "\u0637\u0649\u0637\u064a\u0639\u0649\u0639\u064a\u063a\u0649"⟩,
   ⟨0xfcfa, 2, "\u063a\u064a\u0633\u0649\u0633\u064a\u0634\u0649\u0634\u064a"⟩,
   ⟨0xfcff, 2, "\u062d\u0649\u062d\u064a\u062c\u0649\u062c\u064a\u062e\u0649"⟩,
   ⟨0xfd04, 2, "\u062e\u064a\u0635\u0649\u0635\u064a\u0636\u0649\u0636\u064a"⟩,
   ⟨0xfd09, 2, "\u0634\u062c\u0634\u062d\u0634\u062e\u0634\u0645\u0634\u0631"⟩,
   ⟨0xfd0e, 2, "\u0633\u0631\u0635\u0631\u0636\u0631\u0637\u0649\u0637\u064a"⟩,
   ⟨0xfd13, 2, "\u0639\u0649\u0639\u064a\u063a\u0649\u063a\u064a\u0633\u0649"⟩,
   ⟨0xfd18, 2, "\u0633\u064a\u0634\u0649\u0634\u064a\u062d\u0649\u062d\u064a"⟩,
   ⟨0xfd1d, 2, "\u062c\u0649\u062c\u064a\u062e\u0649\u062e\u064a\u0635\u0649"⟩,
   ⟨0xfd22, 2, "\u0635\u064a\u0636\u0649\u0636\u064a\u0634\u062c\u0634\u062d"⟩,
   ⟨0xfd27, 2, "\u0634\u062e\u0634\u0645\u0634\u0631\u0633\u0631\u0635\u0631"⟩,
   ⟨0xfd2c, 2, "\u0636\u0631\u0634\u062c\u0634\u062d\u0634\u062e\u0634\u0645"⟩,
   ⟨0xfd31, 2, "\u0633\u0647\u0634\u0647\u0637\u0645\u0633\u062c\u0633\u062d"⟩,
   ⟨0xfd36, 2, "\u0633\u062e\u0634\u062c\u0634\u062d\u0634\u062e\u0637\u0645"⟩,
   ⟨0xfd3b, 2, "\u0638\u0645\u0627\u064b\u0627\u064b"⟩,
   ⟨0xfd50, 3, "\u062a\u062c\u0645\u062a\u062d\u062c\u062a\u062d\u062c"⟩,
   ⟨0xfd53, 3, "\u062a\u062d\u0645\u062a\u062e\u0645\u062a\u0645\u062c"⟩,
   ⟨0xfd56, 3, "\u062a\u0645\u062d\u062a\u0645\u062e\u062c\u0645\u062d"⟩,
   ⟨0xfd59, 3, "\u062c\u0645\u062d\u062d\u0645\u064a\u062d\u0645\u0649"⟩,
   ⟨0xfd5c, 3, "\u0633\u062d\u062c\u0633\u062c\u062d\u0633\u062c\u0649"⟩,
   ⟨0xfd5f, 3, "\u0633\u0645\u062d\u0633\u0645\u062d\u0633\u0645\u062c"⟩,
   ⟨0xfd62, 3, "\u0633\u0645\u0645\u0633\u0645\u0645\u0635\u062d\u062d"⟩,
   ⟨0xfd65, 3, "\u0635\u062d\u062d\u0635\u0645\u0645\u0634\u062d\u0645"⟩,
   ⟨0xfd68, 3, "\u0634\u062d\u0645\u0634\u062c\u064a\u0634\u0645\u062e"⟩,
   ⟨0xfd6b, 3, "\u0634\u0645\u062e\u0634\u0645\u0645\u0634\u0645\u0645"⟩,
   ⟨0xfd6e, 3, "\u0636\u062d\u0649\u0636\u062e\u0645\u0636\u062e\u0645"⟩,
   ⟨0xfd71, 3, "\u0637\u0645\u062d\u0637\u0645\u062d\u0637\u0645\u0645"⟩,
   ⟨0xfd74, 3, "\u0637\u0645\u064a\u0639\u062c\u0645\u0639\u0645\u0645"⟩,
   ⟨0xfd77, 3, "\u0639\u0645\u0645\u0639\u0645\u0649\u063a\u0645\u0645"⟩,
   ⟨0xfd7a, 3, "\u063a\u0645\u064a\u063a\u0645\u0649\u0641\u062e\u0645"⟩,
   ⟨0xfd7d, 3, "\u0641\u062e\u0645\u0642\u0645\u062d\u0642\u0645\u0645"⟩,
   ⟨0xfd80, 3, "\u0644\u062d\u0645\u0644\u062d\u064a\u0644\u062d\u0649"⟩,
   ⟨0xfd83, 3, "\u0644\u062c\u062c\u0644\u062c\u062c\u0644\u062e\u0645"⟩,
   ⟨0xfd86, 3, "\u0644\u062e\u0645\u0644\u0645\u062d\u0644\u0645\u062d"⟩,
   ⟨0xfd89, 3, "\u0645\u062d\u062c\u0645\u062d\u0645\u0645\u062d\u064a"⟩,
   ⟨0xfd8c, 3, "\u0645\u062c\u062d\u0645\u062c\u0645\u0645\u062e\u062c"⟩,
   ⟨0xfd8f, 3, "\u0645\u062e\u0645"⟩,
   ⟨0xfd92, 3, "\u0645\u062c\u062e\u0647\u0645\u062c\u0647\u0645\u0645"⟩,
   ⟨0xfd95, 3, "\u0646\u062d\u0645\u0646\u062d\u0649\u0646\u062c\u0645"⟩,
   ⟨0xfd98, 3, "\u0646\u062c\u0645\u0646\u062c\u0649\u0646\u0645\u064a"⟩,
   ⟨0xfd9b, 3, "\u0646\u0645\u0649\u064a\u0645\u0645\u064a\u0645\u0645"⟩,
   ⟨0xfd9e, 3, "\u0628\u062e\u064a\u062a\u062c\u064a\u062a\u062c\u0649"⟩,
   ⟨0xfda1, 3, "\u062a\u062e\u064a\u062a\u062e\u0649\u062a\u0645\u064a"⟩,
   ⟨0xfda4, 3, "\u062a\u0645\u0649\u062c\u0645\u064a\u062c\u062d\u0649"⟩,
   ⟨0xfda7, 3, "\u062c\u0645\u0649\u0633\u062e\u0649\u0635\u062d\u064a"⟩,
   ⟨0xfdaa, 3, "\u0634\u062d\u064a\u0636\u062d\u064a\u0644\u062c\u064a"⟩,
   ⟨0xfdad, 3, "\u0644\u0645\u064a\u064a\u062d\u064a\u064a\u062c\u064a"⟩,
   ⟨0xfdb0, 3, "\u064a\u0645\u064a\u0645\u0645\u064a\u0642\u0645\u064a"⟩,
   ⟨0xfdb3, 3, "\u0646\u062d\u064a\u0642\u0645\u062d\u0644\u062d\u0645"⟩,
   ⟨0xfdb6, 3, "\u0639\u0645\u064a\u0643\u0645\u064a\u0646\u062c\u062d"⟩,
   ⟨0xfdb9, 3, "\u0645\u062e\u064a\u0644\u062c\u0645\u0643\u0645\u0645"⟩,
   ⟨0xfdbc, 3, "\u0644\u062c\u0645\u0646\u062c\u062d\u062c\u062d\u064a"⟩,
   ⟨0xfdbf, 3, "\u062d\u062c\u064a\u0645\u062c\u064a\u0641\u0645\u064a"⟩,
   ⟨0xfdc2, 3, "\u0628\u062d\u064a\u0643\u0645\u0645\u0639\u062c\u0645"⟩,
   ⟨0xfdc5, 3, "\u0635\u0645\u0645\u0633\u062e\u064a\u0646\u062c\u064a"⟩,
   ⟨0xfdf0, 3, "\u0635\u0644\u06d2\u0642\u0644\u06d2"⟩,
   ⟨0xfdf2, 4, "\u0627\u0644\u0644\u0647\u0627\u0643\u0628\u0631"⟩,
   ⟨0xfdf4, 4, "\u0645\u062d\u0645\u062f\u0635\u0644\u0639\u0645"⟩,
   ⟨0xfdf6, 4, "\u0631\u0633\u0648\u0644\u0639\u0644\u064a\u0647"⟩,
   ⟨0xfdf8, 4, "\u0648\u0633\u0644\u0645"⟩, ⟨0xfdf9, 3, "\u0635\u0644\u0649"⟩,
   ⟨0xfdfa, 18,
   "\u0635\u0644\u0649 \u0627\u0644\u0644\u0647 \u0639\u0644\u064a\u0647 \u0648\u0633\u0644\u0645"⟩,
   ⟨0xfdfb, 8, "\u062c\u0644 \u062c\u0644\u0627\u0644\u0647"⟩,
   ⟨0xfdfc, 4, "\u0631\u06cc\u0627\u0644"⟩, ⟨0xfe70, 2, " \u064b\u0640\u064b \u064c"⟩,
   ⟨0xfe74, 2, " \u064d"⟩, ⟨0xfe76, 2, " \u064e\u0640\u064e \u064f\u0640\u064f \u0650\u0640\u0650"⟩,
   ⟨0xfe7c, 2, " \u0651\u0640\u0651 \u0652\u0640\u0652"⟩,
   ⟨0xfe80, 1, "\u0621\u0622\u0622\u0623\u0623\u0624\u0624\u0625\u0625\u0626"⟩,
   ⟨0xfe8a, 1, "\u0626\u0626\u0626\u0627\u0627\u0628\u0628\u0628\u0628\u0629"⟩,
   ⟨0xfe94, 1, "\u0629\u062a\u062a\u062a\u062a\u062b\u062b\u062b\u062b\u062c"⟩,
   ⟨0xfe9e, 1, "\u062c\u062c\u062c\u062d\u062d\u062d\u062d\u062e\u062e\u062e"⟩,
   ⟨0xfea8, 1, "\u062e\u062f\u062f\u0630\u0630\u0631\u0631\u0632\u0632\u0633"⟩,
   ⟨0xfeb2, 1, "\u0633\u0633\u0633\u0634\u0634\u0634\u0634\u0635\u0635\u0635"⟩,
   ⟨0xfebc, 1, "\u0635\u0636\u0636\u0636\u0636\u0637\u0637\u0637\u0637\u0638"⟩,
   ⟨0xfec6, 1, "\u0638\u0638\u0638\u0639\u0639\u0639\u0639\u063a\u063a\u063a"⟩,
   ⟨0xfed0, 1, "\u063a\u0641\u0641\u0641\u0641\u0642\u0642\u0642\u0642\u0643"⟩,
   ⟨0xfeda, 1, "\u0643\u0643\u0643\u0644\u0644\u0644\u0644\u0645\u0645\u0645"⟩,
   ⟨0xfee4, 1, "\u0645\u0646\u0646\u0646\u0646\u0647\u0647\u0647\u0647\u0648"⟩,
   ⟨0xfeee, 1, "\u0648\u0649\u0649\u064a\u064a\u064a\u064a"⟩,
   ⟨0xfef5, 2, "\u0644\u0622\u0644\u0622\u0644\u0623\u0644\u0623\u0644\u0625"⟩,
   ⟨0xfefa, 2, "\u0644\u0625\u0644\u0627\u0644\u0627"⟩]

end PageAudit.HostName
