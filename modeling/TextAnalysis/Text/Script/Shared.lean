/-
# Characters of several scripts

The characters that are used in other scripts than the one they belong to, with the short names of all scripts
that use them.
-/
import TextAnalysis.Text.CharRange

namespace TextAnalysis.CharRange

/-- Characters with the scripts that use them. -/
def usedInScripts : List NamedRanges := [
  ⟨["avst", "cari", "copt", "dupl", "elba", "geor", "glag", "gong", "goth", "grek", "hani", "latn",
    "lydi", "mahj", "perm", "shaw"], [⟨0xB7, 0xB7, 1⟩]⟩,
  ⟨["beng", "cyrl", "deva", "latn", "lisu", "thai", "toto"], [⟨0x2BC, 0x2BC, 1⟩]⟩,
  ⟨["bopo", "latn"], [⟨0x2C7, 0x2C7, 1⟩, ⟨0x2C9, 0x2CB, 1⟩, ⟨0x2D9, 0x2D9, 1⟩]⟩,
  ⟨["latn", "lisu"], [⟨0x2CD, 0x2CD, 1⟩]⟩,
  ⟨["latn", "thai"], [⟨0x2D7, 0x2D7, 1⟩]⟩,
  ⟨["cher", "copt", "cyrl", "grek", "latn", "perm", "sunu", "tale"], [⟨0x300, 0x300, 1⟩]⟩,
  ⟨["cher", "cyrl", "grek", "latn", "osge", "sunu", "tale", "todr"], [⟨0x301, 0x301, 1⟩]⟩,
  ⟨["cher", "cyrl", "latn", "tfng"], [⟨0x302, 0x302, 1⟩]⟩,
  ⟨["glag", "latn", "sunu", "syrc", "thai"], [⟨0x303, 0x303, 1⟩]⟩,
  ⟨["aghb", "cher", "copt", "cyrl", "goth", "grek", "latn", "osge", "syrc", "tfng", "todr"], [
    ⟨0x304, 0x304, 1⟩]⟩,
  ⟨["copt", "elba", "glag", "goth", "kana", "latn"], [⟨0x305, 0x305, 1⟩]⟩,
  ⟨["cyrl", "grek", "latn", "perm", "tfng"], [⟨0x306, 0x306, 1⟩]⟩,
  ⟨["copt", "dupl", "hebr", "latn", "perm", "syrc", "tale", "tfng", "todr"], [⟨0x307, 0x307, 1⟩]⟩,
  ⟨["armn", "cyrl", "dupl", "goth", "grek", "hebr", "latn", "perm", "syrc", "tale", "tfng"], [
    ⟨0x308, 0x308, 1⟩]⟩,
  ⟨["latn", "tfng"], [⟨0x309, 0x309, 1⟩]⟩,
  ⟨["dupl", "latn", "syrc"], [⟨0x30A, 0x30A, 1⟩]⟩,
  ⟨["cher", "cyrl", "latn", "osge"], [⟨0x30B, 0x30B, 1⟩]⟩,
  ⟨["cher", "latn", "tale"], [⟨0x30C, 0x30C, 1⟩]⟩,
  ⟨["latn", "sunu"], [⟨0x30D, 0x30D, 1⟩, ⟨0x310, 0x310, 1⟩]⟩,
  ⟨["ethi", "latn"], [⟨0x30E, 0x30E, 1⟩]⟩,
  ⟨["cyrl", "latn", "todr"], [⟨0x311, 0x311, 1⟩]⟩,
  ⟨["grek", "latn", "perm", "todr"], [⟨0x313, 0x313, 1⟩]⟩,
  ⟨["cher", "dupl", "kana", "latn", "syrc", "tfng"], [⟨0x323, 0x323, 1⟩]⟩,
  ⟨["cher", "dupl", "latn", "syrc"], [⟨0x324, 0x324, 1⟩]⟩,
  ⟨["latn", "syrc"], [⟨0x325, 0x325, 1⟩, ⟨0x32E, 0x32E, 1⟩]⟩,
  ⟨["latn", "sunu", "syrc"], [⟨0x32D, 0x32D, 1⟩]⟩,
  ⟨["cher", "latn", "syrc"], [⟨0x330, 0x330, 1⟩]⟩,
  ⟨["aghb", "cher", "goth", "latn", "sunu", "syrc", "thai"], [⟨0x331, 0x331, 1⟩]⟩,
  ⟨["grek"], [⟨0x342, 0x342, 1⟩, ⟨0x345, 0x345, 1⟩, ⟨0x1DC0, 0x1DC1, 1⟩]⟩,
  ⟨["latn", "osge"], [⟨0x358, 0x358, 1⟩]⟩,
  ⟨["aghb", "latn", "todr"], [⟨0x35E, 0x35E, 1⟩]⟩,
  ⟨["latn"], [⟨0x363, 0x36F, 1⟩]⟩,
  ⟨["copt", "grek"], [⟨0x374, 0x375, 1⟩]⟩,
  ⟨["cyrl", "perm"], [⟨0x483, 0x483, 1⟩]⟩,
  ⟨["cyrl", "glag"], [⟨0x484, 0x484, 1⟩, ⟨0x487, 0x487, 1⟩, ⟨0x2E43, 0x2E43, 1⟩, ⟨0xA66F, 0xA66F, 1⟩]⟩,
  ⟨["cyrl", "latn"], [⟨0x485, 0x486, 1⟩]⟩,
  ⟨["armn", "geor", "glag"], [⟨0x589, 0x589, 1⟩]⟩,
  ⟨["arab", "gara", "nkoo", "rohg", "syrc", "thaa", "yezi"], [⟨0x60C, 0x60C, 1⟩, ⟨0x61B, 0x61B, 1⟩]⟩,
  ⟨["arab", "syrc", "thaa"], [⟨0x61C, 0x61C, 1⟩]⟩,
  ⟨["adlm", "arab", "gara", "nkoo", "rohg", "syrc", "thaa", "yezi"], [⟨0x61F, 0x61F, 1⟩]⟩,
  ⟨["adlm", "arab", "mand", "mani", "ougr", "phlp", "rohg", "sogd", "syrc"], [⟨0x640, 0x640, 1⟩]⟩,
  ⟨["arab", "syrc"], [⟨0x64B, 0x655, 1⟩, ⟨0x670, 0x670, 1⟩]⟩,
  ⟨["arab", "thaa", "yezi"], [⟨0x660, 0x669, 1⟩]⟩,
  ⟨["arab", "rohg"], [⟨0x6D4, 0x6D4, 1⟩]⟩,
  ⟨["beng", "deva", "gran", "gujr", "guru", "knda", "latn", "mlym", "nand", "newa", "orya", "shrd",
    "taml", "telu", "tirh"], [⟨0x951, 0x951, 1⟩]⟩,
  ⟨["beng", "deva", "gran", "gujr", "guru", "knda", "latn", "mlym", "newa", "orya", "taml", "telu",
    "tirh"], [⟨0x952, 0x952, 1⟩]⟩,
  ⟨["beng", "deva", "dogr", "gong", "gonm", "gran", "gujr", "guru", "knda", "mahj", "mlym", "nand",
    "onao", "orya", "sind", "sinh", "sylo", "takr", "taml", "telu", "tirh"], [⟨0x964, 0x964, 1⟩]⟩,
  ⟨["beng", "deva", "dogr", "gong", "gonm", "gran", "gujr", "gukh", "guru", "knda", "limb", "mahj",
    "mlym", "nand", "onao", "orya", "sind", "sinh", "sylo", "takr", "taml", "telu", "tirh"], [
    ⟨0x965, 0x965, 1⟩]⟩,
  ⟨["deva", "dogr", "kthi", "mahj"], [⟨0x966, 0x96F, 1⟩]⟩,
  ⟨["beng", "cakm", "sylo"], [⟨0x9E6, 0x9EF, 1⟩]⟩,
  ⟨["guru", "mult"], [⟨0xA66, 0xA6F, 1⟩]⟩,
  ⟨["gujr", "khoj"], [⟨0xAE6, 0xAEF, 1⟩]⟩,
  ⟨["gran", "taml"], [
    ⟨0xBE6, 0xBF3, 1⟩, ⟨0x11301, 0x11301, 1⟩, ⟨0x11303, 0x11303, 1⟩, ⟨0x1133B, 0x1133C, 1⟩,
    ⟨0x11FD0, 0x11FD1, 1⟩, ⟨0x11FD3, 0x11FD3, 1⟩]⟩,
  ⟨["knda", "nand", "tutg"], [⟨0xCE6, 0xCEF, 1⟩]⟩,
  ⟨["cakm", "mymr", "tale"], [⟨0x1040, 0x1049, 1⟩]⟩,
  ⟨["geor", "glag", "latn"], [⟨0x10FB, 0x10FB, 1⟩]⟩,
  ⟨["runr"], [⟨0x16EB, 0x16ED, 1⟩]⟩,
  ⟨["buhd", "hano", "tagb", "tglg"], [⟨0x1735, 0x1736, 1⟩]⟩,
  ⟨["mong", "phag"], [⟨0x1802, 0x1803, 1⟩, ⟨0x1805, 0x1805, 1⟩]⟩,
  ⟨["beng", "deva", "gran", "knda"], [⟨0x1CD0, 0x1CD0, 1⟩, ⟨0x1CD2, 0x1CD2, 1⟩]⟩,
  ⟨["deva"], [
    ⟨0x1CD1, 0x1CD1, 1⟩, ⟨0x1CD4, 0x1CD4, 1⟩, ⟨0x1CDB, 0x1CDB, 1⟩, ⟨0x1CDE, 0x1CDF, 1⟩,
    ⟨0x1CE3, 0x1CE8, 1⟩, ⟨0x1CEC, 0x1CEC, 1⟩, ⟨0x1CEE, 0x1CF1, 1⟩]⟩,
  ⟨["deva", "gran", "knda"], [⟨0x1CD3, 0x1CD3, 1⟩]⟩,
  ⟨["beng", "deva", "newa", "telu", "tirh"], [⟨0x1CD5, 0x1CD5, 1⟩]⟩,
  ⟨["beng", "deva", "telu"], [⟨0x1CD6, 0x1CD6, 1⟩]⟩,
  ⟨["deva", "newa", "shrd"], [⟨0x1CD7, 0x1CD7, 1⟩]⟩,
  ⟨["beng", "deva", "newa", "telu"], [⟨0x1CD8, 0x1CD8, 1⟩]⟩,
  ⟨["deva", "shrd"], [⟨0x1CD9, 0x1CD9, 1⟩, ⟨0x1CDC, 0x1CDD, 1⟩, ⟨0x1CE0, 0x1CE0, 1⟩]⟩,
  ⟨["deva", "knda", "mlym", "orya", "taml", "telu"], [⟨0x1CDA, 0x1CDA, 1⟩]⟩,
  ⟨["beng", "deva"], [⟨0x1CE1, 0x1CE1, 1⟩, ⟨0x1CF5, 0x1CF6, 1⟩]⟩,
  ⟨["deva", "newa", "tirh"], [⟨0x1CE2, 0x1CE2, 1⟩]⟩,
  ⟨["deva", "nand", "newa"], [⟨0x1CE9, 0x1CE9, 1⟩]⟩,
  ⟨["beng", "deva", "shrd"], [⟨0x1CEA, 0x1CEA, 1⟩]⟩,
  ⟨["deva", "newa"], [⟨0x1CEB, 0x1CEB, 1⟩]⟩,
  ⟨["beng", "deva", "newa", "shrd"], [⟨0x1CED, 0x1CED, 1⟩]⟩,
  ⟨["beng", "deva", "gran", "knda", "mlym", "nand", "orya", "sinh", "telu", "tirh", "tutg"], [
    ⟨0x1CF2, 0x1CF2, 1⟩]⟩,
  ⟨["deva", "gran"], [⟨0x1CF3, 0x1CF3, 1⟩, ⟨0x1CF8, 0x1CF9, 1⟩]⟩,
  ⟨["deva", "gran", "knda", "tutg"], [⟨0x1CF4, 0x1CF4, 1⟩]⟩,
  ⟨["beng"], [⟨0x1CF7, 0x1CF7, 1⟩]⟩,
  ⟨["nand"], [⟨0x1CFA, 0x1CFA, 1⟩]⟩,
  ⟨["cyrl", "latn", "syrc"], [⟨0x1DF8, 0x1DF8, 1⟩]⟩,
  ⟨["syrc"], [⟨0x1DFA, 0x1DFA, 1⟩]⟩,
  ⟨["latn", "mong", "phag"], [⟨0x202F, 0x202F, 1⟩]⟩,
  ⟨["adlm", "arab"], [⟨0x204F, 0x204F, 1⟩]⟩,
  ⟨["cari", "geor", "glag", "hung", "lyci", "orkh"], [⟨0x205A, 0x205A, 1⟩]⟩,
  ⟨["cari", "grek", "hung", "mero"], [⟨0x205D, 0x205D, 1⟩]⟩,
  ⟨["deva", "gran", "latn"], [⟨0x20F0, 0x20F0, 1⟩]⟩,
  ⟨["copt", "latn"], [⟨0x2E17, 0x2E17, 1⟩]⟩,
  ⟨["avst", "orkh"], [⟨0x2E30, 0x2E30, 1⟩]⟩,
  ⟨["avst", "cari", "geor", "hung", "kthi", "lydi", "samr"], [⟨0x2E31, 0x2E31, 1⟩]⟩,
  ⟨["dupl"], [⟨0x2E3C, 0x2E3C, 1⟩, ⟨0x1BCA0, 0x1BCA3, 1⟩]⟩,
  ⟨["adlm", "arab", "hung"], [⟨0x2E41, 0x2E41, 1⟩]⟩,
  ⟨["hani", "tang"], [⟨0x2FF0, 0x2FFF, 1⟩, ⟨0x31EF, 0x31EF, 1⟩]⟩,
  ⟨["bopo", "hang", "hani", "hira", "kana", "mong", "yiii"], [⟨0x3001, 0x3001, 1⟩]⟩,
  ⟨["bopo", "hang", "hani", "hira", "kana", "mong", "phag", "yiii"], [⟨0x3002, 0x3002, 1⟩]⟩,
  ⟨["bopo", "hang", "hani", "hira", "kana"], [
    ⟨0x3003, 0x3003, 1⟩, ⟨0x3013, 0x3013, 1⟩, ⟨0x301C, 0x301F, 1⟩, ⟨0x3030, 0x3030, 1⟩,
    ⟨0x3037, 0x3037, 1⟩, ⟨0xFE45, 0xFE46, 1⟩]⟩,
  ⟨["hani"], [
    ⟨0x3006, 0x3006, 1⟩, ⟨0x303E, 0x303F, 1⟩, ⟨0x3190, 0x319F, 1⟩, ⟨0x31C0, 0x31E5, 1⟩,
    ⟨0x3220, 0x3247, 1⟩, ⟨0x3280, 0x32B0, 1⟩, ⟨0x32C0, 0x32CB, 1⟩, ⟨0x32FF, 0x32FF, 1⟩,
    ⟨0x3358, 0x3370, 1⟩, ⟨0x337B, 0x337F, 1⟩, ⟨0x33E0, 0x33FE, 1⟩, ⟨0x1D360, 0x1D371, 1⟩,
    ⟨0x1F250, 0x1F251, 1⟩]⟩,
  ⟨["bopo", "hang", "hani", "hira", "kana", "mong", "tibt", "yiii"], [⟨0x3008, 0x3009, 1⟩]⟩,
  ⟨["bopo", "hang", "hani", "hira", "kana", "lisu", "mong", "tibt", "yiii"], [⟨0x300A, 0x300B, 1⟩]⟩,
  ⟨["bopo", "hang", "hani", "hira", "kana", "yiii"], [
    ⟨0x300C, 0x3011, 1⟩, ⟨0x3014, 0x301B, 1⟩, ⟨0x30FB, 0x30FB, 1⟩, ⟨0xFF61, 0xFF65, 1⟩]⟩,
  ⟨["bopo", "hani"], [⟨0x302A, 0x302D, 1⟩]⟩,
  ⟨["hira", "kana"], [
    ⟨0x3031, 0x3035, 1⟩, ⟨0x3099, 0x309C, 1⟩, ⟨0x30A0, 0x30A0, 1⟩, ⟨0x30FC, 0x30FC, 1⟩,
    ⟨0xFF70, 0xFF70, 1⟩, ⟨0xFF9E, 0xFF9F, 1⟩]⟩,
  ⟨["hani", "hira", "kana"], [⟨0x303C, 0x303D, 1⟩]⟩,
  ⟨["hani", "latn"], [⟨0xA700, 0xA707, 1⟩]⟩,
  ⟨["deva", "dogr", "gujr", "guru", "khoj", "knda", "kthi", "mahj", "mlym", "modi", "nand", "shrd",
    "sind", "takr", "tirh", "tutg"], [⟨0xA830, 0xA832, 1⟩]⟩,
  ⟨["deva", "dogr", "gujr", "guru", "khoj", "knda", "kthi", "mahj", "modi", "nand", "shrd", "sind",
    "takr", "tirh", "tutg"], [⟨0xA833, 0xA835, 1⟩]⟩,
  ⟨["deva", "dogr", "gujr", "guru", "khoj", "kthi", "mahj", "modi", "sind", "takr", "tirh"], [
    ⟨0xA836, 0xA837, 1⟩, ⟨0xA839, 0xA839, 1⟩]⟩,
  ⟨["deva", "dogr", "gujr", "guru", "khoj", "kthi", "mahj", "modi", "shrd", "sind", "takr", "tirh"], [
    ⟨0xA838, 0xA838, 1⟩]⟩,
  ⟨["beng", "deva", "tutg"], [⟨0xA8F1, 0xA8F1, 1⟩]⟩,
  ⟨["deva", "taml"], [⟨0xA8F3, 0xA8F3, 1⟩]⟩,
  ⟨["kali", "latn", "mymr"], [⟨0xA92E, 0xA92E, 1⟩]⟩,
  ⟨["bugi", "java"], [⟨0xA9CF, 0xA9CF, 1⟩]⟩,
  ⟨["arab", "nkoo"], [⟨0xFD3E, 0xFD3F, 1⟩]⟩,
  ⟨["arab", "thaa"], [⟨0xFDF2, 0xFDF2, 1⟩, ⟨0xFDFD, 0xFDFD, 1⟩]⟩,
  ⟨["cpmn", "cprt", "linb"], [⟨0x10100, 0x10101, 1⟩]⟩,
  ⟨["cprt", "linb"], [⟨0x10102, 0x10102, 1⟩, ⟨0x10137, 0x1013F, 1⟩]⟩,
  ⟨["cprt", "lina", "linb"], [⟨0x10107, 0x10133, 1⟩]⟩,
  ⟨["arab", "copt"], [⟨0x102E0, 0x102FB, 1⟩]⟩,
  ⟨["mani", "ougr"], [⟨0x10AF2, 0x10AF2, 1⟩]⟩]

end TextAnalysis.CharRange
