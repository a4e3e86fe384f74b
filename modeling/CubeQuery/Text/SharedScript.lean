import CubeQuery.Text.Run

/-!
# Characters of several scripts

Unicode's `Script_Extensions` tells of characters that do not belong to one script which scripts
use them.
-/

namespace CubeQuery.Text

/-- The characters that several scripts use, by the code of a script: those that are
    `Common` or `Inherited`, or belong to another script, and are used in it, too. -/
def sharedByScript : List (String × List Run) :=
  [
   ("Adlm",
     [⟨0x61F, 0x61F, 1⟩, ⟨0x640, 0x640, 1⟩, ⟨0x204F, 0x204F, 1⟩, ⟨0x2E41, 0x2E41, 1⟩]),
   ("Arab",
     [⟨0x60C, 0x60C, 1⟩, ⟨0x61B, 0x61B, 1⟩, ⟨0x61F, 0x61F, 1⟩, ⟨0x640, 0x640, 1⟩,
     ⟨0x64B, 0x655, 1⟩, ⟨0x670, 0x670, 1⟩, ⟨0x204F, 0x204F, 1⟩, ⟨0x2E41, 0x2E41, 1⟩,
     ⟨0xFD3E, 0xFD3F, 1⟩, ⟨0x102E0, 0x102FB, 1⟩]),
   ("Armn",
     [⟨0x308, 0x308, 1⟩]),
   ("Avst",
     [⟨0xB7, 0xB7, 1⟩, ⟨0x2E30, 0x2E31, 1⟩]),
   ("Beng",
     [⟨0x2BC, 0x2BC, 1⟩, ⟨0x951, 0x952, 1⟩, ⟨0x964, 0x965, 1⟩, ⟨0x1CD0, 0x1CD2, 2⟩,
     ⟨0x1CD5, 0x1CD6, 1⟩, ⟨0x1CD8, 0x1CD8, 1⟩, ⟨0x1CE1, 0x1CE1, 1⟩, ⟨0x1CEA, 0x1CEA, 1⟩,
     ⟨0x1CED, 0x1CED, 1⟩, ⟨0x1CF2, 0x1CF2, 1⟩, ⟨0x1CF5, 0x1CF7, 1⟩, ⟨0xA8F1, 0xA8F1, 1⟩]),
   ("Bopo",
     [⟨0x2C7, 0x2C7, 1⟩, ⟨0x2C9, 0x2CB, 1⟩, ⟨0x2D9, 0x2D9, 1⟩, ⟨0x3001, 0x3003, 1⟩,
     ⟨0x3008, 0x3011, 1⟩, ⟨0x3013, 0x301F, 1⟩, ⟨0x302A, 0x302D, 1⟩, ⟨0x3030, 0x3030, 1⟩,
     ⟨0x3037, 0x3037, 1⟩, ⟨0x30FB, 0x30FB, 1⟩, ⟨0xFE45, 0xFE46, 1⟩, ⟨0xFF61, 0xFF65, 1⟩]),
   ("Bugi",
     [⟨0xA9CF, 0xA9CF, 1⟩]),
   ("Buhd",
     [⟨0x1735, 0x1736, 1⟩]),
   ("Cari",
     [⟨0xB7, 0xB7, 1⟩, ⟨0x205A, 0x205A, 1⟩, ⟨0x205D, 0x205D, 1⟩, ⟨0x2E31, 0x2E31, 1⟩]),
   ("Aghb",
     [⟨0x304, 0x304, 1⟩, ⟨0x331, 0x331, 1⟩, ⟨0x35E, 0x35E, 1⟩]),
   ("Cakm",
     [⟨0x9E6, 0x9EF, 1⟩, ⟨0x1040, 0x1049, 1⟩]),
   ("Cher",
     [⟨0x300, 0x302, 1⟩, ⟨0x304, 0x304, 1⟩, ⟨0x30B, 0x30C, 1⟩, ⟨0x323, 0x324, 1⟩,
     ⟨0x330, 0x331, 1⟩]),
   ("Copt",
     [⟨0xB7, 0xB7, 1⟩, ⟨0x300, 0x300, 1⟩, ⟨0x304, 0x305, 1⟩, ⟨0x307, 0x307, 1⟩,
     ⟨0x374, 0x375, 1⟩, ⟨0x2E17, 0x2E17, 1⟩, ⟨0x102E0, 0x102FB, 1⟩]),
   ("Cprt",
     [⟨0x10100, 0x10102, 1⟩, ⟨0x10107, 0x10133, 1⟩, ⟨0x10137, 0x1013F, 1⟩]),
   ("Cpmn",
     [⟨0x10100, 0x10101, 1⟩]),
   ("Cyrl",
     [⟨0x2BC, 0x2BC, 1⟩, ⟨0x300, 0x302, 1⟩, ⟨0x304, 0x308, 2⟩, ⟨0x30B, 0x30B, 1⟩,
     ⟨0x311, 0x311, 1⟩, ⟨0x485, 0x486, 1⟩, ⟨0x1DF8, 0x1DF8, 1⟩, ⟨0x2E43, 0x2E43, 1⟩]),
   ("Deva",
     [⟨0x2BC, 0x2BC, 1⟩, ⟨0x951, 0x952, 1⟩, ⟨0x964, 0x965, 1⟩, ⟨0x1CD0, 0x1CF6, 1⟩,
     ⟨0x1CF8, 0x1CF9, 1⟩, ⟨0x20F0, 0x20F0, 1⟩, ⟨0xA830, 0xA839, 1⟩]),
   ("Dogr",
     [⟨0x964, 0x96F, 1⟩, ⟨0xA830, 0xA839, 1⟩]),
   ("Dupl",
     [⟨0xB7, 0xB7, 1⟩, ⟨0x307, 0x308, 1⟩, ⟨0x30A, 0x30A, 1⟩, ⟨0x323, 0x324, 1⟩,
     ⟨0x2E3C, 0x2E3C, 1⟩, ⟨0x1BCA0, 0x1BCA3, 1⟩]),
   ("Elba",
     [⟨0xB7, 0xB7, 1⟩, ⟨0x305, 0x305, 1⟩]),
   ("Ethi",
     [⟨0x30E, 0x30E, 1⟩]),
   ("Gara",
     [⟨0x60C, 0x60C, 1⟩, ⟨0x61B, 0x61B, 1⟩, ⟨0x61F, 0x61F, 1⟩]),
   ("Geor",
     [⟨0xB7, 0xB7, 1⟩, ⟨0x589, 0x589, 1⟩, ⟨0x10FB, 0x10FB, 1⟩, ⟨0x205A, 0x205A, 1⟩,
     ⟨0x2E31, 0x2E31, 1⟩]),
   ("Glag",
     [⟨0xB7, 0xB7, 1⟩, ⟨0x303, 0x305, 2⟩, ⟨0x484, 0x484, 1⟩, ⟨0x487, 0x487, 1⟩,
     ⟨0x589, 0x589, 1⟩, ⟨0x10FB, 0x10FB, 1⟩, ⟨0x205A, 0x205A, 1⟩, ⟨0x2E43, 0x2E43, 1⟩,
     ⟨0xA66F, 0xA66F, 1⟩]),
   ("Goth",
     [⟨0xB7, 0xB7, 1⟩, ⟨0x304, 0x305, 1⟩, ⟨0x308, 0x308, 1⟩, ⟨0x331, 0x331, 1⟩]),
   ("Gran",
     [⟨0x951, 0x952, 1⟩, ⟨0x964, 0x965, 1⟩, ⟨0xBE6, 0xBF3, 1⟩, ⟨0x1CD0, 0x1CD0, 1⟩,
     ⟨0x1CD2, 0x1CD3, 1⟩, ⟨0x1CF2, 0x1CF4, 1⟩, ⟨0x1CF8, 0x1CF9, 1⟩, ⟨0x20F0, 0x20F0, 1⟩,
     ⟨0x1133B, 0x1133B, 1⟩, ⟨0x11FD0, 0x11FD1, 1⟩, ⟨0x11FD3, 0x11FD3, 1⟩]),
   ("Grek",
     [⟨0xB7, 0xB7, 1⟩, ⟨0x300, 0x301, 1⟩, ⟨0x304, 0x308, 2⟩, ⟨0x313, 0x313, 1⟩,
     ⟨0x342, 0x342, 1⟩, ⟨0x345, 0x345, 1⟩, ⟨0x374, 0x374, 1⟩, ⟨0x1DC0, 0x1DC1, 1⟩,
     ⟨0x205D, 0x205D, 1⟩]),
   ("Gujr",
     [⟨0x951, 0x952, 1⟩, ⟨0x964, 0x965, 1⟩, ⟨0xA830, 0xA839, 1⟩]),
   ("Gong",
     [⟨0xB7, 0xB7, 1⟩, ⟨0x964, 0x965, 1⟩]),
   ("Guru",
     [⟨0x951, 0x952, 1⟩, ⟨0x964, 0x965, 1⟩, ⟨0xA830, 0xA839, 1⟩]),
   ("Gukh",
     [⟨0x965, 0x965, 1⟩]),
   ("Hani",
     [⟨0xB7, 0xB7, 1⟩, ⟨0x2FF0, 0x2FFF, 1⟩, ⟨0x3001, 0x3003, 1⟩, ⟨0x3006, 0x3006, 1⟩,
     ⟨0x3008, 0x3011, 1⟩, ⟨0x3013, 0x301F, 1⟩, ⟨0x302A, 0x302D, 1⟩, ⟨0x3030, 0x3030, 1⟩,
     ⟨0x3037, 0x3037, 1⟩, ⟨0x303C, 0x303F, 1⟩, ⟨0x30FB, 0x30FB, 1⟩, ⟨0x3190, 0x319F, 1⟩,
     ⟨0x31C0, 0x31E5, 1⟩, ⟨0x31EF, 0x31EF, 1⟩, ⟨0x3220, 0x3247, 1⟩, ⟨0x3280, 0x32B0, 1⟩,
     ⟨0x32C0, 0x32CB, 1⟩, ⟨0x32FF, 0x32FF, 1⟩, ⟨0x3358, 0x3370, 1⟩, ⟨0x337B, 0x337F, 1⟩,
     ⟨0x33E0, 0x33FE, 1⟩, ⟨0xA700, 0xA707, 1⟩, ⟨0xFE45, 0xFE46, 1⟩, ⟨0xFF61, 0xFF65, 1⟩,
     ⟨0x1D360, 0x1D371, 1⟩, ⟨0x1F250, 0x1F251, 1⟩]),
   ("Hang",
     [⟨0x3001, 0x3003, 1⟩, ⟨0x3008, 0x3011, 1⟩, ⟨0x3013, 0x301F, 1⟩, ⟨0x3030, 0x3030, 1⟩,
     ⟨0x3037, 0x3037, 1⟩, ⟨0x30FB, 0x30FB, 1⟩, ⟨0xFE45, 0xFE46, 1⟩, ⟨0xFF61, 0xFF65, 1⟩]),
   ("Rohg",
     [⟨0x60C, 0x60C, 1⟩, ⟨0x61B, 0x61B, 1⟩, ⟨0x61F, 0x61F, 1⟩, ⟨0x640, 0x640, 1⟩,
     ⟨0x6D4, 0x6D4, 1⟩]),
   ("Hano",
     [⟨0x1735, 0x1736, 1⟩]),
   ("Hebr",
     [⟨0x307, 0x308, 1⟩]),
   ("Hira",
     [⟨0x3001, 0x3003, 1⟩, ⟨0x3008, 0x3011, 1⟩, ⟨0x3013, 0x301F, 1⟩, ⟨0x3030, 0x3035, 1⟩,
     ⟨0x3037, 0x3037, 1⟩, ⟨0x303C, 0x303D, 1⟩, ⟨0x3099, 0x309C, 1⟩, ⟨0x30A0, 0x30A0, 1⟩,
     ⟨0x30FB, 0x30FC, 1⟩, ⟨0xFE45, 0xFE46, 1⟩, ⟨0xFF61, 0xFF65, 1⟩, ⟨0xFF70, 0xFF70, 1⟩,
     ⟨0xFF9E, 0xFF9F, 1⟩]),
   ("Java",
     [⟨0xA9CF, 0xA9CF, 1⟩]),
   ("Kthi",
     [⟨0x966, 0x96F, 1⟩, ⟨0x2E31, 0x2E31, 1⟩, ⟨0xA830, 0xA839, 1⟩]),
   ("Knda",
     [⟨0x951, 0x952, 1⟩, ⟨0x964, 0x965, 1⟩, ⟨0x1CD0, 0x1CD0, 1⟩, ⟨0x1CD2, 0x1CD3, 1⟩,
     ⟨0x1CDA, 0x1CDA, 1⟩, ⟨0x1CF2, 0x1CF4, 2⟩, ⟨0xA830, 0xA835, 1⟩]),
   ("Kana",
     [⟨0x305, 0x305, 1⟩, ⟨0x323, 0x323, 1⟩, ⟨0x3001, 0x3003, 1⟩, ⟨0x3008, 0x3011, 1⟩,
     ⟨0x3013, 0x301F, 1⟩, ⟨0x3030, 0x3035, 1⟩, ⟨0x3037, 0x3037, 1⟩, ⟨0x303C, 0x303D, 1⟩,
     ⟨0x3099, 0x309C, 1⟩, ⟨0x30A0, 0x30A0, 1⟩, ⟨0x30FB, 0x30FC, 1⟩, ⟨0xFE45, 0xFE46, 1⟩,
     ⟨0xFF61, 0xFF65, 1⟩, ⟨0xFF70, 0xFF70, 1⟩, ⟨0xFF9E, 0xFF9F, 1⟩]),
   ("Kali",
     [⟨0xA92E, 0xA92E, 1⟩]),
   ("Khoj",
     [⟨0xAE6, 0xAEF, 1⟩, ⟨0xA830, 0xA839, 1⟩]),
   ("Sind",
     [⟨0x964, 0x965, 1⟩, ⟨0xA830, 0xA839, 1⟩]),
   ("Latn",
     [⟨0xB7, 0xB7, 1⟩, ⟨0x2BC, 0x2BC, 1⟩, ⟨0x2C7, 0x2C7, 1⟩, ⟨0x2C9, 0x2CB, 1⟩,
     ⟨0x2CD, 0x2CD, 1⟩, ⟨0x2D7, 0x2D9, 2⟩, ⟨0x300, 0x30E, 1⟩, ⟨0x310, 0x311, 1⟩,
     ⟨0x313, 0x313, 1⟩, ⟨0x323, 0x325, 1⟩, ⟨0x32D, 0x32E, 1⟩, ⟨0x330, 0x331, 1⟩,
     ⟨0x358, 0x358, 1⟩, ⟨0x35E, 0x35E, 1⟩, ⟨0x363, 0x36F, 1⟩, ⟨0x485, 0x486, 1⟩,
     ⟨0x951, 0x952, 1⟩, ⟨0x10FB, 0x10FB, 1⟩, ⟨0x1DF8, 0x1DF8, 1⟩, ⟨0x202F, 0x202F, 1⟩,
     ⟨0x20F0, 0x20F0, 1⟩, ⟨0x2E17, 0x2E17, 1⟩, ⟨0xA700, 0xA707, 1⟩, ⟨0xA92E, 0xA92E, 1⟩]),
   ("Limb",
     [⟨0x965, 0x965, 1⟩]),
   ("Lina",
     [⟨0x10107, 0x10133, 1⟩]),
   ("Linb",
     [⟨0x10100, 0x10102, 1⟩, ⟨0x10107, 0x10133, 1⟩, ⟨0x10137, 0x1013F, 1⟩]),
   ("Lisu",
     [⟨0x2BC, 0x2BC, 1⟩, ⟨0x2CD, 0x2CD, 1⟩, ⟨0x300A, 0x300B, 1⟩]),
   ("Lyci",
     [⟨0x205A, 0x205A, 1⟩]),
   ("Lydi",
     [⟨0xB7, 0xB7, 1⟩, ⟨0x2E31, 0x2E31, 1⟩]),
   ("Mahj",
     [⟨0xB7, 0xB7, 1⟩, ⟨0x964, 0x96F, 1⟩, ⟨0xA830, 0xA839, 1⟩]),
   ("Mlym",
     [⟨0x951, 0x952, 1⟩, ⟨0x964, 0x965, 1⟩, ⟨0x1CDA, 0x1CDA, 1⟩, ⟨0x1CF2, 0x1CF2, 1⟩,
     ⟨0xA830, 0xA832, 1⟩]),
   ("Mand",
     [⟨0x640, 0x640, 1⟩]),
   ("Mani",
     [⟨0x640, 0x640, 1⟩]),
   ("Gonm",
     [⟨0x964, 0x965, 1⟩]),
   ("Mero",
     [⟨0x205D, 0x205D, 1⟩]),
   ("Modi",
     [⟨0xA830, 0xA839, 1⟩]),
   ("Mong",
     [⟨0x1802, 0x1803, 1⟩, ⟨0x1805, 0x1805, 1⟩, ⟨0x202F, 0x202F, 1⟩, ⟨0x3001, 0x3002, 1⟩,
     ⟨0x3008, 0x300B, 1⟩]),
   ("Mult",
     [⟨0xA66, 0xA6F, 1⟩]),
   ("Mymr",
     [⟨0xA92E, 0xA92E, 1⟩]),
   ("Nand",
     [⟨0x951, 0x951, 1⟩, ⟨0x964, 0x965, 1⟩, ⟨0xCE6, 0xCEF, 1⟩, ⟨0x1CE9, 0x1CE9, 1⟩,
     ⟨0x1CF2, 0x1CF2, 1⟩, ⟨0x1CFA, 0x1CFA, 1⟩, ⟨0xA830, 0xA835, 1⟩]),
   ("Newa",
     [⟨0x951, 0x952, 1⟩, ⟨0x1CD5, 0x1CD5, 1⟩, ⟨0x1CD7, 0x1CD8, 1⟩, ⟨0x1CE2, 0x1CE2, 1⟩,
     ⟨0x1CE9, 0x1CED, 2⟩]),
   ("Nkoo",
     [⟨0x60C, 0x60C, 1⟩, ⟨0x61B, 0x61B, 1⟩, ⟨0x61F, 0x61F, 1⟩, ⟨0xFD3E, 0xFD3F, 1⟩]),
   ("Onao",
     [⟨0x964, 0x965, 1⟩]),
   ("Hung",
     [⟨0x205A, 0x205A, 1⟩, ⟨0x205D, 0x205D, 1⟩, ⟨0x2E31, 0x2E31, 1⟩, ⟨0x2E41, 0x2E41, 1⟩]),
   ("Perm",
     [⟨0xB7, 0xB7, 1⟩, ⟨0x300, 0x300, 1⟩, ⟨0x306, 0x308, 1⟩, ⟨0x313, 0x313, 1⟩,
     ⟨0x483, 0x483, 1⟩]),
   ("Orkh",
     [⟨0x205A, 0x205A, 1⟩, ⟨0x2E30, 0x2E30, 1⟩]),
   ("Ougr",
     [⟨0x640, 0x640, 1⟩, ⟨0x10AF2, 0x10AF2, 1⟩]),
   ("Orya",
     [⟨0x951, 0x952, 1⟩, ⟨0x964, 0x965, 1⟩, ⟨0x1CDA, 0x1CDA, 1⟩, ⟨0x1CF2, 0x1CF2, 1⟩]),
   ("Osge",
     [⟨0x301, 0x301, 1⟩, ⟨0x304, 0x304, 1⟩, ⟨0x30B, 0x30B, 1⟩, ⟨0x358, 0x358, 1⟩]),
   ("Phag",
     [⟨0x1802, 0x1803, 1⟩, ⟨0x1805, 0x1805, 1⟩, ⟨0x202F, 0x202F, 1⟩, ⟨0x3002, 0x3002, 1⟩]),
   ("Phlp",
     [⟨0x640, 0x640, 1⟩]),
   ("Runr",
     [⟨0x16EB, 0x16ED, 1⟩]),
   ("Samr",
     [⟨0x2E31, 0x2E31, 1⟩]),
   ("Shrd",
     [⟨0x951, 0x951, 1⟩, ⟨0x1CD7, 0x1CD9, 2⟩, ⟨0x1CDC, 0x1CDD, 1⟩, ⟨0x1CE0, 0x1CE0, 1⟩,
     ⟨0x1CEA, 0x1CEA, 1⟩, ⟨0x1CED, 0x1CED, 1⟩, ⟨0xA830, 0xA835, 1⟩, ⟨0xA838, 0xA838, 1⟩]),
   ("Shaw",
     [⟨0xB7, 0xB7, 1⟩]),
   ("Sinh",
     [⟨0x964, 0x965, 1⟩, ⟨0x1CF2, 0x1CF2, 1⟩]),
   ("Sogd",
     [⟨0x640, 0x640, 1⟩]),
   ("Sunu",
     [⟨0x300, 0x301, 1⟩, ⟨0x303, 0x303, 1⟩, ⟨0x30D, 0x30D, 1⟩, ⟨0x310, 0x310, 1⟩,
     ⟨0x32D, 0x32D, 1⟩, ⟨0x331, 0x331, 1⟩]),
   ("Sylo",
     [⟨0x964, 0x965, 1⟩, ⟨0x9E6, 0x9EF, 1⟩]),
   ("Syrc",
     [⟨0x303, 0x304, 1⟩, ⟨0x307, 0x308, 1⟩, ⟨0x30A, 0x30A, 1⟩, ⟨0x323, 0x325, 1⟩,
     ⟨0x32D, 0x32E, 1⟩, ⟨0x330, 0x331, 1⟩, ⟨0x60C, 0x60C, 1⟩, ⟨0x61B, 0x61C, 1⟩,
     ⟨0x61F, 0x61F, 1⟩, ⟨0x640, 0x640, 1⟩, ⟨0x64B, 0x655, 1⟩, ⟨0x670, 0x670, 1⟩,
     ⟨0x1DF8, 0x1DFA, 2⟩]),
   ("Tglg",
     [⟨0x1735, 0x1736, 1⟩]),
   ("Tagb",
     [⟨0x1735, 0x1736, 1⟩]),
   ("Tale",
     [⟨0x300, 0x301, 1⟩, ⟨0x307, 0x308, 1⟩, ⟨0x30C, 0x30C, 1⟩, ⟨0x1040, 0x1049, 1⟩]),
   ("Takr",
     [⟨0x964, 0x965, 1⟩, ⟨0xA830, 0xA839, 1⟩]),
   ("Taml",
     [⟨0x951, 0x952, 1⟩, ⟨0x964, 0x965, 1⟩, ⟨0x1CDA, 0x1CDA, 1⟩, ⟨0xA8F3, 0xA8F3, 1⟩,
     ⟨0x11301, 0x11303, 2⟩, ⟨0x1133B, 0x1133C, 1⟩]),
   ("Tang",
     [⟨0x2FF0, 0x2FFF, 1⟩, ⟨0x31EF, 0x31EF, 1⟩]),
   ("Telu",
     [⟨0x951, 0x952, 1⟩, ⟨0x964, 0x965, 1⟩, ⟨0x1CD5, 0x1CD6, 1⟩, ⟨0x1CD8, 0x1CDA, 2⟩,
     ⟨0x1CF2, 0x1CF2, 1⟩]),
   ("Thaa",
     [⟨0x60C, 0x60C, 1⟩, ⟨0x61B, 0x61C, 1⟩, ⟨0x61F, 0x61F, 1⟩, ⟨0x660, 0x669, 1⟩,
     ⟨0xFDF2, 0xFDF2, 1⟩, ⟨0xFDFD, 0xFDFD, 1⟩]),
   ("Thai",
     [⟨0x2BC, 0x2BC, 1⟩, ⟨0x2D7, 0x2D7, 1⟩, ⟨0x303, 0x303, 1⟩, ⟨0x331, 0x331, 1⟩]),
   ("Tibt",
     [⟨0x3008, 0x300B, 1⟩]),
   ("Tfng",
     [⟨0x302, 0x304, 2⟩, ⟨0x306, 0x309, 1⟩, ⟨0x323, 0x323, 1⟩]),
   ("Tirh",
     [⟨0x951, 0x952, 1⟩, ⟨0x964, 0x965, 1⟩, ⟨0x1CD5, 0x1CD5, 1⟩, ⟨0x1CE2, 0x1CE2, 1⟩,
     ⟨0x1CF2, 0x1CF2, 1⟩, ⟨0xA830, 0xA839, 1⟩]),
   ("Todr",
     [⟨0x301, 0x301, 1⟩, ⟨0x304, 0x304, 1⟩, ⟨0x307, 0x307, 1⟩, ⟨0x311, 0x313, 2⟩,
     ⟨0x35E, 0x35E, 1⟩]),
   ("Toto",
     [⟨0x2BC, 0x2BC, 1⟩]),
   ("Tutg",
     [⟨0xCE6, 0xCEF, 1⟩, ⟨0x1CF2, 0x1CF4, 2⟩, ⟨0xA830, 0xA835, 1⟩, ⟨0xA8F1, 0xA8F1, 1⟩]),
   ("Yezi",
     [⟨0x60C, 0x60C, 1⟩, ⟨0x61B, 0x61B, 1⟩, ⟨0x61F, 0x61F, 1⟩, ⟨0x660, 0x669, 1⟩]),
   ("Yiii",
     [⟨0x3001, 0x3002, 1⟩, ⟨0x3008, 0x3011, 1⟩, ⟨0x3014, 0x301B, 1⟩, ⟨0x30FB, 0x30FB, 1⟩,
     ⟨0xFF61, 0xFF65, 1⟩])
  ]

end CubeQuery.Text
