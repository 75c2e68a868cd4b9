import Manifest.Text.Category

/-!
# Signs

The properties of punctuation, symbols and digits.
-/

namespace Manifest.Text

/-- Dashes. -/
def dashes : CodeSet :=
  .ofRuns [⟨0x2D, 0x2D, 1⟩, ⟨0x58A, 0x58A, 1⟩, ⟨0x5BE, 0x5BE, 1⟩, ⟨0x1400, 0x1400, 1⟩,
    ⟨0x1806, 0x1806, 1⟩, ⟨0x2010, 0x2015, 1⟩, ⟨0x2053, 0x2053, 1⟩, ⟨0x207B, 0x207B, 1⟩,
    ⟨0x208B, 0x208B, 1⟩, ⟨0x2212, 0x2212, 1⟩, ⟨0x2E17, 0x2E17, 1⟩, ⟨0x2E1A, 0x2E1A, 1⟩,
    ⟨0x2E3A, 0x2E3B, 1⟩, ⟨0x2E40, 0x2E40, 1⟩, ⟨0x2E5D, 0x2E5D, 1⟩, ⟨0x301C, 0x301C, 1⟩,
    ⟨0x3030, 0x3030, 1⟩, ⟨0x30A0, 0x30A0, 1⟩, ⟨0xFE31, 0xFE32, 1⟩, ⟨0xFE58, 0xFE58, 1⟩,
    ⟨0xFE63, 0xFE63, 1⟩, ⟨0xFF0D, 0xFF0D, 1⟩, ⟨0x10D6E, 0x10D6E, 1⟩, ⟨0x10EAD, 0x10EAD, 1⟩]

/-- Dashes that join words or parts of words. -/
def hyphens : CodeSet :=
  .ofRuns [⟨0x2D, 0x2D, 1⟩, ⟨0xAD, 0xAD, 1⟩, ⟨0x58A, 0x58A, 1⟩, ⟨0x1806, 0x1806, 1⟩,
    ⟨0x2010, 0x2011, 1⟩, ⟨0x2E17, 0x2E17, 1⟩, ⟨0x30FB, 0x30FB, 1⟩, ⟨0xFE63, 0xFE63, 1⟩,
    ⟨0xFF0D, 0xFF0D, 1⟩, ⟨0xFF65, 0xFF65, 1⟩]

/-- Quotation marks. -/
def quotationMarks : CodeSet :=
  .ofRuns [⟨0x22, 0x22, 1⟩, ⟨0x27, 0x27, 1⟩, ⟨0xAB, 0xAB, 1⟩, ⟨0xBB, 0xBB, 1⟩,
    ⟨0x2018, 0x201F, 1⟩, ⟨0x2039, 0x203A, 1⟩, ⟨0x2E42, 0x2E42, 1⟩, ⟨0x300C, 0x300F, 1⟩,
    ⟨0x301D, 0x301F, 1⟩, ⟨0xFE41, 0xFE44, 1⟩, ⟨0xFF02, 0xFF02, 1⟩, ⟨0xFF07, 0xFF07, 1⟩,
    ⟨0xFF62, 0xFF63, 1⟩]

/-- What ends a sentence. -/
def sentenceTerminals : CodeSet :=
  .ofRuns [⟨0x21, 0x21, 1⟩, ⟨0x2E, 0x2E, 1⟩, ⟨0x3F, 0x3F, 1⟩, ⟨0x589, 0x589, 1⟩,
    ⟨0x61D, 0x61F, 1⟩, ⟨0x6D4, 0x6D4, 1⟩, ⟨0x700, 0x702, 1⟩, ⟨0x7F9, 0x7F9, 1⟩,
    ⟨0x837, 0x837, 1⟩, ⟨0x839, 0x839, 1⟩, ⟨0x83D, 0x83E, 1⟩, ⟨0x964, 0x965, 1⟩,
    ⟨0x104A, 0x104B, 1⟩, ⟨0x1362, 0x1362, 1⟩, ⟨0x1367, 0x1368, 1⟩, ⟨0x166E, 0x166E, 1⟩,
    ⟨0x1735, 0x1736, 1⟩, ⟨0x17D4, 0x17D5, 1⟩, ⟨0x1803, 0x1803, 1⟩, ⟨0x1809, 0x1809, 1⟩,
    ⟨0x1944, 0x1945, 1⟩, ⟨0x1AA8, 0x1AAB, 1⟩, ⟨0x1B4E, 0x1B4F, 1⟩, ⟨0x1B5A, 0x1B5B, 1⟩,
    ⟨0x1B5E, 0x1B5F, 1⟩, ⟨0x1B7D, 0x1B7F, 1⟩, ⟨0x1C3B, 0x1C3C, 1⟩, ⟨0x1C7E, 0x1C7F, 1⟩,
    ⟨0x2024, 0x2024, 1⟩, ⟨0x203C, 0x203D, 1⟩, ⟨0x2047, 0x2049, 1⟩, ⟨0x2CF9, 0x2CFB, 1⟩,
    ⟨0x2E2E, 0x2E2E, 1⟩, ⟨0x2E3C, 0x2E3C, 1⟩, ⟨0x2E53, 0x2E54, 1⟩, ⟨0x3002, 0x3002, 1⟩,
    ⟨0xA4FF, 0xA4FF, 1⟩, ⟨0xA60E, 0xA60F, 1⟩, ⟨0xA6F3, 0xA6F3, 1⟩, ⟨0xA6F7, 0xA6F7, 1⟩,
    ⟨0xA876, 0xA877, 1⟩, ⟨0xA8CE, 0xA8CF, 1⟩, ⟨0xA92F, 0xA92F, 1⟩, ⟨0xA9C8, 0xA9C9, 1⟩,
    ⟨0xAA5D, 0xAA5F, 1⟩, ⟨0xAAF0, 0xAAF1, 1⟩, ⟨0xABEB, 0xABEB, 1⟩, ⟨0xFE12, 0xFE12, 1⟩,
    ⟨0xFE15, 0xFE16, 1⟩, ⟨0xFE52, 0xFE52, 1⟩, ⟨0xFE56, 0xFE57, 1⟩, ⟨0xFF01, 0xFF01, 1⟩,
    ⟨0xFF0E, 0xFF0E, 1⟩, ⟨0xFF1F, 0xFF1F, 1⟩, ⟨0xFF61, 0xFF61, 1⟩, ⟨0x10A56, 0x10A57, 1⟩,
    ⟨0x10F55, 0x10F59, 1⟩, ⟨0x10F86, 0x10F89, 1⟩, ⟨0x11047, 0x11048, 1⟩,
    ⟨0x110BE, 0x110C1, 1⟩, ⟨0x11141, 0x11143, 1⟩, ⟨0x111C5, 0x111C6, 1⟩,
    ⟨0x111CD, 0x111CD, 1⟩, ⟨0x111DE, 0x111DF, 1⟩, ⟨0x11238, 0x11239, 1⟩,
    ⟨0x1123B, 0x1123C, 1⟩, ⟨0x112A9, 0x112A9, 1⟩, ⟨0x113D4, 0x113D5, 1⟩,
    ⟨0x1144B, 0x1144C, 1⟩, ⟨0x115C2, 0x115C3, 1⟩, ⟨0x115C9, 0x115D7, 1⟩,
    ⟨0x11641, 0x11642, 1⟩, ⟨0x1173C, 0x1173E, 1⟩, ⟨0x11944, 0x11944, 1⟩,
    ⟨0x11946, 0x11946, 1⟩, ⟨0x11A42, 0x11A43, 1⟩, ⟨0x11A9B, 0x11A9C, 1⟩,
    ⟨0x11C41, 0x11C42, 1⟩, ⟨0x11EF7, 0x11EF8, 1⟩, ⟨0x11F43, 0x11F44, 1⟩,
    ⟨0x16A6E, 0x16A6F, 1⟩, ⟨0x16AF5, 0x16AF5, 1⟩, ⟨0x16B37, 0x16B38, 1⟩,
    ⟨0x16B44, 0x16B44, 1⟩, ⟨0x16D6E, 0x16D6F, 1⟩, ⟨0x16E98, 0x16E98, 1⟩,
    ⟨0x1BC9F, 0x1BC9F, 1⟩, ⟨0x1DA88, 0x1DA88, 1⟩]

/-- What ends a part of a text. -/
def terminalPunctuation : CodeSet :=
  .ofRuns [⟨0x21, 0x21, 1⟩, ⟨0x2C, 0x2C, 1⟩, ⟨0x2E, 0x2E, 1⟩, ⟨0x3A, 0x3B, 1⟩,
    ⟨0x3F, 0x3F, 1⟩, ⟨0x37E, 0x37E, 1⟩, ⟨0x387, 0x387, 1⟩, ⟨0x589, 0x589, 1⟩,
    ⟨0x5C3, 0x5C3, 1⟩, ⟨0x60C, 0x60C, 1⟩, ⟨0x61B, 0x61B, 1⟩, ⟨0x61D, 0x61F, 1⟩,
    ⟨0x6D4, 0x6D4, 1⟩, ⟨0x700, 0x70A, 1⟩, ⟨0x70C, 0x70C, 1⟩, ⟨0x7F8, 0x7F9, 1⟩,
    ⟨0x830, 0x835, 1⟩, ⟨0x837, 0x83E, 1⟩, ⟨0x85E, 0x85E, 1⟩, ⟨0x964, 0x965, 1⟩,
    ⟨0xE5A, 0xE5B, 1⟩, ⟨0xF08, 0xF08, 1⟩, ⟨0xF0D, 0xF12, 1⟩, ⟨0x104A, 0x104B, 1⟩,
    ⟨0x1361, 0x1368, 1⟩, ⟨0x166E, 0x166E, 1⟩, ⟨0x16EB, 0x16ED, 1⟩, ⟨0x1735, 0x1736, 1⟩,
    ⟨0x17D4, 0x17D6, 1⟩, ⟨0x17DA, 0x17DA, 1⟩, ⟨0x1802, 0x1805, 1⟩, ⟨0x1808, 0x1809, 1⟩,
    ⟨0x1944, 0x1945, 1⟩, ⟨0x1AA8, 0x1AAB, 1⟩, ⟨0x1B4E, 0x1B4F, 1⟩, ⟨0x1B5A, 0x1B5B, 1⟩,
    ⟨0x1B5D, 0x1B5F, 1⟩, ⟨0x1B7D, 0x1B7F, 1⟩, ⟨0x1C3B, 0x1C3F, 1⟩, ⟨0x1C7E, 0x1C7F, 1⟩,
    ⟨0x2024, 0x2024, 1⟩, ⟨0x203C, 0x203D, 1⟩, ⟨0x2047, 0x2049, 1⟩, ⟨0x2CF9, 0x2CFB, 1⟩,
    ⟨0x2E2E, 0x2E2E, 1⟩, ⟨0x2E3C, 0x2E3C, 1⟩, ⟨0x2E41, 0x2E41, 1⟩, ⟨0x2E4C, 0x2E4C, 1⟩,
    ⟨0x2E4E, 0x2E4F, 1⟩, ⟨0x2E53, 0x2E54, 1⟩, ⟨0x3001, 0x3002, 1⟩, ⟨0xA4FE, 0xA4FF, 1⟩,
    ⟨0xA60D, 0xA60F, 1⟩, ⟨0xA6F3, 0xA6F7, 1⟩, ⟨0xA876, 0xA877, 1⟩, ⟨0xA8CE, 0xA8CF, 1⟩,
    ⟨0xA92F, 0xA92F, 1⟩, ⟨0xA9C7, 0xA9C9, 1⟩, ⟨0xAA5D, 0xAA5F, 1⟩, ⟨0xAADF, 0xAADF, 1⟩,
    ⟨0xAAF0, 0xAAF1, 1⟩, ⟨0xABEB, 0xABEB, 1⟩, ⟨0xFE12, 0xFE12, 1⟩, ⟨0xFE15, 0xFE16, 1⟩,
    ⟨0xFE50, 0xFE52, 1⟩, ⟨0xFE54, 0xFE57, 1⟩, ⟨0xFF01, 0xFF01, 1⟩, ⟨0xFF0C, 0xFF0C, 1⟩,
    ⟨0xFF0E, 0xFF0E, 1⟩, ⟨0xFF1A, 0xFF1B, 1⟩, ⟨0xFF1F, 0xFF1F, 1⟩, ⟨0xFF61, 0xFF61, 1⟩,
    ⟨0xFF64, 0xFF64, 1⟩, ⟨0x1039F, 0x1039F, 1⟩, ⟨0x103D0, 0x103D0, 1⟩, ⟨0x10857, 0x10857, 1⟩,
    ⟨0x1091F, 0x1091F, 1⟩, ⟨0x10A56, 0x10A57, 1⟩, ⟨0x10AF0, 0x10AF5, 1⟩,
    ⟨0x10B3A, 0x10B3F, 1⟩, ⟨0x10B99, 0x10B9C, 1⟩, ⟨0x10F55, 0x10F59, 1⟩,
    ⟨0x10F86, 0x10F89, 1⟩, ⟨0x11047, 0x1104D, 1⟩, ⟨0x110BE, 0x110C1, 1⟩,
    ⟨0x11141, 0x11143, 1⟩, ⟨0x111C5, 0x111C6, 1⟩, ⟨0x111CD, 0x111CD, 1⟩,
    ⟨0x111DE, 0x111DF, 1⟩, ⟨0x11238, 0x1123C, 1⟩, ⟨0x112A9, 0x112A9, 1⟩,
    ⟨0x113D4, 0x113D5, 1⟩, ⟨0x1144B, 0x1144D, 1⟩, ⟨0x1145A, 0x1145B, 1⟩,
    ⟨0x115C2, 0x115C5, 1⟩, ⟨0x115C9, 0x115D7, 1⟩, ⟨0x11641, 0x11642, 1⟩,
    ⟨0x1173C, 0x1173E, 1⟩, ⟨0x11944, 0x11944, 1⟩, ⟨0x11946, 0x11946, 1⟩,
    ⟨0x11A42, 0x11A43, 1⟩, ⟨0x11A9B, 0x11A9C, 1⟩, ⟨0x11AA1, 0x11AA2, 1⟩,
    ⟨0x11C41, 0x11C43, 1⟩, ⟨0x11C71, 0x11C71, 1⟩, ⟨0x11EF7, 0x11EF8, 1⟩,
    ⟨0x11F43, 0x11F44, 1⟩, ⟨0x12470, 0x12474, 1⟩, ⟨0x16A6E, 0x16A6F, 1⟩,
    ⟨0x16AF5, 0x16AF5, 1⟩, ⟨0x16B37, 0x16B39, 1⟩, ⟨0x16B44, 0x16B44, 1⟩,
    ⟨0x16D6E, 0x16D6F, 1⟩, ⟨0x16E97, 0x16E98, 1⟩, ⟨0x1BC9F, 0x1BC9F, 1⟩,
    ⟨0x1DA87, 0x1DA8A, 1⟩]

/-- Characters of mathematics other than its symbols. -/
def otherMath : CodeSet :=
  .ofRuns [⟨0x5E, 0x5E, 1⟩, ⟨0x3D0, 0x3D2, 1⟩, ⟨0x3D5, 0x3D5, 1⟩, ⟨0x3F0, 0x3F1, 1⟩,
    ⟨0x3F4, 0x3F5, 1⟩, ⟨0x2016, 0x2016, 1⟩, ⟨0x2032, 0x2034, 1⟩, ⟨0x2040, 0x2040, 1⟩,
    ⟨0x2061, 0x2064, 1⟩, ⟨0x207D, 0x207E, 1⟩, ⟨0x208D, 0x208E, 1⟩, ⟨0x20D0, 0x20DC, 1⟩,
    ⟨0x20E1, 0x20E1, 1⟩, ⟨0x20E5, 0x20E6, 1⟩, ⟨0x20EB, 0x20EF, 1⟩, ⟨0x2102, 0x2102, 1⟩,
    ⟨0x2107, 0x2107, 1⟩, ⟨0x210A, 0x2113, 1⟩, ⟨0x2115, 0x2115, 1⟩, ⟨0x2119, 0x211D, 1⟩,
    ⟨0x2124, 0x2124, 1⟩, ⟨0x2128, 0x2129, 1⟩, ⟨0x212C, 0x212D, 1⟩, ⟨0x212F, 0x2131, 1⟩,
    ⟨0x2133, 0x2138, 1⟩, ⟨0x213C, 0x213F, 1⟩, ⟨0x2145, 0x2149, 1⟩, ⟨0x2195, 0x2199, 1⟩,
    ⟨0x219C, 0x219F, 1⟩, ⟨0x21A1, 0x21A2, 1⟩, ⟨0x21A4, 0x21A5, 1⟩, ⟨0x21A7, 0x21A7, 1⟩,
    ⟨0x21A9, 0x21AD, 1⟩, ⟨0x21B0, 0x21B1, 1⟩, ⟨0x21B6, 0x21B7, 1⟩, ⟨0x21BC, 0x21CD, 1⟩,
    ⟨0x21D0, 0x21D1, 1⟩, ⟨0x21D3, 0x21D3, 1⟩, ⟨0x21D5, 0x21DB, 1⟩, ⟨0x21DD, 0x21DD, 1⟩,
    ⟨0x21E4, 0x21E5, 1⟩, ⟨0x2308, 0x230B, 1⟩, ⟨0x23B4, 0x23B5, 1⟩, ⟨0x23B7, 0x23B7, 1⟩,
    ⟨0x23D0, 0x23D0, 1⟩, ⟨0x23E2, 0x23E2, 1⟩, ⟨0x25A0, 0x25A1, 1⟩, ⟨0x25AE, 0x25B6, 1⟩,
    ⟨0x25BC, 0x25C0, 1⟩, ⟨0x25C6, 0x25C7, 1⟩, ⟨0x25CA, 0x25CB, 1⟩, ⟨0x25CF, 0x25D3, 1⟩,
    ⟨0x25E2, 0x25E2, 1⟩, ⟨0x25E4, 0x25E4, 1⟩, ⟨0x25E7, 0x25EC, 1⟩, ⟨0x2605, 0x2606, 1⟩,
    ⟨0x2640, 0x2640, 1⟩, ⟨0x2642, 0x2642, 1⟩, ⟨0x2660, 0x2663, 1⟩, ⟨0x266D, 0x266E, 1⟩,
    ⟨0x27C5, 0x27C6, 1⟩, ⟨0x27E6, 0x27EF, 1⟩, ⟨0x2983, 0x2998, 1⟩, ⟨0x29D8, 0x29DB, 1⟩,
    ⟨0x29FC, 0x29FD, 1⟩, ⟨0xFE61, 0xFE61, 1⟩, ⟨0xFE63, 0xFE63, 1⟩, ⟨0xFE68, 0xFE68, 1⟩,
    ⟨0xFF3C, 0xFF3C, 1⟩, ⟨0xFF3E, 0xFF3E, 1⟩, ⟨0x1D400, 0x1D454, 1⟩, ⟨0x1D456, 0x1D49C, 1⟩,
    ⟨0x1D49E, 0x1D49F, 1⟩, ⟨0x1D4A2, 0x1D4A2, 1⟩, ⟨0x1D4A5, 0x1D4A6, 1⟩,
    ⟨0x1D4A9, 0x1D4AC, 1⟩, ⟨0x1D4AE, 0x1D4B9, 1⟩, ⟨0x1D4BB, 0x1D4BB, 1⟩,
    ⟨0x1D4BD, 0x1D4C3, 1⟩, ⟨0x1D4C5, 0x1D505, 1⟩, ⟨0x1D507, 0x1D50A, 1⟩,
    ⟨0x1D50D, 0x1D514, 1⟩, ⟨0x1D516, 0x1D51C, 1⟩, ⟨0x1D51E, 0x1D539, 1⟩,
    ⟨0x1D53B, 0x1D53E, 1⟩, ⟨0x1D540, 0x1D544, 1⟩, ⟨0x1D546, 0x1D546, 1⟩,
    ⟨0x1D54A, 0x1D550, 1⟩, ⟨0x1D552, 0x1D6A5, 1⟩, ⟨0x1D6A8, 0x1D6C0, 1⟩,
    ⟨0x1D6C2, 0x1D6DA, 1⟩, ⟨0x1D6DC, 0x1D6FA, 1⟩, ⟨0x1D6FC, 0x1D714, 1⟩,
    ⟨0x1D716, 0x1D734, 1⟩, ⟨0x1D736, 0x1D74E, 1⟩, ⟨0x1D750, 0x1D76E, 1⟩,
    ⟨0x1D770, 0x1D788, 1⟩, ⟨0x1D78A, 0x1D7A8, 1⟩, ⟨0x1D7AA, 0x1D7C2, 1⟩,
    ⟨0x1D7C4, 0x1D7CB, 1⟩, ⟨0x1D7CE, 0x1D7FF, 1⟩, ⟨0x1EE00, 0x1EE03, 1⟩,
    ⟨0x1EE05, 0x1EE1F, 1⟩, ⟨0x1EE21, 0x1EE22, 1⟩, ⟨0x1EE24, 0x1EE24, 1⟩,
    ⟨0x1EE27, 0x1EE27, 1⟩, ⟨0x1EE29, 0x1EE32, 1⟩, ⟨0x1EE34, 0x1EE37, 1⟩,
    ⟨0x1EE39, 0x1EE39, 1⟩, ⟨0x1EE3B, 0x1EE3B, 1⟩, ⟨0x1EE42, 0x1EE42, 1⟩,
    ⟨0x1EE47, 0x1EE4B, 2⟩, ⟨0x1EE4D, 0x1EE4F, 1⟩, ⟨0x1EE51, 0x1EE52, 1⟩,
    ⟨0x1EE54, 0x1EE54, 1⟩, ⟨0x1EE57, 0x1EE5F, 2⟩, ⟨0x1EE61, 0x1EE62, 1⟩,
    ⟨0x1EE64, 0x1EE64, 1⟩, ⟨0x1EE67, 0x1EE6A, 1⟩, ⟨0x1EE6C, 0x1EE72, 1⟩,
    ⟨0x1EE74, 0x1EE77, 1⟩, ⟨0x1EE79, 0x1EE7C, 1⟩, ⟨0x1EE7E, 0x1EE7E, 1⟩,
    ⟨0x1EE80, 0x1EE89, 1⟩, ⟨0x1EE8B, 0x1EE9B, 1⟩, ⟨0x1EEA1, 0x1EEA3, 1⟩,
    ⟨0x1EEA5, 0x1EEA9, 1⟩, ⟨0x1EEAB, 0x1EEBB, 1⟩]

/-- Characters of mathematics. -/
def mathematical : CodeSet :=
  mathSymbols.union otherMath

/-- Digits of base sixteen in ASCII. -/
def asciiHexDigits : CodeSet :=
  .ofRuns [⟨0x30, 0x39, 1⟩, ⟨0x41, 0x46, 1⟩, ⟨0x61, 0x66, 1⟩]

/-- Digits of base sixteen, also in full width. -/
def hexDigitSigns : CodeSet :=
  asciiHexDigits.union
    (.ofRuns [⟨0xFF10, 0xFF19, 1⟩, ⟨0xFF21, 0xFF26, 1⟩, ⟨0xFF41, 0xFF46, 1⟩])

end Manifest.Text
