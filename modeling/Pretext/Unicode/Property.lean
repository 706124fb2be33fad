/-! Properties of characters, as sets of codes with their borders: what separates words (White_Space), what
stands for nothing visible (general categories Cc, Cf and Co), what is a word by itself (ideographs, whose
scripts put no blanks between words, and the punctuation of every script, general categories Pc, Pd, Ps, Pe,
Pi, Pf and Po, together with the ASCII symbols), and what sits on the character before it (Mn). -/
namespace Pretext.Unicode

/-- Whether `code` lies in the set with the given borders, which ascend: the set holds from the
first border up to, but not including, the second, again from the third up to the fourth, and so
on. A set without a last border goes on for ever. -/
def within : List Nat → Nat → Bool
  | [], _ => false
  | border :: rest, code => if code < border then false else !within rest code

@[simp] theorem within_nil (code : Nat) : within [] code = false := rfl

/-- Below its first border a set holds nothing. -/
theorem within_of_lt {border code : Nat} (rest : List Nat) (h : code < border) :
    within (border :: rest) code = false := by
  simp [within, h]

/-- Past a border the set is the complement of the set with the remaining borders. -/
theorem within_of_le {border code : Nat} (rest : List Nat) (h : border ≤ code) :
    within (border :: rest) code = !within rest code := by
  simp [within, Nat.not_lt.2 h]

/-- Borders of the blank characters. -/
def blankBorders : List Nat := [
  0x9, 0xE, 0x20, 0x21, 0x85, 0x86, 0xA0, 0xA1, 0x1680, 0x1681, 0x2000, 0x200B, 0x2028, 0x202A,
  0x202F, 0x2030, 0x205F, 0x2060, 0x3000, 0x3001]

/-- A blank character: a space of any width, a tab, or the end of a line or paragraph. -/
def isBlank (c : Char) : Bool :=
  within blankBorders c.toNat

/-- Borders of the control, format and private-use characters. -/
def controlBorders : List Nat := [
  0x0, 0x20, 0x7F, 0xA0, 0xAD, 0xAE, 0x600, 0x606, 0x61C, 0x61D, 0x6DD, 0x6DE, 0x70F, 0x710,
  0x180E, 0x180F, 0x200B, 0x2010, 0x202A, 0x202F, 0x2060, 0x2065, 0x2066, 0x2070, 0xE000, 0xF900,
  0xFEFF, 0xFF00, 0xFFF9, 0xFFFC, 0x110BD, 0x110BE, 0x1BCA0, 0x1BCA4, 0x1D173, 0x1D17B, 0xE0001,
  0xE0002, 0xE0020, 0xE0080, 0xF0000, 0xFFFFE, 0x100000, 0x10FFFE]

/-- A control, format or private-use character. Tabs and line ends are among them. -/
def isControl (c : Char) : Bool :=
  within controlBorders c.toNat

/-- Borders of the ideograph blocks. The codes from `0x2B820` to `0x2B91F` belong to an ideograph
block too, but characters there are kept together like letters. -/
def ideographBorders : List Nat := [
  0x3400, 0x4DC0, 0x4E00, 0xA000, 0xF900, 0xFB00, 0x20000, 0x2A6E0, 0x2A700, 0x2B820, 0x2B920,
  0x2CEB0, 0x2F800, 0x2FA20]

/-- An ideograph stands alone as a word of its own. -/
def isIdeograph (c : Char) : Bool :=
  within ideographBorders c.toNat

/-- Borders of the characters whose general category is punctuation. -/
def punctuationBorders : List Nat := [
  0x21, 0x24, 0x25, 0x2B, 0x2C, 0x30, 0x3A, 0x3C, 0x3F, 0x41, 0x5B, 0x5E, 0x5F, 0x60, 0x7B, 0x7C,
  0x7D, 0x7E, 0xA1, 0xA2, 0xA7, 0xA8, 0xAB, 0xAC, 0xB6, 0xB8, 0xBB, 0xBC, 0xBF, 0xC0, 0x37E,
  0x37F, 0x387, 0x388, 0x55A, 0x560, 0x589, 0x58B, 0x5BE, 0x5BF, 0x5C0, 0x5C1, 0x5C3, 0x5C4,
  0x5C6, 0x5C7, 0x5F3, 0x5F5, 0x609, 0x60B, 0x60C, 0x60E, 0x61B, 0x61C, 0x61E, 0x620, 0x66A,
  0x66E, 0x6D4, 0x6D5, 0x700, 0x70E, 0x7F7, 0x7FA, 0x830, 0x83F, 0x85E, 0x85F, 0x964, 0x966,
  0x970, 0x971, 0xAF0, 0xAF1, 0xDF4, 0xDF5, 0xE4F, 0xE50, 0xE5A, 0xE5C, 0xF04, 0xF13, 0xF14,
  0xF15, 0xF3A, 0xF3E, 0xF85, 0xF86, 0xFD0, 0xFD5, 0xFD9, 0xFDB, 0x104A, 0x1050, 0x10FB, 0x10FC,
  0x1360, 0x1369, 0x1400, 0x1401, 0x166D, 0x166F, 0x169B, 0x169D, 0x16EB, 0x16EE, 0x1735, 0x1737,
  0x17D4, 0x17D7, 0x17D8, 0x17DB, 0x1800, 0x180B, 0x1944, 0x1946, 0x1A1E, 0x1A20, 0x1AA0, 0x1AA7,
  0x1AA8, 0x1AAE, 0x1B5A, 0x1B61, 0x1BFC, 0x1C00, 0x1C3B, 0x1C40, 0x1C7E, 0x1C80, 0x1CC0, 0x1CC8,
  0x1CD3, 0x1CD4, 0x2010, 0x2028, 0x2030, 0x2044, 0x2045, 0x2052, 0x2053, 0x205F, 0x207D, 0x207F,
  0x208D, 0x208F, 0x2308, 0x230C, 0x2329, 0x232B, 0x2768, 0x2776, 0x27C5, 0x27C7, 0x27E6, 0x27F0,
  0x2983, 0x2999, 0x29D8, 0x29DC, 0x29FC, 0x29FE, 0x2CF9, 0x2CFD, 0x2CFE, 0x2D00, 0x2D70, 0x2D71,
  0x2E00, 0x2E2F, 0x2E30, 0x2E43, 0x3001, 0x3004, 0x3008, 0x3012, 0x3014, 0x3020, 0x3030, 0x3031,
  0x303D, 0x303E, 0x30A0, 0x30A1, 0x30FB, 0x30FC, 0xA4FE, 0xA500, 0xA60D, 0xA610, 0xA673, 0xA674,
  0xA67E, 0xA67F, 0xA6F2, 0xA6F8, 0xA874, 0xA878, 0xA8CE, 0xA8D0, 0xA8F8, 0xA8FB, 0xA8FC, 0xA8FD,
  0xA92E, 0xA930, 0xA95F, 0xA960, 0xA9C1, 0xA9CE, 0xA9DE, 0xA9E0, 0xAA5C, 0xAA60, 0xAADE, 0xAAE0,
  0xAAF0, 0xAAF2, 0xABEB, 0xABEC, 0xFD3E, 0xFD40, 0xFE10, 0xFE1A, 0xFE30, 0xFE53, 0xFE54, 0xFE62,
  0xFE63, 0xFE64, 0xFE68, 0xFE69, 0xFE6A, 0xFE6C, 0xFF01, 0xFF04, 0xFF05, 0xFF0B, 0xFF0C, 0xFF10,
  0xFF1A, 0xFF1C, 0xFF1F, 0xFF21, 0xFF3B, 0xFF3E, 0xFF3F, 0xFF40, 0xFF5B, 0xFF5C, 0xFF5D, 0xFF5E,
  0xFF5F, 0xFF66, 0x10100, 0x10103, 0x1039F, 0x103A0, 0x103D0, 0x103D1, 0x1056F, 0x10570, 0x10857,
  0x10858, 0x1091F, 0x10920, 0x1093F, 0x10940, 0x10A50, 0x10A59, 0x10A7F, 0x10A80, 0x10AF0,
  0x10AF7, 0x10B39, 0x10B40, 0x10B99, 0x10B9D, 0x11047, 0x1104E, 0x110BB, 0x110BD, 0x110BE,
  0x110C2, 0x11140, 0x11144, 0x11174, 0x11176, 0x111C5, 0x111CA, 0x111CD, 0x111CE, 0x111DB,
  0x111DC, 0x111DD, 0x111E0, 0x11238, 0x1123E, 0x112A9, 0x112AA, 0x114C6, 0x114C7, 0x115C1,
  0x115D8, 0x11641, 0x11644, 0x1173C, 0x1173F, 0x12470, 0x12475, 0x16A6E, 0x16A70, 0x16AF5,
  0x16AF6, 0x16B37, 0x16B3C, 0x16B44, 0x16B45, 0x1BC9F, 0x1BCA0, 0x1DA87, 0x1DA8C]

/-- One of the printable ASCII characters that are neither letters nor digits. Currency signs,
operators and the like are among them, although their category is not punctuation. -/
def isAsciiMark (c : Char) : Bool :=
  ('!' ≤ c && c ≤ '/') || (':' ≤ c && c ≤ '@') || ('[' ≤ c && c ≤ '\x60') || ('\x7b' ≤ c && c ≤ '~')

/-- Punctuation stands alone as a word of its own. -/
def isPunctuation (c : Char) : Bool :=
  isAsciiMark c || within punctuationBorders c.toNat

/-- Borders of the nonspacing marks. -/
def markBorders : List Nat := [
  0x300, 0x370, 0x483, 0x488, 0x591, 0x5BE, 0x5BF, 0x5C0, 0x5C1, 0x5C3, 0x5C4, 0x5C6, 0x5C7,
  0x5C8, 0x610, 0x61B, 0x64B, 0x660, 0x670, 0x671, 0x6D6, 0x6DD, 0x6DF, 0x6E5, 0x6E7, 0x6E9,
  0x6EA, 0x6EE, 0x711, 0x712, 0x730, 0x74B, 0x7A6, 0x7B1, 0x7EB, 0x7F4, 0x816, 0x81A, 0x81B,
  0x824, 0x825, 0x828, 0x829, 0x82E, 0x859, 0x85C, 0x8E3, 0x903, 0x93A, 0x93B, 0x93C, 0x93D,
  0x941, 0x949, 0x94D, 0x94E, 0x951, 0x958, 0x962, 0x964, 0x981, 0x982, 0x9BC, 0x9BD, 0x9C1,
  0x9C5, 0x9CD, 0x9CE, 0x9E2, 0x9E4, 0xA01, 0xA03, 0xA3C, 0xA3D, 0xA41, 0xA43, 0xA47, 0xA49,
  0xA4B, 0xA4E, 0xA51, 0xA52, 0xA70, 0xA72, 0xA75, 0xA76, 0xA81, 0xA83, 0xABC, 0xABD, 0xAC1,
  0xAC6, 0xAC7, 0xAC9, 0xACD, 0xACE, 0xAE2, 0xAE4, 0xB01, 0xB02, 0xB3C, 0xB3D, 0xB3F, 0xB40,
  0xB41, 0xB45, 0xB4D, 0xB4E, 0xB56, 0xB57, 0xB62, 0xB64, 0xB82, 0xB83, 0xBC0, 0xBC1, 0xBCD,
  0xBCE, 0xC00, 0xC01, 0xC3E, 0xC41, 0xC46, 0xC49, 0xC4A, 0xC4E, 0xC55, 0xC57, 0xC62, 0xC64,
  0xC81, 0xC82, 0xCBC, 0xCBD, 0xCBF, 0xCC0, 0xCC6, 0xCC7, 0xCCC, 0xCCE, 0xCE2, 0xCE4, 0xD01,
  0xD02, 0xD41, 0xD45, 0xD4D, 0xD4E, 0xD62, 0xD64, 0xDCA, 0xDCB, 0xDD2, 0xDD5, 0xDD6, 0xDD7,
  0xE31, 0xE32, 0xE34, 0xE3B, 0xE47, 0xE4F, 0xEB1, 0xEB2, 0xEB4, 0xEBA, 0xEBB, 0xEBD, 0xEC8,
  0xECE, 0xF18, 0xF1A, 0xF35, 0xF36, 0xF37, 0xF38, 0xF39, 0xF3A, 0xF71, 0xF7F, 0xF80, 0xF85,
  0xF86, 0xF88, 0xF8D, 0xF98, 0xF99, 0xFBD, 0xFC6, 0xFC7, 0x102D, 0x1031, 0x1032, 0x1038, 0x1039,
  0x103B, 0x103D, 0x103F, 0x1058, 0x105A, 0x105E, 0x1061, 0x1071, 0x1075, 0x1082, 0x1083, 0x1085,
  0x1087, 0x108D, 0x108E, 0x109D, 0x109E, 0x135D, 0x1360, 0x1712, 0x1715, 0x1732, 0x1735, 0x1752,
  0x1754, 0x1772, 0x1774, 0x17B4, 0x17B6, 0x17B7, 0x17BE, 0x17C6, 0x17C7, 0x17C9, 0x17D4, 0x17DD,
  0x17DE, 0x180B, 0x180E, 0x18A9, 0x18AA, 0x1920, 0x1923, 0x1927, 0x1929, 0x1932, 0x1933, 0x1939,
  0x193C, 0x1A17, 0x1A19, 0x1A1B, 0x1A1C, 0x1A56, 0x1A57, 0x1A58, 0x1A5F, 0x1A60, 0x1A61, 0x1A62,
  0x1A63, 0x1A65, 0x1A6D, 0x1A73, 0x1A7D, 0x1A7F, 0x1A80, 0x1AB0, 0x1ABE, 0x1B00, 0x1B04, 0x1B34,
  0x1B35, 0x1B36, 0x1B3B, 0x1B3C, 0x1B3D, 0x1B42, 0x1B43, 0x1B6B, 0x1B74, 0x1B80, 0x1B82, 0x1BA2,
  0x1BA6, 0x1BA8, 0x1BAA, 0x1BAB, 0x1BAE, 0x1BE6, 0x1BE7, 0x1BE8, 0x1BEA, 0x1BED, 0x1BEE, 0x1BEF,
  0x1BF2, 0x1C2C, 0x1C34, 0x1C36, 0x1C38, 0x1CD0, 0x1CD3, 0x1CD4, 0x1CE1, 0x1CE2, 0x1CE9, 0x1CED,
  0x1CEE, 0x1CF4, 0x1CF5, 0x1CF8, 0x1CFA, 0x1DC0, 0x1DF6, 0x1DFC, 0x1E00, 0x20D0, 0x20DD, 0x20E1,
  0x20E2, 0x20E5, 0x20F1, 0x2CEF, 0x2CF2, 0x2D7F, 0x2D80, 0x2DE0, 0x2E00, 0x302A, 0x302E, 0x3099,
  0x309B, 0xA66F, 0xA670, 0xA674, 0xA67E, 0xA69E, 0xA6A0, 0xA6F0, 0xA6F2, 0xA802, 0xA803, 0xA806,
  0xA807, 0xA80B, 0xA80C, 0xA825, 0xA827, 0xA8C4, 0xA8C5, 0xA8E0, 0xA8F2, 0xA926, 0xA92E, 0xA947,
  0xA952, 0xA980, 0xA983, 0xA9B3, 0xA9B4, 0xA9B6, 0xA9BA, 0xA9BC, 0xA9BD, 0xA9E5, 0xA9E6, 0xAA29,
  0xAA2F, 0xAA31, 0xAA33, 0xAA35, 0xAA37, 0xAA43, 0xAA44, 0xAA4C, 0xAA4D, 0xAA7C, 0xAA7D, 0xAAB0,
  0xAAB1, 0xAAB2, 0xAAB5, 0xAAB7, 0xAAB9, 0xAABE, 0xAAC0, 0xAAC1, 0xAAC2, 0xAAEC, 0xAAEE, 0xAAF6,
  0xAAF7, 0xABE5, 0xABE6, 0xABE8, 0xABE9, 0xABED, 0xABEE, 0xFB1E, 0xFB1F, 0xFE00, 0xFE10, 0xFE20,
  0xFE30, 0x101FD, 0x101FE, 0x102E0, 0x102E1, 0x10376, 0x1037B, 0x10A01, 0x10A04, 0x10A05,
  0x10A07, 0x10A0C, 0x10A10, 0x10A38, 0x10A3B, 0x10A3F, 0x10A40, 0x10AE5, 0x10AE7, 0x11001,
  0x11002, 0x11038, 0x11047, 0x1107F, 0x11082, 0x110B3, 0x110B7, 0x110B9, 0x110BB, 0x11100,
  0x11103, 0x11127, 0x1112C, 0x1112D, 0x11135, 0x11173, 0x11174, 0x11180, 0x11182, 0x111B6,
  0x111BF, 0x111CA, 0x111CD, 0x1122F, 0x11232, 0x11234, 0x11235, 0x11236, 0x11238, 0x112DF,
  0x112E0, 0x112E3, 0x112EB, 0x11300, 0x11302, 0x1133C, 0x1133D, 0x11340, 0x11341, 0x11366,
  0x1136D, 0x11370, 0x11375, 0x114B3, 0x114B9, 0x114BA, 0x114BB, 0x114BF, 0x114C1, 0x114C2,
  0x114C4, 0x115B2, 0x115B6, 0x115BC, 0x115BE, 0x115BF, 0x115C1, 0x115DC, 0x115DE, 0x11633,
  0x1163B, 0x1163D, 0x1163E, 0x1163F, 0x11641, 0x116AB, 0x116AC, 0x116AD, 0x116AE, 0x116B0,
  0x116B6, 0x116B7, 0x116B8, 0x1171D, 0x11720, 0x11722, 0x11726, 0x11727, 0x1172C, 0x16AF0,
  0x16AF5, 0x16B30, 0x16B37, 0x16F8F, 0x16F93, 0x1BC9D, 0x1BC9F, 0x1D167, 0x1D16A, 0x1D17B,
  0x1D183, 0x1D185, 0x1D18C, 0x1D1AA, 0x1D1AE, 0x1D242, 0x1D245, 0x1DA00, 0x1DA37, 0x1DA3B,
  0x1DA6D, 0x1DA75, 0x1DA76, 0x1DA84, 0x1DA85, 0x1DA9B, 0x1DAA0, 0x1DAA1, 0x1DAB0, 0x1E8D0,
  0x1E8D7, 0xE0100, 0xE01F0]

/-- A nonspacing mark takes no room of its own. Spacing and enclosing marks are not among them. -/
def isNonspacingMark (c : Char) : Bool :=
  within markBorders c.toNat

end Pretext.Unicode
