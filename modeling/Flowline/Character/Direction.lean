import Flowline.Character.Mark

/-!
# Directions of writing

What a character says about the direction in which the text around it is written. The classes of the
Unicode standard that domain names treat alike are one here.
-/

namespace Flowline.Character

/-- The directions: `right` is for letters written from right to left, `neutral` for separators and
symbols that follow the text around them, `other` for blanks and formatting characters. -/
inductive Direction where
  | left
  | right
  | europeanNumber
  | arabicNumber
  | neutral
  | mark
  | other
  deriving DecidableEq, Repr

/-- The code points that are neither written from left to right nor nonspacing marks. -/
def directionRows : List (Nat × Nat × Direction) :=
  [(0x0000, 0x0008, .neutral), (0x0009, 0x000D, .other), (0x000E, 0x001B, .neutral),
    (0x001C, 0x0020, .other), (0x0021, 0x002F, .neutral), (0x0030, 0x0039, .europeanNumber),
    (0x003A, 0x0040, .neutral), (0x005B, 0x0060, .neutral), (0x007B, 0x0084, .neutral),
    (0x0085, 0x0085, .other), (0x0086, 0x00A9, .neutral), (0x00AB, 0x00B1, .neutral),
    (0x00B2, 0x00B3, .europeanNumber), (0x00B4, 0x00B4, .neutral), (0x00B6, 0x00B8, .neutral),
    (0x00B9, 0x00B9, .europeanNumber), (0x00BB, 0x00BF, .neutral), (0x00D7, 0x00D7, .neutral),
    (0x00F7, 0x00F7, .neutral), (0x02B9, 0x02BA, .neutral), (0x02C2, 0x02CF, .neutral),
    (0x02D2, 0x02DF, .neutral), (0x02E5, 0x02ED, .neutral), (0x02EF, 0x02FF, .neutral),
    (0x0374, 0x0375, .neutral), (0x037E, 0x037E, .neutral), (0x0384, 0x0385, .neutral),
    (0x0387, 0x0387, .neutral), (0x03F6, 0x03F6, .neutral), (0x058A, 0x058A, .neutral),
    (0x058D, 0x058F, .neutral), (0x0590, 0x0590, .right), (0x05BE, 0x05BE, .right),
    (0x05C0, 0x05C0, .right), (0x05C3, 0x05C3, .right), (0x05C6, 0x05C6, .right),
    (0x05C8, 0x05FF, .right), (0x0600, 0x0605, .arabicNumber), (0x0606, 0x0607, .neutral),
    (0x0608, 0x0608, .right), (0x0609, 0x060A, .neutral), (0x060B, 0x060B, .right),
    (0x060C, 0x060C, .neutral), (0x060D, 0x060D, .right), (0x060E, 0x060F, .neutral),
    (0x061B, 0x064A, .right), (0x0660, 0x0669, .arabicNumber), (0x066A, 0x066A, .neutral),
    (0x066B, 0x066C, .arabicNumber), (0x066D, 0x066F, .right), (0x0671, 0x06D5, .right),
    (0x06DD, 0x06DD, .arabicNumber), (0x06DE, 0x06DE, .neutral), (0x06E5, 0x06E6, .right),
    (0x06E9, 0x06E9, .neutral), (0x06EE, 0x06EF, .right), (0x06F0, 0x06F9, .europeanNumber),
    (0x06FA, 0x0710, .right), (0x0712, 0x072F, .right), (0x074B, 0x07A5, .right),
    (0x07B1, 0x07EA, .right), (0x07F4, 0x07F5, .right), (0x07F6, 0x07F9, .neutral),
    (0x07FA, 0x07FC, .right), (0x07FE, 0x0815, .right), (0x081A, 0x081A, .right),
    (0x0824, 0x0824, .right), (0x0828, 0x0828, .right), (0x082E, 0x0858, .right),
    (0x085C, 0x088F, .right), (0x0890, 0x0891, .arabicNumber), (0x0892, 0x0896, .right),
    (0x08A0, 0x08C9, .right), (0x08E2, 0x08E2, .arabicNumber), (0x09F2, 0x09F3, .neutral),
    (0x09FB, 0x09FB, .neutral), (0x0AF1, 0x0AF1, .neutral), (0x0BF3, 0x0BFA, .neutral),
    (0x0C78, 0x0C7E, .neutral), (0x0E3F, 0x0E3F, .neutral), (0x0F3A, 0x0F3D, .neutral),
    (0x1390, 0x1399, .neutral), (0x1400, 0x1400, .neutral), (0x1680, 0x1680, .other),
    (0x169B, 0x169C, .neutral), (0x17DB, 0x17DB, .neutral), (0x17F0, 0x17F9, .neutral),
    (0x1800, 0x180A, .neutral), (0x180E, 0x180E, .neutral), (0x1940, 0x1940, .neutral),
    (0x1944, 0x1945, .neutral), (0x19DE, 0x19FF, .neutral), (0x1FBD, 0x1FBD, .neutral),
    (0x1FBF, 0x1FC1, .neutral), (0x1FCD, 0x1FCF, .neutral), (0x1FDD, 0x1FDF, .neutral),
    (0x1FED, 0x1FEF, .neutral), (0x1FFD, 0x1FFE, .neutral), (0x2000, 0x200A, .other),
    (0x200B, 0x200D, .neutral), (0x200F, 0x200F, .right), (0x2010, 0x2027, .neutral),
    (0x2028, 0x202E, .other), (0x202F, 0x205E, .neutral), (0x205F, 0x205F, .other),
    (0x2060, 0x2065, .neutral), (0x2066, 0x2069, .other), (0x206A, 0x206F, .neutral),
    (0x2070, 0x2070, .europeanNumber), (0x2074, 0x2079, .europeanNumber),
    (0x207A, 0x207E, .neutral), (0x2080, 0x2089, .europeanNumber), (0x208A, 0x208E, .neutral),
    (0x20A0, 0x20CF, .neutral), (0x2100, 0x2101, .neutral), (0x2103, 0x2106, .neutral),
    (0x2108, 0x2109, .neutral), (0x2114, 0x2114, .neutral), (0x2116, 0x2118, .neutral),
    (0x211E, 0x2123, .neutral), (0x2125, 0x2125, .neutral), (0x2127, 0x2127, .neutral),
    (0x2129, 0x2129, .neutral), (0x212E, 0x212E, .neutral), (0x213A, 0x213B, .neutral),
    (0x2140, 0x2144, .neutral), (0x214A, 0x214D, .neutral), (0x2150, 0x215F, .neutral),
    (0x2189, 0x218B, .neutral), (0x2190, 0x2335, .neutral), (0x237B, 0x2394, .neutral),
    (0x2396, 0x2429, .neutral), (0x2440, 0x244A, .neutral), (0x2460, 0x2487, .neutral),
    (0x2488, 0x249B, .europeanNumber), (0x24EA, 0x26AB, .neutral), (0x26AD, 0x27FF, .neutral),
    (0x2900, 0x2B73, .neutral), (0x2B76, 0x2BFF, .neutral), (0x2CE5, 0x2CEA, .neutral),
    (0x2CF9, 0x2CFF, .neutral), (0x2E00, 0x2E5D, .neutral), (0x2E80, 0x2E99, .neutral),
    (0x2E9B, 0x2EF3, .neutral), (0x2F00, 0x2FD5, .neutral), (0x2FF0, 0x2FFF, .neutral),
    (0x3000, 0x3000, .other), (0x3001, 0x3004, .neutral), (0x3008, 0x3020, .neutral),
    (0x3030, 0x3030, .neutral), (0x3036, 0x3037, .neutral), (0x303D, 0x303F, .neutral),
    (0x309B, 0x309C, .neutral), (0x30A0, 0x30A0, .neutral), (0x30FB, 0x30FB, .neutral),
    (0x31C0, 0x31E5, .neutral), (0x31EF, 0x31EF, .neutral), (0x321D, 0x321E, .neutral),
    (0x3250, 0x325F, .neutral), (0x327C, 0x327E, .neutral), (0x32B1, 0x32BF, .neutral),
    (0x32CC, 0x32CF, .neutral), (0x3377, 0x337A, .neutral), (0x33DE, 0x33DF, .neutral),
    (0x33FF, 0x33FF, .neutral), (0x4DC0, 0x4DFF, .neutral), (0xA490, 0xA4C6, .neutral),
    (0xA60D, 0xA60F, .neutral), (0xA673, 0xA673, .neutral), (0xA67E, 0xA67F, .neutral),
    (0xA700, 0xA721, .neutral), (0xA788, 0xA788, .neutral), (0xA828, 0xA82B, .neutral),
    (0xA838, 0xA839, .neutral), (0xA874, 0xA877, .neutral), (0xAB6A, 0xAB6B, .neutral),
    (0xFB1D, 0xFB1D, .right), (0xFB1F, 0xFB28, .right), (0xFB29, 0xFB29, .neutral),
    (0xFB2A, 0xFBC2, .right), (0xFBC3, 0xFBD2, .neutral), (0xFBD3, 0xFD3D, .right),
    (0xFD3E, 0xFD4F, .neutral), (0xFD50, 0xFD8F, .right), (0xFD90, 0xFD91, .neutral),
    (0xFD92, 0xFDC7, .right), (0xFDC8, 0xFDEF, .neutral), (0xFDF0, 0xFDFC, .right),
    (0xFDFD, 0xFDFF, .neutral), (0xFE10, 0xFE19, .neutral), (0xFE30, 0xFE52, .neutral),
    (0xFE54, 0xFE66, .neutral), (0xFE68, 0xFE6B, .neutral), (0xFE70, 0xFEFE, .right),
    (0xFEFF, 0xFEFF, .neutral), (0xFF01, 0xFF0F, .neutral), (0xFF10, 0xFF19, .europeanNumber),
    (0xFF1A, 0xFF20, .neutral), (0xFF3B, 0xFF40, .neutral), (0xFF5B, 0xFF65, .neutral),
    (0xFFE0, 0xFFE6, .neutral), (0xFFE8, 0xFFEE, .neutral), (0xFFF0, 0xFFFF, .neutral),
    (0x10101, 0x10101, .neutral), (0x10140, 0x1018C, .neutral), (0x10190, 0x1019C, .neutral),
    (0x101A0, 0x101A0, .neutral), (0x102E1, 0x102FB, .europeanNumber), (0x10800, 0x1091E, .right),
    (0x1091F, 0x1091F, .neutral), (0x10920, 0x10A00, .right), (0x10A04, 0x10A04, .right),
    (0x10A07, 0x10A0B, .right), (0x10A10, 0x10A37, .right), (0x10A3B, 0x10A3E, .right),
    (0x10A40, 0x10AE4, .right), (0x10AE7, 0x10B38, .right), (0x10B39, 0x10B3F, .neutral),
    (0x10B40, 0x10D23, .right), (0x10D28, 0x10D2F, .right), (0x10D30, 0x10D39, .arabicNumber),
    (0x10D3A, 0x10D3F, .right), (0x10D40, 0x10D49, .arabicNumber), (0x10D4A, 0x10D68, .right),
    (0x10D6E, 0x10D6E, .neutral), (0x10D6F, 0x10E5F, .right), (0x10E60, 0x10E7E, .arabicNumber),
    (0x10E7F, 0x10EAA, .right), (0x10EAD, 0x10ECF, .right), (0x10ED0, 0x10ED8, .neutral),
    (0x10ED9, 0x10EF9, .right), (0x10F00, 0x10F45, .right), (0x10F51, 0x10F81, .right),
    (0x10F86, 0x10FFF, .right), (0x11052, 0x11065, .neutral), (0x11660, 0x1166C, .neutral),
    (0x11FD5, 0x11FF1, .neutral), (0x16FE2, 0x16FE2, .neutral), (0x1BCA0, 0x1BCA3, .neutral),
    (0x1CC00, 0x1CCEF, .neutral), (0x1CCF0, 0x1CCF9, .europeanNumber), (0x1CCFA, 0x1CCFC, .neutral),
    (0x1CD00, 0x1CEB3, .neutral), (0x1CEBA, 0x1CED0, .neutral), (0x1CEE0, 0x1CEF0, .neutral),
    (0x1D173, 0x1D17A, .neutral), (0x1D1E9, 0x1D1EA, .neutral), (0x1D200, 0x1D241, .neutral),
    (0x1D245, 0x1D245, .neutral), (0x1D300, 0x1D356, .neutral), (0x1D6DB, 0x1D6DB, .neutral),
    (0x1D715, 0x1D715, .neutral), (0x1D74F, 0x1D74F, .neutral), (0x1D789, 0x1D789, .neutral),
    (0x1D7C3, 0x1D7C3, .neutral), (0x1D7CE, 0x1D7FF, .europeanNumber), (0x1E2FF, 0x1E2FF, .neutral),
    (0x1E800, 0x1E8CF, .right), (0x1E8D7, 0x1E943, .right), (0x1E94B, 0x1EEEF, .right),
    (0x1EEF0, 0x1EEF1, .neutral), (0x1EEF2, 0x1EFFF, .right), (0x1F000, 0x1F02B, .neutral),
    (0x1F030, 0x1F093, .neutral), (0x1F0A0, 0x1F0AE, .neutral), (0x1F0B1, 0x1F0BF, .neutral),
    (0x1F0C1, 0x1F0CF, .neutral), (0x1F0D1, 0x1F0F5, .neutral), (0x1F100, 0x1F10A, .europeanNumber),
    (0x1F10B, 0x1F10F, .neutral), (0x1F12F, 0x1F12F, .neutral), (0x1F16A, 0x1F16F, .neutral),
    (0x1F1AD, 0x1F1AD, .neutral), (0x1F260, 0x1F265, .neutral), (0x1F300, 0x1F6D8, .neutral),
    (0x1F6DC, 0x1F6EC, .neutral), (0x1F6F0, 0x1F6FC, .neutral), (0x1F700, 0x1F7D9, .neutral),
    (0x1F7E0, 0x1F7EB, .neutral), (0x1F7F0, 0x1F7F0, .neutral), (0x1F800, 0x1F80B, .neutral),
    (0x1F810, 0x1F847, .neutral), (0x1F850, 0x1F859, .neutral), (0x1F860, 0x1F887, .neutral),
    (0x1F890, 0x1F8AD, .neutral), (0x1F8B0, 0x1F8BB, .neutral), (0x1F8C0, 0x1F8C1, .neutral),
    (0x1F8D0, 0x1F8D8, .neutral), (0x1F900, 0x1FA57, .neutral), (0x1FA60, 0x1FA6D, .neutral),
    (0x1FA70, 0x1FA7C, .neutral), (0x1FA80, 0x1FA8A, .neutral), (0x1FA8E, 0x1FAC6, .neutral),
    (0x1FAC8, 0x1FAC8, .neutral), (0x1FACD, 0x1FADC, .neutral), (0x1FADF, 0x1FAEA, .neutral),
    (0x1FAEF, 0x1FAF8, .neutral), (0x1FB00, 0x1FB92, .neutral), (0x1FB94, 0x1FBEF, .neutral),
    (0x1FBF0, 0x1FBF9, .europeanNumber), (0x1FBFA, 0x1FBFA, .neutral), (0x1FFFE, 0x1FFFF, .neutral),
    (0x2FFFE, 0x2FFFF, .neutral), (0x3FFFE, 0x3FFFF, .neutral), (0x4FFFE, 0x4FFFF, .neutral),
    (0x5FFFE, 0x5FFFF, .neutral), (0x6FFFE, 0x6FFFF, .neutral), (0x7FFFE, 0x7FFFF, .neutral),
    (0x8FFFE, 0x8FFFF, .neutral), (0x9FFFE, 0x9FFFF, .neutral), (0xAFFFE, 0xAFFFF, .neutral),
    (0xBFFFE, 0xBFFFF, .neutral), (0xCFFFE, 0xCFFFF, .neutral), (0xDFFFE, 0xE00FF, .neutral),
    (0xE01F0, 0xE0FFF, .neutral), (0xEFFFE, 0xEFFFF, .neutral), (0xFFFFE, 0xFFFFF, .neutral),
    (0x10FFFE, 0x10FFFF, .neutral)]

/-- The direction of `n` in an increasing table. -/
def directionIn (n : Nat) : List (Nat × Nat × Direction) → Direction
  | [] => .left
  | (low, high, direction) :: rest =>
    if n < low then .left
    else if n ≤ high then direction
    else directionIn n rest

/-- The nonspacing marks that count as letters written from left to right. -/
def leftMarks : List Nat :=
  [0x0CBF, 0x0CC6, 0x11A07, 0x11A08, 0x11C3F]

def direction (c : Char) : Direction :=
  if isNonspacing c then
    if leftMarks.contains c.toNat then .left else .mark
  else directionIn c.toNat directionRows

end Flowline.Character
