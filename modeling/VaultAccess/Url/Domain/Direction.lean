import VaultAccess.Text.Ranges

/-!
# Direction of names

Some scripts run from right to left. A name with characters of such a script in it is sound only if each
of its labels reads in one direction, whatever stands around it.
-/

namespace VaultAccess.Url.Domain

/-- How a character goes with the direction of a text. -/
inductive Direction where
  | left
  | right
  /-- A digit that goes with letters from right to left. -/
  | arabicDigit
  /-- Any other digit. -/
  | digit
  /-- A mark on the character before it. -/
  | mark
  | neutral
  deriving Repr, DecidableEq

/-- The direction of characters outside ASCII that stand for themselves in names and do not run from left
to right, in ascending order. -/
def directions : List (Nat × Nat × Direction) := [
  (0xA1, 0xD7, .neutral), (0xF7, 0xF7, .neutral), (0x2B9, 0x2BA, .neutral),
  (0x2C2, 0x2CF, .neutral), (0x2D2, 0x2ED, .neutral), (0x2EF, 0x2FF, .neutral),
  (0x300, 0x36F, .mark), (0x375, 0x375, .neutral), (0x3F6, 0x3F6, .neutral), (0x483, 0x489, .mark),
  (0x58A, 0x58F, .neutral), (0x591, 0x5BD, .mark), (0x5BE, 0x5BE, .right), (0x5BF, 0x5BF, .mark),
  (0x5C0, 0x5C0, .right), (0x5C1, 0x5C2, .mark), (0x5C3, 0x5C3, .right), (0x5C4, 0x5C5, .mark),
  (0x5C6, 0x5C6, .right), (0x5C7, 0x5C7, .mark), (0x5D0, 0x5F4, .right), (0x606, 0x607, .neutral),
  (0x608, 0x608, .right), (0x609, 0x60A, .neutral), (0x60B, 0x60B, .right),
  (0x60C, 0x60C, .neutral), (0x60D, 0x60D, .right), (0x60E, 0x60F, .neutral), (0x610, 0x61A, .mark),
  (0x61B, 0x64A, .right), (0x64B, 0x65F, .mark), (0x660, 0x669, .arabicDigit),
  (0x66A, 0x66A, .neutral), (0x66B, 0x66C, .arabicDigit), (0x66D, 0x66F, .right),
  (0x670, 0x670, .mark), (0x671, 0x6D5, .right), (0x6D6, 0x6DC, .mark), (0x6DE, 0x6DE, .neutral),
  (0x6DF, 0x6E4, .mark), (0x6E5, 0x6E6, .right), (0x6E7, 0x6E8, .mark), (0x6E9, 0x6E9, .neutral),
  (0x6EA, 0x6ED, .mark), (0x6EE, 0x6EF, .right), (0x6F0, 0x6F9, .digit), (0x6FA, 0x710, .right),
  (0x711, 0x711, .mark), (0x712, 0x72F, .right), (0x730, 0x74A, .mark), (0x74D, 0x7A5, .right),
  (0x7A6, 0x7B0, .mark), (0x7B1, 0x7EA, .right), (0x7EB, 0x7F3, .mark), (0x7F4, 0x7F5, .right),
  (0x7F6, 0x7F9, .neutral), (0x7FA, 0x7FA, .right), (0x7FD, 0x7FD, .mark), (0x7FE, 0x815, .right),
  (0x816, 0x819, .mark), (0x81A, 0x81A, .right), (0x81B, 0x823, .mark), (0x824, 0x824, .right),
  (0x825, 0x827, .mark), (0x828, 0x828, .right), (0x829, 0x82D, .mark), (0x830, 0x858, .right),
  (0x859, 0x85B, .mark), (0x85E, 0x88F, .right), (0x897, 0x89F, .mark), (0x8A0, 0x8C9, .right),
  (0x8CA, 0x902, .mark), (0x93A, 0x93A, .mark), (0x93C, 0x93C, .mark), (0x941, 0x948, .mark),
  (0x94D, 0x94D, .mark), (0x951, 0x957, .mark), (0x962, 0x963, .mark), (0x981, 0x981, .mark),
  (0x9BC, 0x9BC, .mark), (0x9C1, 0x9C4, .mark), (0x9CD, 0x9CD, .mark), (0x9E2, 0x9E3, .mark),
  (0x9F2, 0x9F3, .neutral), (0x9FB, 0x9FB, .neutral), (0x9FE, 0xA02, .mark), (0xA3C, 0xA3C, .mark),
  (0xA41, 0xA51, .mark), (0xA70, 0xA71, .mark), (0xA75, 0xA75, .mark), (0xA81, 0xA82, .mark),
  (0xABC, 0xABC, .mark), (0xAC1, 0xAC8, .mark), (0xACD, 0xACD, .mark), (0xAE2, 0xAE3, .mark),
  (0xAF1, 0xAF1, .neutral), (0xAFA, 0xB01, .mark), (0xB3C, 0xB3C, .mark), (0xB3F, 0xB3F, .mark),
  (0xB41, 0xB44, .mark), (0xB4D, 0xB56, .mark), (0xB62, 0xB63, .mark), (0xB82, 0xB82, .mark),
  (0xBC0, 0xBC0, .mark), (0xBCD, 0xBCD, .mark), (0xBF3, 0xBFA, .neutral), (0xC00, 0xC00, .mark),
  (0xC04, 0xC04, .mark), (0xC3C, 0xC3C, .mark), (0xC3E, 0xC40, .mark), (0xC46, 0xC56, .mark),
  (0xC62, 0xC63, .mark), (0xC78, 0xC7E, .neutral), (0xC81, 0xC81, .mark), (0xCBC, 0xCBC, .mark),
  (0xCCC, 0xCCD, .mark), (0xCE2, 0xCE3, .mark), (0xD00, 0xD01, .mark), (0xD3B, 0xD3C, .mark),
  (0xD41, 0xD44, .mark), (0xD4D, 0xD4D, .mark), (0xD62, 0xD63, .mark), (0xD81, 0xD81, .mark),
  (0xDCA, 0xDCA, .mark), (0xDD2, 0xDD6, .mark), (0xE31, 0xE31, .mark), (0xE34, 0xE3A, .mark),
  (0xE3F, 0xE3F, .neutral), (0xE47, 0xE4E, .mark), (0xEB1, 0xEB1, .mark), (0xEB4, 0xEBC, .mark),
  (0xEC8, 0xECE, .mark), (0xF18, 0xF19, .mark), (0xF35, 0xF35, .mark), (0xF37, 0xF37, .mark),
  (0xF39, 0xF39, .mark), (0xF3A, 0xF3D, .neutral), (0xF71, 0xF7E, .mark), (0xF80, 0xF84, .mark),
  (0xF86, 0xF87, .mark), (0xF8D, 0xFBC, .mark), (0xFC6, 0xFC6, .mark), (0x102D, 0x1030, .mark),
  (0x1032, 0x1037, .mark), (0x1039, 0x103A, .mark), (0x103D, 0x103E, .mark),
  (0x1058, 0x1059, .mark), (0x105E, 0x1060, .mark), (0x1071, 0x1074, .mark),
  (0x1082, 0x1082, .mark), (0x1085, 0x1086, .mark), (0x108D, 0x108D, .mark),
  (0x109D, 0x109D, .mark), (0x135D, 0x135F, .mark), (0x1390, 0x1399, .neutral),
  (0x1400, 0x1400, .neutral), (0x169B, 0x169C, .neutral), (0x1712, 0x1714, .mark),
  (0x1732, 0x1733, .mark), (0x1752, 0x1753, .mark), (0x1772, 0x1773, .mark),
  (0x17B7, 0x17BD, .mark), (0x17C6, 0x17C6, .mark), (0x17C9, 0x17D3, .mark),
  (0x17DB, 0x17DB, .neutral), (0x17DD, 0x17DD, .mark), (0x17F0, 0x180A, .neutral),
  (0x1885, 0x1886, .mark), (0x18A9, 0x18A9, .mark), (0x1920, 0x1922, .mark),
  (0x1927, 0x1928, .mark), (0x1932, 0x1932, .mark), (0x1939, 0x193B, .mark),
  (0x1940, 0x1945, .neutral), (0x19DE, 0x19FF, .neutral), (0x1A17, 0x1A18, .mark),
  (0x1A1B, 0x1A1B, .mark), (0x1A56, 0x1A56, .mark), (0x1A58, 0x1A60, .mark),
  (0x1A62, 0x1A62, .mark), (0x1A65, 0x1A6C, .mark), (0x1A73, 0x1A7F, .mark),
  (0x1AB0, 0x1B03, .mark), (0x1B34, 0x1B34, .mark), (0x1B36, 0x1B3A, .mark),
  (0x1B3C, 0x1B3C, .mark), (0x1B42, 0x1B42, .mark), (0x1B6B, 0x1B73, .mark),
  (0x1B80, 0x1B81, .mark), (0x1BA2, 0x1BA5, .mark), (0x1BA8, 0x1BA9, .mark),
  (0x1BAB, 0x1BAD, .mark), (0x1BE6, 0x1BE6, .mark), (0x1BE8, 0x1BE9, .mark),
  (0x1BED, 0x1BED, .mark), (0x1BEF, 0x1BF1, .mark), (0x1C2C, 0x1C33, .mark),
  (0x1C36, 0x1C37, .mark), (0x1CD0, 0x1CD2, .mark), (0x1CD4, 0x1CE0, .mark),
  (0x1CE2, 0x1CE8, .mark), (0x1CED, 0x1CED, .mark), (0x1CF4, 0x1CF4, .mark),
  (0x1CF8, 0x1CF9, .mark), (0x1DC0, 0x1DFF, .mark), (0x200C, 0x20C1, .neutral),
  (0x20D0, 0x20F0, .mark), (0x2104, 0x214D, .neutral), (0x218A, 0x2335, .neutral),
  (0x237B, 0x2394, .neutral), (0x2396, 0x26AB, .neutral), (0x26AD, 0x27FF, .neutral),
  (0x2900, 0x2BFF, .neutral), (0x2CE5, 0x2CEA, .neutral), (0x2CEF, 0x2CF1, .mark),
  (0x2CF9, 0x2CFF, .neutral), (0x2D7F, 0x2D7F, .mark), (0x2DE0, 0x2DFF, .mark),
  (0x2E00, 0x3004, .neutral), (0x3008, 0x3020, .neutral), (0x302A, 0x302D, .mark),
  (0x3030, 0x3030, .neutral), (0x3037, 0x3037, .neutral), (0x303D, 0x303F, .neutral),
  (0x3099, 0x309A, .mark), (0x30A0, 0x30A0, .neutral), (0x30FB, 0x30FB, .neutral),
  (0x31C0, 0x31E5, .neutral), (0x4DC0, 0x4DFF, .neutral), (0xA490, 0xA4C6, .neutral),
  (0xA60D, 0xA60F, .neutral), (0xA66F, 0xA672, .mark), (0xA673, 0xA673, .neutral),
  (0xA674, 0xA67D, .mark), (0xA67E, 0xA67F, .neutral), (0xA69E, 0xA69F, .mark),
  (0xA6F0, 0xA6F1, .mark), (0xA700, 0xA721, .neutral), (0xA788, 0xA788, .neutral),
  (0xA802, 0xA802, .mark), (0xA806, 0xA806, .mark), (0xA80B, 0xA80B, .mark),
  (0xA825, 0xA826, .mark), (0xA828, 0xA82B, .neutral), (0xA82C, 0xA82C, .mark),
  (0xA838, 0xA839, .neutral), (0xA874, 0xA877, .neutral), (0xA8C4, 0xA8C5, .mark),
  (0xA8E0, 0xA8F1, .mark), (0xA8FF, 0xA8FF, .mark), (0xA926, 0xA92D, .mark),
  (0xA947, 0xA951, .mark), (0xA980, 0xA982, .mark), (0xA9B3, 0xA9B3, .mark),
  (0xA9B6, 0xA9B9, .mark), (0xA9BC, 0xA9BD, .mark), (0xA9E5, 0xA9E5, .mark),
  (0xAA29, 0xAA2E, .mark), (0xAA31, 0xAA32, .mark), (0xAA35, 0xAA36, .mark),
  (0xAA43, 0xAA43, .mark), (0xAA4C, 0xAA4C, .mark), (0xAA7C, 0xAA7C, .mark),
  (0xAAB0, 0xAAB0, .mark), (0xAAB2, 0xAAB4, .mark), (0xAAB7, 0xAAB8, .mark),
  (0xAABE, 0xAABF, .mark), (0xAAC1, 0xAAC1, .mark), (0xAAEC, 0xAAED, .mark),
  (0xAAF6, 0xAAF6, .mark), (0xAB6A, 0xAB6B, .neutral), (0xABE5, 0xABE5, .mark),
  (0xABE8, 0xABE8, .mark), (0xABED, 0xABED, .mark), (0xFB1E, 0xFB1E, .mark),
  (0xFBB2, 0xFBC2, .right), (0xFBC3, 0xFDFF, .neutral), (0xFE20, 0xFE2F, .mark),
  (0xFE45, 0xFE46, .neutral), (0xFE73, 0xFE73, .right), (0x10101, 0x10101, .neutral),
  (0x10140, 0x1018C, .neutral), (0x10190, 0x101A0, .neutral), (0x101FD, 0x101FD, .mark),
  (0x102E0, 0x102E0, .mark), (0x102E1, 0x102FB, .digit), (0x10376, 0x1037A, .mark),
  (0x10800, 0x1091B, .right), (0x1091F, 0x1091F, .neutral), (0x10920, 0x10A00, .right),
  (0x10A01, 0x10A0F, .mark), (0x10A10, 0x10A35, .right), (0x10A38, 0x10A3F, .mark),
  (0x10A40, 0x10AE4, .right), (0x10AE5, 0x10AE6, .mark), (0x10AEB, 0x10B35, .right),
  (0x10B39, 0x10B3F, .neutral), (0x10B40, 0x10D23, .right), (0x10D24, 0x10D27, .mark),
  (0x10D30, 0x10D39, .arabicDigit), (0x10D40, 0x10D4F, .right), (0x10D69, 0x10D6D, .mark),
  (0x10D6E, 0x10D6E, .neutral), (0x10D6F, 0x10D85, .right), (0x10D8E, 0x10D8F, .neutral),
  (0x10E60, 0x10E7E, .arabicDigit), (0x10E80, 0x10EA9, .right), (0x10EAB, 0x10EAC, .mark),
  (0x10EAD, 0x10EC7, .right), (0x10ED0, 0x10ED8, .neutral), (0x10EFA, 0x10EFF, .mark),
  (0x10F00, 0x10F45, .right), (0x10F46, 0x10F50, .mark), (0x10F51, 0x10F81, .right),
  (0x10F82, 0x10F85, .mark), (0x10F86, 0x10FF6, .right), (0x11001, 0x11001, .mark),
  (0x11038, 0x11046, .mark), (0x11052, 0x11065, .neutral), (0x11070, 0x11070, .mark),
  (0x11073, 0x11074, .mark), (0x1107F, 0x11081, .mark), (0x110B3, 0x110B6, .mark),
  (0x110B9, 0x110BA, .mark), (0x110C2, 0x110C2, .mark), (0x11100, 0x11102, .mark),
  (0x11127, 0x1112B, .mark), (0x1112D, 0x11134, .mark), (0x11173, 0x11173, .mark),
  (0x11180, 0x11181, .mark), (0x111B6, 0x111BE, .mark), (0x111C9, 0x111CC, .mark),
  (0x111CF, 0x111CF, .mark), (0x1122F, 0x11231, .mark), (0x11234, 0x11234, .mark),
  (0x11236, 0x11237, .mark), (0x1123E, 0x1123E, .mark), (0x11241, 0x11241, .mark),
  (0x112DF, 0x112DF, .mark), (0x112E3, 0x112EA, .mark), (0x11300, 0x11301, .mark),
  (0x1133B, 0x1133C, .mark), (0x11340, 0x11340, .mark), (0x11366, 0x11374, .mark),
  (0x113BB, 0x113C0, .mark), (0x113CE, 0x113CE, .mark), (0x113D0, 0x113D0, .mark),
  (0x113D2, 0x113D2, .mark), (0x113E1, 0x113E2, .mark), (0x11438, 0x1143F, .mark),
  (0x11442, 0x11444, .mark), (0x11446, 0x11446, .mark), (0x1145E, 0x1145E, .mark),
  (0x114B3, 0x114B8, .mark), (0x114BA, 0x114BA, .mark), (0x114BF, 0x114C0, .mark),
  (0x114C2, 0x114C3, .mark), (0x115B2, 0x115B5, .mark), (0x115BC, 0x115BD, .mark),
  (0x115BF, 0x115C0, .mark), (0x115DC, 0x115DD, .mark), (0x11633, 0x1163A, .mark),
  (0x1163D, 0x1163D, .mark), (0x1163F, 0x11640, .mark), (0x11660, 0x1166C, .neutral),
  (0x116AB, 0x116AB, .mark), (0x116AD, 0x116AD, .mark), (0x116B0, 0x116B5, .mark),
  (0x116B7, 0x116B7, .mark), (0x1171D, 0x1171F, .mark), (0x11722, 0x11725, .mark),
  (0x11727, 0x1172B, .mark), (0x1182F, 0x11837, .mark), (0x11839, 0x1183A, .mark),
  (0x1193B, 0x1193C, .mark), (0x1193E, 0x1193E, .mark), (0x11943, 0x11943, .mark),
  (0x119D4, 0x119DB, .mark), (0x119E0, 0x119E0, .mark), (0x11A01, 0x11A06, .mark),
  (0x11A09, 0x11A0A, .mark), (0x11A33, 0x11A38, .mark), (0x11A3B, 0x11A3E, .mark),
  (0x11A47, 0x11A47, .mark), (0x11A51, 0x11A56, .mark), (0x11A59, 0x11A5B, .mark),
  (0x11A8A, 0x11A96, .mark), (0x11A98, 0x11A99, .mark), (0x11B60, 0x11B60, .mark),
  (0x11B62, 0x11B64, .mark), (0x11B66, 0x11B66, .mark), (0x11C30, 0x11C3D, .mark),
  (0x11C92, 0x11CA7, .mark), (0x11CAA, 0x11CB0, .mark), (0x11CB2, 0x11CB3, .mark),
  (0x11CB5, 0x11CB6, .mark), (0x11D31, 0x11D45, .mark), (0x11D47, 0x11D47, .mark),
  (0x11D90, 0x11D91, .mark), (0x11D95, 0x11D95, .mark), (0x11D97, 0x11D97, .mark),
  (0x11EF3, 0x11EF4, .mark), (0x11F00, 0x11F01, .mark), (0x11F36, 0x11F3A, .mark),
  (0x11F40, 0x11F40, .mark), (0x11F42, 0x11F42, .mark), (0x11F5A, 0x11F5A, .mark),
  (0x11FD5, 0x11FF1, .neutral), (0x13440, 0x13440, .mark), (0x13447, 0x13455, .mark),
  (0x1611E, 0x16129, .mark), (0x1612D, 0x1612F, .mark), (0x16AF0, 0x16AF4, .mark),
  (0x16B30, 0x16B36, .mark), (0x16F4F, 0x16F4F, .mark), (0x16F8F, 0x16F92, .mark),
  (0x16FE2, 0x16FE2, .neutral), (0x16FE4, 0x16FE4, .mark), (0x1BC9D, 0x1BC9E, .mark),
  (0x1CC00, 0x1CEF0, .neutral), (0x1CF00, 0x1CF46, .mark), (0x1D167, 0x1D169, .mark),
  (0x1D17B, 0x1D182, .mark), (0x1D185, 0x1D18B, .mark), (0x1D1AA, 0x1D1AD, .mark),
  (0x1D1E9, 0x1D241, .neutral), (0x1D242, 0x1D244, .mark), (0x1D245, 0x1D245, .neutral),
  (0x1D300, 0x1D356, .neutral), (0x1DA00, 0x1DA36, .mark), (0x1DA3B, 0x1DA6C, .mark),
  (0x1DA75, 0x1DA75, .mark), (0x1DA84, 0x1DA84, .mark), (0x1DA9B, 0x1DAAF, .mark),
  (0x1E000, 0x1E08F, .mark), (0x1E130, 0x1E136, .mark), (0x1E2AE, 0x1E2AE, .mark),
  (0x1E2EC, 0x1E2EF, .mark), (0x1E2FF, 0x1E2FF, .neutral), (0x1E4EC, 0x1E4EF, .mark),
  (0x1E5EE, 0x1E5EF, .mark), (0x1E6E3, 0x1E6E3, .mark), (0x1E6E6, 0x1E6E6, .mark),
  (0x1E6EE, 0x1E6EF, .mark), (0x1E6F5, 0x1E6F5, .mark), (0x1E800, 0x1E8CF, .right),
  (0x1E8D0, 0x1E8D6, .mark), (0x1E922, 0x1E943, .right), (0x1E944, 0x1E94A, .mark),
  (0x1E94B, 0x1ED3D, .right), (0x1EEF0, 0x1F12F, .neutral), (0x1F16D, 0x1F16F, .neutral),
  (0x1F1AD, 0x1F1AD, .neutral), (0x1F260, 0x1FBFA, .neutral)]

/-- The direction of a character. -/
def directionOf (c : Char) : Direction :=
  if c.isAlpha then .left
  else if c.isDigit then .digit
  else if c.toNat < 0x80 then .neutral
  else
    match directions.find? fun r ↦ c.toNat ≤ r.2.1 with
    | some (first, _, d) => if first ≤ c.toNat then d else .left
    | none => .left

/-- Whether a name with a character in it has to be checked. -/
def isFromRight (c : Char) : Bool :=
  directionOf c = .right || directionOf c = .arabicDigit

/-- Whether a label reads in one direction: its first character sets the direction, nothing in it runs
the other way, and it ends in a letter of that direction or a digit. From right to left, digits of only
one kind may stand in it. -/
def readsOneWay (label : List Char) : Bool :=
  let ds := label.map directionOf
  let end? := (ds.reverse.dropWhile (· = .mark)).head?
  match ds.head? with
  | none => true
  | some .left =>
    ds.all (fun d ↦ d ≠ .right && d ≠ .arabicDigit) && (end? = some .left || end? = some .digit)
  | some .right =>
    ds.all (· ≠ .left) && end? ≠ some .neutral &&
      !(ds.contains .digit && ds.contains .arabicDigit)
  | some _ => false

end VaultAccess.Url.Domain
