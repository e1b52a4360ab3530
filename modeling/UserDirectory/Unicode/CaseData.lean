/-!
Lower-case mapping from the Unicode Character Database, version 14.0, with the unconditional special
casings, and the two properties of the Final_Sigma context.

* `lowerRuns`: runs of code points `step` apart, each of which lower-cases to itself plus `delta`.
* `lowerSpecial`: code points whose lower case has more than one character.
* `caseIgnorableText`: code points that the Final_Sigma rule skips over (Case_Ignorable).
* `casedText`: cased code points that are not case-ignorable.
-/

namespace UserDirectory.Unicode

/-- One run of one-character lower-case mappings: `count` code points `step` apart from `start`, each
moving by `delta`. -/
structure LowerRun where
  start : Nat
  count : Nat
  step : Nat
  delta : Int

def lowerRuns : Array LowerRun :=
  #[⟨0x41, 26, 1, 0x20⟩, ⟨0xC0, 23, 1, 0x20⟩, ⟨0xD8, 7, 1, 0x20⟩, ⟨0x100, 24, 2, 0x1⟩,
    ⟨0x132, 3, 2, 0x1⟩, ⟨0x139, 8, 2, 0x1⟩, ⟨0x14A, 23, 2, 0x1⟩, ⟨0x178, 1, 1, -0x79⟩,
    ⟨0x179, 3, 2, 0x1⟩, ⟨0x181, 1, 1, 0xD2⟩, ⟨0x182, 2, 2, 0x1⟩, ⟨0x186, 1, 1, 0xCE⟩,
    ⟨0x187, 1, 1, 0x1⟩, ⟨0x189, 2, 1, 0xCD⟩, ⟨0x18B, 1, 1, 0x1⟩, ⟨0x18E, 1, 1, 0x4F⟩,
    ⟨0x18F, 1, 1, 0xCA⟩, ⟨0x190, 1, 1, 0xCB⟩, ⟨0x191, 1, 1, 0x1⟩, ⟨0x193, 1, 1, 0xCD⟩,
    ⟨0x194, 1, 1, 0xCF⟩, ⟨0x196, 1, 1, 0xD3⟩, ⟨0x197, 1, 1, 0xD1⟩, ⟨0x198, 1, 1, 0x1⟩,
    ⟨0x19C, 1, 1, 0xD3⟩, ⟨0x19D, 1, 1, 0xD5⟩, ⟨0x19F, 1, 1, 0xD6⟩, ⟨0x1A0, 3, 2, 0x1⟩,
    ⟨0x1A6, 1, 1, 0xDA⟩, ⟨0x1A7, 1, 1, 0x1⟩, ⟨0x1A9, 1, 1, 0xDA⟩, ⟨0x1AC, 1, 1, 0x1⟩,
    ⟨0x1AE, 1, 1, 0xDA⟩, ⟨0x1AF, 1, 1, 0x1⟩, ⟨0x1B1, 2, 1, 0xD9⟩, ⟨0x1B3, 2, 2, 0x1⟩,
    ⟨0x1B7, 1, 1, 0xDB⟩, ⟨0x1B8, 1, 1, 0x1⟩, ⟨0x1BC, 1, 1, 0x1⟩, ⟨0x1C4, 1, 1, 0x2⟩,
    ⟨0x1C5, 1, 1, 0x1⟩, ⟨0x1C7, 1, 1, 0x2⟩, ⟨0x1C8, 1, 1, 0x1⟩, ⟨0x1CA, 1, 1, 0x2⟩,
    ⟨0x1CB, 9, 2, 0x1⟩, ⟨0x1DE, 9, 2, 0x1⟩, ⟨0x1F1, 1, 1, 0x2⟩, ⟨0x1F2, 2, 2, 0x1⟩,
    ⟨0x1F6, 1, 1, -0x61⟩, ⟨0x1F7, 1, 1, -0x38⟩, ⟨0x1F8, 20, 2, 0x1⟩, ⟨0x220, 1, 1, -0x82⟩,
    ⟨0x222, 9, 2, 0x1⟩, ⟨0x23A, 1, 1, 0x2A2B⟩, ⟨0x23B, 1, 1, 0x1⟩, ⟨0x23D, 1, 1, -0xA3⟩,
    ⟨0x23E, 1, 1, 0x2A28⟩, ⟨0x241, 1, 1, 0x1⟩, ⟨0x243, 1, 1, -0xC3⟩, ⟨0x244, 1, 1, 0x45⟩,
    ⟨0x245, 1, 1, 0x47⟩, ⟨0x246, 5, 2, 0x1⟩, ⟨0x370, 2, 2, 0x1⟩, ⟨0x376, 1, 1, 0x1⟩,
    ⟨0x37F, 1, 1, 0x74⟩, ⟨0x386, 1, 1, 0x26⟩, ⟨0x388, 3, 1, 0x25⟩, ⟨0x38C, 1, 1, 0x40⟩,
    ⟨0x38E, 2, 1, 0x3F⟩, ⟨0x391, 17, 1, 0x20⟩, ⟨0x3A3, 9, 1, 0x20⟩, ⟨0x3CF, 1, 1, 0x8⟩,
    ⟨0x3D8, 12, 2, 0x1⟩, ⟨0x3F4, 1, 1, -0x3C⟩, ⟨0x3F7, 1, 1, 0x1⟩, ⟨0x3F9, 1, 1, -0x7⟩,
    ⟨0x3FA, 1, 1, 0x1⟩, ⟨0x3FD, 3, 1, -0x82⟩, ⟨0x400, 16, 1, 0x50⟩, ⟨0x410, 32, 1, 0x20⟩,
    ⟨0x460, 17, 2, 0x1⟩, ⟨0x48A, 27, 2, 0x1⟩, ⟨0x4C0, 1, 1, 0xF⟩, ⟨0x4C1, 7, 2, 0x1⟩,
    ⟨0x4D0, 48, 2, 0x1⟩, ⟨0x531, 38, 1, 0x30⟩, ⟨0x10A0, 38, 1, 0x1C60⟩, ⟨0x10C7, 1, 1, 0x1C60⟩,
    ⟨0x10CD, 1, 1, 0x1C60⟩, ⟨0x13A0, 80, 1, 0x97D0⟩, ⟨0x13F0, 6, 1, 0x8⟩, ⟨0x1C90, 43, 1, -0xBC0⟩,
    ⟨0x1CBD, 3, 1, -0xBC0⟩, ⟨0x1E00, 75, 2, 0x1⟩, ⟨0x1E9E, 1, 1, -0x1DBF⟩, ⟨0x1EA0, 48, 2, 0x1⟩,
    ⟨0x1F08, 8, 1, -0x8⟩, ⟨0x1F18, 6, 1, -0x8⟩, ⟨0x1F28, 8, 1, -0x8⟩, ⟨0x1F38, 8, 1, -0x8⟩,
    ⟨0x1F48, 6, 1, -0x8⟩, ⟨0x1F59, 4, 2, -0x8⟩, ⟨0x1F68, 8, 1, -0x8⟩, ⟨0x1F88, 8, 1, -0x8⟩,
    ⟨0x1F98, 8, 1, -0x8⟩, ⟨0x1FA8, 8, 1, -0x8⟩, ⟨0x1FB8, 2, 1, -0x8⟩, ⟨0x1FBA, 2, 1, -0x4A⟩,
    ⟨0x1FBC, 1, 1, -0x9⟩, ⟨0x1FC8, 4, 1, -0x56⟩, ⟨0x1FCC, 1, 1, -0x9⟩, ⟨0x1FD8, 2, 1, -0x8⟩,
    ⟨0x1FDA, 2, 1, -0x64⟩, ⟨0x1FE8, 2, 1, -0x8⟩, ⟨0x1FEA, 2, 1, -0x70⟩, ⟨0x1FEC, 1, 1, -0x7⟩,
    ⟨0x1FF8, 2, 1, -0x80⟩, ⟨0x1FFA, 2, 1, -0x7E⟩, ⟨0x1FFC, 1, 1, -0x9⟩, ⟨0x2126, 1, 1, -0x1D5D⟩,
    ⟨0x212A, 1, 1, -0x20BF⟩, ⟨0x212B, 1, 1, -0x2046⟩, ⟨0x2132, 1, 1, 0x1C⟩, ⟨0x2160, 16, 1, 0x10⟩,
    ⟨0x2183, 1, 1, 0x1⟩, ⟨0x24B6, 26, 1, 0x1A⟩, ⟨0x2C00, 48, 1, 0x30⟩, ⟨0x2C60, 1, 1, 0x1⟩,
    ⟨0x2C62, 1, 1, -0x29F7⟩, ⟨0x2C63, 1, 1, -0xEE6⟩, ⟨0x2C64, 1, 1, -0x29E7⟩, ⟨0x2C67, 3, 2, 0x1⟩,
    ⟨0x2C6D, 1, 1, -0x2A1C⟩, ⟨0x2C6E, 1, 1, -0x29FD⟩, ⟨0x2C6F, 1, 1, -0x2A1F⟩,
    ⟨0x2C70, 1, 1, -0x2A1E⟩, ⟨0x2C72, 1, 1, 0x1⟩, ⟨0x2C75, 1, 1, 0x1⟩, ⟨0x2C7E, 2, 1, -0x2A3F⟩,
    ⟨0x2C80, 50, 2, 0x1⟩, ⟨0x2CEB, 2, 2, 0x1⟩, ⟨0x2CF2, 1, 1, 0x1⟩, ⟨0xA640, 23, 2, 0x1⟩,
    ⟨0xA680, 14, 2, 0x1⟩, ⟨0xA722, 7, 2, 0x1⟩, ⟨0xA732, 31, 2, 0x1⟩, ⟨0xA779, 2, 2, 0x1⟩,
    ⟨0xA77D, 1, 1, -0x8A04⟩, ⟨0xA77E, 5, 2, 0x1⟩, ⟨0xA78B, 1, 1, 0x1⟩, ⟨0xA78D, 1, 1, -0xA528⟩,
    ⟨0xA790, 2, 2, 0x1⟩, ⟨0xA796, 10, 2, 0x1⟩, ⟨0xA7AA, 1, 1, -0xA544⟩, ⟨0xA7AB, 1, 1, -0xA54F⟩,
    ⟨0xA7AC, 1, 1, -0xA54B⟩, ⟨0xA7AD, 1, 1, -0xA541⟩, ⟨0xA7AE, 1, 1, -0xA544⟩,
    ⟨0xA7B0, 1, 1, -0xA512⟩, ⟨0xA7B1, 1, 1, -0xA52A⟩, ⟨0xA7B2, 1, 1, -0xA515⟩,
    ⟨0xA7B3, 1, 1, 0x3A0⟩, ⟨0xA7B4, 8, 2, 0x1⟩, ⟨0xA7C4, 1, 1, -0x30⟩, ⟨0xA7C5, 1, 1, -0xA543⟩,
    ⟨0xA7C6, 1, 1, -0x8A38⟩, ⟨0xA7C7, 2, 2, 0x1⟩, ⟨0xA7D0, 1, 1, 0x1⟩, ⟨0xA7D6, 2, 2, 0x1⟩,
    ⟨0xA7F5, 1, 1, 0x1⟩, ⟨0xFF21, 26, 1, 0x20⟩, ⟨0x10400, 40, 1, 0x28⟩, ⟨0x104B0, 36, 1, 0x28⟩,
    ⟨0x10570, 11, 1, 0x27⟩, ⟨0x1057C, 15, 1, 0x27⟩, ⟨0x1058C, 7, 1, 0x27⟩, ⟨0x10594, 2, 1, 0x27⟩,
    ⟨0x10C80, 51, 1, 0x40⟩, ⟨0x118A0, 32, 1, 0x20⟩, ⟨0x16E40, 32, 1, 0x20⟩, ⟨0x1E900, 34, 1, 0x22⟩]

def lowerSpecial : List (Nat × List Nat) :=
  [(0x130, [0x69, 0x307])]

def caseIgnorableText : String :=
  String.intercalate " " [
    "0:0 27:1 1:0 6:1 1:0 B:1 1:0 23:1 1:0 1:1 1:0 47:1 1:0 4:1 1:0 1:1 1:0 4:1 1:0 2:1 2:0 1F7:1 C0:0 4:1 2:0 4:1 1:0 9:1 2:0 1:1 1:0 FB:1 7:0 CF:1 1:0 5:1 1:0 31:1 2D:0 1:1 1:0 1:1 2:0 1:1 2:0 1:1 1:0 2C:1 1:0 B:1 6:0 A:1 B:0 1:1 1:0 23:1 1:0 A:1 15:0 10:1 1:0 65:1 8:0 1:1 A:0 1:1 4:0 21:1 1:0 1:1 1:0 1E:1 1B:0 5B:1 B:0 3A:1 B:0 4:1 1:0 2:1 1:0 18:1 18:0 2B:1 3:0 2C:1 1:0 7:1 2:0 6:1 8:0 29:1 3A:0 37:1 1:0 1:1 1:0 4:1 8:0 4:1 1:0 3:1 7:0 A:1 2:0 D:1 1:0 F:1 1:0 3A:1 1:0 4:1 4:0 8:1 1:0 14:1 2:0 1A:1 1:0 2:1 2:0 39:1 1:0 4:1 2:0 4:1 2:0 2:1 3:0 3:1 1:0 1E:1 2:0 3:1 1:0 B:1 2:0 39:1 1:0 4:1 5:0 1:1 2:0 4:1 1:0 14:1 2:0 16:1 6:0 1:1 1:0 3A:1 1:0 2:1 1:0 1:1 4:0 8:1 1:0 7:1 2:0 B:1 2:0 1E:1 1:0 3D:1 1:0 C:1 1:0 32:1 1:0 3:1 1:0 37:1 1:0 1:1 3:0 5:1 3:0 1:1 4:0 7:1 2:0 B:1 2:0 1D:1 1:0 3A:1 1:0 2:1 1:0 6:1 1:0 5:1 2:0 14:1 2:0 1C:1 2:0 39:1 2:0 4:1 4:0 8:1 1:0 14:1 2:0 1D:1 1:0 48:1 1:0 7:1 3:0 1:1 1:0 5A:1 1:0 2:1 7:0 B:1 9:0 62:1 1:0 2:1 9:0 9:1 1:0 1:1 6:0 4A:1 2:0 1B:1 1:0 1:1 1:0 1:1 1:0 37:1 E:0 1:1 5:0 1:1 2:0 5:1 B:0 1:1 24:0 9:1 1:0 66:1 4:0 1:1 6:0 1:1 2:0 2:1 2:0 19:1 2:0 4:1 3:0 10:1 4:0 D:1 1:0 2:1 2:0 6:1 1:0 F:1 1:0 5E:1 1:0 260:1 3:0 3B2:1 3:0 1D:1 2:0 1E:1 2:0 1E:1 2:0 40:1 2:0 1:1 7:0 8:1 1:0 2:1 B:0 3:1 1:0 5:1 1:0 2D:1 5:0 33:1 1:0 41:1 2:0 22:1 1:0 76:1 3:0 4:1 2:0 9:1 1:0 6:1 3:0 DB:1 2:0 2:1 1:0 3A:1 1:0 1:1 7:0 1:1 1:0 1:1 1:0 2:1 8:0 6:1 A:0 2:1 1:0 27:1 1:0 8:1 1F:0 31:1 4:0 30:1 1:0 1:1 5:0 1:1 1:0 5:1 1:0 28:1 9:0 C:1 2:0 20:1 4:0 2:1 2:0 1:1 3:0 38:1 1:0 1:1 2:0 3:1 1:0 1:1 3:0 3A:1 8:0 2:1 2:0 40:1 6:0 52:1 3:0 1:1 D:0 1:1 7:0 4:1 1:0 6:1 1:0 3:1 2:0 32:1 3F:0 D:1 1:0 22:1 65:0 1BD:1 1:0 1:1 3:0 B:1 3:0 D:1 3:0 D:1 3:0 D:1 2:0 C:1 5:0 8:1 2:0 A:1 1:0 2:1 1:0 2:1 5:0 31:1 5:0 1:1 A:0 1:1 1:0 D:1 1:0 10:1 D:0 33:1 21:0 B8B:1 2:0 71:1 3:0 7D:1 1:0 F:1 1:0 60:1 20:0 2F:1 1:0 1D5:1 1:0 24:1 4:0 3:1 5:0 5:1 1:0 5D:1 6:0 5D:1 3:0 6F16:1 1:0 4E2:1 6:0 10E:1 1:0 62:1 4:0 1:1 A:0 1:1 1:0 1C:1 4:0 50:1 2:0 E:1 22:0 4E:1 1:0 17:1 3:0 67:1 3:0 3:1 2:0 8:1 1:0 3:1 1:0 4:1 1:0 19:1 2:0 5:1 1:0 97:1 2:0 1A:1 12:0 D:1 1:0 26:1 8:0 19:1 B:0 2E:1 3:0 30:1 1:0 2:1 4:0 2:1 2:0 11:1 1:0 15:1 2:0 42:1 6:0 2:1 2:0 2:1 2:0 C:1 1:0 8:1 1:0 23:1 1:0 B:1 1:0 33:1 1:0 1:1 3:0 2:1 2:0 5:1 2:0 1:1 1:0 1B:1 1:0 E:1 2:0 5:1 2:0 1:1 1:0 64:1 5:0 9:1 3:0 79:1 1:0 2:1 1:0 4:1 1:0 4F30:1 1:0 93:1 11:0 23D:1 10:0 3:1 1:0 C:1 10:0 22:1 1:0 2:1 1:0 A9:1 1:0 7:1 1:0 6:1 1:0 B:1 1:0 23:1 1:0 1:1 1:0 2F:1 1:0 2D:1 2:0 43:1 1:0 15:1 3:0 201:1 1:0 E2:1 1:0 95:1 5:0 405:1 6:0 1:1 2A:0 1:1 9:0 246:1 3:0 1:1 2:0 5:1 4:0 28:1 3:0 4:1 1:0 A5:1 2:0 23D:1 4:0 183:1 2:0 99:1 B:0 31:1 4:0 7B:1 1:0 36:1 F:0 29:1 1:0 2:1 2:0 A:1 3:0 31:1 4:0 2:1 2:0 2:1 1:0 4:1 1:0 A:1 1:0 32:1 3:0 24:1 5:0 1:1 8:0 3E:1 1:0 C:1 2:0 34:1 9:0 A:1 4:0 2:1 1:0 5F:1 3:0 2:1 1:0 1:1 2:0 6:1 1:0 A0:1 1:0 3:1 8:0 15:1 2:0 39:1 2:0 3:1 1:0 25:1 7:0 3:1 5:0 C3:1 8:0 2:1 3:0 1:1 1:0 17:1 1:0 54:1 6:0 1:1 1:0 4:1 2:0 1:1 2:0 EE:1 4:0 6:1 2:0 1:1 2:0 1B:1 2:0 55:1 8:0 2:1 1:0 1:1 2:0 6A:1 1:0 1:1 1:0 2:1 6:0",
    "1:1 1:0 65:1 3:0 2:1 4:0 1:1 5:0 103:1 9:0 1:1 2:0 100:1 2:0 1:1 1:0 4:1 1:0 90:1 4:0 2:1 2:0 4:1 1:0 20:1 A:0 28:1 6:0 2:1 4:0 8:1 1:0 9:1 6:0 2:1 3:0 2E:1 D:0 1:1 2:0 196:1 7:0 1:1 6:0 1:1 1:0 52:1 16:0 2:1 7:0 1:1 2:0 1:1 2:0 7A:1 6:0 3:1 1:0 1:1 2:0 1:1 7:0 1:1 1:0 48:1 2:0 3:1 1:0 1:1 1:0 15B:1 2:0 153B:1 9:0 36B7:1 5:0 3B:1 7:0 9:1 4:0 40B:1 1:0 3F:1 11:0 40:1 2:0 1:1 2:0 400B:1 4:0 1:1 7:0 1:1 2:0 C9E:1 2:0 1:1 4:0 125C:1 2E:0 2:1 17:0 220:1 3:0 9:1 10:0 2:1 7:0 1E:1 4:0 94:1 3:0 7BB:1 37:0 4:1 32:0 8:1 1:0 E:1 1:0 16:1 5:0 1:1 F:0 550:1 7:0 1:1 11:0 2:1 7:0 1:1 2:0 1:1 5:0 105:1 E:0 170:1 1:0 3D:1 4:0 5E0:1 7:0 6D:1 8:0 AAF:1 5:0 C0C01:1 1:0 1E:1 60:0 80:1 F0:0"]

def casedText : String :=
  String.intercalate " " [
    "0:0 41:1 1A:0 6:1 1A:0 2F:1 1:0 A:1 1:0 4:1 1:0 5:1 17:0 1:1 1F:0 1:1 C3:0 1:1 4:0 4:1 D0:0 1:1 1B:0 C0:1 4:0 2:1 2:0 3:1 3:0 1:1 1:0 6:1 1:0 1:1 3:0 1:1 1:0 1:1 14:0 1:1 53:0 1:1 8B:0 8:1 A6:0 1:1 26:0 9:1 29:0 B17:1 26:0 1:1 1:0 5:1 1:0 2:1 2B:0 2:1 3:0 2A0:1 56:0 2:1 6:0 882:1 9:0 7:1 2B:0 2:1 3:0 40:1 2C:0 3F:1 D:0 1:1 22:0 65:1 116:0 2:1 6:0 2:1 26:0 2:1 6:0 2:1 8:0 1:1 1:0 1:1 1:0 1:1 1:0 1:1 1F:0 2:1 35:0 1:1 7:0 1:1 1:0 3:1 3:0 1:1 7:0 3:1 4:0 2:1 6:0 4:1 D:0 5:1 3:0 1:1 7:0 105:1 1:0 4:1 1:0 2:1 A:0 1:1 1:0 3:1 5:0 6:1 1:0 1:1 1:0 1:1 1:0 1:1 4:0 1:1 6:0 4:1 1:0 2:1 4:0 5:1 5:0 4:1 1:0 11:1 20:0 3:1 2:0 331:1 34:0 716:1 7C:0 2:1 67:0 6:1 4:0 3:1 2:0 C:1 26:0 1:1 1:0 5:1 1:0 7912:1 2E:0 12:1 1C:0 86:1 4E:0 1:1 17:0 3:1 4:0 1:1 3B:0 5:1 2:0 1:1 1:0 1:1 5:0 1B:1 2:0 3:1 1:0 335:1 2B:0 5:1 9:0 7:1 50:0 4F40:1 7:0 C:1 5:0 409:1 1A:0 6:1 1A:0 4A5:1 50:0 60:1 24:0 4:1 24:0 74:1 B:0 1:1 F:0 1:1 7:0 1:1 2:0 1:1 B:0 1:1 F:0 1:1 7:0 1:1 2:0 6C3:1 33:0 D:1 33:0 BAD:1 40:0 5560:1 40:0 6580:1 55:0 1:1 47:0 1:1 2:0 2:1 1:0 2:1 2:0 2:1 4:0 1:1 C:0 1:1 1:0 1:1 7:0 1:1 41:0 1:1 4:0 2:1 8:0 1:1 7:0 1:1 1C:0 1:1 4:0 1:1 5:0 1:1 1:0 3:1 7:0 1:1 154:0 2:1 19:0 1:1 19:0 1:1 1F:0 1:1 19:0 1:1 1F:0 1:1 19:0 1:1 1F:0 1:1 19:0 1:1 1F:0 1:1 19:0 1:1 8:0 734:1 A:0 1:1 14:0 9E1:1 44:0 7EC:1 1A:0 6:1 1A:0 6:1 1A:0"]

end UserDirectory.Unicode
