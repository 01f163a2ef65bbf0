import PullDiagnostics.Text.CharSet

/-!
# Variants of characters

A name may be written with other characters than those that names consist of: with capital
letters, with wide or joined forms, with a full stop of another script, or with signs that
cannot be seen. Each of these stands for characters of names, or for none at all.

The tables are those of Unicode 17. Characters in ASCII are not in them.
-/

namespace PullDiagnostics.Variant

/-- Signs that stand for nothing. -/
def emptySet : Text.CharSet where
  bounds := #[
    0xAD, 0xAE, 0x34F, 0x350, 0x115F, 0x1161, 0x17B4, 0x17B6, 0x180B, 0x1810, 0x200B, 0x200C,
    0x2060, 0x2065, 0x206A, 0x2070, 0x3164, 0x3165, 0xFE00, 0xFE10, 0xFEFF, 0xFF00, 0xFFA0,
    0xFFA1, 0x1BCA0, 0x1BCA4, 0x1D173, 0x1D17B, 0xE0100, 0xE01F0]

/-- Characters at a distance from each other, each of which stands for one character; these are
at the same distance. -/
structure Run where
  first : Nat
  /-- The distance from one character to the next. -/
  step : Nat
  count : Nat
  /-- What the first character stands for. -/
  image : Nat

/-- What a character of a run stands for. -/
def Run.image? (r : Run) (c : Char) : Option Char :=
  let offset := c.toNat - r.first
  if r.first ≤ c.toNat && offset % r.step == 0 && offset / r.step < r.count then
    some (Char.ofNat (r.image + offset))
  else none

/-- The runs. -/
def runs : List Run := [
  ⟨0xC0, 1, 23, 0xE0⟩, ⟨0xD8, 1, 7, 0xF8⟩, ⟨0x100, 2, 24, 0x101⟩, ⟨0x141, 2, 4, 0x142⟩,
  ⟨0x14A, 2, 23, 0x14B⟩, ⟨0x1CD, 2, 8, 0x1CE⟩, ⟨0x1DE, 2, 9, 0x1DF⟩, ⟨0x1F8, 2, 20, 0x1F9⟩,
  ⟨0x222, 2, 9, 0x223⟩, ⟨0x246, 2, 5, 0x247⟩, ⟨0x391, 1, 17, 0x3B1⟩, ⟨0x3A3, 1, 9, 0x3C3⟩,
  ⟨0x3D8, 2, 12, 0x3D9⟩, ⟨0x400, 1, 16, 0x450⟩, ⟨0x410, 1, 32, 0x430⟩, ⟨0x460, 2, 17, 0x461⟩,
  ⟨0x48A, 2, 27, 0x48B⟩, ⟨0x4C1, 2, 7, 0x4C2⟩, ⟨0x4D0, 2, 48, 0x4D1⟩, ⟨0x531, 1, 38, 0x561⟩,
  ⟨0x10A0, 1, 38, 0x2D00⟩, ⟨0x13F8, 1, 6, 0x13F0⟩, ⟨0x1C90, 1, 43, 0x10D0⟩, ⟨0x1D31, 2, 5, 0x65⟩,
  ⟨0x1D34, 2, 4, 0x68⟩, ⟨0x1DAE, 1, 4, 0x272⟩, ⟨0x1E00, 2, 75, 0x1E01⟩, ⟨0x1EA0, 2, 48, 0x1EA1⟩,
  ⟨0x1F08, 1, 8, 0x1F00⟩, ⟨0x1F18, 1, 6, 0x1F10⟩, ⟨0x1F28, 1, 8, 0x1F20⟩, ⟨0x1F38, 1, 8, 0x1F30⟩,
  ⟨0x1F48, 1, 6, 0x1F40⟩, ⟨0x1F59, 2, 4, 0x1F51⟩, ⟨0x1F68, 1, 8, 0x1F60⟩, ⟨0x2074, 1, 6, 0x34⟩,
  ⟨0x2080, 1, 10, 0x30⟩, ⟨0x2096, 1, 4, 0x6B⟩, ⟨0x2135, 1, 4, 0x5D0⟩, ⟨0x2460, 1, 9, 0x31⟩,
  ⟨0x24B6, 1, 26, 0x61⟩, ⟨0x24D0, 1, 26, 0x61⟩, ⟨0x2C00, 1, 48, 0x2C30⟩, ⟨0x2C80, 2, 50, 0x2C81⟩,
  ⟨0x313A, 1, 6, 0x11B0⟩, ⟨0x3145, 1, 10, 0x1109⟩, ⟨0x314F, 1, 21, 0x1161⟩,
  ⟨0x3178, 1, 5, 0x112B⟩, ⟨0x3269, 1, 5, 0x110E⟩, ⟨0x32E4, 1, 6, 0x30CA⟩, ⟨0x32EE, 1, 5, 0x30DE⟩,
  ⟨0x32F5, 1, 6, 0x30E8⟩, ⟨0x32FB, 1, 4, 0x30EF⟩, ⟨0xA640, 2, 23, 0xA641⟩,
  ⟨0xA680, 2, 14, 0xA681⟩, ⟨0xA722, 2, 7, 0xA723⟩, ⟨0xA732, 2, 31, 0xA733⟩,
  ⟨0xA77E, 2, 5, 0xA77F⟩, ⟨0xA796, 2, 10, 0xA797⟩, ⟨0xA7B4, 2, 8, 0xA7B5⟩, ⟨0xA7CC, 2, 8, 0xA7CD⟩,
  ⟨0xAB70, 1, 80, 0x13A0⟩, ⟨0xFE41, 1, 4, 0x300C⟩, ⟨0xFF01, 1, 32, 0x21⟩, ⟨0xFF21, 1, 26, 0x61⟩,
  ⟨0xFF3B, 1, 36, 0x5B⟩, ⟨0xFF85, 1, 6, 0x30CA⟩, ⟨0xFF8F, 1, 5, 0x30DE⟩, ⟨0xFF96, 1, 6, 0x30E8⟩,
  ⟨0xFFAA, 1, 6, 0x11B0⟩, ⟨0xFFB5, 1, 10, 0x1109⟩, ⟨0xFFC2, 1, 6, 0x1161⟩, ⟨0xFFCA, 1, 6, 0x1167⟩,
  ⟨0xFFD2, 1, 6, 0x116D⟩, ⟨0xFFE9, 1, 4, 0x2190⟩, ⟨0x10400, 1, 40, 0x10428⟩,
  ⟨0x104B0, 1, 36, 0x104D8⟩, ⟨0x10570, 1, 11, 0x10597⟩, ⟨0x1057C, 1, 15, 0x105A3⟩,
  ⟨0x1058C, 1, 7, 0x105B3⟩, ⟨0x10C80, 1, 51, 0x10CC0⟩, ⟨0x10D50, 1, 22, 0x10D70⟩,
  ⟨0x118A0, 1, 32, 0x118C0⟩, ⟨0x16E40, 1, 32, 0x16E60⟩, ⟨0x16EA0, 1, 25, 0x16EBB⟩,
  ⟨0x1CCD6, 1, 26, 0x61⟩, ⟨0x1CCF0, 1, 10, 0x30⟩, ⟨0x1D400, 1, 26, 0x61⟩, ⟨0x1D41A, 1, 26, 0x61⟩,
  ⟨0x1D434, 1, 26, 0x61⟩, ⟨0x1D44E, 1, 7, 0x61⟩, ⟨0x1D456, 1, 18, 0x69⟩, ⟨0x1D468, 1, 26, 0x61⟩,
  ⟨0x1D482, 1, 26, 0x61⟩, ⟨0x1D4A9, 1, 4, 0x6E⟩, ⟨0x1D4AE, 1, 8, 0x73⟩, ⟨0x1D4B6, 1, 4, 0x61⟩,
  ⟨0x1D4BB, 2, 11, 0x66⟩, ⟨0x1D4C6, 2, 5, 0x71⟩, ⟨0x1D4D0, 1, 26, 0x61⟩, ⟨0x1D4EA, 1, 26, 0x61⟩,
  ⟨0x1D507, 1, 4, 0x64⟩, ⟨0x1D50D, 1, 8, 0x6A⟩, ⟨0x1D516, 1, 7, 0x73⟩, ⟨0x1D51E, 1, 26, 0x61⟩,
  ⟨0x1D53B, 1, 4, 0x64⟩, ⟨0x1D540, 1, 5, 0x69⟩, ⟨0x1D54A, 1, 7, 0x73⟩, ⟨0x1D552, 1, 26, 0x61⟩,
  ⟨0x1D56C, 1, 26, 0x61⟩, ⟨0x1D586, 1, 26, 0x61⟩, ⟨0x1D5A0, 1, 26, 0x61⟩, ⟨0x1D5BA, 1, 26, 0x61⟩,
  ⟨0x1D5D4, 1, 26, 0x61⟩, ⟨0x1D5EE, 1, 26, 0x61⟩, ⟨0x1D608, 1, 26, 0x61⟩, ⟨0x1D622, 1, 26, 0x61⟩,
  ⟨0x1D63C, 1, 26, 0x61⟩, ⟨0x1D656, 1, 26, 0x61⟩, ⟨0x1D670, 1, 26, 0x61⟩, ⟨0x1D68A, 1, 26, 0x61⟩,
  ⟨0x1D6A8, 1, 17, 0x3B1⟩, ⟨0x1D6BA, 1, 7, 0x3C3⟩, ⟨0x1D6C2, 1, 17, 0x3B1⟩,
  ⟨0x1D6D4, 1, 7, 0x3C3⟩, ⟨0x1D6E2, 1, 17, 0x3B1⟩, ⟨0x1D6F4, 1, 7, 0x3C3⟩,
  ⟨0x1D6FC, 1, 17, 0x3B1⟩, ⟨0x1D70E, 1, 7, 0x3C3⟩, ⟨0x1D71C, 1, 17, 0x3B1⟩,
  ⟨0x1D72E, 1, 7, 0x3C3⟩, ⟨0x1D736, 1, 17, 0x3B1⟩, ⟨0x1D748, 1, 7, 0x3C3⟩,
  ⟨0x1D756, 1, 17, 0x3B1⟩, ⟨0x1D768, 1, 7, 0x3C3⟩, ⟨0x1D770, 1, 17, 0x3B1⟩,
  ⟨0x1D782, 1, 7, 0x3C3⟩, ⟨0x1D790, 1, 17, 0x3B1⟩, ⟨0x1D7A2, 1, 7, 0x3C3⟩,
  ⟨0x1D7AA, 1, 17, 0x3B1⟩, ⟨0x1D7BC, 1, 7, 0x3C3⟩, ⟨0x1D7CE, 1, 10, 0x30⟩, ⟨0x1D7D8, 1, 10, 0x30⟩,
  ⟨0x1D7E2, 1, 10, 0x30⟩, ⟨0x1D7EC, 1, 10, 0x30⟩, ⟨0x1D7F6, 1, 10, 0x30⟩, ⟨0x1E030, 1, 9, 0x430⟩,
  ⟨0x1E03C, 1, 11, 0x43E⟩, ⟨0x1E051, 1, 9, 0x430⟩, ⟨0x1E05F, 1, 6, 0x443⟩,
  ⟨0x1E900, 1, 34, 0x1E922⟩, ⟨0x1EE0A, 1, 4, 0x643⟩, ⟨0x1EE2A, 1, 4, 0x643⟩,
  ⟨0x1F130, 1, 26, 0x61⟩, ⟨0x1FBF0, 1, 10, 0x30⟩]

/-- Characters that follow each other. -/
structure Row where
  first : Nat
  /-- What each of them stands for, with bars between. -/
  images : String

/-- The characters that are in no run. -/
def rows : List Row := [
  ⟨0xA0, " "⟩, ⟨0xA8, " \u0308"⟩, ⟨0xAA, "a"⟩, ⟨0xAF, " \u0304"⟩, ⟨0xB2, "2|3| \u0301|μ"⟩,
  ⟨0xB8, " \u0327|1|o"⟩, ⟨0xBC, "1⁄4|1⁄2|3⁄4"⟩, ⟨0x130, "i\u0307"⟩, ⟨0x132, "ij|ij|ĵ"⟩,
  ⟨0x136, "ķ"⟩, ⟨0x139, "ĺ"⟩, ⟨0x13B, "ļ"⟩, ⟨0x13D, "ľ"⟩, ⟨0x13F, "l·|l·"⟩, ⟨0x149, "ʼn"⟩,
  ⟨0x178, "ÿ|ź"⟩, ⟨0x17B, "ż"⟩, ⟨0x17D, "ž"⟩, ⟨0x17F, "s"⟩, ⟨0x181, "ɓ|ƃ"⟩, ⟨0x184, "ƅ"⟩,
  ⟨0x186, "ɔ|ƈ"⟩, ⟨0x189, "ɖ|ɗ|ƌ"⟩, ⟨0x18E, "ǝ|ə|ɛ|ƒ"⟩, ⟨0x193, "ɠ|ɣ"⟩, ⟨0x196, "ɩ|ɨ|ƙ"⟩,
  ⟨0x19C, "ɯ|ɲ"⟩, ⟨0x19F, "ɵ|ơ"⟩, ⟨0x1A2, "ƣ"⟩, ⟨0x1A4, "ƥ"⟩, ⟨0x1A6, "ʀ|ƨ"⟩, ⟨0x1A9, "ʃ"⟩,
  ⟨0x1AC, "ƭ"⟩, ⟨0x1AE, "ʈ|ư"⟩, ⟨0x1B1, "ʊ|ʋ|ƴ"⟩, ⟨0x1B5, "ƶ"⟩, ⟨0x1B7, "ʒ|ƹ"⟩, ⟨0x1BC, "ƽ"⟩,
  ⟨0x1C4, "dž|dž|dž|lj|lj|lj|nj|nj|nj"⟩, ⟨0x1F1, "dz|dz|dz|ǵ"⟩, ⟨0x1F6, "ƕ|ƿ"⟩, ⟨0x220, "ƞ"⟩,
  ⟨0x23A, "ⱥ|ȼ"⟩, ⟨0x23D, "ƚ|ⱦ"⟩, ⟨0x241, "ɂ"⟩, ⟨0x243, "ƀ|ʉ|ʌ"⟩, ⟨0x2B0, "h|ɦ|j|r|ɹ|ɻ|ʁ|w|y"⟩,
  ⟨0x2D8, " \u0306| \u0307| \u030A| \u0328| \u0303| \u030B"⟩, ⟨0x2E0, "ɣ|l|s|x|ʕ"⟩,
  ⟨0x340, "\u0300|\u0301"⟩, ⟨0x343, "\u0313|\u0308\u0301|ι"⟩, ⟨0x370, "ͱ"⟩, ⟨0x372, "ͳ"⟩,
  ⟨0x374, "ʹ"⟩, ⟨0x376, "ͷ"⟩, ⟨0x37A, " ι"⟩, ⟨0x37E, ";|ϳ"⟩,
  ⟨0x384, " \u0301| \u0308\u0301|ά|·|έ|ή|ί"⟩, ⟨0x38C, "ό"⟩, ⟨0x38E, "ύ|ώ"⟩,
  ⟨0x3CF, "ϗ|β|θ|υ|ύ|ϋ|φ|π"⟩, ⟨0x3F0, "κ|ρ|σ"⟩, ⟨0x3F4, "θ|ε"⟩, ⟨0x3F7, "ϸ"⟩, ⟨0x3F9, "σ|ϻ"⟩,
  ⟨0x3FD, "ͻ|ͼ|ͽ"⟩, ⟨0x4C0, "ӏ"⟩, ⟨0x587, "եւ"⟩,
  ⟨0x675, "\u0627\u0674|\u0648\u0674|\u06C7\u0674|\u064A\u0674"⟩,
  ⟨0x958, "क\u093C|ख\u093C|ग\u093C|ज\u093C|ड\u093C|ढ\u093C|फ\u093C|य\u093C"⟩,
  ⟨0x9DC, "ড\u09BC|ঢ\u09BC"⟩, ⟨0x9DF, "য\u09BC"⟩, ⟨0xA33, "ਲ\u0A3C"⟩, ⟨0xA36, "ਸ\u0A3C"⟩,
  ⟨0xA59, "ਖ\u0A3C|ਗ\u0A3C|ਜ\u0A3C"⟩, ⟨0xA5E, "ਫ\u0A3C"⟩, ⟨0xB5C, "ଡ\u0B3C|ଢ\u0B3C"⟩,
  ⟨0xE33, "\u0E4Dา"⟩, ⟨0xEB3, "\u0ECDາ"⟩, ⟨0xEDC, "ຫນ|ຫມ"⟩, ⟨0xF0C, "་"⟩, ⟨0xF43, "ག\u0FB7"⟩,
  ⟨0xF4D, "ཌ\u0FB7"⟩, ⟨0xF52, "ད\u0FB7"⟩, ⟨0xF57, "བ\u0FB7"⟩, ⟨0xF5C, "ཛ\u0FB7"⟩,
  ⟨0xF69, "ཀ\u0FB5"⟩, ⟨0xF73, "\u0F71\u0F72"⟩,
  ⟨0xF75, "\u0F71\u0F74|\u0FB2\u0F80|\u0FB2\u0F71\u0F80|\u0FB3\u0F80|\u0FB3\u0F71\u0F80"⟩,
  ⟨0xF81, "\u0F71\u0F80"⟩, ⟨0xF93, "\u0F92\u0FB7"⟩, ⟨0xF9D, "\u0F9C\u0FB7"⟩,
  ⟨0xFA2, "\u0FA1\u0FB7"⟩, ⟨0xFA7, "\u0FA6\u0FB7"⟩, ⟨0xFAC, "\u0FAB\u0FB7"⟩,
  ⟨0xFB9, "\u0F90\u0FB5"⟩, ⟨0x10C7, "ⴧ"⟩, ⟨0x10CD, "ⴭ"⟩, ⟨0x10FC, "ნ"⟩,
  ⟨0x1C80, "в|д|о|с|т|т|ъ|ѣ|ꙋ|\u1C8A"⟩, ⟨0x1CBD, "ჽ|ჾ|ჿ"⟩, ⟨0x1D2C, "a|æ|b"⟩, ⟨0x1D30, "d"⟩,
  ⟨0x1D32, "ǝ"⟩, ⟨0x1D3C, "o|ȣ|p|r|t|u|w|a|ɐ|ɑ|ᴂ|b|d|e|ə|ɛ|ɜ|g"⟩,
  ⟨0x1D4F, "k|m|ŋ|o|ɔ|ᴖ|ᴗ|p|t|u|ᴝ|ɯ|v|ᴥ|β|γ|δ|φ|χ|i|r|u|v|β|γ|ρ|φ|χ"⟩, ⟨0x1D78, "н"⟩,
  ⟨0x1D9B, "ɒ|c|ɕ|ð|ɜ|f|ɟ|ɡ|ɥ|ɨ|ɩ|ɪ|ᵻ|ʝ|ɭ|ᶅ|ʟ|ɱ|ɰ"⟩, ⟨0x1DB2, "ɸ|ʂ|ʃ|ƫ|ʉ|ʊ|ᴜ|ʋ|ʌ|z|ʐ|ʑ|ʒ|θ"⟩,
  ⟨0x1E9A, "aʾ|ṡ"⟩, ⟨0x1E9E, "ß"⟩, ⟨0x1F71, "ά"⟩, ⟨0x1F73, "έ"⟩, ⟨0x1F75, "ή"⟩, ⟨0x1F77, "ί"⟩,
  ⟨0x1F79, "ό"⟩, ⟨0x1F7B, "ύ"⟩, ⟨0x1F7D, "ώ"⟩,
  ⟨0x1F80, "ἀι|ἁι|ἂι|ἃι|ἄι|ἅι|ἆι|ἇι|ἀι|ἁι|ἂι|ἃι|ἄι|ἅι|ἆι|ἇι|ἠι|ἡι|ἢι|ἣι|ἤι|ἥι|ἦι|ἧι|ἠι|ἡι|ἢι"⟩,
  ⟨0x1F9B, "ἣι|ἤι|ἥι|ἦι|ἧι|ὠι|ὡι|ὢι|ὣι|ὤι|ὥι|ὦι|ὧι|ὠι|ὡι|ὢι|ὣι|ὤι|ὥι|ὦι|ὧι"⟩,
  ⟨0x1FB2, "ὰι|αι|άι"⟩,
  ⟨0x1FB7, "ᾶι|ᾰ|ᾱ|ὰ|ά|αι| \u0313|ι| \u0313| \u0342| \u0308\u0342|ὴι|ηι|ήι"⟩,
  ⟨0x1FC7, "ῆι|ὲ|έ|ὴ|ή|ηι| \u0313\u0300| \u0313\u0301| \u0313\u0342"⟩, ⟨0x1FD3, "ΐ"⟩,
  ⟨0x1FD8, "ῐ|ῑ|ὶ|ί"⟩, ⟨0x1FDD, " \u0314\u0300| \u0314\u0301| \u0314\u0342"⟩, ⟨0x1FE3, "ΰ"⟩,
  ⟨0x1FE8, "ῠ|ῡ|ὺ|ύ|ῥ| \u0308\u0300| \u0308\u0301|`"⟩, ⟨0x1FF2, "ὼι|ωι|ώι"⟩,
  ⟨0x1FF7, "ῶι|ὸ|ό|ὼ|ώ|ωι| \u0301| \u0314"⟩, ⟨0x2000, " | | | | | | | | | | "⟩, ⟨0x2011, "‐"⟩,
  ⟨0x2017, " \u0333"⟩, ⟨0x202F, " "⟩, ⟨0x2033, "′′|′′′"⟩, ⟨0x2036, "‵‵|‵‵‵"⟩, ⟨0x203C, "!!"⟩,
  ⟨0x203E, " \u0305"⟩, ⟨0x2047, "??|?!|!?"⟩, ⟨0x2057, "′′′′"⟩, ⟨0x205F, " "⟩, ⟨0x2070, "0|i"⟩,
  ⟨0x207A, "+|−|=|(|)|n"⟩, ⟨0x208A, "+|−|=|(|)"⟩, ⟨0x2090, "a|e|o|x|ə|h"⟩, ⟨0x209A, "p|s|t"⟩,
  ⟨0x20A8, "rs"⟩, ⟨0x2100, "a/c|a/s|c|°c"⟩, ⟨0x2105, "c/o|c/u|ɛ"⟩,
  ⟨0x2109, "°f|g|h|h|h|h|ħ|i|i|l|l"⟩, ⟨0x2115, "n|no"⟩, ⟨0x2119, "p|q|r|r|r"⟩,
  ⟨0x2120, "sm|tel|tm"⟩, ⟨0x2124, "z"⟩, ⟨0x2126, "ω"⟩, ⟨0x2128, "z"⟩, ⟨0x212A, "k|å|b|c"⟩,
  ⟨0x212F, "e|e|f|ⅎ|m|o"⟩, ⟨0x2139, "i"⟩, ⟨0x213B, "fax|π|γ|γ|π|∑"⟩, ⟨0x2145, "d|d|e|i|j"⟩,
  ⟨0x2150, "1⁄7|1⁄9|1⁄10|1⁄3|2⁄3|1⁄5|2⁄5|3⁄5|4⁄5|1⁄6|5⁄6|1⁄8|3⁄8|5⁄8|7⁄8|1⁄|i|ii|iii|iv|v|vi"⟩,
  ⟨0x2166, "vii|viii|ix|x|xi|xii|l|c|d|m|i|ii|iii|iv|v|vi|vii|viii|ix|x|xi|xii|l|c|d|m"⟩,
  ⟨0x2183, "ↄ"⟩, ⟨0x2189, "0⁄3"⟩, ⟨0x222C, "∫∫|∫∫∫"⟩, ⟨0x222F, "∮∮|∮∮∮"⟩, ⟨0x2329, "〈|〉"⟩,
  ⟨0x2469, "10|11|12|13|14|15|16|17|18|19|20|(1)|(2)|(3)|(4)|(5)|(6)|(7)|(8)|(9)|(10)|(11)"⟩,
  ⟨0x247F, "(12)|(13)|(14)|(15)|(16)|(17)|(18)|(19)|(20)"⟩,
  ⟨0x249C, "(a)|(b)|(c)|(d)|(e)|(f)|(g)|(h)|(i)|(j)|(k)|(l)|(m)|(n)|(o)|(p)|(q)|(r)|(s)|(t)"⟩,
  ⟨0x24B0, "(u)|(v)|(w)|(x)|(y)|(z)"⟩, ⟨0x24EA, "0"⟩, ⟨0x2A0C, "∫∫∫∫"⟩, ⟨0x2A74, "::=|==|==="⟩,
  ⟨0x2ADC, "⫝\u0338"⟩, ⟨0x2C60, "ⱡ"⟩, ⟨0x2C62, "ɫ|ᵽ|ɽ"⟩, ⟨0x2C67, "ⱨ"⟩, ⟨0x2C69, "ⱪ"⟩,
  ⟨0x2C6B, "ⱬ"⟩, ⟨0x2C6D, "ɑ|ɱ|ɐ|ɒ"⟩, ⟨0x2C72, "ⱳ"⟩, ⟨0x2C75, "ⱶ"⟩, ⟨0x2C7C, "j|v|ȿ|ɀ"⟩,
  ⟨0x2CEB, "ⳬ"⟩, ⟨0x2CED, "ⳮ"⟩, ⟨0x2CF2, "ⳳ"⟩, ⟨0x2D6F, "ⵡ"⟩, ⟨0x2E9F, "母"⟩, ⟨0x2EF3, "龟"⟩,
  ⟨0x2F00, "一|丨|丶|丿|乙|亅|二|亠|人|儿|入|八|冂|冖|冫|几|凵|刀|力|勹|匕|匚|匸|十|卜|卩|厂|厶|又|口|囗|土|士|夂|夊|夕|大|女|子|宀"⟩,
  ⟨0x2F28, "寸|小|尢|尸|屮|山|巛|工|己|巾|干|幺|广|廴|廾|弋|弓|彐|彡|彳|心|戈|戶|手|支|攴|文|斗|斤|方|无|日|曰|月|木|欠|止|歹|殳|毋"⟩,
  ⟨0x2F50, "比|毛|氏|气|水|火|爪|父|爻|爿|片|牙|牛|犬|玄|玉|瓜|瓦|甘|生|用|田|疋|疒|癶|白|皮|皿|目|矛|矢|石|示|禸|禾|穴|立|竹|米|糸"⟩,
  ⟨0x2F78, "缶|网|羊|羽|老|而|耒|耳|聿|肉|臣|自|至|臼|舌|舛|舟|艮|色|艸|虍|虫|血|行|衣|襾|見|角|言|谷|豆|豕|豸|貝|赤|走|足|身|車|辛"⟩,
  ⟨0x2FA0, "辰|辵|邑|酉|釆|里|金|長|門|阜|隶|隹|雨|靑|非|面|革|韋|韭|音|頁|風|飛|食|首|香|馬|骨|高|髟|鬥|鬯|鬲|鬼|魚|鳥|鹵|鹿|麥|麻"⟩,
  ⟨0x2FC8, "黃|黍|黑|黹|黽|鼎|鼓|鼠|鼻|齊|齒|龍|龜|龠"⟩, ⟨0x3000, " "⟩, ⟨0x3002, "."⟩, ⟨0x3036, "〒"⟩,
  ⟨0x3038, "十|卄|卅"⟩, ⟨0x309B, " \u3099| \u309A"⟩, ⟨0x309F, "より"⟩, ⟨0x30FF, "コト"⟩,
  ⟨0x3131, "ᄀ|ᄁ|ᆪ|ᄂ|ᆬ|ᆭ|ᄃ|ᄄ|ᄅ"⟩, ⟨0x3140, "ᄚ|ᄆ|ᄇ|ᄈ|ᄡ"⟩,
  ⟨0x3165, "ᄔ|ᄕ|ᇇ|ᇈ|ᇌ|ᇎ|ᇓ|ᇗ|ᇙ|ᄜ|ᇝ|ᇟ|ᄝ|ᄞ|ᄠ|ᄢ|ᄣ|ᄧ|ᄩ"⟩,
  ⟨0x317D, "ᄲ|ᄶ|ᅀ|ᅇ|ᅌ|ᇱ|ᇲ|ᅗ|ᅘ|ᅙ|ᆄ|ᆅ|ᆈ|ᆑ|ᆒ|ᆔ|ᆞ|ᆡ"⟩, ⟨0x3192, "一|二|三|四|上|中|下|甲|乙|丙|丁|天|地|人"⟩,
  ⟨0x3200, "(ᄀ)|(ᄂ)|(ᄃ)|(ᄅ)|(ᄆ)|(ᄇ)|(ᄉ)|(ᄋ)|(ᄌ)|(ᄎ)|(ᄏ)|(ᄐ)|(ᄑ)|(ᄒ)|(가)|(나)|(다)|(라)|(마)|(바)"⟩,
  ⟨0x3214, "(사)|(아)|(자)|(차)|(카)|(타)|(파)|(하)|(주)|(오전)|(오후)"⟩,
  ⟨0x3220, "(一)|(二)|(三)|(四)|(五)|(六)|(七)|(八)|(九)|(十)|(月)|(火)|(水)|(木)|(金)|(土)|(日)|(株)|(有)|(社)"⟩,
  ⟨0x3234, "(名)|(特)|(財)|(祝)|(労)|(代)|(呼)|(学)|(監)|(企)|(資)|(協)|(祭)|(休)|(自)|(至)|問|幼|文|箏"⟩,
  ⟨0x3250, "pte|21|22|23|24|25|26|27|28|29|30|31|32|33|34|35|ᄀ|ᄂ|ᄃ|ᄅ|ᄆ|ᄇ|ᄉ|ᄋ|ᄌ"⟩,
  ⟨0x326E, "가|나|다|라|마|바|사|아|자|차|카|타|파|하|참고|주의|우"⟩,
  ⟨0x3280, "一|二|三|四|五|六|七|八|九|十|月|火|水|木|金|土|日|株|有|社|名|特|財|祝|労|秘|男|女|適|優|印|注|項|休|写|正|上|中|下|左"⟩,
  ⟨0x32A8, "右|医|宗|学|監|企|資|協|夜|36|37|38|39|40|41|42|43|44|45|46|47|48|49|50|1月|2月|3月|4月|5月|6月"⟩,
  ⟨0x32C6, "7月|8月|9月|10月|11月|12月|hg|erg|ev|ltd|ア|イ|ウ|エ|オ|カ|キ|ク|ケ|コ|サ|シ|ス|セ|ソ|タ|チ|ツ|テ|ト"⟩,
  ⟨0x32EA, "ヒ|フ|ヘ|ホ"⟩, ⟨0x32F3, "ヤ|ユ"⟩,
  ⟨0x32FF, "令和|アパート|アルファ|アンペア|アール|イニング|インチ|ウォン|エスクード|エーカー|オンス|オーム|カイリ|カラット|カロリー|ガロン|ガンマ|ギガ"⟩,
  ⟨0x3311, "ギニー|キュリー|ギルダー|キロ|キログラム|キロメートル|キロワット|グラム|グラムトン|クルゼイロ|クローネ|ケース|コルナ|コーポ|サイクル|サンチーム"⟩,
  ⟨0x3321, "シリング|センチ|セント|ダース|デシ|ドル|トン|ナノ|ノット|ハイツ|パーセント|パーツ|バーレル|ピアストル|ピクル|ピコ|ビル|ファラッド|フィート"⟩,
  ⟨0x3334, "ブッシェル|フラン|ヘクタール|ペソ|ペニヒ|ヘルツ|ペンス|ページ|ベータ|ポイント|ボルト|ホン|ポンド|ホール|ホーン|マイクロ|マイル|マッハ|マルク"⟩,
  ⟨0x3347, "マンション|ミクロン|ミリ|ミリバール|メガ|メガトン|メートル|ヤード|ヤール|ユアン|リットル|リラ|ルピー|ルーブル|レム|レントゲン|ワット|0点|1点"⟩,
  ⟨0x335A, "2点|3点|4点|5点|6点|7点|8点|9点|10点|11点|12点|13点|14点|15点|16点|17点|18点|19点|20点|21点|22点|23点"⟩,
  ⟨0x3370, "24点|hpa|da|au|bar|ov|pc|dm|dm2|dm3|iu|平成|昭和|大正|明治|株式会社|pa|na|μa|ma|ka|kb|mb|gb"⟩,
  ⟨0x3388, "cal|kcal|pf|nf|μf|μg|mg|kg|hz|khz|mhz|ghz|thz|μl|ml|dl|kl|fm|nm|μm|mm|cm|km|mm2"⟩,
  ⟨0x33A0, "cm2|m2|km2|mm3|cm3|m3|km3|m∕s|m∕s2|pa|kpa|mpa|gpa|rad|rad∕s|rad∕s2|ps|ns|μs|ms"⟩,
  ⟨0x33B4, "pv|nv|μv|mv|kv|mv|pw|nw|μw|mw|kw|mw|kω|mω"⟩, ⟨0x33C3, "bq|cc|cd|c∕kg"⟩,
  ⟨0x33C8, "db|gy|ha|hp|in|kk|km|kt|lm|ln|log|lx|mb|mil|mol|ph"⟩,
  ⟨0x33D9, "ppm|pr|sr|sv|wb|v∕m|a∕m|1日|2日|3日|4日|5日|6日|7日|8日|9日|10日|11日|12日|13日|14日|15日|16日"⟩,
  ⟨0x33F0, "17日|18日|19日|20日|21日|22日|23日|24日|25日|26日|27日|28日|29日|30日|31日|gal"⟩, ⟨0xA69C, "ъ|ь"⟩,
  ⟨0xA770, "ꝯ"⟩, ⟨0xA779, "ꝺ"⟩, ⟨0xA77B, "ꝼ"⟩, ⟨0xA77D, "ᵹ"⟩, ⟨0xA78B, "ꞌ"⟩, ⟨0xA78D, "ɥ"⟩,
  ⟨0xA790, "ꞑ"⟩, ⟨0xA792, "ꞓ"⟩, ⟨0xA7AA, "ɦ|ɜ|ɡ|ɬ|ɪ"⟩, ⟨0xA7B0, "ʞ|ʇ|ʝ|ꭓ"⟩, ⟨0xA7C4, "ꞔ|ʂ|ᶎ|ꟈ"⟩,
  ⟨0xA7C9, "ꟊ"⟩, ⟨0xA7CB, "ɤ"⟩, ⟨0xA7DC, "ƛ"⟩, ⟨0xA7F1, "s|c|f|q|ꟶ"⟩, ⟨0xA7F8, "ħ|œ"⟩,
  ⟨0xAB5C, "ꜧ|ꬷ|ɫ|ꭒ"⟩, ⟨0xAB69, "ʍ"⟩,
  ⟨0xF900, "豈|更|車|賈|滑|串|句|龜|龜|契|金|喇|奈|懶|癩|羅|蘿|螺|裸|邏|樂|洛|烙|珞|落|酪|駱|亂|卵|欄|爛|蘭|鸞|嵐|濫|藍|襤|拉|臘|蠟"⟩,
  ⟨0xF928, "廊|朗|浪|狼|郎|來|冷|勞|擄|櫓|爐|盧|老|蘆|虜|路|露|魯|鷺|碌|祿|綠|菉|錄|鹿|論|壟|弄|籠|聾|牢|磊|賂|雷|壘|屢|樓|淚|漏|累"⟩,
  ⟨0xF950, "縷|陋|勒|肋|凜|凌|稜|綾|菱|陵|讀|拏|樂|諾|丹|寧|怒|率|異|北|磻|便|復|不|泌|數|索|參|塞|省|葉|說|殺|辰|沈|拾|若|掠|略|亮"⟩,
  ⟨0xF978, "兩|凉|梁|糧|良|諒|量|勵|呂|女|廬|旅|濾|礪|閭|驪|麗|黎|力|曆|歷|轢|年|憐|戀|撚|漣|煉|璉|秊|練|聯|輦|蓮|連|鍊|列|劣|咽|烈"⟩,
  ⟨0xF9A0, "裂|說|廉|念|捻|殮|簾|獵|令|囹|寧|嶺|怜|玲|瑩|羚|聆|鈴|零|靈|領|例|禮|醴|隸|惡|了|僚|寮|尿|料|樂|燎|療|蓼|遼|龍|暈|阮|劉"⟩,
  ⟨0xF9C8, "杻|柳|流|溜|琉|留|硫|紐|類|六|戮|陸|倫|崙|淪|輪|律|慄|栗|率|隆|利|吏|履|易|李|梨|泥|理|痢|罹|裏|裡|里|離|匿|溺|吝|燐|璘"⟩,
  ⟨0xF9F0, "藺|隣|鱗|麟|林|淋|臨|立|笠|粒|狀|炙|識|什|茶|刺|切|度|拓|糖|宅|洞|暴|輻|行|降|見|廓|兀|嗀"⟩, ⟨0xFA10, "塚"⟩,
  ⟨0xFA12, "晴"⟩, ⟨0xFA15, "凞|猪|益|礼|神|祥|福|靖|精|羽"⟩, ⟨0xFA20, "蘒"⟩, ⟨0xFA22, "諸"⟩, ⟨0xFA25, "逸|都"⟩,
  ⟨0xFA2A, "飯|飼|館|鶴|郞|隷|侮|僧|免|勉|勤|卑|喝|嘆|器|塀|墨|層|屮|悔|慨|憎|懲|敏|既|暑|梅|海|渚|漢|煮|爫|琢|碑|社|祉|祈|祐|祖|祝"⟩,
  ⟨0xFA52, "禍|禎|穀|突|節|練|縉|繁|署|者|臭|艹|艹|著|褐|視|謁|謹|賓|贈|辶|逸|難|響|頻|恵|𤋮|舘"⟩,
  ⟨0xFA70, "並|况|全|侀|充|冀|勇|勺|喝|啕|喙|嗢|塚|墳|奄|奔|婢|嬨|廒|廙|彩|徭|惘|慎|愈|憎|慠|懲|戴|揄|搜|摒|敖|晴|朗|望|杖|歹|殺|流"⟩,
  ⟨0xFA98, "滛|滋|漢|瀞|煮|瞧|爵|犯|猪|瑱|甆|画|瘝|瘟|益|盛|直|睊|着|磌|窱|節|类|絛|練|缾|者|荒|華|蝹|襁|覆|視|調|諸|請|謁|諾|諭|謹"⟩,
  ⟨0xFAC0, "變|贈|輸|遲|醙|鉶|陼|難|靖|韛|響|頋|頻|鬒|龜|𢡊|𢡄|𣏕|㮝|䀘|䀹|𥉉|𥳐|𧻓|齃|龎"⟩,
  ⟨0xFB00, "ff|fi|fl|ffi|ffl|st|st"⟩, ⟨0xFB13, "մն|մե|մի|վն|մխ"⟩, ⟨0xFB1D, "\u05D9\u05B4"⟩,
  ⟨0xFB1F, "\u05F2\u05B7|\u05E2|\u05D0|\u05D3|\u05D4|\u05DB|\u05DC|\u05DD|\u05E8|\u05EA|+"⟩,
  ⟨0xFB2A, "\u05E9\u05C1|\u05E9\u05C2|\u05E9\u05BC\u05C1|\u05E9\u05BC\u05C2|\u05D0\u05B7"⟩,
  ⟨0xFB2F, "\u05D0\u05B8|\u05D0\u05BC|\u05D1\u05BC|\u05D2\u05BC|\u05D3\u05BC|\u05D4\u05BC"⟩,
  ⟨0xFB35, "\u05D5\u05BC|\u05D6\u05BC"⟩,
  ⟨0xFB38, "\u05D8\u05BC|\u05D9\u05BC|\u05DA\u05BC|\u05DB\u05BC|\u05DC\u05BC"⟩,
  ⟨0xFB3E, "\u05DE\u05BC"⟩, ⟨0xFB40, "\u05E0\u05BC|\u05E1\u05BC"⟩,
  ⟨0xFB43, "\u05E3\u05BC|\u05E4\u05BC"⟩,
  ⟨0xFB46, "\u05E6\u05BC|\u05E7\u05BC|\u05E8\u05BC|\u05E9\u05BC|\u05EA\u05BC|\u05D5\u05B9"⟩,
  ⟨0xFB4C, "\u05D1\u05BF|\u05DB\u05BF|\u05E4\u05BF|\u05D0\u05DC|\u0671|\u0671|\u067B|\u067B"⟩,
  ⟨0xFB54, "\u067B|\u067B|\u067E|\u067E|\u067E|\u067E|\u0680|\u0680|\u0680|\u0680|\u067A"⟩,
  ⟨0xFB5F, "\u067A|\u067A|\u067A|\u067F|\u067F|\u067F|\u067F|\u0679|\u0679|\u0679|\u0679"⟩,
  ⟨0xFB6A, "\u06A4|\u06A4|\u06A4|\u06A4|\u06A6|\u06A6|\u06A6|\u06A6|\u0684|\u0684|\u0684"⟩,
  ⟨0xFB75, "\u0684|\u0683|\u0683|\u0683|\u0683|\u0686|\u0686|\u0686|\u0686|\u0687|\u0687"⟩,
  ⟨0xFB80, "\u0687|\u0687|\u068D|\u068D|\u068C|\u068C|\u068E|\u068E|\u0688|\u0688|\u0698"⟩,
  ⟨0xFB8B, "\u0698|\u0691|\u0691|\u06A9|\u06A9|\u06A9|\u06A9|\u06AF|\u06AF|\u06AF|\u06AF"⟩,
  ⟨0xFB96, "\u06B3|\u06B3|\u06B3|\u06B3|\u06B1|\u06B1|\u06B1|\u06B1|\u06BA|\u06BA|\u06BB"⟩,
  ⟨0xFBA1, "\u06BB|\u06BB|\u06BB|\u06C0|\u06C0|\u06C1|\u06C1|\u06C1|\u06C1|\u06BE|\u06BE"⟩,
  ⟨0xFBAC, "\u06BE|\u06BE|\u06D2|\u06D2|\u06D3|\u06D3"⟩,
  ⟨0xFBD3, "\u06AD|\u06AD|\u06AD|\u06AD|\u06C7|\u06C7|\u06C6|\u06C6|\u06C8|\u06C8"⟩,
  ⟨0xFBDD, "\u06C7\u0674|\u06CB|\u06CB|\u06C5|\u06C5|\u06C9|\u06C9|\u06D0|\u06D0|\u06D0"⟩,
  ⟨0xFBE7, "\u06D0|\u0649|\u0649|\u0626\u0627|\u0626\u0627|\u0626\u06D5|\u0626\u06D5"⟩,
  ⟨0xFBEE, "\u0626\u0648|\u0626\u0648|\u0626\u06C7|\u0626\u06C7|\u0626\u06C6|\u0626\u06C6"⟩,
  ⟨0xFBF4, "\u0626\u06C8|\u0626\u06C8|\u0626\u06D0|\u0626\u06D0|\u0626\u06D0|\u0626\u0649"⟩,
  ⟨0xFBFA, "\u0626\u0649|\u0626\u0649|\u06CC|\u06CC|\u06CC|\u06CC|\u0626\u062C|\u0626\u062D"⟩,
  ⟨0xFC02, "\u0626\u0645|\u0626\u0649|\u0626\u064A|\u0628\u062C|\u0628\u062D|\u0628\u062E"⟩,
  ⟨0xFC08, "\u0628\u0645|\u0628\u0649|\u0628\u064A|\u062A\u062C|\u062A\u062D|\u062A\u062E"⟩,
  ⟨0xFC0E, "\u062A\u0645|\u062A\u0649|\u062A\u064A|\u062B\u062C|\u062B\u0645|\u062B\u0649"⟩,
  ⟨0xFC14, "\u062B\u064A|\u062C\u062D|\u062C\u0645|\u062D\u062C|\u062D\u0645|\u062E\u062C"⟩,
  ⟨0xFC1A, "\u062E\u062D|\u062E\u0645|\u0633\u062C|\u0633\u062D|\u0633\u062E|\u0633\u0645"⟩,
  ⟨0xFC20, "\u0635\u062D|\u0635\u0645|\u0636\u062C|\u0636\u062D|\u0636\u062E|\u0636\u0645"⟩,
  ⟨0xFC26, "\u0637\u062D|\u0637\u0645|\u0638\u0645|\u0639\u062C|\u0639\u0645|\u063A\u062C"⟩,
  ⟨0xFC2C, "\u063A\u0645|\u0641\u062C|\u0641\u062D|\u0641\u062E|\u0641\u0645|\u0641\u0649"⟩,
  ⟨0xFC32, "\u0641\u064A|\u0642\u062D|\u0642\u0645|\u0642\u0649|\u0642\u064A|\u0643\u0627"⟩,
  ⟨0xFC38, "\u0643\u062C|\u0643\u062D|\u0643\u062E|\u0643\u0644|\u0643\u0645|\u0643\u0649"⟩,
  ⟨0xFC3E, "\u0643\u064A|\u0644\u062C|\u0644\u062D|\u0644\u062E|\u0644\u0645|\u0644\u0649"⟩,
  ⟨0xFC44, "\u0644\u064A|\u0645\u062C|\u0645\u062D|\u0645\u062E|\u0645\u0645|\u0645\u0649"⟩,
  ⟨0xFC4A, "\u0645\u064A|\u0646\u062C|\u0646\u062D|\u0646\u062E|\u0646\u0645|\u0646\u0649"⟩,
  ⟨0xFC50, "\u0646\u064A|\u0647\u062C|\u0647\u0645|\u0647\u0649|\u0647\u064A|\u064A\u062C"⟩,
  ⟨0xFC56, "\u064A\u062D|\u064A\u062E|\u064A\u0645|\u064A\u0649|\u064A\u064A|\u0630\u0670"⟩,
  ⟨0xFC5C, "\u0631\u0670|\u0649\u0670| \u064C\u0651| \u064D\u0651| \u064E\u0651"⟩,
  ⟨0xFC61, " \u064F\u0651| \u0650\u0651| \u0651\u0670|\u0626\u0631|\u0626\u0632|\u0626\u0645"⟩,
  ⟨0xFC67, "\u0626\u0646|\u0626\u0649|\u0626\u064A|\u0628\u0631|\u0628\u0632|\u0628\u0645"⟩,
  ⟨0xFC6D, "\u0628\u0646|\u0628\u0649|\u0628\u064A|\u062A\u0631|\u062A\u0632|\u062A\u0645"⟩,
  ⟨0xFC73, "\u062A\u0646|\u062A\u0649|\u062A\u064A|\u062B\u0631|\u062B\u0632|\u062B\u0645"⟩,
  ⟨0xFC79, "\u062B\u0646|\u062B\u0649|\u062B\u064A|\u0641\u0649|\u0641\u064A|\u0642\u0649"⟩,
  ⟨0xFC7F, "\u0642\u064A|\u0643\u0627|\u0643\u0644|\u0643\u0645|\u0643\u0649|\u0643\u064A"⟩,
  ⟨0xFC85, "\u0644\u0645|\u0644\u0649|\u0644\u064A|\u0645\u0627|\u0645\u0645|\u0646\u0631"⟩,
  ⟨0xFC8B, "\u0646\u0632|\u0646\u0645|\u0646\u0646|\u0646\u0649|\u0646\u064A|\u0649\u0670"⟩,
  ⟨0xFC91, "\u064A\u0631|\u064A\u0632|\u064A\u0645|\u064A\u0646|\u064A\u0649|\u064A\u064A"⟩,
  ⟨0xFC97, "\u0626\u062C|\u0626\u062D|\u0626\u062E|\u0626\u0645|\u0626\u0647|\u0628\u062C"⟩,
  ⟨0xFC9D, "\u0628\u062D|\u0628\u062E|\u0628\u0645|\u0628\u0647|\u062A\u062C|\u062A\u062D"⟩,
  ⟨0xFCA3, "\u062A\u062E|\u062A\u0645|\u062A\u0647|\u062B\u0645|\u062C\u062D|\u062C\u0645"⟩,
  ⟨0xFCA9, "\u062D\u062C|\u062D\u0645|\u062E\u062C|\u062E\u0645|\u0633\u062C|\u0633\u062D"⟩,
  ⟨0xFCAF, "\u0633\u062E|\u0633\u0645|\u0635\u062D|\u0635\u062E|\u0635\u0645|\u0636\u062C"⟩,
  ⟨0xFCB5, "\u0636\u062D|\u0636\u062E|\u0636\u0645|\u0637\u062D|\u0638\u0645|\u0639\u062C"⟩,
  ⟨0xFCBB, "\u0639\u0645|\u063A\u062C|\u063A\u0645|\u0641\u062C|\u0641\u062D|\u0641\u062E"⟩,
  ⟨0xFCC1, "\u0641\u0645|\u0642\u062D|\u0642\u0645|\u0643\u062C|\u0643\u062D|\u0643\u062E"⟩,
  ⟨0xFCC7, "\u0643\u0644|\u0643\u0645|\u0644\u062C|\u0644\u062D|\u0644\u062E|\u0644\u0645"⟩,
  ⟨0xFCCD, "\u0644\u0647|\u0645\u062C|\u0645\u062D|\u0645\u062E|\u0645\u0645|\u0646\u062C"⟩,
  ⟨0xFCD3, "\u0646\u062D|\u0646\u062E|\u0646\u0645|\u0646\u0647|\u0647\u062C|\u0647\u0645"⟩,
  ⟨0xFCD9, "\u0647\u0670|\u064A\u062C|\u064A\u062D|\u064A\u062E|\u064A\u0645|\u064A\u0647"⟩,
  ⟨0xFCDF, "\u0626\u0645|\u0626\u0647|\u0628\u0645|\u0628\u0647|\u062A\u0645|\u062A\u0647"⟩,
  ⟨0xFCE5, "\u062B\u0645|\u062B\u0647|\u0633\u0645|\u0633\u0647|\u0634\u0645|\u0634\u0647"⟩,
  ⟨0xFCEB, "\u0643\u0644|\u0643\u0645|\u0644\u0645|\u0646\u0645|\u0646\u0647|\u064A\u0645"⟩,
  ⟨0xFCF1, "\u064A\u0647|\u0640\u064E\u0651|\u0640\u064F\u0651|\u0640\u0650\u0651"⟩,
  ⟨0xFCF5, "\u0637\u0649|\u0637\u064A|\u0639\u0649|\u0639\u064A|\u063A\u0649|\u063A\u064A"⟩,
  ⟨0xFCFB, "\u0633\u0649|\u0633\u064A|\u0634\u0649|\u0634\u064A|\u062D\u0649|\u062D\u064A"⟩,
  ⟨0xFD01, "\u062C\u0649|\u062C\u064A|\u062E\u0649|\u062E\u064A|\u0635\u0649|\u0635\u064A"⟩,
  ⟨0xFD07, "\u0636\u0649|\u0636\u064A|\u0634\u062C|\u0634\u062D|\u0634\u062E|\u0634\u0645"⟩,
  ⟨0xFD0D, "\u0634\u0631|\u0633\u0631|\u0635\u0631|\u0636\u0631|\u0637\u0649|\u0637\u064A"⟩,
  ⟨0xFD13, "\u0639\u0649|\u0639\u064A|\u063A\u0649|\u063A\u064A|\u0633\u0649|\u0633\u064A"⟩,
  ⟨0xFD19, "\u0634\u0649|\u0634\u064A|\u062D\u0649|\u062D\u064A|\u062C\u0649|\u062C\u064A"⟩,
  ⟨0xFD1F, "\u062E\u0649|\u062E\u064A|\u0635\u0649|\u0635\u064A|\u0636\u0649|\u0636\u064A"⟩,
  ⟨0xFD25, "\u0634\u062C|\u0634\u062D|\u0634\u062E|\u0634\u0645|\u0634\u0631|\u0633\u0631"⟩,
  ⟨0xFD2B, "\u0635\u0631|\u0636\u0631|\u0634\u062C|\u0634\u062D|\u0634\u062E|\u0634\u0645"⟩,
  ⟨0xFD31, "\u0633\u0647|\u0634\u0647|\u0637\u0645|\u0633\u062C|\u0633\u062D|\u0633\u062E"⟩,
  ⟨0xFD37, "\u0634\u062C|\u0634\u062D|\u0634\u062E|\u0637\u0645|\u0638\u0645|\u0627\u064B"⟩,
  ⟨0xFD3D, "\u0627\u064B"⟩,
  ⟨0xFD50, "\u062A\u062C\u0645|\u062A\u062D\u062C|\u062A\u062D\u062C|\u062A\u062D\u0645"⟩,
  ⟨0xFD54, "\u062A\u062E\u0645|\u062A\u0645\u062C|\u062A\u0645\u062D|\u062A\u0645\u062E"⟩,
  ⟨0xFD58, "\u062C\u0645\u062D|\u062C\u0645\u062D|\u062D\u0645\u064A|\u062D\u0645\u0649"⟩,
  ⟨0xFD5C, "\u0633\u062D\u062C|\u0633\u062C\u062D|\u0633\u062C\u0649|\u0633\u0645\u062D"⟩,
  ⟨0xFD60, "\u0633\u0645\u062D|\u0633\u0645\u062C|\u0633\u0645\u0645|\u0633\u0645\u0645"⟩,
  ⟨0xFD64, "\u0635\u062D\u062D|\u0635\u062D\u062D|\u0635\u0645\u0645|\u0634\u062D\u0645"⟩,
  ⟨0xFD68, "\u0634\u062D\u0645|\u0634\u062C\u064A|\u0634\u0645\u062E|\u0634\u0645\u062E"⟩,
  ⟨0xFD6C, "\u0634\u0645\u0645|\u0634\u0645\u0645|\u0636\u062D\u0649|\u0636\u062E\u0645"⟩,
  ⟨0xFD70, "\u0636\u062E\u0645|\u0637\u0645\u062D|\u0637\u0645\u062D|\u0637\u0645\u0645"⟩,
  ⟨0xFD74, "\u0637\u0645\u064A|\u0639\u062C\u0645|\u0639\u0645\u0645|\u0639\u0645\u0645"⟩,
  ⟨0xFD78, "\u0639\u0645\u0649|\u063A\u0645\u0645|\u063A\u0645\u064A|\u063A\u0645\u0649"⟩,
  ⟨0xFD7C, "\u0641\u062E\u0645|\u0641\u062E\u0645|\u0642\u0645\u062D|\u0642\u0645\u0645"⟩,
  ⟨0xFD80, "\u0644\u062D\u0645|\u0644\u062D\u064A|\u0644\u062D\u0649|\u0644\u062C\u062C"⟩,
  ⟨0xFD84, "\u0644\u062C\u062C|\u0644\u062E\u0645|\u0644\u062E\u0645|\u0644\u0645\u062D"⟩,
  ⟨0xFD88, "\u0644\u0645\u062D|\u0645\u062D\u062C|\u0645\u062D\u0645|\u0645\u062D\u064A"⟩,
  ⟨0xFD8C, "\u0645\u062C\u062D|\u0645\u062C\u0645|\u0645\u062E\u062C|\u0645\u062E\u0645"⟩,
  ⟨0xFD92, "\u0645\u062C\u062E|\u0647\u0645\u062C|\u0647\u0645\u0645|\u0646\u062D\u0645"⟩,
  ⟨0xFD96, "\u0646\u062D\u0649|\u0646\u062C\u0645|\u0646\u062C\u0645|\u0646\u062C\u0649"⟩,
  ⟨0xFD9A, "\u0646\u0645\u064A|\u0646\u0645\u0649|\u064A\u0645\u0645|\u064A\u0645\u0645"⟩,
  ⟨0xFD9E, "\u0628\u062E\u064A|\u062A\u062C\u064A|\u062A\u062C\u0649|\u062A\u062E\u064A"⟩,
  ⟨0xFDA2, "\u062A\u062E\u0649|\u062A\u0645\u064A|\u062A\u0645\u0649|\u062C\u0645\u064A"⟩,
  ⟨0xFDA6, "\u062C\u062D\u0649|\u062C\u0645\u0649|\u0633\u062E\u0649|\u0635\u062D\u064A"⟩,
  ⟨0xFDAA, "\u0634\u062D\u064A|\u0636\u062D\u064A|\u0644\u062C\u064A|\u0644\u0645\u064A"⟩,
  ⟨0xFDAE, "\u064A\u062D\u064A|\u064A\u062C\u064A|\u064A\u0645\u064A|\u0645\u0645\u064A"⟩,
  ⟨0xFDB2, "\u0642\u0645\u064A|\u0646\u062D\u064A|\u0642\u0645\u062D|\u0644\u062D\u0645"⟩,
  ⟨0xFDB6, "\u0639\u0645\u064A|\u0643\u0645\u064A|\u0646\u062C\u062D|\u0645\u062E\u064A"⟩,
  ⟨0xFDBA, "\u0644\u062C\u0645|\u0643\u0645\u0645|\u0644\u062C\u0645|\u0646\u062C\u062D"⟩,
  ⟨0xFDBE, "\u062C\u062D\u064A|\u062D\u062C\u064A|\u0645\u062C\u064A|\u0641\u0645\u064A"⟩,
  ⟨0xFDC2, "\u0628\u062D\u064A|\u0643\u0645\u0645|\u0639\u062C\u0645|\u0635\u0645\u0645"⟩,
  ⟨0xFDC6, "\u0633\u062E\u064A|\u0646\u062C\u064A"⟩,
  ⟨0xFDF0, "\u0635\u0644\u06D2|\u0642\u0644\u06D2|\u0627\u0644\u0644\u0647"⟩,
  ⟨0xFDF3, "\u0627\u0643\u0628\u0631|\u0645\u062D\u0645\u062F|\u0635\u0644\u0639\u0645"⟩,
  ⟨0xFDF6, "\u0631\u0633\u0648\u0644|\u0639\u0644\u064A\u0647|\u0648\u0633\u0644\u0645"⟩,
  ⟨0xFDF9, "\u0635\u0644\u0649|صلى الله عليه وسلم"⟩,
  ⟨0xFDFB, "\u062C\u0644 \u062C\u0644\u0627\u0644\u0647|\u0631\u06CC\u0627\u0644"⟩,
  ⟨0xFE10, ",|、"⟩, ⟨0xFE13, ":|;|!|?|〖|〗"⟩, ⟨0xFE31, "—|–|_|_|(|)|\x7b|\x7d|〔|〕|【|】|《|》|〈|〉"⟩,
  ⟨0xFE47, "[|]| \u0305| \u0305| \u0305| \u0305|_|_|_|,|、"⟩,
  ⟨0xFE54, ";|:|?|!|—|(|)|\x7b|\x7d|〔|〕|#|&|*|+|-|<|>|="⟩, ⟨0xFE68, "\x5c|$|%|@"⟩,
  ⟨0xFE70, " \u064B|\u0640\u064B| \u064C"⟩, ⟨0xFE74, " \u064D"⟩,
  ⟨0xFE76, " \u064E|\u0640\u064E| \u064F|\u0640\u064F| \u0650|\u0640\u0650| \u0651"⟩,
  ⟨0xFE7D, "\u0640\u0651| \u0652|\u0640\u0652|\u0621|\u0622|\u0622|\u0623|\u0623|\u0624"⟩,
  ⟨0xFE86, "\u0624|\u0625|\u0625|\u0626|\u0626|\u0626|\u0626|\u0627|\u0627|\u0628|\u0628"⟩,
  ⟨0xFE91, "\u0628|\u0628|\u0629|\u0629|\u062A|\u062A|\u062A|\u062A|\u062B|\u062B|\u062B"⟩,
  ⟨0xFE9C, "\u062B|\u062C|\u062C|\u062C|\u062C|\u062D|\u062D|\u062D|\u062D|\u062E|\u062E"⟩,
  ⟨0xFEA7, "\u062E|\u062E|\u062F|\u062F|\u0630|\u0630|\u0631|\u0631|\u0632|\u0632|\u0633"⟩,
  ⟨0xFEB2, "\u0633|\u0633|\u0633|\u0634|\u0634|\u0634|\u0634|\u0635|\u0635|\u0635|\u0635"⟩,
  ⟨0xFEBD, "\u0636|\u0636|\u0636|\u0636|\u0637|\u0637|\u0637|\u0637|\u0638|\u0638|\u0638"⟩,
  ⟨0xFEC8, "\u0638|\u0639|\u0639|\u0639|\u0639|\u063A|\u063A|\u063A|\u063A|\u0641|\u0641"⟩,
  ⟨0xFED3, "\u0641|\u0641|\u0642|\u0642|\u0642|\u0642|\u0643|\u0643|\u0643|\u0643|\u0644"⟩,
  ⟨0xFEDE, "\u0644|\u0644|\u0644|\u0645|\u0645|\u0645|\u0645|\u0646|\u0646|\u0646|\u0646"⟩,
  ⟨0xFEE9, "\u0647|\u0647|\u0647|\u0647|\u0648|\u0648|\u0649|\u0649|\u064A|\u064A|\u064A"⟩,
  ⟨0xFEF4, "\u064A|\u0644\u0622|\u0644\u0622|\u0644\u0623|\u0644\u0623|\u0644\u0625"⟩,
  ⟨0xFEFA, "\u0644\u0625|\u0644\u0627|\u0644\u0627"⟩,
  ⟨0xFF5F, "⦅|⦆|.|「|」|、|・|ヲ|ァ|ィ|ゥ|ェ|ォ|ャ|ュ|ョ|ッ|ー|ア|イ|ウ|エ|オ|カ|キ|ク|ケ|コ|サ|シ|ス|セ|ソ|タ|チ|ツ|テ|ト"⟩,
  ⟨0xFF8B, "ヒ|フ|ヘ|ホ"⟩, ⟨0xFF94, "ヤ|ユ"⟩, ⟨0xFF9C, "ワ|ン|\u3099|\u309A"⟩,
  ⟨0xFFA1, "ᄀ|ᄁ|ᆪ|ᄂ|ᆬ|ᆭ|ᄃ|ᄄ|ᄅ"⟩, ⟨0xFFB0, "ᄚ|ᄆ|ᄇ|ᄈ|ᄡ"⟩, ⟨0xFFDA, "ᅳ|ᅴ|ᅵ"⟩,
  ⟨0xFFE0, "¢|£|¬| \u0304|¦|¥|₩"⟩, ⟨0xFFE8, "│"⟩, ⟨0xFFED, "■|○"⟩, ⟨0x10594, "𐖻|𐖼"⟩,
  ⟨0x10781, "ː|ˑ|æ|ʙ|ɓ"⟩,
  ⟨0x10787, "ʣ|ꭦ|ʥ|ʤ|ɖ|ɗ|ᶑ|ɘ|ɞ|ʩ|ɤ|ɢ|ɠ|ʛ|ħ|ʜ|ɧ|ʄ|ʪ|ʫ|ɬ|𝼄|ꞎ|ɮ|𝼅|ʎ|𝼆|ø|ɶ|ɷ|q|ɺ|𝼈|ɽ|ɾ|ʀ|ʨ|ʦ|ꭧ|ʧ"⟩,
  ⟨0x107AF, "ʈ|ⱱ"⟩, ⟨0x107B2, "ʏ|ʡ|ʢ|ʘ|ǀ|ǁ|ǂ|𝼊|𝼞"⟩, ⟨0x1D15E, "𝅗𝅥|𝅘𝅥|𝅘𝅥𝅮|𝅘𝅥𝅯|𝅘𝅥𝅰|𝅘𝅥𝅱|𝅘𝅥𝅲"⟩,
  ⟨0x1D1BB, "𝆹𝅥|𝆺𝅥|𝆹𝅥𝅮|𝆺𝅥𝅮|𝆹𝅥𝅯|𝆺𝅥𝅯"⟩, ⟨0x1D49C, "a"⟩, ⟨0x1D49E, "c|d"⟩, ⟨0x1D4A2, "g"⟩,
  ⟨0x1D4A5, "j|k"⟩, ⟨0x1D4BE, "i"⟩, ⟨0x1D4C0, "k"⟩, ⟨0x1D4C2, "m"⟩, ⟨0x1D504, "a|b"⟩,
  ⟨0x1D538, "a|b"⟩, ⟨0x1D546, "o"⟩, ⟨0x1D6A4, "ı|ȷ"⟩, ⟨0x1D6B9, "θ"⟩, ⟨0x1D6C1, "∇"⟩,
  ⟨0x1D6D3, "σ"⟩, ⟨0x1D6DB, "∂|ε|θ|κ|φ|ρ|π"⟩, ⟨0x1D6F3, "θ"⟩, ⟨0x1D6FB, "∇"⟩, ⟨0x1D70D, "σ"⟩,
  ⟨0x1D715, "∂|ε|θ|κ|φ|ρ|π"⟩, ⟨0x1D72D, "θ"⟩, ⟨0x1D735, "∇"⟩, ⟨0x1D747, "σ"⟩,
  ⟨0x1D74F, "∂|ε|θ|κ|φ|ρ|π"⟩, ⟨0x1D767, "θ"⟩, ⟨0x1D76F, "∇"⟩, ⟨0x1D781, "σ"⟩,
  ⟨0x1D789, "∂|ε|θ|κ|φ|ρ|π"⟩, ⟨0x1D7A1, "θ"⟩, ⟨0x1D7A9, "∇"⟩, ⟨0x1D7BB, "σ"⟩,
  ⟨0x1D7C3, "∂|ε|θ|κ|φ|ρ|π|ϝ|ϝ"⟩, ⟨0x1E039, "к|л|м"⟩, ⟨0x1E047, "ы|э|ю|ꚉ|ә|і|ј|ө|ү|ӏ"⟩,
  ⟨0x1E05A, "к|л|о|п|с"⟩, ⟨0x1E065, "ъ|ы|ґ|і|ѕ|џ|ҫ|ꙑ|ұ"⟩,
  ⟨0x1EE00, "\u0627|\u0628|\u062C|\u062F"⟩, ⟨0x1EE05, "\u0648|\u0632|\u062D|\u0637|\u064A"⟩,
  ⟨0x1EE0E, "\u0633|\u0639|\u0641|\u0635|\u0642|\u0631|\u0634|\u062A|\u062B|\u062E|\u0630"⟩,
  ⟨0x1EE19, "\u0636|\u0638|\u063A|\u066E|\u06BA|\u06A1|\u066F"⟩, ⟨0x1EE21, "\u0628|\u062C"⟩,
  ⟨0x1EE24, "\u0647"⟩, ⟨0x1EE27, "\u062D"⟩, ⟨0x1EE29, "\u064A"⟩,
  ⟨0x1EE2E, "\u0633|\u0639|\u0641|\u0635|\u0642"⟩, ⟨0x1EE34, "\u0634|\u062A|\u062B|\u062E"⟩,
  ⟨0x1EE39, "\u0636"⟩, ⟨0x1EE3B, "\u063A"⟩, ⟨0x1EE42, "\u062C"⟩, ⟨0x1EE47, "\u062D"⟩,
  ⟨0x1EE49, "\u064A"⟩, ⟨0x1EE4B, "\u0644"⟩, ⟨0x1EE4D, "\u0646|\u0633|\u0639"⟩,
  ⟨0x1EE51, "\u0635|\u0642"⟩, ⟨0x1EE54, "\u0634"⟩, ⟨0x1EE57, "\u062E"⟩, ⟨0x1EE59, "\u0636"⟩,
  ⟨0x1EE5B, "\u063A"⟩, ⟨0x1EE5D, "\u06BA"⟩, ⟨0x1EE5F, "\u066F"⟩, ⟨0x1EE61, "\u0628|\u062C"⟩,
  ⟨0x1EE64, "\u0647"⟩, ⟨0x1EE67, "\u062D|\u0637|\u064A|\u0643"⟩,
  ⟨0x1EE6C, "\u0645|\u0646|\u0633|\u0639|\u0641|\u0635|\u0642"⟩,
  ⟨0x1EE74, "\u0634|\u062A|\u062B|\u062E"⟩, ⟨0x1EE79, "\u0636|\u0638|\u063A|\u066E"⟩,
  ⟨0x1EE7E, "\u06A1"⟩,
  ⟨0x1EE80, "\u0627|\u0628|\u062C|\u062F|\u0647|\u0648|\u0632|\u062D|\u0637|\u064A"⟩,
  ⟨0x1EE8B, "\u0644|\u0645|\u0646|\u0633|\u0639|\u0641|\u0635|\u0642|\u0631|\u0634|\u062A"⟩,
  ⟨0x1EE96, "\u062B|\u062E|\u0630|\u0636|\u0638|\u063A"⟩, ⟨0x1EEA1, "\u0628|\u062C|\u062F"⟩,
  ⟨0x1EEA5, "\u0648|\u0632|\u062D|\u0637|\u064A"⟩,
  ⟨0x1EEAB, "\u0644|\u0645|\u0646|\u0633|\u0639|\u0641|\u0635|\u0642|\u0631|\u0634|\u062A"⟩,
  ⟨0x1EEB6, "\u062B|\u062E|\u0630|\u0636|\u0638|\u063A"⟩,
  ⟨0x1F101, "0,|1,|2,|3,|4,|5,|6,|7,|8,|9,"⟩,
  ⟨0x1F110, "(a)|(b)|(c)|(d)|(e)|(f)|(g)|(h)|(i)|(j)|(k)|(l)|(m)|(n)|(o)|(p)|(q)|(r)|(s)|(t)"⟩,
  ⟨0x1F124, "(u)|(v)|(w)|(x)|(y)|(z)|〔s〕|c|r|cd|wz"⟩, ⟨0x1F14A, "hv|mv|sd|ss|ppv|wc"⟩,
  ⟨0x1F16A, "mc|md|mr"⟩, ⟨0x1F190, "dj"⟩, ⟨0x1F200, "ほか|ココ|サ"⟩,
  ⟨0x1F210, "手|字|双|デ|二|多|解|天|交|映|無|料|前|後|再|新|初|終|生|販|声|吹|演|投|捕|一|三|遊|左|中|右|指|走|打|禁|空|合|満|有|月"⟩,
  ⟨0x1F238, "申|割|営|配"⟩, ⟨0x1F240, "〔本〕|〔三〕|〔二〕|〔安〕|〔点〕|〔打〕|〔盗〕|〔勝〕|〔敗〕"⟩, ⟨0x1F250, "得|可"⟩,
  ⟨0x2F800, "丽|丸|乁|𠄢|你|侮|侻|倂|偺|備|僧|像|㒞|𠘺|免|兔|兤|具|𠔜|㒹|內|再|𠕋|冗|冤|仌|冬|况|𩇟|凵|刃|㓟|刻|剆|割|剷|㔕|勇|勉|勤"⟩,
  ⟨0x2F828, "勺|包|匆|北|卉|卑|博|即|卽|卿|卿|卿|𠨬|灰|及|叟|𠭣|叫|叱|吆|咞|吸|呈|周|咢|哶|唐|啓|啣|善|善|喙|喫|喳|嗂|圖|嘆|圗|噑|噴"⟩,
  ⟨0x2F850, "切|壮|城|埴|堍|型|堲|報|墬|𡓤|売|壷|夆|多|夢|奢|𡚨|𡛪|姬|娛|娧|姘|婦|㛮|㛼|嬈|嬾|嬾|𡧈|寃|寘|寧|寳|𡬘|寿|将|当|尢|㞁|屠"⟩,
  ⟨0x2F878, "屮|峀|岍|𡷤|嵃|𡷦|嵮|嵫|嵼|巡|巢|㠯|巽|帨|帽|幩|㡢|𢆃|㡼|庰|庳|庶|廊|𪎒|廾|𢌱|𢌱|舁|弢|弢|㣇|𣊸|𦇚|形|彫|㣣|徚|忍|志|忹"⟩,
  ⟨0x2F8A0, "悁|㤺|㤜|悔|𢛔|惇|慈|慌|慎|慌|慺|憎|憲|憤|憯|懞|懲|懶|成|戛|扝|抱|拔|捐|𢬌|挽|拼|捨|掃|揤|𢯱|搢|揅|掩|㨮|摩|摾|撝|摷|㩬"⟩,
  ⟨0x2F8C8, "敏|敬|𣀊|旣|書|晉|㬙|暑|㬈|㫤|冒|冕|最|暜|肭|䏙|朗|望|朡|杞|杓|𣏃|㭉|柺|枅|桒|梅|𣑭|梎|栟|椔|㮝|楂|榣|槪|檨|𣚣|櫛|㰘|次"⟩,
  ⟨0x2F8F0, "𣢧|歔|㱎|歲|殟|殺|殻|𣪍|𡴋|𣫺|汎|𣲼|沿|泍|汧|洖|派|海|流|浩|浸|涅|𣴞|洴|港|湮|㴳|滋|滇|𣻑|淹|潮|𣽞|𣾎|濆|瀹|瀞|瀛|㶖|灊"⟩,
  ⟨0x2F918, "災|灷|炭|𠔥|煅|𤉣|熜|𤎫|爨|爵|牐|𤘈|犀|犕|𤜵|𤠔|獺|王|㺬|玥|㺸|㺸|瑇|瑜|瑱|璅|瓊|㼛|甤|𤰶|甾|𤲒|異|𢆟|瘐|𤾡|𤾸|𥁄|㿼|䀈"⟩,
  ⟨0x2F940, "直|𥃳|𥃲|𥄙|𥄳|眞|真|真|睊|䀹|瞋|䁆|䂖|𥐝|硎|碌|磌|䃣|𥘦|祖|𥚚|𥛅|福|秫|䄯|穀|穊|穏|𥥼|𥪧|𥪧|竮|䈂|𥮫|篆|築|䈧|𥲀|糒|䊠"⟩,
  ⟨0x2F968, "糨|糣|紀|𥾆|絣|䌁|緇|縂|繅|䌴|𦈨|𦉇|䍙|𦋙|罺|𦌾|羕|翺|者|𦓚|𦔣|聠|𦖨|聰|𣍟|䏕|育|脃|䐋|脾|媵|𦞧|𦞵|𣎓|𣎜|舁|舄|辞|䑫|芑"⟩,
  ⟨0x2F990, "芋|芝|劳|花|芳|芽|苦|𦬼|若|茝|荣|莭|茣|莽|菧|著|荓|菊|菌|菜|𦰶|𦵫|𦳕|䔫|蓱|蓳|蔖|𧏊|蕤|𦼬|䕝|䕡|𦾱|𧃒|䕫|虐|虜|虧|虩|蚩"⟩,
  ⟨0x2F9B8, "蚈|蜎|蛢|蝹|蜨|蝫|螆|䗗|蟡|蠁|䗹|衠|衣|𧙧|裗|裞|䘵|裺|㒻|𧢮|𧥦|䚾|䛇|誠|諭|變|豕|𧲨|貫|賁|贛|起|𧼯|𠠄|跋|趼|跰|𠣞|軔|輸"⟩,
  ⟨0x2F9E0, "𨗒|𨗭|邔|郱|鄑|𨜮|鄛|鈸|鋗|鋘|鉼|鏹|鐕|𨯺|開|䦕|閷|𨵷|䧦|雃|嶲|霣|𩅅|𩈚|䩮|䩶|韠|𩐊|䪲|𩒖|頋|頋|頩|𩖶|飢|䬳|餩|馧|駂|駾"⟩,
  ⟨0x2FA08, "䯎|𩬰|鬒|鱀|鳽|䳎|䳭|鵧|𪃎|䳸|𪄅|𪈎|𪊑|麻|䵖|黹|黾|鼅|鼏|鼖|鼻|𪘀"⟩]

/-- What the characters of a row stand for, and the number of the first one. -/
def Row.read (r : Row) : Nat × List (List Char) :=
  (r.first, r.images.toList.splitOn '|')

/-- The rows, read. -/
def readRows : List (Nat × List (List Char)) :=
  rows.map Row.read

/-- What a character stands for that names do not consist of, if it stands for anything. -/
def image? (c : Char) : Option (List Char) :=
  if emptySet.contains c then some []
  else
    match runs.findSome? (·.image? c) with
    | some image => some [image]
    | none =>
        readRows.findSome? fun (first, images) =>
          if first ≤ c.toNat then images[c.toNat - first]? else none

end PullDiagnostics.Variant
