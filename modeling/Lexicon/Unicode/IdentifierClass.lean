import Lexicon.Unicode.RangeTable

/-!
# Identifier classes

Every character starts an identifier, only continues one, or never stands in one.  In ASCII these
are the letters with `_`, the digits, and the rest.  Beyond ASCII the first two classes are the
properties XID_Start and XID_Continue of Unicode 16.0.0, the second without the first.
-/

namespace Lexicon.Unicode

/-- Where a character may stand in an identifier. -/
inductive CharClass where
  /-- It may start or continue an identifier. -/
  | start
  /-- It may only continue one: digits, combining marks, connectors, variation selectors. -/
  | continuation
  /-- It is never part of one. -/
  | other
  deriving DecidableEq, Repr

namespace IdentifierClass

def page00 : RangeTable CharClass := .page [
  ⟨0x00AA, 0x00AA, .start⟩, ⟨0x00B5, 0x00B5, .start⟩, ⟨0x00B7, 0x00B7, .continuation⟩,
  ⟨0x00BA, 0x00BA, .start⟩, ⟨0x00C0, 0x00D6, .start⟩, ⟨0x00D8, 0x00F6, .start⟩,
  ⟨0x00F8, 0x02C1, .start⟩, ⟨0x02C6, 0x02D1, .start⟩, ⟨0x02E0, 0x02E4, .start⟩,
  ⟨0x02EC, 0x02EC, .start⟩, ⟨0x02EE, 0x02EE, .start⟩, ⟨0x0300, 0x036F, .continuation⟩,
  ⟨0x0370, 0x0374, .start⟩, ⟨0x0376, 0x0377, .start⟩, ⟨0x037B, 0x037D, .start⟩]

def page01 : RangeTable CharClass := .page [
  ⟨0x037F, 0x037F, .start⟩, ⟨0x0386, 0x0386, .start⟩, ⟨0x0387, 0x0387, .continuation⟩,
  ⟨0x0388, 0x038A, .start⟩, ⟨0x038C, 0x038C, .start⟩, ⟨0x038E, 0x03A1, .start⟩,
  ⟨0x03A3, 0x03F5, .start⟩, ⟨0x03F7, 0x0481, .start⟩, ⟨0x0483, 0x0487, .continuation⟩,
  ⟨0x048A, 0x052F, .start⟩, ⟨0x0531, 0x0556, .start⟩, ⟨0x0559, 0x0559, .start⟩,
  ⟨0x0560, 0x0588, .start⟩, ⟨0x0591, 0x05BD, .continuation⟩, ⟨0x05BF, 0x05BF, .continuation⟩,
  ⟨0x05C1, 0x05C2, .continuation⟩]

def page02 : RangeTable CharClass := .page [
  ⟨0x05C4, 0x05C5, .continuation⟩, ⟨0x05C7, 0x05C7, .continuation⟩, ⟨0x05D0, 0x05EA, .start⟩,
  ⟨0x05EF, 0x05F2, .start⟩, ⟨0x0610, 0x061A, .continuation⟩, ⟨0x0620, 0x064A, .start⟩,
  ⟨0x064B, 0x0669, .continuation⟩, ⟨0x066E, 0x066F, .start⟩, ⟨0x0670, 0x0670, .continuation⟩,
  ⟨0x0671, 0x06D3, .start⟩, ⟨0x06D5, 0x06D5, .start⟩, ⟨0x06D6, 0x06DC, .continuation⟩,
  ⟨0x06DF, 0x06E4, .continuation⟩, ⟨0x06E5, 0x06E6, .start⟩, ⟨0x06E7, 0x06E8, .continuation⟩,
  ⟨0x06EA, 0x06ED, .continuation⟩]

def page03 : RangeTable CharClass := .page [
  ⟨0x06EE, 0x06EF, .start⟩, ⟨0x06F0, 0x06F9, .continuation⟩, ⟨0x06FA, 0x06FC, .start⟩,
  ⟨0x06FF, 0x06FF, .start⟩, ⟨0x0710, 0x0710, .start⟩, ⟨0x0711, 0x0711, .continuation⟩,
  ⟨0x0712, 0x072F, .start⟩, ⟨0x0730, 0x074A, .continuation⟩, ⟨0x074D, 0x07A5, .start⟩,
  ⟨0x07A6, 0x07B0, .continuation⟩, ⟨0x07B1, 0x07B1, .start⟩, ⟨0x07C0, 0x07C9, .continuation⟩,
  ⟨0x07CA, 0x07EA, .start⟩, ⟨0x07EB, 0x07F3, .continuation⟩, ⟨0x07F4, 0x07F5, .start⟩,
  ⟨0x07FA, 0x07FA, .start⟩]

def page04 : RangeTable CharClass := .page [
  ⟨0x07FD, 0x07FD, .continuation⟩, ⟨0x0800, 0x0815, .start⟩, ⟨0x0816, 0x0819, .continuation⟩,
  ⟨0x081A, 0x081A, .start⟩, ⟨0x081B, 0x0823, .continuation⟩, ⟨0x0824, 0x0824, .start⟩,
  ⟨0x0825, 0x0827, .continuation⟩, ⟨0x0828, 0x0828, .start⟩, ⟨0x0829, 0x082D, .continuation⟩,
  ⟨0x0840, 0x0858, .start⟩, ⟨0x0859, 0x085B, .continuation⟩, ⟨0x0860, 0x086A, .start⟩,
  ⟨0x0870, 0x0887, .start⟩, ⟨0x0889, 0x088E, .start⟩, ⟨0x0897, 0x089F, .continuation⟩]

def page05 : RangeTable CharClass := .page [
  ⟨0x08A0, 0x08C9, .start⟩, ⟨0x08CA, 0x08E1, .continuation⟩, ⟨0x08E3, 0x0903, .continuation⟩,
  ⟨0x0904, 0x0939, .start⟩, ⟨0x093A, 0x093C, .continuation⟩, ⟨0x093D, 0x093D, .start⟩,
  ⟨0x093E, 0x094F, .continuation⟩, ⟨0x0950, 0x0950, .start⟩, ⟨0x0951, 0x0957, .continuation⟩,
  ⟨0x0958, 0x0961, .start⟩, ⟨0x0962, 0x0963, .continuation⟩, ⟨0x0966, 0x096F, .continuation⟩,
  ⟨0x0971, 0x0980, .start⟩, ⟨0x0981, 0x0983, .continuation⟩, ⟨0x0985, 0x098C, .start⟩,
  ⟨0x098F, 0x0990, .start⟩]

def page06 : RangeTable CharClass := .page [
  ⟨0x0993, 0x09A8, .start⟩, ⟨0x09AA, 0x09B0, .start⟩, ⟨0x09B2, 0x09B2, .start⟩,
  ⟨0x09B6, 0x09B9, .start⟩, ⟨0x09BC, 0x09BC, .continuation⟩, ⟨0x09BD, 0x09BD, .start⟩,
  ⟨0x09BE, 0x09C4, .continuation⟩, ⟨0x09C7, 0x09C8, .continuation⟩, ⟨0x09CB, 0x09CD, .continuation⟩,
  ⟨0x09CE, 0x09CE, .start⟩, ⟨0x09D7, 0x09D7, .continuation⟩, ⟨0x09DC, 0x09DD, .start⟩,
  ⟨0x09DF, 0x09E1, .start⟩, ⟨0x09E2, 0x09E3, .continuation⟩, ⟨0x09E6, 0x09EF, .continuation⟩,
  ⟨0x09F0, 0x09F1, .start⟩]

def page07 : RangeTable CharClass := .page [
  ⟨0x09FC, 0x09FC, .start⟩, ⟨0x09FE, 0x09FE, .continuation⟩, ⟨0x0A01, 0x0A03, .continuation⟩,
  ⟨0x0A05, 0x0A0A, .start⟩, ⟨0x0A0F, 0x0A10, .start⟩, ⟨0x0A13, 0x0A28, .start⟩,
  ⟨0x0A2A, 0x0A30, .start⟩, ⟨0x0A32, 0x0A33, .start⟩, ⟨0x0A35, 0x0A36, .start⟩,
  ⟨0x0A38, 0x0A39, .start⟩, ⟨0x0A3C, 0x0A3C, .continuation⟩, ⟨0x0A3E, 0x0A42, .continuation⟩,
  ⟨0x0A47, 0x0A48, .continuation⟩, ⟨0x0A4B, 0x0A4D, .continuation⟩, ⟨0x0A51, 0x0A51, .continuation⟩,
  ⟨0x0A59, 0x0A5C, .start⟩]

def page08 : RangeTable CharClass := .page [
  ⟨0x0A5E, 0x0A5E, .start⟩, ⟨0x0A66, 0x0A71, .continuation⟩, ⟨0x0A72, 0x0A74, .start⟩,
  ⟨0x0A75, 0x0A75, .continuation⟩, ⟨0x0A81, 0x0A83, .continuation⟩, ⟨0x0A85, 0x0A8D, .start⟩,
  ⟨0x0A8F, 0x0A91, .start⟩, ⟨0x0A93, 0x0AA8, .start⟩, ⟨0x0AAA, 0x0AB0, .start⟩,
  ⟨0x0AB2, 0x0AB3, .start⟩, ⟨0x0AB5, 0x0AB9, .start⟩, ⟨0x0ABC, 0x0ABC, .continuation⟩,
  ⟨0x0ABD, 0x0ABD, .start⟩, ⟨0x0ABE, 0x0AC5, .continuation⟩, ⟨0x0AC7, 0x0AC9, .continuation⟩,
  ⟨0x0ACB, 0x0ACD, .continuation⟩]

def page09 : RangeTable CharClass := .page [
  ⟨0x0AD0, 0x0AD0, .start⟩, ⟨0x0AE0, 0x0AE1, .start⟩, ⟨0x0AE2, 0x0AE3, .continuation⟩,
  ⟨0x0AE6, 0x0AEF, .continuation⟩, ⟨0x0AF9, 0x0AF9, .start⟩, ⟨0x0AFA, 0x0AFF, .continuation⟩,
  ⟨0x0B01, 0x0B03, .continuation⟩, ⟨0x0B05, 0x0B0C, .start⟩, ⟨0x0B0F, 0x0B10, .start⟩,
  ⟨0x0B13, 0x0B28, .start⟩, ⟨0x0B2A, 0x0B30, .start⟩, ⟨0x0B32, 0x0B33, .start⟩,
  ⟨0x0B35, 0x0B39, .start⟩, ⟨0x0B3C, 0x0B3C, .continuation⟩, ⟨0x0B3D, 0x0B3D, .start⟩]

def page10 : RangeTable CharClass := .page [
  ⟨0x0B3E, 0x0B44, .continuation⟩, ⟨0x0B47, 0x0B48, .continuation⟩, ⟨0x0B4B, 0x0B4D, .continuation⟩,
  ⟨0x0B55, 0x0B57, .continuation⟩, ⟨0x0B5C, 0x0B5D, .start⟩, ⟨0x0B5F, 0x0B61, .start⟩,
  ⟨0x0B62, 0x0B63, .continuation⟩, ⟨0x0B66, 0x0B6F, .continuation⟩, ⟨0x0B71, 0x0B71, .start⟩,
  ⟨0x0B82, 0x0B82, .continuation⟩, ⟨0x0B83, 0x0B83, .start⟩, ⟨0x0B85, 0x0B8A, .start⟩,
  ⟨0x0B8E, 0x0B90, .start⟩, ⟨0x0B92, 0x0B95, .start⟩, ⟨0x0B99, 0x0B9A, .start⟩,
  ⟨0x0B9C, 0x0B9C, .start⟩]

def page11 : RangeTable CharClass := .page [
  ⟨0x0B9E, 0x0B9F, .start⟩, ⟨0x0BA3, 0x0BA4, .start⟩, ⟨0x0BA8, 0x0BAA, .start⟩,
  ⟨0x0BAE, 0x0BB9, .start⟩, ⟨0x0BBE, 0x0BC2, .continuation⟩, ⟨0x0BC6, 0x0BC8, .continuation⟩,
  ⟨0x0BCA, 0x0BCD, .continuation⟩, ⟨0x0BD0, 0x0BD0, .start⟩, ⟨0x0BD7, 0x0BD7, .continuation⟩,
  ⟨0x0BE6, 0x0BEF, .continuation⟩, ⟨0x0C00, 0x0C04, .continuation⟩, ⟨0x0C05, 0x0C0C, .start⟩,
  ⟨0x0C0E, 0x0C10, .start⟩, ⟨0x0C12, 0x0C28, .start⟩, ⟨0x0C2A, 0x0C39, .start⟩,
  ⟨0x0C3C, 0x0C3C, .continuation⟩]

def page12 : RangeTable CharClass := .page [
  ⟨0x0C3D, 0x0C3D, .start⟩, ⟨0x0C3E, 0x0C44, .continuation⟩, ⟨0x0C46, 0x0C48, .continuation⟩,
  ⟨0x0C4A, 0x0C4D, .continuation⟩, ⟨0x0C55, 0x0C56, .continuation⟩, ⟨0x0C58, 0x0C5A, .start⟩,
  ⟨0x0C5D, 0x0C5D, .start⟩, ⟨0x0C60, 0x0C61, .start⟩, ⟨0x0C62, 0x0C63, .continuation⟩,
  ⟨0x0C66, 0x0C6F, .continuation⟩, ⟨0x0C80, 0x0C80, .start⟩, ⟨0x0C81, 0x0C83, .continuation⟩,
  ⟨0x0C85, 0x0C8C, .start⟩, ⟨0x0C8E, 0x0C90, .start⟩, ⟨0x0C92, 0x0CA8, .start⟩,
  ⟨0x0CAA, 0x0CB3, .start⟩]

def page13 : RangeTable CharClass := .page [
  ⟨0x0CB5, 0x0CB9, .start⟩, ⟨0x0CBC, 0x0CBC, .continuation⟩, ⟨0x0CBD, 0x0CBD, .start⟩,
  ⟨0x0CBE, 0x0CC4, .continuation⟩, ⟨0x0CC6, 0x0CC8, .continuation⟩, ⟨0x0CCA, 0x0CCD, .continuation⟩,
  ⟨0x0CD5, 0x0CD6, .continuation⟩, ⟨0x0CDD, 0x0CDE, .start⟩, ⟨0x0CE0, 0x0CE1, .start⟩,
  ⟨0x0CE2, 0x0CE3, .continuation⟩, ⟨0x0CE6, 0x0CEF, .continuation⟩, ⟨0x0CF1, 0x0CF2, .start⟩,
  ⟨0x0CF3, 0x0CF3, .continuation⟩, ⟨0x0D00, 0x0D03, .continuation⟩, ⟨0x0D04, 0x0D0C, .start⟩,
  ⟨0x0D0E, 0x0D10, .start⟩]

def page14 : RangeTable CharClass := .page [
  ⟨0x0D12, 0x0D3A, .start⟩, ⟨0x0D3B, 0x0D3C, .continuation⟩, ⟨0x0D3D, 0x0D3D, .start⟩,
  ⟨0x0D3E, 0x0D44, .continuation⟩, ⟨0x0D46, 0x0D48, .continuation⟩, ⟨0x0D4A, 0x0D4D, .continuation⟩,
  ⟨0x0D4E, 0x0D4E, .start⟩, ⟨0x0D54, 0x0D56, .start⟩, ⟨0x0D57, 0x0D57, .continuation⟩,
  ⟨0x0D5F, 0x0D61, .start⟩, ⟨0x0D62, 0x0D63, .continuation⟩, ⟨0x0D66, 0x0D6F, .continuation⟩,
  ⟨0x0D7A, 0x0D7F, .start⟩, ⟨0x0D81, 0x0D83, .continuation⟩, ⟨0x0D85, 0x0D96, .start⟩]

def page15 : RangeTable CharClass := .page [
  ⟨0x0D9A, 0x0DB1, .start⟩, ⟨0x0DB3, 0x0DBB, .start⟩, ⟨0x0DBD, 0x0DBD, .start⟩,
  ⟨0x0DC0, 0x0DC6, .start⟩, ⟨0x0DCA, 0x0DCA, .continuation⟩, ⟨0x0DCF, 0x0DD4, .continuation⟩,
  ⟨0x0DD6, 0x0DD6, .continuation⟩, ⟨0x0DD8, 0x0DDF, .continuation⟩, ⟨0x0DE6, 0x0DEF, .continuation⟩,
  ⟨0x0DF2, 0x0DF3, .continuation⟩, ⟨0x0E01, 0x0E30, .start⟩, ⟨0x0E31, 0x0E31, .continuation⟩,
  ⟨0x0E32, 0x0E32, .start⟩, ⟨0x0E33, 0x0E3A, .continuation⟩, ⟨0x0E40, 0x0E46, .start⟩,
  ⟨0x0E47, 0x0E4E, .continuation⟩]

def page16 : RangeTable CharClass := .page [
  ⟨0x0E50, 0x0E59, .continuation⟩, ⟨0x0E81, 0x0E82, .start⟩, ⟨0x0E84, 0x0E84, .start⟩,
  ⟨0x0E86, 0x0E8A, .start⟩, ⟨0x0E8C, 0x0EA3, .start⟩, ⟨0x0EA5, 0x0EA5, .start⟩,
  ⟨0x0EA7, 0x0EB0, .start⟩, ⟨0x0EB1, 0x0EB1, .continuation⟩, ⟨0x0EB2, 0x0EB2, .start⟩,
  ⟨0x0EB3, 0x0EBC, .continuation⟩, ⟨0x0EBD, 0x0EBD, .start⟩, ⟨0x0EC0, 0x0EC4, .start⟩,
  ⟨0x0EC6, 0x0EC6, .start⟩, ⟨0x0EC8, 0x0ECE, .continuation⟩, ⟨0x0ED0, 0x0ED9, .continuation⟩,
  ⟨0x0EDC, 0x0EDF, .start⟩]

def page17 : RangeTable CharClass := .page [
  ⟨0x0F00, 0x0F00, .start⟩, ⟨0x0F18, 0x0F19, .continuation⟩, ⟨0x0F20, 0x0F29, .continuation⟩,
  ⟨0x0F35, 0x0F35, .continuation⟩, ⟨0x0F37, 0x0F37, .continuation⟩, ⟨0x0F39, 0x0F39, .continuation⟩,
  ⟨0x0F3E, 0x0F3F, .continuation⟩, ⟨0x0F40, 0x0F47, .start⟩, ⟨0x0F49, 0x0F6C, .start⟩,
  ⟨0x0F71, 0x0F84, .continuation⟩, ⟨0x0F86, 0x0F87, .continuation⟩, ⟨0x0F88, 0x0F8C, .start⟩,
  ⟨0x0F8D, 0x0F97, .continuation⟩, ⟨0x0F99, 0x0FBC, .continuation⟩, ⟨0x0FC6, 0x0FC6, .continuation⟩,
  ⟨0x1000, 0x102A, .start⟩]

def page18 : RangeTable CharClass := .page [
  ⟨0x102B, 0x103E, .continuation⟩, ⟨0x103F, 0x103F, .start⟩, ⟨0x1040, 0x1049, .continuation⟩,
  ⟨0x1050, 0x1055, .start⟩, ⟨0x1056, 0x1059, .continuation⟩, ⟨0x105A, 0x105D, .start⟩,
  ⟨0x105E, 0x1060, .continuation⟩, ⟨0x1061, 0x1061, .start⟩, ⟨0x1062, 0x1064, .continuation⟩,
  ⟨0x1065, 0x1066, .start⟩, ⟨0x1067, 0x106D, .continuation⟩, ⟨0x106E, 0x1070, .start⟩,
  ⟨0x1071, 0x1074, .continuation⟩, ⟨0x1075, 0x1081, .start⟩, ⟨0x1082, 0x108D, .continuation⟩,
  ⟨0x108E, 0x108E, .start⟩]

def page19 : RangeTable CharClass := .page [
  ⟨0x108F, 0x109D, .continuation⟩, ⟨0x10A0, 0x10C5, .start⟩, ⟨0x10C7, 0x10C7, .start⟩,
  ⟨0x10CD, 0x10CD, .start⟩, ⟨0x10D0, 0x10FA, .start⟩, ⟨0x10FC, 0x1248, .start⟩,
  ⟨0x124A, 0x124D, .start⟩, ⟨0x1250, 0x1256, .start⟩, ⟨0x1258, 0x1258, .start⟩,
  ⟨0x125A, 0x125D, .start⟩, ⟨0x1260, 0x1288, .start⟩, ⟨0x128A, 0x128D, .start⟩,
  ⟨0x1290, 0x12B0, .start⟩, ⟨0x12B2, 0x12B5, .start⟩, ⟨0x12B8, 0x12BE, .start⟩]

def page20 : RangeTable CharClass := .page [
  ⟨0x12C0, 0x12C0, .start⟩, ⟨0x12C2, 0x12C5, .start⟩, ⟨0x12C8, 0x12D6, .start⟩,
  ⟨0x12D8, 0x1310, .start⟩, ⟨0x1312, 0x1315, .start⟩, ⟨0x1318, 0x135A, .start⟩,
  ⟨0x135D, 0x135F, .continuation⟩, ⟨0x1369, 0x1371, .continuation⟩, ⟨0x1380, 0x138F, .start⟩,
  ⟨0x13A0, 0x13F5, .start⟩, ⟨0x13F8, 0x13FD, .start⟩, ⟨0x1401, 0x166C, .start⟩,
  ⟨0x166F, 0x167F, .start⟩, ⟨0x1681, 0x169A, .start⟩, ⟨0x16A0, 0x16EA, .start⟩,
  ⟨0x16EE, 0x16F8, .start⟩]

def page21 : RangeTable CharClass := .page [
  ⟨0x1700, 0x1711, .start⟩, ⟨0x1712, 0x1715, .continuation⟩, ⟨0x171F, 0x1731, .start⟩,
  ⟨0x1732, 0x1734, .continuation⟩, ⟨0x1740, 0x1751, .start⟩, ⟨0x1752, 0x1753, .continuation⟩,
  ⟨0x1760, 0x176C, .start⟩, ⟨0x176E, 0x1770, .start⟩, ⟨0x1772, 0x1773, .continuation⟩,
  ⟨0x1780, 0x17B3, .start⟩, ⟨0x17B4, 0x17D3, .continuation⟩, ⟨0x17D7, 0x17D7, .start⟩,
  ⟨0x17DC, 0x17DC, .start⟩, ⟨0x17DD, 0x17DD, .continuation⟩, ⟨0x17E0, 0x17E9, .continuation⟩,
  ⟨0x180B, 0x180D, .continuation⟩]

def page22 : RangeTable CharClass := .page [
  ⟨0x180F, 0x1819, .continuation⟩, ⟨0x1820, 0x1878, .start⟩, ⟨0x1880, 0x18A8, .start⟩,
  ⟨0x18A9, 0x18A9, .continuation⟩, ⟨0x18AA, 0x18AA, .start⟩, ⟨0x18B0, 0x18F5, .start⟩,
  ⟨0x1900, 0x191E, .start⟩, ⟨0x1920, 0x192B, .continuation⟩, ⟨0x1930, 0x193B, .continuation⟩,
  ⟨0x1946, 0x194F, .continuation⟩, ⟨0x1950, 0x196D, .start⟩, ⟨0x1970, 0x1974, .start⟩,
  ⟨0x1980, 0x19AB, .start⟩, ⟨0x19B0, 0x19C9, .start⟩, ⟨0x19D0, 0x19DA, .continuation⟩,
  ⟨0x1A00, 0x1A16, .start⟩]

def page23 : RangeTable CharClass := .page [
  ⟨0x1A17, 0x1A1B, .continuation⟩, ⟨0x1A20, 0x1A54, .start⟩, ⟨0x1A55, 0x1A5E, .continuation⟩,
  ⟨0x1A60, 0x1A7C, .continuation⟩, ⟨0x1A7F, 0x1A89, .continuation⟩, ⟨0x1A90, 0x1A99, .continuation⟩,
  ⟨0x1AA7, 0x1AA7, .start⟩, ⟨0x1AB0, 0x1ABD, .continuation⟩, ⟨0x1ABF, 0x1ACE, .continuation⟩,
  ⟨0x1B00, 0x1B04, .continuation⟩, ⟨0x1B05, 0x1B33, .start⟩, ⟨0x1B34, 0x1B44, .continuation⟩,
  ⟨0x1B45, 0x1B4C, .start⟩, ⟨0x1B50, 0x1B59, .continuation⟩, ⟨0x1B6B, 0x1B73, .continuation⟩,
  ⟨0x1B80, 0x1B82, .continuation⟩]

def page24 : RangeTable CharClass := .page [
  ⟨0x1B83, 0x1BA0, .start⟩, ⟨0x1BA1, 0x1BAD, .continuation⟩, ⟨0x1BAE, 0x1BAF, .start⟩,
  ⟨0x1BB0, 0x1BB9, .continuation⟩, ⟨0x1BBA, 0x1BE5, .start⟩, ⟨0x1BE6, 0x1BF3, .continuation⟩,
  ⟨0x1C00, 0x1C23, .start⟩, ⟨0x1C24, 0x1C37, .continuation⟩, ⟨0x1C40, 0x1C49, .continuation⟩,
  ⟨0x1C4D, 0x1C4F, .start⟩, ⟨0x1C50, 0x1C59, .continuation⟩, ⟨0x1C5A, 0x1C7D, .start⟩,
  ⟨0x1C80, 0x1C8A, .start⟩, ⟨0x1C90, 0x1CBA, .start⟩, ⟨0x1CBD, 0x1CBF, .start⟩]

def page25 : RangeTable CharClass := .page [
  ⟨0x1CD0, 0x1CD2, .continuation⟩, ⟨0x1CD4, 0x1CE8, .continuation⟩, ⟨0x1CE9, 0x1CEC, .start⟩,
  ⟨0x1CED, 0x1CED, .continuation⟩, ⟨0x1CEE, 0x1CF3, .start⟩, ⟨0x1CF4, 0x1CF4, .continuation⟩,
  ⟨0x1CF5, 0x1CF6, .start⟩, ⟨0x1CF7, 0x1CF9, .continuation⟩, ⟨0x1CFA, 0x1CFA, .start⟩,
  ⟨0x1D00, 0x1DBF, .start⟩, ⟨0x1DC0, 0x1DFF, .continuation⟩, ⟨0x1E00, 0x1F15, .start⟩,
  ⟨0x1F18, 0x1F1D, .start⟩, ⟨0x1F20, 0x1F45, .start⟩, ⟨0x1F48, 0x1F4D, .start⟩,
  ⟨0x1F50, 0x1F57, .start⟩]

def page26 : RangeTable CharClass := .page [
  ⟨0x1F59, 0x1F59, .start⟩, ⟨0x1F5B, 0x1F5B, .start⟩, ⟨0x1F5D, 0x1F5D, .start⟩,
  ⟨0x1F5F, 0x1F7D, .start⟩, ⟨0x1F80, 0x1FB4, .start⟩, ⟨0x1FB6, 0x1FBC, .start⟩,
  ⟨0x1FBE, 0x1FBE, .start⟩, ⟨0x1FC2, 0x1FC4, .start⟩, ⟨0x1FC6, 0x1FCC, .start⟩,
  ⟨0x1FD0, 0x1FD3, .start⟩, ⟨0x1FD6, 0x1FDB, .start⟩, ⟨0x1FE0, 0x1FEC, .start⟩,
  ⟨0x1FF2, 0x1FF4, .start⟩, ⟨0x1FF6, 0x1FFC, .start⟩, ⟨0x200C, 0x200D, .continuation⟩,
  ⟨0x203F, 0x2040, .continuation⟩]

def page27 : RangeTable CharClass := .page [
  ⟨0x2054, 0x2054, .continuation⟩, ⟨0x2071, 0x2071, .start⟩, ⟨0x207F, 0x207F, .start⟩,
  ⟨0x2090, 0x209C, .start⟩, ⟨0x20D0, 0x20DC, .continuation⟩, ⟨0x20E1, 0x20E1, .continuation⟩,
  ⟨0x20E5, 0x20F0, .continuation⟩, ⟨0x2102, 0x2102, .start⟩, ⟨0x2107, 0x2107, .start⟩,
  ⟨0x210A, 0x2113, .start⟩, ⟨0x2115, 0x2115, .start⟩, ⟨0x2118, 0x211D, .start⟩,
  ⟨0x2124, 0x2124, .start⟩, ⟨0x2126, 0x2126, .start⟩, ⟨0x2128, 0x2128, .start⟩,
  ⟨0x212A, 0x2139, .start⟩]

def page28 : RangeTable CharClass := .page [
  ⟨0x213C, 0x213F, .start⟩, ⟨0x2145, 0x2149, .start⟩, ⟨0x214E, 0x214E, .start⟩,
  ⟨0x2160, 0x2188, .start⟩, ⟨0x2C00, 0x2CE4, .start⟩, ⟨0x2CEB, 0x2CEE, .start⟩,
  ⟨0x2CEF, 0x2CF1, .continuation⟩, ⟨0x2CF2, 0x2CF3, .start⟩, ⟨0x2D00, 0x2D25, .start⟩,
  ⟨0x2D27, 0x2D27, .start⟩, ⟨0x2D2D, 0x2D2D, .start⟩, ⟨0x2D30, 0x2D67, .start⟩,
  ⟨0x2D6F, 0x2D6F, .start⟩, ⟨0x2D7F, 0x2D7F, .continuation⟩, ⟨0x2D80, 0x2D96, .start⟩,
  ⟨0x2DA0, 0x2DA6, .start⟩]

def page29 : RangeTable CharClass := .page [
  ⟨0x2DA8, 0x2DAE, .start⟩, ⟨0x2DB0, 0x2DB6, .start⟩, ⟨0x2DB8, 0x2DBE, .start⟩,
  ⟨0x2DC0, 0x2DC6, .start⟩, ⟨0x2DC8, 0x2DCE, .start⟩, ⟨0x2DD0, 0x2DD6, .start⟩,
  ⟨0x2DD8, 0x2DDE, .start⟩, ⟨0x2DE0, 0x2DFF, .continuation⟩, ⟨0x3005, 0x3007, .start⟩,
  ⟨0x3021, 0x3029, .start⟩, ⟨0x302A, 0x302F, .continuation⟩, ⟨0x3031, 0x3035, .start⟩,
  ⟨0x3038, 0x303C, .start⟩, ⟨0x3041, 0x3096, .start⟩, ⟨0x3099, 0x309A, .continuation⟩]

def page30 : RangeTable CharClass := .page [
  ⟨0x309D, 0x309F, .start⟩, ⟨0x30A1, 0x30FA, .start⟩, ⟨0x30FB, 0x30FB, .continuation⟩,
  ⟨0x30FC, 0x30FF, .start⟩, ⟨0x3105, 0x312F, .start⟩, ⟨0x3131, 0x318E, .start⟩,
  ⟨0x31A0, 0x31BF, .start⟩, ⟨0x31F0, 0x31FF, .start⟩, ⟨0x3400, 0x4DBF, .start⟩,
  ⟨0x4E00, 0xA48C, .start⟩, ⟨0xA4D0, 0xA4FD, .start⟩, ⟨0xA500, 0xA60C, .start⟩,
  ⟨0xA610, 0xA61F, .start⟩, ⟨0xA620, 0xA629, .continuation⟩, ⟨0xA62A, 0xA62B, .start⟩,
  ⟨0xA640, 0xA66E, .start⟩]

def page31 : RangeTable CharClass := .page [
  ⟨0xA66F, 0xA66F, .continuation⟩, ⟨0xA674, 0xA67D, .continuation⟩, ⟨0xA67F, 0xA69D, .start⟩,
  ⟨0xA69E, 0xA69F, .continuation⟩, ⟨0xA6A0, 0xA6EF, .start⟩, ⟨0xA6F0, 0xA6F1, .continuation⟩,
  ⟨0xA717, 0xA71F, .start⟩, ⟨0xA722, 0xA788, .start⟩, ⟨0xA78B, 0xA7CD, .start⟩,
  ⟨0xA7D0, 0xA7D1, .start⟩, ⟨0xA7D3, 0xA7D3, .start⟩, ⟨0xA7D5, 0xA7DC, .start⟩,
  ⟨0xA7F2, 0xA801, .start⟩, ⟨0xA802, 0xA802, .continuation⟩, ⟨0xA803, 0xA805, .start⟩,
  ⟨0xA806, 0xA806, .continuation⟩]

def page32 : RangeTable CharClass := .page [
  ⟨0xA807, 0xA80A, .start⟩, ⟨0xA80B, 0xA80B, .continuation⟩, ⟨0xA80C, 0xA822, .start⟩,
  ⟨0xA823, 0xA827, .continuation⟩, ⟨0xA82C, 0xA82C, .continuation⟩, ⟨0xA840, 0xA873, .start⟩,
  ⟨0xA880, 0xA881, .continuation⟩, ⟨0xA882, 0xA8B3, .start⟩, ⟨0xA8B4, 0xA8C5, .continuation⟩,
  ⟨0xA8D0, 0xA8D9, .continuation⟩, ⟨0xA8E0, 0xA8F1, .continuation⟩, ⟨0xA8F2, 0xA8F7, .start⟩,
  ⟨0xA8FB, 0xA8FB, .start⟩, ⟨0xA8FD, 0xA8FE, .start⟩, ⟨0xA8FF, 0xA909, .continuation⟩,
  ⟨0xA90A, 0xA925, .start⟩]

def page33 : RangeTable CharClass := .page [
  ⟨0xA926, 0xA92D, .continuation⟩, ⟨0xA930, 0xA946, .start⟩, ⟨0xA947, 0xA953, .continuation⟩,
  ⟨0xA960, 0xA97C, .start⟩, ⟨0xA980, 0xA983, .continuation⟩, ⟨0xA984, 0xA9B2, .start⟩,
  ⟨0xA9B3, 0xA9C0, .continuation⟩, ⟨0xA9CF, 0xA9CF, .start⟩, ⟨0xA9D0, 0xA9D9, .continuation⟩,
  ⟨0xA9E0, 0xA9E4, .start⟩, ⟨0xA9E5, 0xA9E5, .continuation⟩, ⟨0xA9E6, 0xA9EF, .start⟩,
  ⟨0xA9F0, 0xA9F9, .continuation⟩, ⟨0xA9FA, 0xA9FE, .start⟩, ⟨0xAA00, 0xAA28, .start⟩,
  ⟨0xAA29, 0xAA36, .continuation⟩]

def page34 : RangeTable CharClass := .page [
  ⟨0xAA40, 0xAA42, .start⟩, ⟨0xAA43, 0xAA43, .continuation⟩, ⟨0xAA44, 0xAA4B, .start⟩,
  ⟨0xAA4C, 0xAA4D, .continuation⟩, ⟨0xAA50, 0xAA59, .continuation⟩, ⟨0xAA60, 0xAA76, .start⟩,
  ⟨0xAA7A, 0xAA7A, .start⟩, ⟨0xAA7B, 0xAA7D, .continuation⟩, ⟨0xAA7E, 0xAAAF, .start⟩,
  ⟨0xAAB0, 0xAAB0, .continuation⟩, ⟨0xAAB1, 0xAAB1, .start⟩, ⟨0xAAB2, 0xAAB4, .continuation⟩,
  ⟨0xAAB5, 0xAAB6, .start⟩, ⟨0xAAB7, 0xAAB8, .continuation⟩, ⟨0xAAB9, 0xAABD, .start⟩]

def page35 : RangeTable CharClass := .page [
  ⟨0xAABE, 0xAABF, .continuation⟩, ⟨0xAAC0, 0xAAC0, .start⟩, ⟨0xAAC1, 0xAAC1, .continuation⟩,
  ⟨0xAAC2, 0xAAC2, .start⟩, ⟨0xAADB, 0xAADD, .start⟩, ⟨0xAAE0, 0xAAEA, .start⟩,
  ⟨0xAAEB, 0xAAEF, .continuation⟩, ⟨0xAAF2, 0xAAF4, .start⟩, ⟨0xAAF5, 0xAAF6, .continuation⟩,
  ⟨0xAB01, 0xAB06, .start⟩, ⟨0xAB09, 0xAB0E, .start⟩, ⟨0xAB11, 0xAB16, .start⟩,
  ⟨0xAB20, 0xAB26, .start⟩, ⟨0xAB28, 0xAB2E, .start⟩, ⟨0xAB30, 0xAB5A, .start⟩,
  ⟨0xAB5C, 0xAB69, .start⟩]

def page36 : RangeTable CharClass := .page [
  ⟨0xAB70, 0xABE2, .start⟩, ⟨0xABE3, 0xABEA, .continuation⟩, ⟨0xABEC, 0xABED, .continuation⟩,
  ⟨0xABF0, 0xABF9, .continuation⟩, ⟨0xAC00, 0xD7A3, .start⟩, ⟨0xD7B0, 0xD7C6, .start⟩,
  ⟨0xD7CB, 0xD7FB, .start⟩, ⟨0xF900, 0xFA6D, .start⟩, ⟨0xFA70, 0xFAD9, .start⟩,
  ⟨0xFB00, 0xFB06, .start⟩, ⟨0xFB13, 0xFB17, .start⟩, ⟨0xFB1D, 0xFB1D, .start⟩,
  ⟨0xFB1E, 0xFB1E, .continuation⟩, ⟨0xFB1F, 0xFB28, .start⟩, ⟨0xFB2A, 0xFB36, .start⟩,
  ⟨0xFB38, 0xFB3C, .start⟩]

def page37 : RangeTable CharClass := .page [
  ⟨0xFB3E, 0xFB3E, .start⟩, ⟨0xFB40, 0xFB41, .start⟩, ⟨0xFB43, 0xFB44, .start⟩,
  ⟨0xFB46, 0xFBB1, .start⟩, ⟨0xFBD3, 0xFC5D, .start⟩, ⟨0xFC64, 0xFD3D, .start⟩,
  ⟨0xFD50, 0xFD8F, .start⟩, ⟨0xFD92, 0xFDC7, .start⟩, ⟨0xFDF0, 0xFDF9, .start⟩,
  ⟨0xFE00, 0xFE0F, .continuation⟩, ⟨0xFE20, 0xFE2F, .continuation⟩, ⟨0xFE33, 0xFE34, .continuation⟩,
  ⟨0xFE4D, 0xFE4F, .continuation⟩, ⟨0xFE71, 0xFE71, .start⟩, ⟨0xFE73, 0xFE73, .start⟩,
  ⟨0xFE77, 0xFE77, .start⟩]

def page38 : RangeTable CharClass := .page [
  ⟨0xFE79, 0xFE79, .start⟩, ⟨0xFE7B, 0xFE7B, .start⟩, ⟨0xFE7D, 0xFE7D, .start⟩,
  ⟨0xFE7F, 0xFEFC, .start⟩, ⟨0xFF10, 0xFF19, .continuation⟩, ⟨0xFF21, 0xFF3A, .start⟩,
  ⟨0xFF3F, 0xFF3F, .continuation⟩, ⟨0xFF41, 0xFF5A, .start⟩, ⟨0xFF65, 0xFF65, .continuation⟩,
  ⟨0xFF66, 0xFF9D, .start⟩, ⟨0xFF9E, 0xFF9F, .continuation⟩, ⟨0xFFA0, 0xFFBE, .start⟩,
  ⟨0xFFC2, 0xFFC7, .start⟩, ⟨0xFFCA, 0xFFCF, .start⟩, ⟨0xFFD2, 0xFFD7, .start⟩]

def page39 : RangeTable CharClass := .page [
  ⟨0xFFDA, 0xFFDC, .start⟩, ⟨0x10000, 0x1000B, .start⟩, ⟨0x1000D, 0x10026, .start⟩,
  ⟨0x10028, 0x1003A, .start⟩, ⟨0x1003C, 0x1003D, .start⟩, ⟨0x1003F, 0x1004D, .start⟩,
  ⟨0x10050, 0x1005D, .start⟩, ⟨0x10080, 0x100FA, .start⟩, ⟨0x10140, 0x10174, .start⟩,
  ⟨0x101FD, 0x101FD, .continuation⟩, ⟨0x10280, 0x1029C, .start⟩, ⟨0x102A0, 0x102D0, .start⟩,
  ⟨0x102E0, 0x102E0, .continuation⟩, ⟨0x10300, 0x1031F, .start⟩, ⟨0x1032D, 0x1034A, .start⟩,
  ⟨0x10350, 0x10375, .start⟩]

def page40 : RangeTable CharClass := .page [
  ⟨0x10376, 0x1037A, .continuation⟩, ⟨0x10380, 0x1039D, .start⟩, ⟨0x103A0, 0x103C3, .start⟩,
  ⟨0x103C8, 0x103CF, .start⟩, ⟨0x103D1, 0x103D5, .start⟩, ⟨0x10400, 0x1049D, .start⟩,
  ⟨0x104A0, 0x104A9, .continuation⟩, ⟨0x104B0, 0x104D3, .start⟩, ⟨0x104D8, 0x104FB, .start⟩,
  ⟨0x10500, 0x10527, .start⟩, ⟨0x10530, 0x10563, .start⟩, ⟨0x10570, 0x1057A, .start⟩,
  ⟨0x1057C, 0x1058A, .start⟩, ⟨0x1058C, 0x10592, .start⟩, ⟨0x10594, 0x10595, .start⟩,
  ⟨0x10597, 0x105A1, .start⟩]

def page41 : RangeTable CharClass := .page [
  ⟨0x105A3, 0x105B1, .start⟩, ⟨0x105B3, 0x105B9, .start⟩, ⟨0x105BB, 0x105BC, .start⟩,
  ⟨0x105C0, 0x105F3, .start⟩, ⟨0x10600, 0x10736, .start⟩, ⟨0x10740, 0x10755, .start⟩,
  ⟨0x10760, 0x10767, .start⟩, ⟨0x10780, 0x10785, .start⟩, ⟨0x10787, 0x107B0, .start⟩,
  ⟨0x107B2, 0x107BA, .start⟩, ⟨0x10800, 0x10805, .start⟩, ⟨0x10808, 0x10808, .start⟩,
  ⟨0x1080A, 0x10835, .start⟩, ⟨0x10837, 0x10838, .start⟩, ⟨0x1083C, 0x1083C, .start⟩,
  ⟨0x1083F, 0x10855, .start⟩]

def page42 : RangeTable CharClass := .page [
  ⟨0x10860, 0x10876, .start⟩, ⟨0x10880, 0x1089E, .start⟩, ⟨0x108E0, 0x108F2, .start⟩,
  ⟨0x108F4, 0x108F5, .start⟩, ⟨0x10900, 0x10915, .start⟩, ⟨0x10920, 0x10939, .start⟩,
  ⟨0x10980, 0x109B7, .start⟩, ⟨0x109BE, 0x109BF, .start⟩, ⟨0x10A00, 0x10A00, .start⟩,
  ⟨0x10A01, 0x10A03, .continuation⟩, ⟨0x10A05, 0x10A06, .continuation⟩,
  ⟨0x10A0C, 0x10A0F, .continuation⟩, ⟨0x10A10, 0x10A13, .start⟩, ⟨0x10A15, 0x10A17, .start⟩,
  ⟨0x10A19, 0x10A35, .start⟩, ⟨0x10A38, 0x10A3A, .continuation⟩]

def page43 : RangeTable CharClass := .page [
  ⟨0x10A3F, 0x10A3F, .continuation⟩, ⟨0x10A60, 0x10A7C, .start⟩, ⟨0x10A80, 0x10A9C, .start⟩,
  ⟨0x10AC0, 0x10AC7, .start⟩, ⟨0x10AC9, 0x10AE4, .start⟩, ⟨0x10AE5, 0x10AE6, .continuation⟩,
  ⟨0x10B00, 0x10B35, .start⟩, ⟨0x10B40, 0x10B55, .start⟩, ⟨0x10B60, 0x10B72, .start⟩,
  ⟨0x10B80, 0x10B91, .start⟩, ⟨0x10C00, 0x10C48, .start⟩, ⟨0x10C80, 0x10CB2, .start⟩,
  ⟨0x10CC0, 0x10CF2, .start⟩, ⟨0x10D00, 0x10D23, .start⟩, ⟨0x10D24, 0x10D27, .continuation⟩]

def page44 : RangeTable CharClass := .page [
  ⟨0x10D30, 0x10D39, .continuation⟩, ⟨0x10D40, 0x10D49, .continuation⟩, ⟨0x10D4A, 0x10D65, .start⟩,
  ⟨0x10D69, 0x10D6D, .continuation⟩, ⟨0x10D6F, 0x10D85, .start⟩, ⟨0x10E80, 0x10EA9, .start⟩,
  ⟨0x10EAB, 0x10EAC, .continuation⟩, ⟨0x10EB0, 0x10EB1, .start⟩, ⟨0x10EC2, 0x10EC4, .start⟩,
  ⟨0x10EFC, 0x10EFF, .continuation⟩, ⟨0x10F00, 0x10F1C, .start⟩, ⟨0x10F27, 0x10F27, .start⟩,
  ⟨0x10F30, 0x10F45, .start⟩, ⟨0x10F46, 0x10F50, .continuation⟩, ⟨0x10F70, 0x10F81, .start⟩,
  ⟨0x10F82, 0x10F85, .continuation⟩]

def page45 : RangeTable CharClass := .page [
  ⟨0x10FB0, 0x10FC4, .start⟩, ⟨0x10FE0, 0x10FF6, .start⟩, ⟨0x11000, 0x11002, .continuation⟩,
  ⟨0x11003, 0x11037, .start⟩, ⟨0x11038, 0x11046, .continuation⟩, ⟨0x11066, 0x11070, .continuation⟩,
  ⟨0x11071, 0x11072, .start⟩, ⟨0x11073, 0x11074, .continuation⟩, ⟨0x11075, 0x11075, .start⟩,
  ⟨0x1107F, 0x11082, .continuation⟩, ⟨0x11083, 0x110AF, .start⟩, ⟨0x110B0, 0x110BA, .continuation⟩,
  ⟨0x110C2, 0x110C2, .continuation⟩, ⟨0x110D0, 0x110E8, .start⟩, ⟨0x110F0, 0x110F9, .continuation⟩,
  ⟨0x11100, 0x11102, .continuation⟩]

def page46 : RangeTable CharClass := .page [
  ⟨0x11103, 0x11126, .start⟩, ⟨0x11127, 0x11134, .continuation⟩, ⟨0x11136, 0x1113F, .continuation⟩,
  ⟨0x11144, 0x11144, .start⟩, ⟨0x11145, 0x11146, .continuation⟩, ⟨0x11147, 0x11147, .start⟩,
  ⟨0x11150, 0x11172, .start⟩, ⟨0x11173, 0x11173, .continuation⟩, ⟨0x11176, 0x11176, .start⟩,
  ⟨0x11180, 0x11182, .continuation⟩, ⟨0x11183, 0x111B2, .start⟩, ⟨0x111B3, 0x111C0, .continuation⟩,
  ⟨0x111C1, 0x111C4, .start⟩, ⟨0x111C9, 0x111CC, .continuation⟩, ⟨0x111CE, 0x111D9, .continuation⟩,
  ⟨0x111DA, 0x111DA, .start⟩]

def page47 : RangeTable CharClass := .page [
  ⟨0x111DC, 0x111DC, .start⟩, ⟨0x11200, 0x11211, .start⟩, ⟨0x11213, 0x1122B, .start⟩,
  ⟨0x1122C, 0x11237, .continuation⟩, ⟨0x1123E, 0x1123E, .continuation⟩, ⟨0x1123F, 0x11240, .start⟩,
  ⟨0x11241, 0x11241, .continuation⟩, ⟨0x11280, 0x11286, .start⟩, ⟨0x11288, 0x11288, .start⟩,
  ⟨0x1128A, 0x1128D, .start⟩, ⟨0x1128F, 0x1129D, .start⟩, ⟨0x1129F, 0x112A8, .start⟩,
  ⟨0x112B0, 0x112DE, .start⟩, ⟨0x112DF, 0x112EA, .continuation⟩, ⟨0x112F0, 0x112F9, .continuation⟩,
  ⟨0x11300, 0x11303, .continuation⟩]

def page48 : RangeTable CharClass := .page [
  ⟨0x11305, 0x1130C, .start⟩, ⟨0x1130F, 0x11310, .start⟩, ⟨0x11313, 0x11328, .start⟩,
  ⟨0x1132A, 0x11330, .start⟩, ⟨0x11332, 0x11333, .start⟩, ⟨0x11335, 0x11339, .start⟩,
  ⟨0x1133B, 0x1133C, .continuation⟩, ⟨0x1133D, 0x1133D, .start⟩, ⟨0x1133E, 0x11344, .continuation⟩,
  ⟨0x11347, 0x11348, .continuation⟩, ⟨0x1134B, 0x1134D, .continuation⟩, ⟨0x11350, 0x11350, .start⟩,
  ⟨0x11357, 0x11357, .continuation⟩, ⟨0x1135D, 0x11361, .start⟩, ⟨0x11362, 0x11363, .continuation⟩]

def page49 : RangeTable CharClass := .page [
  ⟨0x11366, 0x1136C, .continuation⟩, ⟨0x11370, 0x11374, .continuation⟩, ⟨0x11380, 0x11389, .start⟩,
  ⟨0x1138B, 0x1138B, .start⟩, ⟨0x1138E, 0x1138E, .start⟩, ⟨0x11390, 0x113B5, .start⟩,
  ⟨0x113B7, 0x113B7, .start⟩, ⟨0x113B8, 0x113C0, .continuation⟩, ⟨0x113C2, 0x113C2, .continuation⟩,
  ⟨0x113C5, 0x113C5, .continuation⟩, ⟨0x113C7, 0x113CA, .continuation⟩,
  ⟨0x113CC, 0x113D0, .continuation⟩, ⟨0x113D1, 0x113D1, .start⟩, ⟨0x113D2, 0x113D2, .continuation⟩,
  ⟨0x113D3, 0x113D3, .start⟩, ⟨0x113E1, 0x113E2, .continuation⟩]

def page50 : RangeTable CharClass := .page [
  ⟨0x11400, 0x11434, .start⟩, ⟨0x11435, 0x11446, .continuation⟩, ⟨0x11447, 0x1144A, .start⟩,
  ⟨0x11450, 0x11459, .continuation⟩, ⟨0x1145E, 0x1145E, .continuation⟩, ⟨0x1145F, 0x11461, .start⟩,
  ⟨0x11480, 0x114AF, .start⟩, ⟨0x114B0, 0x114C3, .continuation⟩, ⟨0x114C4, 0x114C5, .start⟩,
  ⟨0x114C7, 0x114C7, .start⟩, ⟨0x114D0, 0x114D9, .continuation⟩, ⟨0x11580, 0x115AE, .start⟩,
  ⟨0x115AF, 0x115B5, .continuation⟩, ⟨0x115B8, 0x115C0, .continuation⟩, ⟨0x115D8, 0x115DB, .start⟩,
  ⟨0x115DC, 0x115DD, .continuation⟩]

def page51 : RangeTable CharClass := .page [
  ⟨0x11600, 0x1162F, .start⟩, ⟨0x11630, 0x11640, .continuation⟩, ⟨0x11644, 0x11644, .start⟩,
  ⟨0x11650, 0x11659, .continuation⟩, ⟨0x11680, 0x116AA, .start⟩, ⟨0x116AB, 0x116B7, .continuation⟩,
  ⟨0x116B8, 0x116B8, .start⟩, ⟨0x116C0, 0x116C9, .continuation⟩, ⟨0x116D0, 0x116E3, .continuation⟩,
  ⟨0x11700, 0x1171A, .start⟩, ⟨0x1171D, 0x1172B, .continuation⟩, ⟨0x11730, 0x11739, .continuation⟩,
  ⟨0x11740, 0x11746, .start⟩, ⟨0x11800, 0x1182B, .start⟩, ⟨0x1182C, 0x1183A, .continuation⟩,
  ⟨0x118A0, 0x118DF, .start⟩]

def page52 : RangeTable CharClass := .page [
  ⟨0x118E0, 0x118E9, .continuation⟩, ⟨0x118FF, 0x11906, .start⟩, ⟨0x11909, 0x11909, .start⟩,
  ⟨0x1190C, 0x11913, .start⟩, ⟨0x11915, 0x11916, .start⟩, ⟨0x11918, 0x1192F, .start⟩,
  ⟨0x11930, 0x11935, .continuation⟩, ⟨0x11937, 0x11938, .continuation⟩,
  ⟨0x1193B, 0x1193E, .continuation⟩, ⟨0x1193F, 0x1193F, .start⟩, ⟨0x11940, 0x11940, .continuation⟩,
  ⟨0x11941, 0x11941, .start⟩, ⟨0x11942, 0x11943, .continuation⟩, ⟨0x11950, 0x11959, .continuation⟩,
  ⟨0x119A0, 0x119A7, .start⟩, ⟨0x119AA, 0x119D0, .start⟩]

def page53 : RangeTable CharClass := .page [
  ⟨0x119D1, 0x119D7, .continuation⟩, ⟨0x119DA, 0x119E0, .continuation⟩, ⟨0x119E1, 0x119E1, .start⟩,
  ⟨0x119E3, 0x119E3, .start⟩, ⟨0x119E4, 0x119E4, .continuation⟩, ⟨0x11A00, 0x11A00, .start⟩,
  ⟨0x11A01, 0x11A0A, .continuation⟩, ⟨0x11A0B, 0x11A32, .start⟩, ⟨0x11A33, 0x11A39, .continuation⟩,
  ⟨0x11A3A, 0x11A3A, .start⟩, ⟨0x11A3B, 0x11A3E, .continuation⟩, ⟨0x11A47, 0x11A47, .continuation⟩,
  ⟨0x11A50, 0x11A50, .start⟩, ⟨0x11A51, 0x11A5B, .continuation⟩, ⟨0x11A5C, 0x11A89, .start⟩]

def page54 : RangeTable CharClass := .page [
  ⟨0x11A8A, 0x11A99, .continuation⟩, ⟨0x11A9D, 0x11A9D, .start⟩, ⟨0x11AB0, 0x11AF8, .start⟩,
  ⟨0x11BC0, 0x11BE0, .start⟩, ⟨0x11BF0, 0x11BF9, .continuation⟩, ⟨0x11C00, 0x11C08, .start⟩,
  ⟨0x11C0A, 0x11C2E, .start⟩, ⟨0x11C2F, 0x11C36, .continuation⟩, ⟨0x11C38, 0x11C3F, .continuation⟩,
  ⟨0x11C40, 0x11C40, .start⟩, ⟨0x11C50, 0x11C59, .continuation⟩, ⟨0x11C72, 0x11C8F, .start⟩,
  ⟨0x11C92, 0x11CA7, .continuation⟩, ⟨0x11CA9, 0x11CB6, .continuation⟩, ⟨0x11D00, 0x11D06, .start⟩,
  ⟨0x11D08, 0x11D09, .start⟩]

def page55 : RangeTable CharClass := .page [
  ⟨0x11D0B, 0x11D30, .start⟩, ⟨0x11D31, 0x11D36, .continuation⟩, ⟨0x11D3A, 0x11D3A, .continuation⟩,
  ⟨0x11D3C, 0x11D3D, .continuation⟩, ⟨0x11D3F, 0x11D45, .continuation⟩, ⟨0x11D46, 0x11D46, .start⟩,
  ⟨0x11D47, 0x11D47, .continuation⟩, ⟨0x11D50, 0x11D59, .continuation⟩, ⟨0x11D60, 0x11D65, .start⟩,
  ⟨0x11D67, 0x11D68, .start⟩, ⟨0x11D6A, 0x11D89, .start⟩, ⟨0x11D8A, 0x11D8E, .continuation⟩,
  ⟨0x11D90, 0x11D91, .continuation⟩, ⟨0x11D93, 0x11D97, .continuation⟩, ⟨0x11D98, 0x11D98, .start⟩,
  ⟨0x11DA0, 0x11DA9, .continuation⟩]

def page56 : RangeTable CharClass := .page [
  ⟨0x11EE0, 0x11EF2, .start⟩, ⟨0x11EF3, 0x11EF6, .continuation⟩, ⟨0x11F00, 0x11F01, .continuation⟩,
  ⟨0x11F02, 0x11F02, .start⟩, ⟨0x11F03, 0x11F03, .continuation⟩, ⟨0x11F04, 0x11F10, .start⟩,
  ⟨0x11F12, 0x11F33, .start⟩, ⟨0x11F34, 0x11F3A, .continuation⟩, ⟨0x11F3E, 0x11F42, .continuation⟩,
  ⟨0x11F50, 0x11F5A, .continuation⟩, ⟨0x11FB0, 0x11FB0, .start⟩, ⟨0x12000, 0x12399, .start⟩,
  ⟨0x12400, 0x1246E, .start⟩, ⟨0x12480, 0x12543, .start⟩, ⟨0x12F90, 0x12FF0, .start⟩,
  ⟨0x13000, 0x1342F, .start⟩]

def page57 : RangeTable CharClass := .page [
  ⟨0x13440, 0x13440, .continuation⟩, ⟨0x13441, 0x13446, .start⟩, ⟨0x13447, 0x13455, .continuation⟩,
  ⟨0x13460, 0x143FA, .start⟩, ⟨0x14400, 0x14646, .start⟩, ⟨0x16100, 0x1611D, .start⟩,
  ⟨0x1611E, 0x16139, .continuation⟩, ⟨0x16800, 0x16A38, .start⟩, ⟨0x16A40, 0x16A5E, .start⟩,
  ⟨0x16A60, 0x16A69, .continuation⟩, ⟨0x16A70, 0x16ABE, .start⟩, ⟨0x16AC0, 0x16AC9, .continuation⟩,
  ⟨0x16AD0, 0x16AED, .start⟩, ⟨0x16AF0, 0x16AF4, .continuation⟩, ⟨0x16B00, 0x16B2F, .start⟩,
  ⟨0x16B30, 0x16B36, .continuation⟩]

def page58 : RangeTable CharClass := .page [
  ⟨0x16B40, 0x16B43, .start⟩, ⟨0x16B50, 0x16B59, .continuation⟩, ⟨0x16B63, 0x16B77, .start⟩,
  ⟨0x16B7D, 0x16B8F, .start⟩, ⟨0x16D40, 0x16D6C, .start⟩, ⟨0x16D70, 0x16D79, .continuation⟩,
  ⟨0x16E40, 0x16E7F, .start⟩, ⟨0x16F00, 0x16F4A, .start⟩, ⟨0x16F4F, 0x16F4F, .continuation⟩,
  ⟨0x16F50, 0x16F50, .start⟩, ⟨0x16F51, 0x16F87, .continuation⟩, ⟨0x16F8F, 0x16F92, .continuation⟩,
  ⟨0x16F93, 0x16F9F, .start⟩, ⟨0x16FE0, 0x16FE1, .start⟩, ⟨0x16FE3, 0x16FE3, .start⟩]

def page59 : RangeTable CharClass := .page [
  ⟨0x16FE4, 0x16FE4, .continuation⟩, ⟨0x16FF0, 0x16FF1, .continuation⟩, ⟨0x17000, 0x187F7, .start⟩,
  ⟨0x18800, 0x18CD5, .start⟩, ⟨0x18CFF, 0x18D08, .start⟩, ⟨0x1AFF0, 0x1AFF3, .start⟩,
  ⟨0x1AFF5, 0x1AFFB, .start⟩, ⟨0x1AFFD, 0x1AFFE, .start⟩, ⟨0x1B000, 0x1B122, .start⟩,
  ⟨0x1B132, 0x1B132, .start⟩, ⟨0x1B150, 0x1B152, .start⟩, ⟨0x1B155, 0x1B155, .start⟩,
  ⟨0x1B164, 0x1B167, .start⟩, ⟨0x1B170, 0x1B2FB, .start⟩, ⟨0x1BC00, 0x1BC6A, .start⟩,
  ⟨0x1BC70, 0x1BC7C, .start⟩]

def page60 : RangeTable CharClass := .page [
  ⟨0x1BC80, 0x1BC88, .start⟩, ⟨0x1BC90, 0x1BC99, .start⟩, ⟨0x1BC9D, 0x1BC9E, .continuation⟩,
  ⟨0x1CCF0, 0x1CCF9, .continuation⟩, ⟨0x1CF00, 0x1CF2D, .continuation⟩,
  ⟨0x1CF30, 0x1CF46, .continuation⟩, ⟨0x1D165, 0x1D169, .continuation⟩,
  ⟨0x1D16D, 0x1D172, .continuation⟩, ⟨0x1D17B, 0x1D182, .continuation⟩,
  ⟨0x1D185, 0x1D18B, .continuation⟩, ⟨0x1D1AA, 0x1D1AD, .continuation⟩,
  ⟨0x1D242, 0x1D244, .continuation⟩, ⟨0x1D400, 0x1D454, .start⟩, ⟨0x1D456, 0x1D49C, .start⟩,
  ⟨0x1D49E, 0x1D49F, .start⟩, ⟨0x1D4A2, 0x1D4A2, .start⟩]

def page61 : RangeTable CharClass := .page [
  ⟨0x1D4A5, 0x1D4A6, .start⟩, ⟨0x1D4A9, 0x1D4AC, .start⟩, ⟨0x1D4AE, 0x1D4B9, .start⟩,
  ⟨0x1D4BB, 0x1D4BB, .start⟩, ⟨0x1D4BD, 0x1D4C3, .start⟩, ⟨0x1D4C5, 0x1D505, .start⟩,
  ⟨0x1D507, 0x1D50A, .start⟩, ⟨0x1D50D, 0x1D514, .start⟩, ⟨0x1D516, 0x1D51C, .start⟩,
  ⟨0x1D51E, 0x1D539, .start⟩, ⟨0x1D53B, 0x1D53E, .start⟩, ⟨0x1D540, 0x1D544, .start⟩,
  ⟨0x1D546, 0x1D546, .start⟩, ⟨0x1D54A, 0x1D550, .start⟩, ⟨0x1D552, 0x1D6A5, .start⟩,
  ⟨0x1D6A8, 0x1D6C0, .start⟩]

def page62 : RangeTable CharClass := .page [
  ⟨0x1D6C2, 0x1D6DA, .start⟩, ⟨0x1D6DC, 0x1D6FA, .start⟩, ⟨0x1D6FC, 0x1D714, .start⟩,
  ⟨0x1D716, 0x1D734, .start⟩, ⟨0x1D736, 0x1D74E, .start⟩, ⟨0x1D750, 0x1D76E, .start⟩,
  ⟨0x1D770, 0x1D788, .start⟩, ⟨0x1D78A, 0x1D7A8, .start⟩, ⟨0x1D7AA, 0x1D7C2, .start⟩,
  ⟨0x1D7C4, 0x1D7CB, .start⟩, ⟨0x1D7CE, 0x1D7FF, .continuation⟩, ⟨0x1DA00, 0x1DA36, .continuation⟩,
  ⟨0x1DA3B, 0x1DA6C, .continuation⟩, ⟨0x1DA75, 0x1DA75, .continuation⟩,
  ⟨0x1DA84, 0x1DA84, .continuation⟩, ⟨0x1DA9B, 0x1DA9F, .continuation⟩]

def page63 : RangeTable CharClass := .page [
  ⟨0x1DAA1, 0x1DAAF, .continuation⟩, ⟨0x1DF00, 0x1DF1E, .start⟩, ⟨0x1DF25, 0x1DF2A, .start⟩,
  ⟨0x1E000, 0x1E006, .continuation⟩, ⟨0x1E008, 0x1E018, .continuation⟩,
  ⟨0x1E01B, 0x1E021, .continuation⟩, ⟨0x1E023, 0x1E024, .continuation⟩,
  ⟨0x1E026, 0x1E02A, .continuation⟩, ⟨0x1E030, 0x1E06D, .start⟩, ⟨0x1E08F, 0x1E08F, .continuation⟩,
  ⟨0x1E100, 0x1E12C, .start⟩, ⟨0x1E130, 0x1E136, .continuation⟩, ⟨0x1E137, 0x1E13D, .start⟩,
  ⟨0x1E140, 0x1E149, .continuation⟩, ⟨0x1E14E, 0x1E14E, .start⟩]

def page64 : RangeTable CharClass := .page [
  ⟨0x1E290, 0x1E2AD, .start⟩, ⟨0x1E2AE, 0x1E2AE, .continuation⟩, ⟨0x1E2C0, 0x1E2EB, .start⟩,
  ⟨0x1E2EC, 0x1E2F9, .continuation⟩, ⟨0x1E4D0, 0x1E4EB, .start⟩, ⟨0x1E4EC, 0x1E4F9, .continuation⟩,
  ⟨0x1E5D0, 0x1E5ED, .start⟩, ⟨0x1E5EE, 0x1E5EF, .continuation⟩, ⟨0x1E5F0, 0x1E5F0, .start⟩,
  ⟨0x1E5F1, 0x1E5FA, .continuation⟩, ⟨0x1E7E0, 0x1E7E6, .start⟩, ⟨0x1E7E8, 0x1E7EB, .start⟩,
  ⟨0x1E7ED, 0x1E7EE, .start⟩, ⟨0x1E7F0, 0x1E7FE, .start⟩, ⟨0x1E800, 0x1E8C4, .start⟩,
  ⟨0x1E8D0, 0x1E8D6, .continuation⟩]

def page65 : RangeTable CharClass := .page [
  ⟨0x1E900, 0x1E943, .start⟩, ⟨0x1E944, 0x1E94A, .continuation⟩, ⟨0x1E94B, 0x1E94B, .start⟩,
  ⟨0x1E950, 0x1E959, .continuation⟩, ⟨0x1EE00, 0x1EE03, .start⟩, ⟨0x1EE05, 0x1EE1F, .start⟩,
  ⟨0x1EE21, 0x1EE22, .start⟩, ⟨0x1EE24, 0x1EE24, .start⟩, ⟨0x1EE27, 0x1EE27, .start⟩,
  ⟨0x1EE29, 0x1EE32, .start⟩, ⟨0x1EE34, 0x1EE37, .start⟩, ⟨0x1EE39, 0x1EE39, .start⟩,
  ⟨0x1EE3B, 0x1EE3B, .start⟩, ⟨0x1EE42, 0x1EE42, .start⟩, ⟨0x1EE47, 0x1EE47, .start⟩,
  ⟨0x1EE49, 0x1EE49, .start⟩]

def page66 : RangeTable CharClass := .page [
  ⟨0x1EE4B, 0x1EE4B, .start⟩, ⟨0x1EE4D, 0x1EE4F, .start⟩, ⟨0x1EE51, 0x1EE52, .start⟩,
  ⟨0x1EE54, 0x1EE54, .start⟩, ⟨0x1EE57, 0x1EE57, .start⟩, ⟨0x1EE59, 0x1EE59, .start⟩,
  ⟨0x1EE5B, 0x1EE5B, .start⟩, ⟨0x1EE5D, 0x1EE5D, .start⟩, ⟨0x1EE5F, 0x1EE5F, .start⟩,
  ⟨0x1EE61, 0x1EE62, .start⟩, ⟨0x1EE64, 0x1EE64, .start⟩, ⟨0x1EE67, 0x1EE6A, .start⟩,
  ⟨0x1EE6C, 0x1EE72, .start⟩, ⟨0x1EE74, 0x1EE77, .start⟩, ⟨0x1EE79, 0x1EE7C, .start⟩,
  ⟨0x1EE7E, 0x1EE7E, .start⟩]

def page67 : RangeTable CharClass := .page [
  ⟨0x1EE80, 0x1EE89, .start⟩, ⟨0x1EE8B, 0x1EE9B, .start⟩, ⟨0x1EEA1, 0x1EEA3, .start⟩,
  ⟨0x1EEA5, 0x1EEA9, .start⟩, ⟨0x1EEAB, 0x1EEBB, .start⟩, ⟨0x1FBF0, 0x1FBF9, .continuation⟩,
  ⟨0x20000, 0x2A6DF, .start⟩, ⟨0x2A700, 0x2B739, .start⟩, ⟨0x2B740, 0x2B81D, .start⟩,
  ⟨0x2B820, 0x2CEA1, .start⟩, ⟨0x2CEB0, 0x2EBE0, .start⟩, ⟨0x2EBF0, 0x2EE5D, .start⟩,
  ⟨0x2F800, 0x2FA1D, .start⟩, ⟨0x30000, 0x3134A, .start⟩, ⟨0x31350, 0x323AF, .start⟩,
  ⟨0xE0100, 0xE01EF, .continuation⟩]

/-- The code points beyond ASCII that may stand in an identifier. -/
def table : RangeTable CharClass :=
  .split 0xAA40
    (.split 0x0F00
      (.split 0x0A5E
        (.split 0x07FD
          (.split 0x05C4 (.split 0x037F page00 page01) (.split 0x06EE page02 page03))
          (.split 0x0993 (.split 0x08A0 page04 page05) (.split 0x09FC page06 page07)))
        (.split 0x0C3D
          (.split 0x0B3E (.split 0x0AD0 page08 page09) (.split 0x0B9E page10 page11))
          (.split 0x0D12
            (.split 0x0CB5 page12 page13)
            (.split 0x0D9A page14 (.split 0x0E50 page15 page16)))))
      (.split 0x1CD0
        (.split 0x1700
          (.split 0x108F (.split 0x102B page17 page18) (.split 0x12C0 page19 page20))
          (.split 0x1A17 (.split 0x180F page21 page22) (.split 0x1B83 page23 page24)))
        (.split 0x2DA8
          (.split 0x2054 (.split 0x1F59 page25 page26) (.split 0x213C page27 page28))
          (.split 0xA66F
            (.split 0x309D page29 page30)
            (.split 0xA807 page31 (.split 0xA926 page32 page33))))))
    (.split 0x11600
      (.split 0x10860
        (.split 0xFE79
          (.split 0xAB70 (.split 0xAABE page34 page35) (.split 0xFB3E page36 page37))
          (.split 0x10376 (.split 0xFFDA page38 page39) (.split 0x105A3 page40 page41)))
        (.split 0x11103
          (.split 0x10D30 (.split 0x10A3F page42 page43) (.split 0x10FB0 page44 page45))
          (.split 0x11305
            (.split 0x111DC page46 page47)
            (.split 0x11366 page48 (.split 0x11400 page49 page50)))))
      (.split 0x16FE4
        (.split 0x11D0B
          (.split 0x119D1 (.split 0x118E0 page51 page52) (.split 0x11A8A page53 page54))
          (.split 0x13440 (.split 0x11EE0 page55 page56) (.split 0x16B40 page57 page58)))
        (.split 0x1DAA1
          (.split 0x1D4A5 (.split 0x1BC80 page59 page60) (.split 0x1D6C2 page61 page62))
          (.split 0x1E900
            (.split 0x1E290 page63 page64)
            (.split 0x1EE4B page65 (.split 0x1EE80 page66 page67))))))

end IdentifierClass

/-- Whether `c` is one of the first 128 characters. -/
def isAscii (c : Char) : Bool := c.toNat < 128

/-- Whether `c` is an ASCII character that may start an identifier. -/
def isAsciiIdentStart (c : Char) : Bool := c.isAlpha || c == '_'

/-- Whether `c` is an ASCII character that may continue an identifier. -/
def isAsciiIdentContinue (c : Char) : Bool := c.isAlphanum || c == '_'

/-- Where `c` may stand in an identifier. -/
def CharClass.of (c : Char) : CharClass :=
  if isAscii c then
    if isAsciiIdentStart c then .start
    else if isAsciiIdentContinue c then .continuation
    else .other
  else (IdentifierClass.table.find? c.toNat).getD .other

/-- Whether `c` may start an identifier. -/
def isIdentStart (c : Char) : Bool := CharClass.of c == .start

/-- Whether `c` may continue an identifier. -/
def isIdentContinue (c : Char) : Bool := CharClass.of c != .other

theorem isIdentContinue_of_isIdentStart {c : Char} (h : isIdentStart c) : isIdentContinue c := by
  simp_all [isIdentStart, isIdentContinue]

end Lexicon.Unicode
