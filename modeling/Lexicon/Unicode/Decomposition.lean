import Lexicon.Unicode.RangeTable

/-!
# Full compatibility decomposition

The characters of Unicode 16.0.0 that a compatibility decomposition replaces, each with all
decompositions carried out.  A block lists the decompositions of its code points in turn.  Hangul
syllables are decomposed by arithmetic in `Lexicon.Unicode.Hangul` and are not listed.
-/

namespace Lexicon.Unicode.Decomposition

def page00 : RangeTable (List (List Nat)) := .page [
  ⟨0x00A0, 0x00A0, [[0x0020]]⟩, ⟨0x00A8, 0x00A8, [[0x0020, 0x0308]]⟩, ⟨0x00AA, 0x00AA, [[0x0061]]⟩,
  ⟨0x00AF, 0x00AF, [[0x0020, 0x0304]]⟩,
  ⟨0x00B2, 0x00B5, [[0x0032], [0x0033], [0x0020, 0x0301], [0x03BC]]⟩,
  ⟨0x00B8, 0x00BA, [[0x0020, 0x0327], [0x0031], [0x006F]]⟩,
  ⟨0x00BC, 0x00BE, [[0x0031, 0x2044, 0x0034], [0x0031, 0x2044, 0x0032], [0x0033, 0x2044, 0x0034]]⟩,
  ⟨0x00C0, 0x00C5, [[0x0041, 0x0300], [0x0041, 0x0301], [0x0041, 0x0302], [0x0041, 0x0303], [0x0041,
    0x0308], [0x0041, 0x030A]]⟩,
  ⟨0x00C7, 0x00CF, [[0x0043, 0x0327], [0x0045, 0x0300], [0x0045, 0x0301], [0x0045, 0x0302], [0x0045,
    0x0308], [0x0049, 0x0300], [0x0049, 0x0301], [0x0049, 0x0302], [0x0049, 0x0308]]⟩,
  ⟨0x00D1, 0x00D6, [[0x004E, 0x0303], [0x004F, 0x0300], [0x004F, 0x0301], [0x004F, 0x0302], [0x004F,
    0x0303], [0x004F, 0x0308]]⟩,
  ⟨0x00D9, 0x00DD, [[0x0055, 0x0300], [0x0055, 0x0301], [0x0055, 0x0302], [0x0055, 0x0308], [0x0059,
    0x0301]]⟩]

def page01 : RangeTable (List (List Nat)) := .page [
  ⟨0x00E0, 0x00E5, [[0x0061, 0x0300], [0x0061, 0x0301], [0x0061, 0x0302], [0x0061, 0x0303], [0x0061,
    0x0308], [0x0061, 0x030A]]⟩,
  ⟨0x00E7, 0x00EF, [[0x0063, 0x0327], [0x0065, 0x0300], [0x0065, 0x0301], [0x0065, 0x0302], [0x0065,
    0x0308], [0x0069, 0x0300], [0x0069, 0x0301], [0x0069, 0x0302], [0x0069, 0x0308]]⟩,
  ⟨0x00F1, 0x00F6, [[0x006E, 0x0303], [0x006F, 0x0300], [0x006F, 0x0301], [0x006F, 0x0302], [0x006F,
    0x0303], [0x006F, 0x0308]]⟩,
  ⟨0x00F9, 0x00FD, [[0x0075, 0x0300], [0x0075, 0x0301], [0x0075, 0x0302], [0x0075, 0x0308], [0x0079,
    0x0301]]⟩,
  ⟨0x00FF, 0x010E, [[0x0079, 0x0308], [0x0041, 0x0304], [0x0061, 0x0304], [0x0041, 0x0306], [0x0061,
    0x0306], [0x0041, 0x0328], [0x0061, 0x0328], [0x0043, 0x0301], [0x0063, 0x0301], [0x0043,
    0x0302], [0x0063, 0x0302], [0x0043, 0x0307], [0x0063, 0x0307], [0x0043, 0x030C], [0x0063,
    0x030C], [0x0044, 0x030C]]⟩, ⟨0x010F, 0x010F, [[0x0064, 0x030C]]⟩,
  ⟨0x0112, 0x0121, [[0x0045, 0x0304], [0x0065, 0x0304], [0x0045, 0x0306], [0x0065, 0x0306], [0x0045,
    0x0307], [0x0065, 0x0307], [0x0045, 0x0328], [0x0065, 0x0328], [0x0045, 0x030C], [0x0065,
    0x030C], [0x0047, 0x0302], [0x0067, 0x0302], [0x0047, 0x0306], [0x0067, 0x0306], [0x0047,
    0x0307], [0x0067, 0x0307]]⟩,
  ⟨0x0122, 0x0125, [[0x0047, 0x0327], [0x0067, 0x0327], [0x0048, 0x0302], [0x0068, 0x0302]]⟩,
  ⟨0x0128, 0x0130, [[0x0049, 0x0303], [0x0069, 0x0303], [0x0049, 0x0304], [0x0069, 0x0304], [0x0049,
    0x0306], [0x0069, 0x0306], [0x0049, 0x0328], [0x0069, 0x0328], [0x0049, 0x0307]]⟩,
  ⟨0x0132, 0x0137, [[0x0049, 0x004A], [0x0069, 0x006A], [0x004A, 0x0302], [0x006A, 0x0302], [0x004B,
    0x0327], [0x006B, 0x0327]]⟩,
  ⟨0x0139, 0x0140, [[0x004C, 0x0301], [0x006C, 0x0301], [0x004C, 0x0327], [0x006C, 0x0327], [0x004C,
    0x030C], [0x006C, 0x030C], [0x004C, 0x00B7], [0x006C, 0x00B7]]⟩,
  ⟨0x0143, 0x0149, [[0x004E, 0x0301], [0x006E, 0x0301], [0x004E, 0x0327], [0x006E, 0x0327], [0x004E,
    0x030C], [0x006E, 0x030C], [0x02BC, 0x006E]]⟩]

def page02 : RangeTable (List (List Nat)) := .page [
  ⟨0x014C, 0x0151, [[0x004F, 0x0304], [0x006F, 0x0304], [0x004F, 0x0306], [0x006F, 0x0306], [0x004F,
    0x030B], [0x006F, 0x030B]]⟩,
  ⟨0x0154, 0x0163, [[0x0052, 0x0301], [0x0072, 0x0301], [0x0052, 0x0327], [0x0072, 0x0327], [0x0052,
    0x030C], [0x0072, 0x030C], [0x0053, 0x0301], [0x0073, 0x0301], [0x0053, 0x0302], [0x0073,
    0x0302], [0x0053, 0x0327], [0x0073, 0x0327], [0x0053, 0x030C], [0x0073, 0x030C], [0x0054,
    0x0327], [0x0074, 0x0327]]⟩, ⟨0x0164, 0x0165, [[0x0054, 0x030C], [0x0074, 0x030C]]⟩,
  ⟨0x0168, 0x0177, [[0x0055, 0x0303], [0x0075, 0x0303], [0x0055, 0x0304], [0x0075, 0x0304], [0x0055,
    0x0306], [0x0075, 0x0306], [0x0055, 0x030A], [0x0075, 0x030A], [0x0055, 0x030B], [0x0075,
    0x030B], [0x0055, 0x0328], [0x0075, 0x0328], [0x0057, 0x0302], [0x0077, 0x0302], [0x0059,
    0x0302], [0x0079, 0x0302]]⟩,
  ⟨0x0178, 0x017F, [[0x0059, 0x0308], [0x005A, 0x0301], [0x007A, 0x0301], [0x005A, 0x0307], [0x007A,
    0x0307], [0x005A, 0x030C], [0x007A, 0x030C], [0x0073]]⟩,
  ⟨0x01A0, 0x01A1, [[0x004F, 0x031B], [0x006F, 0x031B]]⟩,
  ⟨0x01AF, 0x01B0, [[0x0055, 0x031B], [0x0075, 0x031B]]⟩,
  ⟨0x01C4, 0x01D3, [[0x0044, 0x005A, 0x030C], [0x0044, 0x007A, 0x030C], [0x0064, 0x007A, 0x030C],
    [0x004C, 0x004A], [0x004C, 0x006A], [0x006C, 0x006A], [0x004E, 0x004A], [0x004E, 0x006A],
    [0x006E, 0x006A], [0x0041, 0x030C], [0x0061, 0x030C], [0x0049, 0x030C], [0x0069, 0x030C],
    [0x004F, 0x030C], [0x006F, 0x030C], [0x0055, 0x030C]]⟩,
  ⟨0x01D4, 0x01DC, [[0x0075, 0x030C], [0x0055, 0x0308, 0x0304], [0x0075, 0x0308, 0x0304], [0x0055,
    0x0308, 0x0301], [0x0075, 0x0308, 0x0301], [0x0055, 0x0308, 0x030C], [0x0075, 0x0308, 0x030C],
    [0x0055, 0x0308, 0x0300], [0x0075, 0x0308, 0x0300]]⟩,
  ⟨0x01DE, 0x01E3, [[0x0041, 0x0308, 0x0304], [0x0061, 0x0308, 0x0304], [0x0041, 0x0307, 0x0304],
    [0x0061, 0x0307, 0x0304], [0x00C6, 0x0304], [0x00E6, 0x0304]]⟩,
  ⟨0x01E6, 0x01F5, [[0x0047, 0x030C], [0x0067, 0x030C], [0x004B, 0x030C], [0x006B, 0x030C], [0x004F,
    0x0328], [0x006F, 0x0328], [0x004F, 0x0328, 0x0304], [0x006F, 0x0328, 0x0304], [0x01B7, 0x030C],
    [0x0292, 0x030C], [0x006A, 0x030C], [0x0044, 0x005A], [0x0044, 0x007A], [0x0064, 0x007A],
    [0x0047, 0x0301], [0x0067, 0x0301]]⟩,
  ⟨0x01F8, 0x0207, [[0x004E, 0x0300], [0x006E, 0x0300], [0x0041, 0x030A, 0x0301], [0x0061, 0x030A,
    0x0301], [0x00C6, 0x0301], [0x00E6, 0x0301], [0x00D8, 0x0301], [0x00F8, 0x0301], [0x0041,
    0x030F], [0x0061, 0x030F], [0x0041, 0x0311], [0x0061, 0x0311], [0x0045, 0x030F], [0x0065,
    0x030F], [0x0045, 0x0311], [0x0065, 0x0311]]⟩]

def page03 : RangeTable (List (List Nat)) := .page [
  ⟨0x0208, 0x0217, [[0x0049, 0x030F], [0x0069, 0x030F], [0x0049, 0x0311], [0x0069, 0x0311], [0x004F,
    0x030F], [0x006F, 0x030F], [0x004F, 0x0311], [0x006F, 0x0311], [0x0052, 0x030F], [0x0072,
    0x030F], [0x0052, 0x0311], [0x0072, 0x0311], [0x0055, 0x030F], [0x0075, 0x030F], [0x0055,
    0x0311], [0x0075, 0x0311]]⟩,
  ⟨0x0218, 0x021B, [[0x0053, 0x0326], [0x0073, 0x0326], [0x0054, 0x0326], [0x0074, 0x0326]]⟩,
  ⟨0x021E, 0x021F, [[0x0048, 0x030C], [0x0068, 0x030C]]⟩,
  ⟨0x0226, 0x0233, [[0x0041, 0x0307], [0x0061, 0x0307], [0x0045, 0x0327], [0x0065, 0x0327], [0x004F,
    0x0308, 0x0304], [0x006F, 0x0308, 0x0304], [0x004F, 0x0303, 0x0304], [0x006F, 0x0303, 0x0304],
    [0x004F, 0x0307], [0x006F, 0x0307], [0x004F, 0x0307, 0x0304], [0x006F, 0x0307, 0x0304], [0x0059,
    0x0304], [0x0079, 0x0304]]⟩,
  ⟨0x02B0, 0x02B8, [[0x0068], [0x0266], [0x006A], [0x0072], [0x0279], [0x027B], [0x0281], [0x0077],
    [0x0079]]⟩,
  ⟨0x02D8, 0x02DD, [[0x0020, 0x0306], [0x0020, 0x0307], [0x0020, 0x030A], [0x0020, 0x0328], [0x0020,
    0x0303], [0x0020, 0x030B]]⟩,
  ⟨0x02E0, 0x02E4, [[0x0263], [0x006C], [0x0073], [0x0078], [0x0295]]⟩,
  ⟨0x0340, 0x0341, [[0x0300], [0x0301]]⟩, ⟨0x0343, 0x0344, [[0x0313], [0x0308, 0x0301]]⟩,
  ⟨0x0374, 0x0374, [[0x02B9]]⟩, ⟨0x037A, 0x037A, [[0x0020, 0x0345]]⟩, ⟨0x037E, 0x037E, [[0x003B]]⟩]

def page04 : RangeTable (List (List Nat)) := .page [
  ⟨0x0384, 0x038A, [[0x0020, 0x0301], [0x0020, 0x0308, 0x0301], [0x0391, 0x0301], [0x00B7], [0x0395,
    0x0301], [0x0397, 0x0301], [0x0399, 0x0301]]⟩, ⟨0x038C, 0x038C, [[0x039F, 0x0301]]⟩,
  ⟨0x038E, 0x0390, [[0x03A5, 0x0301], [0x03A9, 0x0301], [0x03B9, 0x0308, 0x0301]]⟩,
  ⟨0x03AA, 0x03B0, [[0x0399, 0x0308], [0x03A5, 0x0308], [0x03B1, 0x0301], [0x03B5, 0x0301], [0x03B7,
    0x0301], [0x03B9, 0x0301], [0x03C5, 0x0308, 0x0301]]⟩,
  ⟨0x03CA, 0x03CE, [[0x03B9, 0x0308], [0x03C5, 0x0308], [0x03BF, 0x0301], [0x03C5, 0x0301], [0x03C9,
    0x0301]]⟩,
  ⟨0x03D0, 0x03D6, [[0x03B2], [0x03B8], [0x03A5], [0x03A5, 0x0301], [0x03A5, 0x0308], [0x03C6],
    [0x03C0]]⟩, ⟨0x03F0, 0x03F2, [[0x03BA], [0x03C1], [0x03C2]]⟩,
  ⟨0x03F4, 0x03F5, [[0x0398], [0x03B5]]⟩, ⟨0x03F9, 0x03F9, [[0x03A3]]⟩,
  ⟨0x0400, 0x0401, [[0x0415, 0x0300], [0x0415, 0x0308]]⟩, ⟨0x0403, 0x0403, [[0x0413, 0x0301]]⟩,
  ⟨0x0407, 0x0407, [[0x0406, 0x0308]]⟩]

def page05 : RangeTable (List (List Nat)) := .page [
  ⟨0x040C, 0x040E, [[0x041A, 0x0301], [0x0418, 0x0300], [0x0423, 0x0306]]⟩,
  ⟨0x0419, 0x0419, [[0x0418, 0x0306]]⟩, ⟨0x0439, 0x0439, [[0x0438, 0x0306]]⟩,
  ⟨0x0450, 0x0451, [[0x0435, 0x0300], [0x0435, 0x0308]]⟩, ⟨0x0453, 0x0453, [[0x0433, 0x0301]]⟩,
  ⟨0x0457, 0x0457, [[0x0456, 0x0308]]⟩,
  ⟨0x045C, 0x045E, [[0x043A, 0x0301], [0x0438, 0x0300], [0x0443, 0x0306]]⟩,
  ⟨0x0476, 0x0477, [[0x0474, 0x030F], [0x0475, 0x030F]]⟩,
  ⟨0x04C1, 0x04C2, [[0x0416, 0x0306], [0x0436, 0x0306]]⟩,
  ⟨0x04D0, 0x04D3, [[0x0410, 0x0306], [0x0430, 0x0306], [0x0410, 0x0308], [0x0430, 0x0308]]⟩,
  ⟨0x04D6, 0x04D7, [[0x0415, 0x0306], [0x0435, 0x0306]]⟩,
  ⟨0x04DA, 0x04DF, [[0x04D8, 0x0308], [0x04D9, 0x0308], [0x0416, 0x0308], [0x0436, 0x0308], [0x0417,
    0x0308], [0x0437, 0x0308]]⟩]

def page06 : RangeTable (List (List Nat)) := .page [
  ⟨0x04E2, 0x04E7, [[0x0418, 0x0304], [0x0438, 0x0304], [0x0418, 0x0308], [0x0438, 0x0308], [0x041E,
    0x0308], [0x043E, 0x0308]]⟩,
  ⟨0x04EA, 0x04F5, [[0x04E8, 0x0308], [0x04E9, 0x0308], [0x042D, 0x0308], [0x044D, 0x0308], [0x0423,
    0x0304], [0x0443, 0x0304], [0x0423, 0x0308], [0x0443, 0x0308], [0x0423, 0x030B], [0x0443,
    0x030B], [0x0427, 0x0308], [0x0447, 0x0308]]⟩,
  ⟨0x04F8, 0x04F9, [[0x042B, 0x0308], [0x044B, 0x0308]]⟩, ⟨0x0587, 0x0587, [[0x0565, 0x0582]]⟩,
  ⟨0x0622, 0x0626, [[0x0627, 0x0653], [0x0627, 0x0654], [0x0648, 0x0654], [0x0627, 0x0655], [0x064A,
    0x0654]]⟩,
  ⟨0x0675, 0x0678, [[0x0627, 0x0674], [0x0648, 0x0674], [0x06C7, 0x0674], [0x064A, 0x0674]]⟩,
  ⟨0x06C0, 0x06C0, [[0x06D5, 0x0654]]⟩, ⟨0x06C2, 0x06C2, [[0x06C1, 0x0654]]⟩,
  ⟨0x06D3, 0x06D3, [[0x06D2, 0x0654]]⟩, ⟨0x0929, 0x0929, [[0x0928, 0x093C]]⟩,
  ⟨0x0931, 0x0931, [[0x0930, 0x093C]]⟩, ⟨0x0934, 0x0934, [[0x0933, 0x093C]]⟩]

def page07 : RangeTable (List (List Nat)) := .page [
  ⟨0x0958, 0x095F, [[0x0915, 0x093C], [0x0916, 0x093C], [0x0917, 0x093C], [0x091C, 0x093C], [0x0921,
    0x093C], [0x0922, 0x093C], [0x092B, 0x093C], [0x092F, 0x093C]]⟩,
  ⟨0x09CB, 0x09CC, [[0x09C7, 0x09BE], [0x09C7, 0x09D7]]⟩,
  ⟨0x09DC, 0x09DD, [[0x09A1, 0x09BC], [0x09A2, 0x09BC]]⟩, ⟨0x09DF, 0x09DF, [[0x09AF, 0x09BC]]⟩,
  ⟨0x0A33, 0x0A33, [[0x0A32, 0x0A3C]]⟩, ⟨0x0A36, 0x0A36, [[0x0A38, 0x0A3C]]⟩,
  ⟨0x0A59, 0x0A5B, [[0x0A16, 0x0A3C], [0x0A17, 0x0A3C], [0x0A1C, 0x0A3C]]⟩,
  ⟨0x0A5E, 0x0A5E, [[0x0A2B, 0x0A3C]]⟩, ⟨0x0B48, 0x0B48, [[0x0B47, 0x0B56]]⟩,
  ⟨0x0B4B, 0x0B4C, [[0x0B47, 0x0B3E], [0x0B47, 0x0B57]]⟩,
  ⟨0x0B5C, 0x0B5D, [[0x0B21, 0x0B3C], [0x0B22, 0x0B3C]]⟩, ⟨0x0B94, 0x0B94, [[0x0B92, 0x0BD7]]⟩]

def page08 : RangeTable (List (List Nat)) := .page [
  ⟨0x0BCA, 0x0BCC, [[0x0BC6, 0x0BBE], [0x0BC7, 0x0BBE], [0x0BC6, 0x0BD7]]⟩,
  ⟨0x0C48, 0x0C48, [[0x0C46, 0x0C56]]⟩, ⟨0x0CC0, 0x0CC0, [[0x0CBF, 0x0CD5]]⟩,
  ⟨0x0CC7, 0x0CC8, [[0x0CC6, 0x0CD5], [0x0CC6, 0x0CD6]]⟩,
  ⟨0x0CCA, 0x0CCB, [[0x0CC6, 0x0CC2], [0x0CC6, 0x0CC2, 0x0CD5]]⟩,
  ⟨0x0D4A, 0x0D4C, [[0x0D46, 0x0D3E], [0x0D47, 0x0D3E], [0x0D46, 0x0D57]]⟩,
  ⟨0x0DDA, 0x0DDA, [[0x0DD9, 0x0DCA]]⟩,
  ⟨0x0DDC, 0x0DDE, [[0x0DD9, 0x0DCF], [0x0DD9, 0x0DCF, 0x0DCA], [0x0DD9, 0x0DDF]]⟩,
  ⟨0x0E33, 0x0E33, [[0x0E4D, 0x0E32]]⟩, ⟨0x0EB3, 0x0EB3, [[0x0ECD, 0x0EB2]]⟩,
  ⟨0x0EDC, 0x0EDD, [[0x0EAB, 0x0E99], [0x0EAB, 0x0EA1]]⟩, ⟨0x0F0C, 0x0F0C, [[0x0F0B]]⟩]

def page09 : RangeTable (List (List Nat)) := .page [
  ⟨0x0F43, 0x0F43, [[0x0F42, 0x0FB7]]⟩, ⟨0x0F4D, 0x0F4D, [[0x0F4C, 0x0FB7]]⟩,
  ⟨0x0F52, 0x0F52, [[0x0F51, 0x0FB7]]⟩, ⟨0x0F57, 0x0F57, [[0x0F56, 0x0FB7]]⟩,
  ⟨0x0F5C, 0x0F5C, [[0x0F5B, 0x0FB7]]⟩, ⟨0x0F69, 0x0F69, [[0x0F40, 0x0FB5]]⟩,
  ⟨0x0F73, 0x0F73, [[0x0F71, 0x0F72]]⟩,
  ⟨0x0F75, 0x0F79, [[0x0F71, 0x0F74], [0x0FB2, 0x0F80], [0x0FB2, 0x0F71, 0x0F80], [0x0FB3, 0x0F80],
    [0x0FB3, 0x0F71, 0x0F80]]⟩, ⟨0x0F81, 0x0F81, [[0x0F71, 0x0F80]]⟩,
  ⟨0x0F93, 0x0F93, [[0x0F92, 0x0FB7]]⟩, ⟨0x0F9D, 0x0F9D, [[0x0F9C, 0x0FB7]]⟩,
  ⟨0x0FA2, 0x0FA2, [[0x0FA1, 0x0FB7]]⟩]

def page10 : RangeTable (List (List Nat)) := .page [
  ⟨0x0FA7, 0x0FA7, [[0x0FA6, 0x0FB7]]⟩, ⟨0x0FAC, 0x0FAC, [[0x0FAB, 0x0FB7]]⟩,
  ⟨0x0FB9, 0x0FB9, [[0x0F90, 0x0FB5]]⟩, ⟨0x1026, 0x1026, [[0x1025, 0x102E]]⟩,
  ⟨0x10FC, 0x10FC, [[0x10DC]]⟩, ⟨0x1B06, 0x1B06, [[0x1B05, 0x1B35]]⟩,
  ⟨0x1B08, 0x1B08, [[0x1B07, 0x1B35]]⟩, ⟨0x1B0A, 0x1B0A, [[0x1B09, 0x1B35]]⟩,
  ⟨0x1B0C, 0x1B0C, [[0x1B0B, 0x1B35]]⟩, ⟨0x1B0E, 0x1B0E, [[0x1B0D, 0x1B35]]⟩,
  ⟨0x1B12, 0x1B12, [[0x1B11, 0x1B35]]⟩, ⟨0x1B3B, 0x1B3B, [[0x1B3A, 0x1B35]]⟩]

def page11 : RangeTable (List (List Nat)) := .page [
  ⟨0x1B3D, 0x1B3D, [[0x1B3C, 0x1B35]]⟩, ⟨0x1B40, 0x1B41, [[0x1B3E, 0x1B35], [0x1B3F, 0x1B35]]⟩,
  ⟨0x1B43, 0x1B43, [[0x1B42, 0x1B35]]⟩, ⟨0x1D2C, 0x1D2E, [[0x0041], [0x00C6], [0x0042]]⟩,
  ⟨0x1D30, 0x1D3A, [[0x0044], [0x0045], [0x018E], [0x0047], [0x0048], [0x0049], [0x004A], [0x004B],
    [0x004C], [0x004D], [0x004E]]⟩,
  ⟨0x1D3C, 0x1D4B, [[0x004F], [0x0222], [0x0050], [0x0052], [0x0054], [0x0055], [0x0057], [0x0061],
    [0x0250], [0x0251], [0x1D02], [0x0062], [0x0064], [0x0065], [0x0259], [0x025B]]⟩,
  ⟨0x1D4C, 0x1D4D, [[0x025C], [0x0067]]⟩,
  ⟨0x1D4F, 0x1D5E, [[0x006B], [0x006D], [0x014B], [0x006F], [0x0254], [0x1D16], [0x1D17], [0x0070],
    [0x0074], [0x0075], [0x1D1D], [0x026F], [0x0076], [0x1D25], [0x03B2], [0x03B3]]⟩,
  ⟨0x1D5F, 0x1D6A, [[0x03B4], [0x03C6], [0x03C7], [0x0069], [0x0072], [0x0075], [0x0076], [0x03B2],
    [0x03B3], [0x03C1], [0x03C6], [0x03C7]]⟩, ⟨0x1D78, 0x1D78, [[0x043D]]⟩,
  ⟨0x1D9B, 0x1DAA, [[0x0252], [0x0063], [0x0255], [0x00F0], [0x025C], [0x0066], [0x025F], [0x0261],
    [0x0265], [0x0268], [0x0269], [0x026A], [0x1D7B], [0x029D], [0x026D], [0x1D85]]⟩,
  ⟨0x1DAB, 0x1DBA, [[0x029F], [0x0271], [0x0270], [0x0272], [0x0273], [0x0274], [0x0275], [0x0278],
    [0x0282], [0x0283], [0x01AB], [0x0289], [0x028A], [0x1D1C], [0x028B], [0x028C]]⟩]

def page12 : RangeTable (List (List Nat)) := .page [
  ⟨0x1DBB, 0x1DBF, [[0x007A], [0x0290], [0x0291], [0x0292], [0x03B8]]⟩,
  ⟨0x1E00, 0x1E0F, [[0x0041, 0x0325], [0x0061, 0x0325], [0x0042, 0x0307], [0x0062, 0x0307], [0x0042,
    0x0323], [0x0062, 0x0323], [0x0042, 0x0331], [0x0062, 0x0331], [0x0043, 0x0327, 0x0301],
    [0x0063, 0x0327, 0x0301], [0x0044, 0x0307], [0x0064, 0x0307], [0x0044, 0x0323], [0x0064,
    0x0323], [0x0044, 0x0331], [0x0064, 0x0331]]⟩,
  ⟨0x1E10, 0x1E1F, [[0x0044, 0x0327], [0x0064, 0x0327], [0x0044, 0x032D], [0x0064, 0x032D], [0x0045,
    0x0304, 0x0300], [0x0065, 0x0304, 0x0300], [0x0045, 0x0304, 0x0301], [0x0065, 0x0304, 0x0301],
    [0x0045, 0x032D], [0x0065, 0x032D], [0x0045, 0x0330], [0x0065, 0x0330], [0x0045, 0x0327,
    0x0306], [0x0065, 0x0327, 0x0306], [0x0046, 0x0307], [0x0066, 0x0307]]⟩,
  ⟨0x1E20, 0x1E2F, [[0x0047, 0x0304], [0x0067, 0x0304], [0x0048, 0x0307], [0x0068, 0x0307], [0x0048,
    0x0323], [0x0068, 0x0323], [0x0048, 0x0308], [0x0068, 0x0308], [0x0048, 0x0327], [0x0068,
    0x0327], [0x0048, 0x032E], [0x0068, 0x032E], [0x0049, 0x0330], [0x0069, 0x0330], [0x0049,
    0x0308, 0x0301], [0x0069, 0x0308, 0x0301]]⟩,
  ⟨0x1E30, 0x1E3F, [[0x004B, 0x0301], [0x006B, 0x0301], [0x004B, 0x0323], [0x006B, 0x0323], [0x004B,
    0x0331], [0x006B, 0x0331], [0x004C, 0x0323], [0x006C, 0x0323], [0x004C, 0x0323, 0x0304],
    [0x006C, 0x0323, 0x0304], [0x004C, 0x0331], [0x006C, 0x0331], [0x004C, 0x032D], [0x006C,
    0x032D], [0x004D, 0x0301], [0x006D, 0x0301]]⟩,
  ⟨0x1E40, 0x1E4F, [[0x004D, 0x0307], [0x006D, 0x0307], [0x004D, 0x0323], [0x006D, 0x0323], [0x004E,
    0x0307], [0x006E, 0x0307], [0x004E, 0x0323], [0x006E, 0x0323], [0x004E, 0x0331], [0x006E,
    0x0331], [0x004E, 0x032D], [0x006E, 0x032D], [0x004F, 0x0303, 0x0301], [0x006F, 0x0303, 0x0301],
    [0x004F, 0x0303, 0x0308], [0x006F, 0x0303, 0x0308]]⟩,
  ⟨0x1E50, 0x1E5F, [[0x004F, 0x0304, 0x0300], [0x006F, 0x0304, 0x0300], [0x004F, 0x0304, 0x0301],
    [0x006F, 0x0304, 0x0301], [0x0050, 0x0301], [0x0070, 0x0301], [0x0050, 0x0307], [0x0070,
    0x0307], [0x0052, 0x0307], [0x0072, 0x0307], [0x0052, 0x0323], [0x0072, 0x0323], [0x0052,
    0x0323, 0x0304], [0x0072, 0x0323, 0x0304], [0x0052, 0x0331], [0x0072, 0x0331]]⟩,
  ⟨0x1E60, 0x1E6F, [[0x0053, 0x0307], [0x0073, 0x0307], [0x0053, 0x0323], [0x0073, 0x0323], [0x0053,
    0x0301, 0x0307], [0x0073, 0x0301, 0x0307], [0x0053, 0x030C, 0x0307], [0x0073, 0x030C, 0x0307],
    [0x0053, 0x0323, 0x0307], [0x0073, 0x0323, 0x0307], [0x0054, 0x0307], [0x0074, 0x0307], [0x0054,
    0x0323], [0x0074, 0x0323], [0x0054, 0x0331], [0x0074, 0x0331]]⟩,
  ⟨0x1E70, 0x1E7F, [[0x0054, 0x032D], [0x0074, 0x032D], [0x0055, 0x0324], [0x0075, 0x0324], [0x0055,
    0x0330], [0x0075, 0x0330], [0x0055, 0x032D], [0x0075, 0x032D], [0x0055, 0x0303, 0x0301],
    [0x0075, 0x0303, 0x0301], [0x0055, 0x0304, 0x0308], [0x0075, 0x0304, 0x0308], [0x0056, 0x0303],
    [0x0076, 0x0303], [0x0056, 0x0323], [0x0076, 0x0323]]⟩,
  ⟨0x1E80, 0x1E8F, [[0x0057, 0x0300], [0x0077, 0x0300], [0x0057, 0x0301], [0x0077, 0x0301], [0x0057,
    0x0308], [0x0077, 0x0308], [0x0057, 0x0307], [0x0077, 0x0307], [0x0057, 0x0323], [0x0077,
    0x0323], [0x0058, 0x0307], [0x0078, 0x0307], [0x0058, 0x0308], [0x0078, 0x0308], [0x0059,
    0x0307], [0x0079, 0x0307]]⟩,
  ⟨0x1E90, 0x1E9B, [[0x005A, 0x0302], [0x007A, 0x0302], [0x005A, 0x0323], [0x007A, 0x0323], [0x005A,
    0x0331], [0x007A, 0x0331], [0x0068, 0x0331], [0x0074, 0x0308], [0x0077, 0x030A], [0x0079,
    0x030A], [0x0061, 0x02BE], [0x0073, 0x0307]]⟩,
  ⟨0x1EA0, 0x1EAF, [[0x0041, 0x0323], [0x0061, 0x0323], [0x0041, 0x0309], [0x0061, 0x0309], [0x0041,
    0x0302, 0x0301], [0x0061, 0x0302, 0x0301], [0x0041, 0x0302, 0x0300], [0x0061, 0x0302, 0x0300],
    [0x0041, 0x0302, 0x0309], [0x0061, 0x0302, 0x0309], [0x0041, 0x0302, 0x0303], [0x0061, 0x0302,
    0x0303], [0x0041, 0x0323, 0x0302], [0x0061, 0x0323, 0x0302], [0x0041, 0x0306, 0x0301], [0x0061,
    0x0306, 0x0301]]⟩]

def page13 : RangeTable (List (List Nat)) := .page [
  ⟨0x1EB0, 0x1EBF, [[0x0041, 0x0306, 0x0300], [0x0061, 0x0306, 0x0300], [0x0041, 0x0306, 0x0309],
    [0x0061, 0x0306, 0x0309], [0x0041, 0x0306, 0x0303], [0x0061, 0x0306, 0x0303], [0x0041, 0x0323,
    0x0306], [0x0061, 0x0323, 0x0306], [0x0045, 0x0323], [0x0065, 0x0323], [0x0045, 0x0309],
    [0x0065, 0x0309], [0x0045, 0x0303], [0x0065, 0x0303], [0x0045, 0x0302, 0x0301], [0x0065, 0x0302,
    0x0301]]⟩,
  ⟨0x1EC0, 0x1ECF, [[0x0045, 0x0302, 0x0300], [0x0065, 0x0302, 0x0300], [0x0045, 0x0302, 0x0309],
    [0x0065, 0x0302, 0x0309], [0x0045, 0x0302, 0x0303], [0x0065, 0x0302, 0x0303], [0x0045, 0x0323,
    0x0302], [0x0065, 0x0323, 0x0302], [0x0049, 0x0309], [0x0069, 0x0309], [0x0049, 0x0323],
    [0x0069, 0x0323], [0x004F, 0x0323], [0x006F, 0x0323], [0x004F, 0x0309], [0x006F, 0x0309]]⟩,
  ⟨0x1ED0, 0x1EDF, [[0x004F, 0x0302, 0x0301], [0x006F, 0x0302, 0x0301], [0x004F, 0x0302, 0x0300],
    [0x006F, 0x0302, 0x0300], [0x004F, 0x0302, 0x0309], [0x006F, 0x0302, 0x0309], [0x004F, 0x0302,
    0x0303], [0x006F, 0x0302, 0x0303], [0x004F, 0x0323, 0x0302], [0x006F, 0x0323, 0x0302], [0x004F,
    0x031B, 0x0301], [0x006F, 0x031B, 0x0301], [0x004F, 0x031B, 0x0300], [0x006F, 0x031B, 0x0300],
    [0x004F, 0x031B, 0x0309], [0x006F, 0x031B, 0x0309]]⟩,
  ⟨0x1EE0, 0x1EEF, [[0x004F, 0x031B, 0x0303], [0x006F, 0x031B, 0x0303], [0x004F, 0x031B, 0x0323],
    [0x006F, 0x031B, 0x0323], [0x0055, 0x0323], [0x0075, 0x0323], [0x0055, 0x0309], [0x0075,
    0x0309], [0x0055, 0x031B, 0x0301], [0x0075, 0x031B, 0x0301], [0x0055, 0x031B, 0x0300], [0x0075,
    0x031B, 0x0300], [0x0055, 0x031B, 0x0309], [0x0075, 0x031B, 0x0309], [0x0055, 0x031B, 0x0303],
    [0x0075, 0x031B, 0x0303]]⟩,
  ⟨0x1EF0, 0x1EF9, [[0x0055, 0x031B, 0x0323], [0x0075, 0x031B, 0x0323], [0x0059, 0x0300], [0x0079,
    0x0300], [0x0059, 0x0323], [0x0079, 0x0323], [0x0059, 0x0309], [0x0079, 0x0309], [0x0059,
    0x0303], [0x0079, 0x0303]]⟩,
  ⟨0x1F00, 0x1F0F, [[0x03B1, 0x0313], [0x03B1, 0x0314], [0x03B1, 0x0313, 0x0300], [0x03B1, 0x0314,
    0x0300], [0x03B1, 0x0313, 0x0301], [0x03B1, 0x0314, 0x0301], [0x03B1, 0x0313, 0x0342], [0x03B1,
    0x0314, 0x0342], [0x0391, 0x0313], [0x0391, 0x0314], [0x0391, 0x0313, 0x0300], [0x0391, 0x0314,
    0x0300], [0x0391, 0x0313, 0x0301], [0x0391, 0x0314, 0x0301], [0x0391, 0x0313, 0x0342], [0x0391,
    0x0314, 0x0342]]⟩,
  ⟨0x1F10, 0x1F15, [[0x03B5, 0x0313], [0x03B5, 0x0314], [0x03B5, 0x0313, 0x0300], [0x03B5, 0x0314,
    0x0300], [0x03B5, 0x0313, 0x0301], [0x03B5, 0x0314, 0x0301]]⟩,
  ⟨0x1F18, 0x1F1D, [[0x0395, 0x0313], [0x0395, 0x0314], [0x0395, 0x0313, 0x0300], [0x0395, 0x0314,
    0x0300], [0x0395, 0x0313, 0x0301], [0x0395, 0x0314, 0x0301]]⟩,
  ⟨0x1F20, 0x1F2F, [[0x03B7, 0x0313], [0x03B7, 0x0314], [0x03B7, 0x0313, 0x0300], [0x03B7, 0x0314,
    0x0300], [0x03B7, 0x0313, 0x0301], [0x03B7, 0x0314, 0x0301], [0x03B7, 0x0313, 0x0342], [0x03B7,
    0x0314, 0x0342], [0x0397, 0x0313], [0x0397, 0x0314], [0x0397, 0x0313, 0x0300], [0x0397, 0x0314,
    0x0300], [0x0397, 0x0313, 0x0301], [0x0397, 0x0314, 0x0301], [0x0397, 0x0313, 0x0342], [0x0397,
    0x0314, 0x0342]]⟩,
  ⟨0x1F30, 0x1F3F, [[0x03B9, 0x0313], [0x03B9, 0x0314], [0x03B9, 0x0313, 0x0300], [0x03B9, 0x0314,
    0x0300], [0x03B9, 0x0313, 0x0301], [0x03B9, 0x0314, 0x0301], [0x03B9, 0x0313, 0x0342], [0x03B9,
    0x0314, 0x0342], [0x0399, 0x0313], [0x0399, 0x0314], [0x0399, 0x0313, 0x0300], [0x0399, 0x0314,
    0x0300], [0x0399, 0x0313, 0x0301], [0x0399, 0x0314, 0x0301], [0x0399, 0x0313, 0x0342], [0x0399,
    0x0314, 0x0342]]⟩,
  ⟨0x1F40, 0x1F45, [[0x03BF, 0x0313], [0x03BF, 0x0314], [0x03BF, 0x0313, 0x0300], [0x03BF, 0x0314,
    0x0300], [0x03BF, 0x0313, 0x0301], [0x03BF, 0x0314, 0x0301]]⟩,
  ⟨0x1F48, 0x1F4D, [[0x039F, 0x0313], [0x039F, 0x0314], [0x039F, 0x0313, 0x0300], [0x039F, 0x0314,
    0x0300], [0x039F, 0x0313, 0x0301], [0x039F, 0x0314, 0x0301]]⟩]

def page14 : RangeTable (List (List Nat)) := .page [
  ⟨0x1F50, 0x1F57, [[0x03C5, 0x0313], [0x03C5, 0x0314], [0x03C5, 0x0313, 0x0300], [0x03C5, 0x0314,
    0x0300], [0x03C5, 0x0313, 0x0301], [0x03C5, 0x0314, 0x0301], [0x03C5, 0x0313, 0x0342], [0x03C5,
    0x0314, 0x0342]]⟩, ⟨0x1F59, 0x1F59, [[0x03A5, 0x0314]]⟩,
  ⟨0x1F5B, 0x1F5B, [[0x03A5, 0x0314, 0x0300]]⟩, ⟨0x1F5D, 0x1F5D, [[0x03A5, 0x0314, 0x0301]]⟩,
  ⟨0x1F5F, 0x1F6E, [[0x03A5, 0x0314, 0x0342], [0x03C9, 0x0313], [0x03C9, 0x0314], [0x03C9, 0x0313,
    0x0300], [0x03C9, 0x0314, 0x0300], [0x03C9, 0x0313, 0x0301], [0x03C9, 0x0314, 0x0301], [0x03C9,
    0x0313, 0x0342], [0x03C9, 0x0314, 0x0342], [0x03A9, 0x0313], [0x03A9, 0x0314], [0x03A9, 0x0313,
    0x0300], [0x03A9, 0x0314, 0x0300], [0x03A9, 0x0313, 0x0301], [0x03A9, 0x0314, 0x0301], [0x03A9,
    0x0313, 0x0342]]⟩,
  ⟨0x1F6F, 0x1F7D, [[0x03A9, 0x0314, 0x0342], [0x03B1, 0x0300], [0x03B1, 0x0301], [0x03B5, 0x0300],
    [0x03B5, 0x0301], [0x03B7, 0x0300], [0x03B7, 0x0301], [0x03B9, 0x0300], [0x03B9, 0x0301],
    [0x03BF, 0x0300], [0x03BF, 0x0301], [0x03C5, 0x0300], [0x03C5, 0x0301], [0x03C9, 0x0300],
    [0x03C9, 0x0301]]⟩,
  ⟨0x1F80, 0x1F8F, [[0x03B1, 0x0313, 0x0345], [0x03B1, 0x0314, 0x0345], [0x03B1, 0x0313, 0x0300,
    0x0345], [0x03B1, 0x0314, 0x0300, 0x0345], [0x03B1, 0x0313, 0x0301, 0x0345], [0x03B1, 0x0314,
    0x0301, 0x0345], [0x03B1, 0x0313, 0x0342, 0x0345], [0x03B1, 0x0314, 0x0342, 0x0345], [0x0391,
    0x0313, 0x0345], [0x0391, 0x0314, 0x0345], [0x0391, 0x0313, 0x0300, 0x0345], [0x0391, 0x0314,
    0x0300, 0x0345], [0x0391, 0x0313, 0x0301, 0x0345], [0x0391, 0x0314, 0x0301, 0x0345], [0x0391,
    0x0313, 0x0342, 0x0345], [0x0391, 0x0314, 0x0342, 0x0345]]⟩,
  ⟨0x1F90, 0x1F9F, [[0x03B7, 0x0313, 0x0345], [0x03B7, 0x0314, 0x0345], [0x03B7, 0x0313, 0x0300,
    0x0345], [0x03B7, 0x0314, 0x0300, 0x0345], [0x03B7, 0x0313, 0x0301, 0x0345], [0x03B7, 0x0314,
    0x0301, 0x0345], [0x03B7, 0x0313, 0x0342, 0x0345], [0x03B7, 0x0314, 0x0342, 0x0345], [0x0397,
    0x0313, 0x0345], [0x0397, 0x0314, 0x0345], [0x0397, 0x0313, 0x0300, 0x0345], [0x0397, 0x0314,
    0x0300, 0x0345], [0x0397, 0x0313, 0x0301, 0x0345], [0x0397, 0x0314, 0x0301, 0x0345], [0x0397,
    0x0313, 0x0342, 0x0345], [0x0397, 0x0314, 0x0342, 0x0345]]⟩,
  ⟨0x1FA0, 0x1FAF, [[0x03C9, 0x0313, 0x0345], [0x03C9, 0x0314, 0x0345], [0x03C9, 0x0313, 0x0300,
    0x0345], [0x03C9, 0x0314, 0x0300, 0x0345], [0x03C9, 0x0313, 0x0301, 0x0345], [0x03C9, 0x0314,
    0x0301, 0x0345], [0x03C9, 0x0313, 0x0342, 0x0345], [0x03C9, 0x0314, 0x0342, 0x0345], [0x03A9,
    0x0313, 0x0345], [0x03A9, 0x0314, 0x0345], [0x03A9, 0x0313, 0x0300, 0x0345], [0x03A9, 0x0314,
    0x0300, 0x0345], [0x03A9, 0x0313, 0x0301, 0x0345], [0x03A9, 0x0314, 0x0301, 0x0345], [0x03A9,
    0x0313, 0x0342, 0x0345], [0x03A9, 0x0314, 0x0342, 0x0345]]⟩,
  ⟨0x1FB0, 0x1FB4, [[0x03B1, 0x0306], [0x03B1, 0x0304], [0x03B1, 0x0300, 0x0345], [0x03B1, 0x0345],
    [0x03B1, 0x0301, 0x0345]]⟩,
  ⟨0x1FB6, 0x1FC4, [[0x03B1, 0x0342], [0x03B1, 0x0342, 0x0345], [0x0391, 0x0306], [0x0391, 0x0304],
    [0x0391, 0x0300], [0x0391, 0x0301], [0x0391, 0x0345], [0x0020, 0x0313], [0x03B9], [0x0020,
    0x0313], [0x0020, 0x0342], [0x0020, 0x0308, 0x0342], [0x03B7, 0x0300, 0x0345], [0x03B7, 0x0345],
    [0x03B7, 0x0301, 0x0345]]⟩,
  ⟨0x1FC6, 0x1FD3, [[0x03B7, 0x0342], [0x03B7, 0x0342, 0x0345], [0x0395, 0x0300], [0x0395, 0x0301],
    [0x0397, 0x0300], [0x0397, 0x0301], [0x0397, 0x0345], [0x0020, 0x0313, 0x0300], [0x0020, 0x0313,
    0x0301], [0x0020, 0x0313, 0x0342], [0x03B9, 0x0306], [0x03B9, 0x0304], [0x03B9, 0x0308, 0x0300],
    [0x03B9, 0x0308, 0x0301]]⟩]

def page15 : RangeTable (List (List Nat)) := .page [
  ⟨0x1FD6, 0x1FDB, [[0x03B9, 0x0342], [0x03B9, 0x0308, 0x0342], [0x0399, 0x0306], [0x0399, 0x0304],
    [0x0399, 0x0300], [0x0399, 0x0301]]⟩,
  ⟨0x1FDD, 0x1FEC, [[0x0020, 0x0314, 0x0300], [0x0020, 0x0314, 0x0301], [0x0020, 0x0314, 0x0342],
    [0x03C5, 0x0306], [0x03C5, 0x0304], [0x03C5, 0x0308, 0x0300], [0x03C5, 0x0308, 0x0301], [0x03C1,
    0x0313], [0x03C1, 0x0314], [0x03C5, 0x0342], [0x03C5, 0x0308, 0x0342], [0x03A5, 0x0306],
    [0x03A5, 0x0304], [0x03A5, 0x0300], [0x03A5, 0x0301], [0x03A1, 0x0314]]⟩,
  ⟨0x1FED, 0x1FEF, [[0x0020, 0x0308, 0x0300], [0x0020, 0x0308, 0x0301], [0x0060]]⟩,
  ⟨0x1FF2, 0x1FF4, [[0x03C9, 0x0300, 0x0345], [0x03C9, 0x0345], [0x03C9, 0x0301, 0x0345]]⟩,
  ⟨0x1FF6, 0x1FFE, [[0x03C9, 0x0342], [0x03C9, 0x0342, 0x0345], [0x039F, 0x0300], [0x039F, 0x0301],
    [0x03A9, 0x0300], [0x03A9, 0x0301], [0x03A9, 0x0345], [0x0020, 0x0301], [0x0020, 0x0314]]⟩,
  ⟨0x2000, 0x200A, [[0x0020], [0x0020], [0x0020], [0x0020], [0x0020], [0x0020], [0x0020], [0x0020],
    [0x0020], [0x0020], [0x0020]]⟩, ⟨0x2011, 0x2011, [[0x2010]]⟩,
  ⟨0x2017, 0x2017, [[0x0020, 0x0333]]⟩,
  ⟨0x2024, 0x2026, [[0x002E], [0x002E, 0x002E], [0x002E, 0x002E, 0x002E]]⟩,
  ⟨0x202F, 0x202F, [[0x0020]]⟩, ⟨0x2033, 0x2034, [[0x2032, 0x2032], [0x2032, 0x2032, 0x2032]]⟩,
  ⟨0x2036, 0x2037, [[0x2035, 0x2035], [0x2035, 0x2035, 0x2035]]⟩]

def page16 : RangeTable (List (List Nat)) := .page [
  ⟨0x203C, 0x203C, [[0x0021, 0x0021]]⟩, ⟨0x203E, 0x203E, [[0x0020, 0x0305]]⟩,
  ⟨0x2047, 0x2049, [[0x003F, 0x003F], [0x003F, 0x0021], [0x0021, 0x003F]]⟩,
  ⟨0x2057, 0x2057, [[0x2032, 0x2032, 0x2032, 0x2032]]⟩, ⟨0x205F, 0x205F, [[0x0020]]⟩,
  ⟨0x2070, 0x2071, [[0x0030], [0x0069]]⟩,
  ⟨0x2074, 0x2083, [[0x0034], [0x0035], [0x0036], [0x0037], [0x0038], [0x0039], [0x002B], [0x2212],
    [0x003D], [0x0028], [0x0029], [0x006E], [0x0030], [0x0031], [0x0032], [0x0033]]⟩,
  ⟨0x2084, 0x208E, [[0x0034], [0x0035], [0x0036], [0x0037], [0x0038], [0x0039], [0x002B], [0x2212],
    [0x003D], [0x0028], [0x0029]]⟩,
  ⟨0x2090, 0x209C, [[0x0061], [0x0065], [0x006F], [0x0078], [0x0259], [0x0068], [0x006B], [0x006C],
    [0x006D], [0x006E], [0x0070], [0x0073], [0x0074]]⟩, ⟨0x20A8, 0x20A8, [[0x0052, 0x0073]]⟩,
  ⟨0x2100, 0x2103, [[0x0061, 0x002F, 0x0063], [0x0061, 0x002F, 0x0073], [0x0043], [0x00B0,
    0x0043]]⟩, ⟨0x2105, 0x2107, [[0x0063, 0x002F, 0x006F], [0x0063, 0x002F, 0x0075], [0x0190]]⟩]

def page17 : RangeTable (List (List Nat)) := .page [
  ⟨0x2109, 0x2113, [[0x00B0, 0x0046], [0x0067], [0x0048], [0x0048], [0x0048], [0x0068], [0x0127],
    [0x0049], [0x0049], [0x004C], [0x006C]]⟩, ⟨0x2115, 0x2116, [[0x004E], [0x004E, 0x006F]]⟩,
  ⟨0x2119, 0x211D, [[0x0050], [0x0051], [0x0052], [0x0052], [0x0052]]⟩,
  ⟨0x2120, 0x2122, [[0x0053, 0x004D], [0x0054, 0x0045, 0x004C], [0x0054, 0x004D]]⟩,
  ⟨0x2124, 0x2124, [[0x005A]]⟩, ⟨0x2126, 0x2126, [[0x03A9]]⟩, ⟨0x2128, 0x2128, [[0x005A]]⟩,
  ⟨0x212A, 0x212D, [[0x004B], [0x0041, 0x030A], [0x0042], [0x0043]]⟩,
  ⟨0x212F, 0x2131, [[0x0065], [0x0045], [0x0046]]⟩,
  ⟨0x2133, 0x2139, [[0x004D], [0x006F], [0x05D0], [0x05D1], [0x05D2], [0x05D3], [0x0069]]⟩,
  ⟨0x213B, 0x2140, [[0x0046, 0x0041, 0x0058], [0x03C0], [0x03B3], [0x0393], [0x03A0], [0x2211]]⟩,
  ⟨0x2145, 0x2149, [[0x0044], [0x0064], [0x0065], [0x0069], [0x006A]]⟩]

def page18 : RangeTable (List (List Nat)) := .page [
  ⟨0x2150, 0x215F, [[0x0031, 0x2044, 0x0037], [0x0031, 0x2044, 0x0039], [0x0031, 0x2044, 0x0031,
    0x0030], [0x0031, 0x2044, 0x0033], [0x0032, 0x2044, 0x0033], [0x0031, 0x2044, 0x0035], [0x0032,
    0x2044, 0x0035], [0x0033, 0x2044, 0x0035], [0x0034, 0x2044, 0x0035], [0x0031, 0x2044, 0x0036],
    [0x0035, 0x2044, 0x0036], [0x0031, 0x2044, 0x0038], [0x0033, 0x2044, 0x0038], [0x0035, 0x2044,
    0x0038], [0x0037, 0x2044, 0x0038], [0x0031, 0x2044]]⟩,
  ⟨0x2160, 0x216F, [[0x0049], [0x0049, 0x0049], [0x0049, 0x0049, 0x0049], [0x0049, 0x0056],
    [0x0056], [0x0056, 0x0049], [0x0056, 0x0049, 0x0049], [0x0056, 0x0049, 0x0049, 0x0049], [0x0049,
    0x0058], [0x0058], [0x0058, 0x0049], [0x0058, 0x0049, 0x0049], [0x004C], [0x0043], [0x0044],
    [0x004D]]⟩,
  ⟨0x2170, 0x217F, [[0x0069], [0x0069, 0x0069], [0x0069, 0x0069, 0x0069], [0x0069, 0x0076],
    [0x0076], [0x0076, 0x0069], [0x0076, 0x0069, 0x0069], [0x0076, 0x0069, 0x0069, 0x0069], [0x0069,
    0x0078], [0x0078], [0x0078, 0x0069], [0x0078, 0x0069, 0x0069], [0x006C], [0x0063], [0x0064],
    [0x006D]]⟩, ⟨0x2189, 0x2189, [[0x0030, 0x2044, 0x0033]]⟩,
  ⟨0x219A, 0x219B, [[0x2190, 0x0338], [0x2192, 0x0338]]⟩, ⟨0x21AE, 0x21AE, [[0x2194, 0x0338]]⟩,
  ⟨0x21CD, 0x21CF, [[0x21D0, 0x0338], [0x21D4, 0x0338], [0x21D2, 0x0338]]⟩,
  ⟨0x2204, 0x2204, [[0x2203, 0x0338]]⟩, ⟨0x2209, 0x2209, [[0x2208, 0x0338]]⟩,
  ⟨0x220C, 0x220C, [[0x220B, 0x0338]]⟩, ⟨0x2224, 0x2224, [[0x2223, 0x0338]]⟩,
  ⟨0x2226, 0x2226, [[0x2225, 0x0338]]⟩]

def page19 : RangeTable (List (List Nat)) := .page [
  ⟨0x222C, 0x222D, [[0x222B, 0x222B], [0x222B, 0x222B, 0x222B]]⟩,
  ⟨0x222F, 0x2230, [[0x222E, 0x222E], [0x222E, 0x222E, 0x222E]]⟩,
  ⟨0x2241, 0x2241, [[0x223C, 0x0338]]⟩, ⟨0x2244, 0x2244, [[0x2243, 0x0338]]⟩,
  ⟨0x2247, 0x2247, [[0x2245, 0x0338]]⟩, ⟨0x2249, 0x2249, [[0x2248, 0x0338]]⟩,
  ⟨0x2260, 0x2260, [[0x003D, 0x0338]]⟩, ⟨0x2262, 0x2262, [[0x2261, 0x0338]]⟩,
  ⟨0x226D, 0x2271, [[0x224D, 0x0338], [0x003C, 0x0338], [0x003E, 0x0338], [0x2264, 0x0338], [0x2265,
    0x0338]]⟩, ⟨0x2274, 0x2275, [[0x2272, 0x0338], [0x2273, 0x0338]]⟩,
  ⟨0x2278, 0x2279, [[0x2276, 0x0338], [0x2277, 0x0338]]⟩,
  ⟨0x2280, 0x2281, [[0x227A, 0x0338], [0x227B, 0x0338]]⟩]

def page20 : RangeTable (List (List Nat)) := .page [
  ⟨0x2284, 0x2285, [[0x2282, 0x0338], [0x2283, 0x0338]]⟩,
  ⟨0x2288, 0x2289, [[0x2286, 0x0338], [0x2287, 0x0338]]⟩,
  ⟨0x22AC, 0x22AF, [[0x22A2, 0x0338], [0x22A8, 0x0338], [0x22A9, 0x0338], [0x22AB, 0x0338]]⟩,
  ⟨0x22E0, 0x22E3, [[0x227C, 0x0338], [0x227D, 0x0338], [0x2291, 0x0338], [0x2292, 0x0338]]⟩,
  ⟨0x22EA, 0x22ED, [[0x22B2, 0x0338], [0x22B3, 0x0338], [0x22B4, 0x0338], [0x22B5, 0x0338]]⟩,
  ⟨0x2329, 0x232A, [[0x3008], [0x3009]]⟩,
  ⟨0x2460, 0x246F, [[0x0031], [0x0032], [0x0033], [0x0034], [0x0035], [0x0036], [0x0037], [0x0038],
    [0x0039], [0x0031, 0x0030], [0x0031, 0x0031], [0x0031, 0x0032], [0x0031, 0x0033], [0x0031,
    0x0034], [0x0031, 0x0035], [0x0031, 0x0036]]⟩,
  ⟨0x2470, 0x247F, [[0x0031, 0x0037], [0x0031, 0x0038], [0x0031, 0x0039], [0x0032, 0x0030], [0x0028,
    0x0031, 0x0029], [0x0028, 0x0032, 0x0029], [0x0028, 0x0033, 0x0029], [0x0028, 0x0034, 0x0029],
    [0x0028, 0x0035, 0x0029], [0x0028, 0x0036, 0x0029], [0x0028, 0x0037, 0x0029], [0x0028, 0x0038,
    0x0029], [0x0028, 0x0039, 0x0029], [0x0028, 0x0031, 0x0030, 0x0029], [0x0028, 0x0031, 0x0031,
    0x0029], [0x0028, 0x0031, 0x0032, 0x0029]]⟩,
  ⟨0x2480, 0x248F, [[0x0028, 0x0031, 0x0033, 0x0029], [0x0028, 0x0031, 0x0034, 0x0029], [0x0028,
    0x0031, 0x0035, 0x0029], [0x0028, 0x0031, 0x0036, 0x0029], [0x0028, 0x0031, 0x0037, 0x0029],
    [0x0028, 0x0031, 0x0038, 0x0029], [0x0028, 0x0031, 0x0039, 0x0029], [0x0028, 0x0032, 0x0030,
    0x0029], [0x0031, 0x002E], [0x0032, 0x002E], [0x0033, 0x002E], [0x0034, 0x002E], [0x0035,
    0x002E], [0x0036, 0x002E], [0x0037, 0x002E], [0x0038, 0x002E]]⟩,
  ⟨0x2490, 0x249F, [[0x0039, 0x002E], [0x0031, 0x0030, 0x002E], [0x0031, 0x0031, 0x002E], [0x0031,
    0x0032, 0x002E], [0x0031, 0x0033, 0x002E], [0x0031, 0x0034, 0x002E], [0x0031, 0x0035, 0x002E],
    [0x0031, 0x0036, 0x002E], [0x0031, 0x0037, 0x002E], [0x0031, 0x0038, 0x002E], [0x0031, 0x0039,
    0x002E], [0x0032, 0x0030, 0x002E], [0x0028, 0x0061, 0x0029], [0x0028, 0x0062, 0x0029], [0x0028,
    0x0063, 0x0029], [0x0028, 0x0064, 0x0029]]⟩,
  ⟨0x24A0, 0x24AF, [[0x0028, 0x0065, 0x0029], [0x0028, 0x0066, 0x0029], [0x0028, 0x0067, 0x0029],
    [0x0028, 0x0068, 0x0029], [0x0028, 0x0069, 0x0029], [0x0028, 0x006A, 0x0029], [0x0028, 0x006B,
    0x0029], [0x0028, 0x006C, 0x0029], [0x0028, 0x006D, 0x0029], [0x0028, 0x006E, 0x0029], [0x0028,
    0x006F, 0x0029], [0x0028, 0x0070, 0x0029], [0x0028, 0x0071, 0x0029], [0x0028, 0x0072, 0x0029],
    [0x0028, 0x0073, 0x0029], [0x0028, 0x0074, 0x0029]]⟩,
  ⟨0x24B0, 0x24BF, [[0x0028, 0x0075, 0x0029], [0x0028, 0x0076, 0x0029], [0x0028, 0x0077, 0x0029],
    [0x0028, 0x0078, 0x0029], [0x0028, 0x0079, 0x0029], [0x0028, 0x007A, 0x0029], [0x0041],
    [0x0042], [0x0043], [0x0044], [0x0045], [0x0046], [0x0047], [0x0048], [0x0049], [0x004A]]⟩]

def page21 : RangeTable (List (List Nat)) := .page [
  ⟨0x24C0, 0x24CF, [[0x004B], [0x004C], [0x004D], [0x004E], [0x004F], [0x0050], [0x0051], [0x0052],
    [0x0053], [0x0054], [0x0055], [0x0056], [0x0057], [0x0058], [0x0059], [0x005A]]⟩,
  ⟨0x24D0, 0x24DF, [[0x0061], [0x0062], [0x0063], [0x0064], [0x0065], [0x0066], [0x0067], [0x0068],
    [0x0069], [0x006A], [0x006B], [0x006C], [0x006D], [0x006E], [0x006F], [0x0070]]⟩,
  ⟨0x24E0, 0x24EA, [[0x0071], [0x0072], [0x0073], [0x0074], [0x0075], [0x0076], [0x0077], [0x0078],
    [0x0079], [0x007A], [0x0030]]⟩, ⟨0x2A0C, 0x2A0C, [[0x222B, 0x222B, 0x222B, 0x222B]]⟩,
  ⟨0x2A74, 0x2A76, [[0x003A, 0x003A, 0x003D], [0x003D, 0x003D], [0x003D, 0x003D, 0x003D]]⟩,
  ⟨0x2ADC, 0x2ADC, [[0x2ADD, 0x0338]]⟩, ⟨0x2C7C, 0x2C7D, [[0x006A], [0x0056]]⟩,
  ⟨0x2D6F, 0x2D6F, [[0x2D61]]⟩, ⟨0x2E9F, 0x2E9F, [[0x6BCD]]⟩, ⟨0x2EF3, 0x2EF3, [[0x9F9F]]⟩,
  ⟨0x2F00, 0x2F0F, [[0x4E00], [0x4E28], [0x4E36], [0x4E3F], [0x4E59], [0x4E85], [0x4E8C], [0x4EA0],
    [0x4EBA], [0x513F], [0x5165], [0x516B], [0x5182], [0x5196], [0x51AB], [0x51E0]]⟩,
  ⟨0x2F10, 0x2F1F, [[0x51F5], [0x5200], [0x529B], [0x52F9], [0x5315], [0x531A], [0x5338], [0x5341],
    [0x535C], [0x5369], [0x5382], [0x53B6], [0x53C8], [0x53E3], [0x56D7], [0x571F]]⟩]

def page22 : RangeTable (List (List Nat)) := .page [
  ⟨0x2F20, 0x2F2F, [[0x58EB], [0x5902], [0x590A], [0x5915], [0x5927], [0x5973], [0x5B50], [0x5B80],
    [0x5BF8], [0x5C0F], [0x5C22], [0x5C38], [0x5C6E], [0x5C71], [0x5DDB], [0x5DE5]]⟩,
  ⟨0x2F30, 0x2F3F, [[0x5DF1], [0x5DFE], [0x5E72], [0x5E7A], [0x5E7F], [0x5EF4], [0x5EFE], [0x5F0B],
    [0x5F13], [0x5F50], [0x5F61], [0x5F73], [0x5FC3], [0x6208], [0x6236], [0x624B]]⟩,
  ⟨0x2F40, 0x2F4F, [[0x652F], [0x6534], [0x6587], [0x6597], [0x65A4], [0x65B9], [0x65E0], [0x65E5],
    [0x66F0], [0x6708], [0x6728], [0x6B20], [0x6B62], [0x6B79], [0x6BB3], [0x6BCB]]⟩,
  ⟨0x2F50, 0x2F5F, [[0x6BD4], [0x6BDB], [0x6C0F], [0x6C14], [0x6C34], [0x706B], [0x722A], [0x7236],
    [0x723B], [0x723F], [0x7247], [0x7259], [0x725B], [0x72AC], [0x7384], [0x7389]]⟩,
  ⟨0x2F60, 0x2F6F, [[0x74DC], [0x74E6], [0x7518], [0x751F], [0x7528], [0x7530], [0x758B], [0x7592],
    [0x7676], [0x767D], [0x76AE], [0x76BF], [0x76EE], [0x77DB], [0x77E2], [0x77F3]]⟩,
  ⟨0x2F70, 0x2F7F, [[0x793A], [0x79B8], [0x79BE], [0x7A74], [0x7ACB], [0x7AF9], [0x7C73], [0x7CF8],
    [0x7F36], [0x7F51], [0x7F8A], [0x7FBD], [0x8001], [0x800C], [0x8012], [0x8033]]⟩,
  ⟨0x2F80, 0x2F8F, [[0x807F], [0x8089], [0x81E3], [0x81EA], [0x81F3], [0x81FC], [0x820C], [0x821B],
    [0x821F], [0x826E], [0x8272], [0x8278], [0x864D], [0x866B], [0x8840], [0x884C]]⟩,
  ⟨0x2F90, 0x2F9F, [[0x8863], [0x897E], [0x898B], [0x89D2], [0x8A00], [0x8C37], [0x8C46], [0x8C55],
    [0x8C78], [0x8C9D], [0x8D64], [0x8D70], [0x8DB3], [0x8EAB], [0x8ECA], [0x8F9B]]⟩,
  ⟨0x2FA0, 0x2FAF, [[0x8FB0], [0x8FB5], [0x9091], [0x9149], [0x91C6], [0x91CC], [0x91D1], [0x9577],
    [0x9580], [0x961C], [0x96B6], [0x96B9], [0x96E8], [0x9751], [0x975E], [0x9762]]⟩,
  ⟨0x2FB0, 0x2FBF, [[0x9769], [0x97CB], [0x97ED], [0x97F3], [0x9801], [0x98A8], [0x98DB], [0x98DF],
    [0x9996], [0x9999], [0x99AC], [0x9AA8], [0x9AD8], [0x9ADF], [0x9B25], [0x9B2F]]⟩,
  ⟨0x2FC0, 0x2FCF, [[0x9B32], [0x9B3C], [0x9B5A], [0x9CE5], [0x9E75], [0x9E7F], [0x9EA5], [0x9EBB],
    [0x9EC3], [0x9ECD], [0x9ED1], [0x9EF9], [0x9EFD], [0x9F0E], [0x9F13], [0x9F20]]⟩,
  ⟨0x2FD0, 0x2FD5, [[0x9F3B], [0x9F4A], [0x9F52], [0x9F8D], [0x9F9C], [0x9FA0]]⟩]

def page23 : RangeTable (List (List Nat)) := .page [
  ⟨0x3000, 0x3000, [[0x0020]]⟩, ⟨0x3036, 0x3036, [[0x3012]]⟩,
  ⟨0x3038, 0x303A, [[0x5341], [0x5344], [0x5345]]⟩, ⟨0x304C, 0x304C, [[0x304B, 0x3099]]⟩,
  ⟨0x304E, 0x304E, [[0x304D, 0x3099]]⟩, ⟨0x3050, 0x3050, [[0x304F, 0x3099]]⟩,
  ⟨0x3052, 0x3052, [[0x3051, 0x3099]]⟩, ⟨0x3054, 0x3054, [[0x3053, 0x3099]]⟩,
  ⟨0x3056, 0x3056, [[0x3055, 0x3099]]⟩, ⟨0x3058, 0x3058, [[0x3057, 0x3099]]⟩,
  ⟨0x305A, 0x305A, [[0x3059, 0x3099]]⟩, ⟨0x305C, 0x305C, [[0x305B, 0x3099]]⟩]

def page24 : RangeTable (List (List Nat)) := .page [
  ⟨0x305E, 0x305E, [[0x305D, 0x3099]]⟩, ⟨0x3060, 0x3060, [[0x305F, 0x3099]]⟩,
  ⟨0x3062, 0x3062, [[0x3061, 0x3099]]⟩, ⟨0x3065, 0x3065, [[0x3064, 0x3099]]⟩,
  ⟨0x3067, 0x3067, [[0x3066, 0x3099]]⟩, ⟨0x3069, 0x3069, [[0x3068, 0x3099]]⟩,
  ⟨0x3070, 0x3071, [[0x306F, 0x3099], [0x306F, 0x309A]]⟩,
  ⟨0x3073, 0x3074, [[0x3072, 0x3099], [0x3072, 0x309A]]⟩,
  ⟨0x3076, 0x3077, [[0x3075, 0x3099], [0x3075, 0x309A]]⟩,
  ⟨0x3079, 0x307A, [[0x3078, 0x3099], [0x3078, 0x309A]]⟩,
  ⟨0x307C, 0x307D, [[0x307B, 0x3099], [0x307B, 0x309A]]⟩, ⟨0x3094, 0x3094, [[0x3046, 0x3099]]⟩]

def page25 : RangeTable (List (List Nat)) := .page [
  ⟨0x309B, 0x309C, [[0x0020, 0x3099], [0x0020, 0x309A]]⟩,
  ⟨0x309E, 0x309F, [[0x309D, 0x3099], [0x3088, 0x308A]]⟩, ⟨0x30AC, 0x30AC, [[0x30AB, 0x3099]]⟩,
  ⟨0x30AE, 0x30AE, [[0x30AD, 0x3099]]⟩, ⟨0x30B0, 0x30B0, [[0x30AF, 0x3099]]⟩,
  ⟨0x30B2, 0x30B2, [[0x30B1, 0x3099]]⟩, ⟨0x30B4, 0x30B4, [[0x30B3, 0x3099]]⟩,
  ⟨0x30B6, 0x30B6, [[0x30B5, 0x3099]]⟩, ⟨0x30B8, 0x30B8, [[0x30B7, 0x3099]]⟩,
  ⟨0x30BA, 0x30BA, [[0x30B9, 0x3099]]⟩, ⟨0x30BC, 0x30BC, [[0x30BB, 0x3099]]⟩,
  ⟨0x30BE, 0x30BE, [[0x30BD, 0x3099]]⟩]

def page26 : RangeTable (List (List Nat)) := .page [
  ⟨0x30C0, 0x30C0, [[0x30BF, 0x3099]]⟩, ⟨0x30C2, 0x30C2, [[0x30C1, 0x3099]]⟩,
  ⟨0x30C5, 0x30C5, [[0x30C4, 0x3099]]⟩, ⟨0x30C7, 0x30C7, [[0x30C6, 0x3099]]⟩,
  ⟨0x30C9, 0x30C9, [[0x30C8, 0x3099]]⟩, ⟨0x30D0, 0x30D1, [[0x30CF, 0x3099], [0x30CF, 0x309A]]⟩,
  ⟨0x30D3, 0x30D4, [[0x30D2, 0x3099], [0x30D2, 0x309A]]⟩,
  ⟨0x30D6, 0x30D7, [[0x30D5, 0x3099], [0x30D5, 0x309A]]⟩,
  ⟨0x30D9, 0x30DA, [[0x30D8, 0x3099], [0x30D8, 0x309A]]⟩,
  ⟨0x30DC, 0x30DD, [[0x30DB, 0x3099], [0x30DB, 0x309A]]⟩, ⟨0x30F4, 0x30F4, [[0x30A6, 0x3099]]⟩,
  ⟨0x30F7, 0x30FA, [[0x30EF, 0x3099], [0x30F0, 0x3099], [0x30F1, 0x3099], [0x30F2, 0x3099]]⟩]

def page27 : RangeTable (List (List Nat)) := .page [
  ⟨0x30FE, 0x30FF, [[0x30FD, 0x3099], [0x30B3, 0x30C8]]⟩,
  ⟨0x3131, 0x3140, [[0x1100], [0x1101], [0x11AA], [0x1102], [0x11AC], [0x11AD], [0x1103], [0x1104],
    [0x1105], [0x11B0], [0x11B1], [0x11B2], [0x11B3], [0x11B4], [0x11B5], [0x111A]]⟩,
  ⟨0x3141, 0x3150, [[0x1106], [0x1107], [0x1108], [0x1121], [0x1109], [0x110A], [0x110B], [0x110C],
    [0x110D], [0x110E], [0x110F], [0x1110], [0x1111], [0x1112], [0x1161], [0x1162]]⟩,
  ⟨0x3151, 0x3160, [[0x1163], [0x1164], [0x1165], [0x1166], [0x1167], [0x1168], [0x1169], [0x116A],
    [0x116B], [0x116C], [0x116D], [0x116E], [0x116F], [0x1170], [0x1171], [0x1172]]⟩,
  ⟨0x3161, 0x3170, [[0x1173], [0x1174], [0x1175], [0x1160], [0x1114], [0x1115], [0x11C7], [0x11C8],
    [0x11CC], [0x11CE], [0x11D3], [0x11D7], [0x11D9], [0x111C], [0x11DD], [0x11DF]]⟩,
  ⟨0x3171, 0x3180, [[0x111D], [0x111E], [0x1120], [0x1122], [0x1123], [0x1127], [0x1129], [0x112B],
    [0x112C], [0x112D], [0x112E], [0x112F], [0x1132], [0x1136], [0x1140], [0x1147]]⟩,
  ⟨0x3181, 0x318E, [[0x114C], [0x11F1], [0x11F2], [0x1157], [0x1158], [0x1159], [0x1184], [0x1185],
    [0x1188], [0x1191], [0x1192], [0x1194], [0x119E], [0x11A1]]⟩,
  ⟨0x3192, 0x319F, [[0x4E00], [0x4E8C], [0x4E09], [0x56DB], [0x4E0A], [0x4E2D], [0x4E0B], [0x7532],
    [0x4E59], [0x4E19], [0x4E01], [0x5929], [0x5730], [0x4EBA]]⟩,
  ⟨0x3200, 0x320F, [[0x0028, 0x1100, 0x0029], [0x0028, 0x1102, 0x0029], [0x0028, 0x1103, 0x0029],
    [0x0028, 0x1105, 0x0029], [0x0028, 0x1106, 0x0029], [0x0028, 0x1107, 0x0029], [0x0028, 0x1109,
    0x0029], [0x0028, 0x110B, 0x0029], [0x0028, 0x110C, 0x0029], [0x0028, 0x110E, 0x0029], [0x0028,
    0x110F, 0x0029], [0x0028, 0x1110, 0x0029], [0x0028, 0x1111, 0x0029], [0x0028, 0x1112, 0x0029],
    [0x0028, 0x1100, 0x1161, 0x0029], [0x0028, 0x1102, 0x1161, 0x0029]]⟩,
  ⟨0x3210, 0x321E, [[0x0028, 0x1103, 0x1161, 0x0029], [0x0028, 0x1105, 0x1161, 0x0029], [0x0028,
    0x1106, 0x1161, 0x0029], [0x0028, 0x1107, 0x1161, 0x0029], [0x0028, 0x1109, 0x1161, 0x0029],
    [0x0028, 0x110B, 0x1161, 0x0029], [0x0028, 0x110C, 0x1161, 0x0029], [0x0028, 0x110E, 0x1161,
    0x0029], [0x0028, 0x110F, 0x1161, 0x0029], [0x0028, 0x1110, 0x1161, 0x0029], [0x0028, 0x1111,
    0x1161, 0x0029], [0x0028, 0x1112, 0x1161, 0x0029], [0x0028, 0x110C, 0x116E, 0x0029], [0x0028,
    0x110B, 0x1169, 0x110C, 0x1165, 0x11AB, 0x0029], [0x0028, 0x110B, 0x1169, 0x1112, 0x116E,
    0x0029]]⟩,
  ⟨0x3220, 0x322F, [[0x0028, 0x4E00, 0x0029], [0x0028, 0x4E8C, 0x0029], [0x0028, 0x4E09, 0x0029],
    [0x0028, 0x56DB, 0x0029], [0x0028, 0x4E94, 0x0029], [0x0028, 0x516D, 0x0029], [0x0028, 0x4E03,
    0x0029], [0x0028, 0x516B, 0x0029], [0x0028, 0x4E5D, 0x0029], [0x0028, 0x5341, 0x0029], [0x0028,
    0x6708, 0x0029], [0x0028, 0x706B, 0x0029], [0x0028, 0x6C34, 0x0029], [0x0028, 0x6728, 0x0029],
    [0x0028, 0x91D1, 0x0029], [0x0028, 0x571F, 0x0029]]⟩,
  ⟨0x3230, 0x323F, [[0x0028, 0x65E5, 0x0029], [0x0028, 0x682A, 0x0029], [0x0028, 0x6709, 0x0029],
    [0x0028, 0x793E, 0x0029], [0x0028, 0x540D, 0x0029], [0x0028, 0x7279, 0x0029], [0x0028, 0x8CA1,
    0x0029], [0x0028, 0x795D, 0x0029], [0x0028, 0x52B4, 0x0029], [0x0028, 0x4EE3, 0x0029], [0x0028,
    0x547C, 0x0029], [0x0028, 0x5B66, 0x0029], [0x0028, 0x76E3, 0x0029], [0x0028, 0x4F01, 0x0029],
    [0x0028, 0x8CC7, 0x0029], [0x0028, 0x5354, 0x0029]]⟩]

def page28 : RangeTable (List (List Nat)) := .page [
  ⟨0x3240, 0x3247, [[0x0028, 0x796D, 0x0029], [0x0028, 0x4F11, 0x0029], [0x0028, 0x81EA, 0x0029],
    [0x0028, 0x81F3, 0x0029], [0x554F], [0x5E7C], [0x6587], [0x7B8F]]⟩,
  ⟨0x3250, 0x325F, [[0x0050, 0x0054, 0x0045], [0x0032, 0x0031], [0x0032, 0x0032], [0x0032, 0x0033],
    [0x0032, 0x0034], [0x0032, 0x0035], [0x0032, 0x0036], [0x0032, 0x0037], [0x0032, 0x0038],
    [0x0032, 0x0039], [0x0033, 0x0030], [0x0033, 0x0031], [0x0033, 0x0032], [0x0033, 0x0033],
    [0x0033, 0x0034], [0x0033, 0x0035]]⟩,
  ⟨0x3260, 0x326F, [[0x1100], [0x1102], [0x1103], [0x1105], [0x1106], [0x1107], [0x1109], [0x110B],
    [0x110C], [0x110E], [0x110F], [0x1110], [0x1111], [0x1112], [0x1100, 0x1161], [0x1102,
    0x1161]]⟩,
  ⟨0x3270, 0x327E, [[0x1103, 0x1161], [0x1105, 0x1161], [0x1106, 0x1161], [0x1107, 0x1161], [0x1109,
    0x1161], [0x110B, 0x1161], [0x110C, 0x1161], [0x110E, 0x1161], [0x110F, 0x1161], [0x1110,
    0x1161], [0x1111, 0x1161], [0x1112, 0x1161], [0x110E, 0x1161, 0x11B7, 0x1100, 0x1169], [0x110C,
    0x116E, 0x110B, 0x1174], [0x110B, 0x116E]]⟩,
  ⟨0x3280, 0x328F, [[0x4E00], [0x4E8C], [0x4E09], [0x56DB], [0x4E94], [0x516D], [0x4E03], [0x516B],
    [0x4E5D], [0x5341], [0x6708], [0x706B], [0x6C34], [0x6728], [0x91D1], [0x571F]]⟩,
  ⟨0x3290, 0x329F, [[0x65E5], [0x682A], [0x6709], [0x793E], [0x540D], [0x7279], [0x8CA1], [0x795D],
    [0x52B4], [0x79D8], [0x7537], [0x5973], [0x9069], [0x512A], [0x5370], [0x6CE8]]⟩,
  ⟨0x32A0, 0x32AF, [[0x9805], [0x4F11], [0x5199], [0x6B63], [0x4E0A], [0x4E2D], [0x4E0B], [0x5DE6],
    [0x53F3], [0x533B], [0x5B97], [0x5B66], [0x76E3], [0x4F01], [0x8CC7], [0x5354]]⟩,
  ⟨0x32B0, 0x32BF, [[0x591C], [0x0033, 0x0036], [0x0033, 0x0037], [0x0033, 0x0038], [0x0033,
    0x0039], [0x0034, 0x0030], [0x0034, 0x0031], [0x0034, 0x0032], [0x0034, 0x0033], [0x0034,
    0x0034], [0x0034, 0x0035], [0x0034, 0x0036], [0x0034, 0x0037], [0x0034, 0x0038], [0x0034,
    0x0039], [0x0035, 0x0030]]⟩,
  ⟨0x32C0, 0x32CF, [[0x0031, 0x6708], [0x0032, 0x6708], [0x0033, 0x6708], [0x0034, 0x6708], [0x0035,
    0x6708], [0x0036, 0x6708], [0x0037, 0x6708], [0x0038, 0x6708], [0x0039, 0x6708], [0x0031,
    0x0030, 0x6708], [0x0031, 0x0031, 0x6708], [0x0031, 0x0032, 0x6708], [0x0048, 0x0067], [0x0065,
    0x0072, 0x0067], [0x0065, 0x0056], [0x004C, 0x0054, 0x0044]]⟩,
  ⟨0x32D0, 0x32DF, [[0x30A2], [0x30A4], [0x30A6], [0x30A8], [0x30AA], [0x30AB], [0x30AD], [0x30AF],
    [0x30B1], [0x30B3], [0x30B5], [0x30B7], [0x30B9], [0x30BB], [0x30BD], [0x30BF]]⟩,
  ⟨0x32E0, 0x32EF, [[0x30C1], [0x30C4], [0x30C6], [0x30C8], [0x30CA], [0x30CB], [0x30CC], [0x30CD],
    [0x30CE], [0x30CF], [0x30D2], [0x30D5], [0x30D8], [0x30DB], [0x30DE], [0x30DF]]⟩]

def page29 : RangeTable (List (List Nat)) := .page [
  ⟨0x32F0, 0x32FF, [[0x30E0], [0x30E1], [0x30E2], [0x30E4], [0x30E6], [0x30E8], [0x30E9], [0x30EA],
    [0x30EB], [0x30EC], [0x30ED], [0x30EF], [0x30F0], [0x30F1], [0x30F2], [0x4EE4, 0x548C]]⟩,
  ⟨0x3300, 0x330F, [[0x30A2, 0x30CF, 0x309A, 0x30FC, 0x30C8], [0x30A2, 0x30EB, 0x30D5, 0x30A1],
    [0x30A2, 0x30F3, 0x30D8, 0x309A, 0x30A2], [0x30A2, 0x30FC, 0x30EB], [0x30A4, 0x30CB, 0x30F3,
    0x30AF, 0x3099], [0x30A4, 0x30F3, 0x30C1], [0x30A6, 0x30A9, 0x30F3], [0x30A8, 0x30B9, 0x30AF,
    0x30FC, 0x30C8, 0x3099], [0x30A8, 0x30FC, 0x30AB, 0x30FC], [0x30AA, 0x30F3, 0x30B9], [0x30AA,
    0x30FC, 0x30E0], [0x30AB, 0x30A4, 0x30EA], [0x30AB, 0x30E9, 0x30C3, 0x30C8], [0x30AB, 0x30ED,
    0x30EA, 0x30FC], [0x30AB, 0x3099, 0x30ED, 0x30F3], [0x30AB, 0x3099, 0x30F3, 0x30DE]]⟩,
  ⟨0x3310, 0x331F, [[0x30AD, 0x3099, 0x30AB, 0x3099], [0x30AD, 0x3099, 0x30CB, 0x30FC], [0x30AD,
    0x30E5, 0x30EA, 0x30FC], [0x30AD, 0x3099, 0x30EB, 0x30BF, 0x3099, 0x30FC], [0x30AD, 0x30ED],
    [0x30AD, 0x30ED, 0x30AF, 0x3099, 0x30E9, 0x30E0], [0x30AD, 0x30ED, 0x30E1, 0x30FC, 0x30C8,
    0x30EB], [0x30AD, 0x30ED, 0x30EF, 0x30C3, 0x30C8], [0x30AF, 0x3099, 0x30E9, 0x30E0], [0x30AF,
    0x3099, 0x30E9, 0x30E0, 0x30C8, 0x30F3], [0x30AF, 0x30EB, 0x30BB, 0x3099, 0x30A4, 0x30ED],
    [0x30AF, 0x30ED, 0x30FC, 0x30CD], [0x30B1, 0x30FC, 0x30B9], [0x30B3, 0x30EB, 0x30CA], [0x30B3,
    0x30FC, 0x30DB, 0x309A], [0x30B5, 0x30A4, 0x30AF, 0x30EB]]⟩,
  ⟨0x3320, 0x332F, [[0x30B5, 0x30F3, 0x30C1, 0x30FC, 0x30E0], [0x30B7, 0x30EA, 0x30F3, 0x30AF,
    0x3099], [0x30BB, 0x30F3, 0x30C1], [0x30BB, 0x30F3, 0x30C8], [0x30BF, 0x3099, 0x30FC, 0x30B9],
    [0x30C6, 0x3099, 0x30B7], [0x30C8, 0x3099, 0x30EB], [0x30C8, 0x30F3], [0x30CA, 0x30CE], [0x30CE,
    0x30C3, 0x30C8], [0x30CF, 0x30A4, 0x30C4], [0x30CF, 0x309A, 0x30FC, 0x30BB, 0x30F3, 0x30C8],
    [0x30CF, 0x309A, 0x30FC, 0x30C4], [0x30CF, 0x3099, 0x30FC, 0x30EC, 0x30EB], [0x30D2, 0x309A,
    0x30A2, 0x30B9, 0x30C8, 0x30EB], [0x30D2, 0x309A, 0x30AF, 0x30EB]]⟩,
  ⟨0x3330, 0x333F, [[0x30D2, 0x309A, 0x30B3], [0x30D2, 0x3099, 0x30EB], [0x30D5, 0x30A1, 0x30E9,
    0x30C3, 0x30C8, 0x3099], [0x30D5, 0x30A3, 0x30FC, 0x30C8], [0x30D5, 0x3099, 0x30C3, 0x30B7,
    0x30A7, 0x30EB], [0x30D5, 0x30E9, 0x30F3], [0x30D8, 0x30AF, 0x30BF, 0x30FC, 0x30EB], [0x30D8,
    0x309A, 0x30BD], [0x30D8, 0x309A, 0x30CB, 0x30D2], [0x30D8, 0x30EB, 0x30C4], [0x30D8, 0x309A,
    0x30F3, 0x30B9], [0x30D8, 0x309A, 0x30FC, 0x30B7, 0x3099], [0x30D8, 0x3099, 0x30FC, 0x30BF],
    [0x30DB, 0x309A, 0x30A4, 0x30F3, 0x30C8], [0x30DB, 0x3099, 0x30EB, 0x30C8], [0x30DB, 0x30F3]]⟩,
  ⟨0x3340, 0x334F, [[0x30DB, 0x309A, 0x30F3, 0x30C8, 0x3099], [0x30DB, 0x30FC, 0x30EB], [0x30DB,
    0x30FC, 0x30F3], [0x30DE, 0x30A4, 0x30AF, 0x30ED], [0x30DE, 0x30A4, 0x30EB], [0x30DE, 0x30C3,
    0x30CF], [0x30DE, 0x30EB, 0x30AF], [0x30DE, 0x30F3, 0x30B7, 0x30E7, 0x30F3], [0x30DF, 0x30AF,
    0x30ED, 0x30F3], [0x30DF, 0x30EA], [0x30DF, 0x30EA, 0x30CF, 0x3099, 0x30FC, 0x30EB], [0x30E1,
    0x30AB, 0x3099], [0x30E1, 0x30AB, 0x3099, 0x30C8, 0x30F3], [0x30E1, 0x30FC, 0x30C8, 0x30EB],
    [0x30E4, 0x30FC, 0x30C8, 0x3099], [0x30E4, 0x30FC, 0x30EB]]⟩,
  ⟨0x3350, 0x335F, [[0x30E6, 0x30A2, 0x30F3], [0x30EA, 0x30C3, 0x30C8, 0x30EB], [0x30EA, 0x30E9],
    [0x30EB, 0x30D2, 0x309A, 0x30FC], [0x30EB, 0x30FC, 0x30D5, 0x3099, 0x30EB], [0x30EC, 0x30E0],
    [0x30EC, 0x30F3, 0x30C8, 0x30B1, 0x3099, 0x30F3], [0x30EF, 0x30C3, 0x30C8], [0x0030, 0x70B9],
    [0x0031, 0x70B9], [0x0032, 0x70B9], [0x0033, 0x70B9], [0x0034, 0x70B9], [0x0035, 0x70B9],
    [0x0036, 0x70B9], [0x0037, 0x70B9]]⟩,
  ⟨0x3360, 0x336F, [[0x0038, 0x70B9], [0x0039, 0x70B9], [0x0031, 0x0030, 0x70B9], [0x0031, 0x0031,
    0x70B9], [0x0031, 0x0032, 0x70B9], [0x0031, 0x0033, 0x70B9], [0x0031, 0x0034, 0x70B9], [0x0031,
    0x0035, 0x70B9], [0x0031, 0x0036, 0x70B9], [0x0031, 0x0037, 0x70B9], [0x0031, 0x0038, 0x70B9],
    [0x0031, 0x0039, 0x70B9], [0x0032, 0x0030, 0x70B9], [0x0032, 0x0031, 0x70B9], [0x0032, 0x0032,
    0x70B9], [0x0032, 0x0033, 0x70B9]]⟩,
  ⟨0x3370, 0x337F, [[0x0032, 0x0034, 0x70B9], [0x0068, 0x0050, 0x0061], [0x0064, 0x0061], [0x0041,
    0x0055], [0x0062, 0x0061, 0x0072], [0x006F, 0x0056], [0x0070, 0x0063], [0x0064, 0x006D],
    [0x0064, 0x006D, 0x0032], [0x0064, 0x006D, 0x0033], [0x0049, 0x0055], [0x5E73, 0x6210], [0x662D,
    0x548C], [0x5927, 0x6B63], [0x660E, 0x6CBB], [0x682A, 0x5F0F, 0x4F1A, 0x793E]]⟩,
  ⟨0x3380, 0x338F, [[0x0070, 0x0041], [0x006E, 0x0041], [0x03BC, 0x0041], [0x006D, 0x0041], [0x006B,
    0x0041], [0x004B, 0x0042], [0x004D, 0x0042], [0x0047, 0x0042], [0x0063, 0x0061, 0x006C],
    [0x006B, 0x0063, 0x0061, 0x006C], [0x0070, 0x0046], [0x006E, 0x0046], [0x03BC, 0x0046], [0x03BC,
    0x0067], [0x006D, 0x0067], [0x006B, 0x0067]]⟩,
  ⟨0x3390, 0x339F, [[0x0048, 0x007A], [0x006B, 0x0048, 0x007A], [0x004D, 0x0048, 0x007A], [0x0047,
    0x0048, 0x007A], [0x0054, 0x0048, 0x007A], [0x03BC, 0x006C], [0x006D, 0x006C], [0x0064, 0x006C],
    [0x006B, 0x006C], [0x0066, 0x006D], [0x006E, 0x006D], [0x03BC, 0x006D], [0x006D, 0x006D],
    [0x0063, 0x006D], [0x006B, 0x006D], [0x006D, 0x006D, 0x0032]]⟩,
  ⟨0x33A0, 0x33AF, [[0x0063, 0x006D, 0x0032], [0x006D, 0x0032], [0x006B, 0x006D, 0x0032], [0x006D,
    0x006D, 0x0033], [0x0063, 0x006D, 0x0033], [0x006D, 0x0033], [0x006B, 0x006D, 0x0033], [0x006D,
    0x2215, 0x0073], [0x006D, 0x2215, 0x0073, 0x0032], [0x0050, 0x0061], [0x006B, 0x0050, 0x0061],
    [0x004D, 0x0050, 0x0061], [0x0047, 0x0050, 0x0061], [0x0072, 0x0061, 0x0064], [0x0072, 0x0061,
    0x0064, 0x2215, 0x0073], [0x0072, 0x0061, 0x0064, 0x2215, 0x0073, 0x0032]]⟩]

def page30 : RangeTable (List (List Nat)) := .page [
  ⟨0x33B0, 0x33BF, [[0x0070, 0x0073], [0x006E, 0x0073], [0x03BC, 0x0073], [0x006D, 0x0073], [0x0070,
    0x0056], [0x006E, 0x0056], [0x03BC, 0x0056], [0x006D, 0x0056], [0x006B, 0x0056], [0x004D,
    0x0056], [0x0070, 0x0057], [0x006E, 0x0057], [0x03BC, 0x0057], [0x006D, 0x0057], [0x006B,
    0x0057], [0x004D, 0x0057]]⟩,
  ⟨0x33C0, 0x33CF, [[0x006B, 0x03A9], [0x004D, 0x03A9], [0x0061, 0x002E, 0x006D, 0x002E], [0x0042,
    0x0071], [0x0063, 0x0063], [0x0063, 0x0064], [0x0043, 0x2215, 0x006B, 0x0067], [0x0043, 0x006F,
    0x002E], [0x0064, 0x0042], [0x0047, 0x0079], [0x0068, 0x0061], [0x0048, 0x0050], [0x0069,
    0x006E], [0x004B, 0x004B], [0x004B, 0x004D], [0x006B, 0x0074]]⟩,
  ⟨0x33D0, 0x33DF, [[0x006C, 0x006D], [0x006C, 0x006E], [0x006C, 0x006F, 0x0067], [0x006C, 0x0078],
    [0x006D, 0x0062], [0x006D, 0x0069, 0x006C], [0x006D, 0x006F, 0x006C], [0x0050, 0x0048], [0x0070,
    0x002E, 0x006D, 0x002E], [0x0050, 0x0050, 0x004D], [0x0050, 0x0052], [0x0073, 0x0072], [0x0053,
    0x0076], [0x0057, 0x0062], [0x0056, 0x2215, 0x006D], [0x0041, 0x2215, 0x006D]]⟩,
  ⟨0x33E0, 0x33EF, [[0x0031, 0x65E5], [0x0032, 0x65E5], [0x0033, 0x65E5], [0x0034, 0x65E5], [0x0035,
    0x65E5], [0x0036, 0x65E5], [0x0037, 0x65E5], [0x0038, 0x65E5], [0x0039, 0x65E5], [0x0031,
    0x0030, 0x65E5], [0x0031, 0x0031, 0x65E5], [0x0031, 0x0032, 0x65E5], [0x0031, 0x0033, 0x65E5],
    [0x0031, 0x0034, 0x65E5], [0x0031, 0x0035, 0x65E5], [0x0031, 0x0036, 0x65E5]]⟩,
  ⟨0x33F0, 0x33FF, [[0x0031, 0x0037, 0x65E5], [0x0031, 0x0038, 0x65E5], [0x0031, 0x0039, 0x65E5],
    [0x0032, 0x0030, 0x65E5], [0x0032, 0x0031, 0x65E5], [0x0032, 0x0032, 0x65E5], [0x0032, 0x0033,
    0x65E5], [0x0032, 0x0034, 0x65E5], [0x0032, 0x0035, 0x65E5], [0x0032, 0x0036, 0x65E5], [0x0032,
    0x0037, 0x65E5], [0x0032, 0x0038, 0x65E5], [0x0032, 0x0039, 0x65E5], [0x0033, 0x0030, 0x65E5],
    [0x0033, 0x0031, 0x65E5], [0x0067, 0x0061, 0x006C]]⟩, ⟨0xA69C, 0xA69D, [[0x044A], [0x044C]]⟩,
  ⟨0xA770, 0xA770, [[0xA76F]]⟩, ⟨0xA7F2, 0xA7F4, [[0x0043], [0x0046], [0x0051]]⟩,
  ⟨0xA7F8, 0xA7F9, [[0x0126], [0x0153]]⟩,
  ⟨0xAB5C, 0xAB5F, [[0xA727], [0xAB37], [0x026B], [0xAB52]]⟩, ⟨0xAB69, 0xAB69, [[0x028D]]⟩,
  ⟨0xF900, 0xF90F, [[0x8C48], [0x66F4], [0x8ECA], [0x8CC8], [0x6ED1], [0x4E32], [0x53E5], [0x9F9C],
    [0x9F9C], [0x5951], [0x91D1], [0x5587], [0x5948], [0x61F6], [0x7669], [0x7F85]]⟩]

def page31 : RangeTable (List (List Nat)) := .page [
  ⟨0xF910, 0xF91F, [[0x863F], [0x87BA], [0x88F8], [0x908F], [0x6A02], [0x6D1B], [0x70D9], [0x73DE],
    [0x843D], [0x916A], [0x99F1], [0x4E82], [0x5375], [0x6B04], [0x721B], [0x862D]]⟩,
  ⟨0xF920, 0xF92F, [[0x9E1E], [0x5D50], [0x6FEB], [0x85CD], [0x8964], [0x62C9], [0x81D8], [0x881F],
    [0x5ECA], [0x6717], [0x6D6A], [0x72FC], [0x90CE], [0x4F86], [0x51B7], [0x52DE]]⟩,
  ⟨0xF930, 0xF93F, [[0x64C4], [0x6AD3], [0x7210], [0x76E7], [0x8001], [0x8606], [0x865C], [0x8DEF],
    [0x9732], [0x9B6F], [0x9DFA], [0x788C], [0x797F], [0x7DA0], [0x83C9], [0x9304]]⟩,
  ⟨0xF940, 0xF94F, [[0x9E7F], [0x8AD6], [0x58DF], [0x5F04], [0x7C60], [0x807E], [0x7262], [0x78CA],
    [0x8CC2], [0x96F7], [0x58D8], [0x5C62], [0x6A13], [0x6DDA], [0x6F0F], [0x7D2F]]⟩,
  ⟨0xF950, 0xF95F, [[0x7E37], [0x964B], [0x52D2], [0x808B], [0x51DC], [0x51CC], [0x7A1C], [0x7DBE],
    [0x83F1], [0x9675], [0x8B80], [0x62CF], [0x6A02], [0x8AFE], [0x4E39], [0x5BE7]]⟩,
  ⟨0xF960, 0xF96F, [[0x6012], [0x7387], [0x7570], [0x5317], [0x78FB], [0x4FBF], [0x5FA9], [0x4E0D],
    [0x6CCC], [0x6578], [0x7D22], [0x53C3], [0x585E], [0x7701], [0x8449], [0x8AAA]]⟩,
  ⟨0xF970, 0xF97F, [[0x6BBA], [0x8FB0], [0x6C88], [0x62FE], [0x82E5], [0x63A0], [0x7565], [0x4EAE],
    [0x5169], [0x51C9], [0x6881], [0x7CE7], [0x826F], [0x8AD2], [0x91CF], [0x52F5]]⟩,
  ⟨0xF980, 0xF98F, [[0x5442], [0x5973], [0x5EEC], [0x65C5], [0x6FFE], [0x792A], [0x95AD], [0x9A6A],
    [0x9E97], [0x9ECE], [0x529B], [0x66C6], [0x6B77], [0x8F62], [0x5E74], [0x6190]]⟩,
  ⟨0xF990, 0xF99F, [[0x6200], [0x649A], [0x6F23], [0x7149], [0x7489], [0x79CA], [0x7DF4], [0x806F],
    [0x8F26], [0x84EE], [0x9023], [0x934A], [0x5217], [0x52A3], [0x54BD], [0x70C8]]⟩,
  ⟨0xF9A0, 0xF9AF, [[0x88C2], [0x8AAA], [0x5EC9], [0x5FF5], [0x637B], [0x6BAE], [0x7C3E], [0x7375],
    [0x4EE4], [0x56F9], [0x5BE7], [0x5DBA], [0x601C], [0x73B2], [0x7469], [0x7F9A]]⟩,
  ⟨0xF9B0, 0xF9BF, [[0x8046], [0x9234], [0x96F6], [0x9748], [0x9818], [0x4F8B], [0x79AE], [0x91B4],
    [0x96B8], [0x60E1], [0x4E86], [0x50DA], [0x5BEE], [0x5C3F], [0x6599], [0x6A02]]⟩,
  ⟨0xF9C0, 0xF9CF, [[0x71CE], [0x7642], [0x84FC], [0x907C], [0x9F8D], [0x6688], [0x962E], [0x5289],
    [0x677B], [0x67F3], [0x6D41], [0x6E9C], [0x7409], [0x7559], [0x786B], [0x7D10]]⟩]

def page32 : RangeTable (List (List Nat)) := .page [
  ⟨0xF9D0, 0xF9DF, [[0x985E], [0x516D], [0x622E], [0x9678], [0x502B], [0x5D19], [0x6DEA], [0x8F2A],
    [0x5F8B], [0x6144], [0x6817], [0x7387], [0x9686], [0x5229], [0x540F], [0x5C65]]⟩,
  ⟨0xF9E0, 0xF9EF, [[0x6613], [0x674E], [0x68A8], [0x6CE5], [0x7406], [0x75E2], [0x7F79], [0x88CF],
    [0x88E1], [0x91CC], [0x96E2], [0x533F], [0x6EBA], [0x541D], [0x71D0], [0x7498]]⟩,
  ⟨0xF9F0, 0xF9FF, [[0x85FA], [0x96A3], [0x9C57], [0x9E9F], [0x6797], [0x6DCB], [0x81E8], [0x7ACB],
    [0x7B20], [0x7C92], [0x72C0], [0x7099], [0x8B58], [0x4EC0], [0x8336], [0x523A]]⟩,
  ⟨0xFA00, 0xFA0D, [[0x5207], [0x5EA6], [0x62D3], [0x7CD6], [0x5B85], [0x6D1E], [0x66B4], [0x8F3B],
    [0x884C], [0x964D], [0x898B], [0x5ED3], [0x5140], [0x55C0]]⟩, ⟨0xFA10, 0xFA10, [[0x585A]]⟩,
  ⟨0xFA12, 0xFA12, [[0x6674]]⟩,
  ⟨0xFA15, 0xFA1E, [[0x51DE], [0x732A], [0x76CA], [0x793C], [0x795E], [0x7965], [0x798F], [0x9756],
    [0x7CBE], [0x7FBD]]⟩, ⟨0xFA20, 0xFA20, [[0x8612]]⟩, ⟨0xFA22, 0xFA22, [[0x8AF8]]⟩,
  ⟨0xFA25, 0xFA26, [[0x9038], [0x90FD]]⟩,
  ⟨0xFA2A, 0xFA39, [[0x98EF], [0x98FC], [0x9928], [0x9DB4], [0x90DE], [0x96B7], [0x4FAE], [0x50E7],
    [0x514D], [0x52C9], [0x52E4], [0x5351], [0x559D], [0x5606], [0x5668], [0x5840]]⟩,
  ⟨0xFA3A, 0xFA49, [[0x58A8], [0x5C64], [0x5C6E], [0x6094], [0x6168], [0x618E], [0x61F2], [0x654F],
    [0x65E2], [0x6691], [0x6885], [0x6D77], [0x6E1A], [0x6F22], [0x716E], [0x722B]]⟩]

def page33 : RangeTable (List (List Nat)) := .page [
  ⟨0xFA4A, 0xFA59, [[0x7422], [0x7891], [0x793E], [0x7949], [0x7948], [0x7950], [0x7956], [0x795D],
    [0x798D], [0x798E], [0x7A40], [0x7A81], [0x7BC0], [0x7DF4], [0x7E09], [0x7E41]]⟩,
  ⟨0xFA5A, 0xFA69, [[0x7F72], [0x8005], [0x81ED], [0x8279], [0x8279], [0x8457], [0x8910], [0x8996],
    [0x8B01], [0x8B39], [0x8CD3], [0x8D08], [0x8FB6], [0x9038], [0x96E3], [0x97FF]]⟩,
  ⟨0xFA6A, 0xFA6D, [[0x983B], [0x6075], [0x242EE], [0x8218]]⟩,
  ⟨0xFA70, 0xFA7F, [[0x4E26], [0x51B5], [0x5168], [0x4F80], [0x5145], [0x5180], [0x52C7], [0x52FA],
    [0x559D], [0x5555], [0x5599], [0x55E2], [0x585A], [0x58B3], [0x5944], [0x5954]]⟩,
  ⟨0xFA80, 0xFA8F, [[0x5A62], [0x5B28], [0x5ED2], [0x5ED9], [0x5F69], [0x5FAD], [0x60D8], [0x614E],
    [0x6108], [0x618E], [0x6160], [0x61F2], [0x6234], [0x63C4], [0x641C], [0x6452]]⟩,
  ⟨0xFA90, 0xFA9F, [[0x6556], [0x6674], [0x6717], [0x671B], [0x6756], [0x6B79], [0x6BBA], [0x6D41],
    [0x6EDB], [0x6ECB], [0x6F22], [0x701E], [0x716E], [0x77A7], [0x7235], [0x72AF]]⟩,
  ⟨0xFAA0, 0xFAAF, [[0x732A], [0x7471], [0x7506], [0x753B], [0x761D], [0x761F], [0x76CA], [0x76DB],
    [0x76F4], [0x774A], [0x7740], [0x78CC], [0x7AB1], [0x7BC0], [0x7C7B], [0x7D5B]]⟩,
  ⟨0xFAB0, 0xFABF, [[0x7DF4], [0x7F3E], [0x8005], [0x8352], [0x83EF], [0x8779], [0x8941], [0x8986],
    [0x8996], [0x8ABF], [0x8AF8], [0x8ACB], [0x8B01], [0x8AFE], [0x8AED], [0x8B39]]⟩,
  ⟨0xFAC0, 0xFACF, [[0x8B8A], [0x8D08], [0x8F38], [0x9072], [0x9199], [0x9276], [0x967C], [0x96E3],
    [0x9756], [0x97DB], [0x97FF], [0x980B], [0x983B], [0x9B12], [0x9F9C], [0x2284A]]⟩,
  ⟨0xFAD0, 0xFAD9, [[0x22844], [0x233D5], [0x3B9D], [0x4018], [0x4039], [0x25249], [0x25CD0],
    [0x27ED3], [0x9F43], [0x9F8E]]⟩,
  ⟨0xFB00, 0xFB06, [[0x0066, 0x0066], [0x0066, 0x0069], [0x0066, 0x006C], [0x0066, 0x0066, 0x0069],
    [0x0066, 0x0066, 0x006C], [0x0073, 0x0074], [0x0073, 0x0074]]⟩,
  ⟨0xFB13, 0xFB17, [[0x0574, 0x0576], [0x0574, 0x0565], [0x0574, 0x056B], [0x057E, 0x0576], [0x0574,
    0x056D]]⟩]

def page34 : RangeTable (List (List Nat)) := .page [
  ⟨0xFB1D, 0xFB1D, [[0x05D9, 0x05B4]]⟩,
  ⟨0xFB1F, 0xFB2E, [[0x05F2, 0x05B7], [0x05E2], [0x05D0], [0x05D3], [0x05D4], [0x05DB], [0x05DC],
    [0x05DD], [0x05E8], [0x05EA], [0x002B], [0x05E9, 0x05C1], [0x05E9, 0x05C2], [0x05E9, 0x05BC,
    0x05C1], [0x05E9, 0x05BC, 0x05C2], [0x05D0, 0x05B7]]⟩,
  ⟨0xFB2F, 0xFB36, [[0x05D0, 0x05B8], [0x05D0, 0x05BC], [0x05D1, 0x05BC], [0x05D2, 0x05BC], [0x05D3,
    0x05BC], [0x05D4, 0x05BC], [0x05D5, 0x05BC], [0x05D6, 0x05BC]]⟩,
  ⟨0xFB38, 0xFB3C, [[0x05D8, 0x05BC], [0x05D9, 0x05BC], [0x05DA, 0x05BC], [0x05DB, 0x05BC], [0x05DC,
    0x05BC]]⟩, ⟨0xFB3E, 0xFB3E, [[0x05DE, 0x05BC]]⟩,
  ⟨0xFB40, 0xFB41, [[0x05E0, 0x05BC], [0x05E1, 0x05BC]]⟩,
  ⟨0xFB43, 0xFB44, [[0x05E3, 0x05BC], [0x05E4, 0x05BC]]⟩,
  ⟨0xFB46, 0xFB55, [[0x05E6, 0x05BC], [0x05E7, 0x05BC], [0x05E8, 0x05BC], [0x05E9, 0x05BC], [0x05EA,
    0x05BC], [0x05D5, 0x05B9], [0x05D1, 0x05BF], [0x05DB, 0x05BF], [0x05E4, 0x05BF], [0x05D0,
    0x05DC], [0x0671], [0x0671], [0x067B], [0x067B], [0x067B], [0x067B]]⟩,
  ⟨0xFB56, 0xFB65, [[0x067E], [0x067E], [0x067E], [0x067E], [0x0680], [0x0680], [0x0680], [0x0680],
    [0x067A], [0x067A], [0x067A], [0x067A], [0x067F], [0x067F], [0x067F], [0x067F]]⟩,
  ⟨0xFB66, 0xFB75, [[0x0679], [0x0679], [0x0679], [0x0679], [0x06A4], [0x06A4], [0x06A4], [0x06A4],
    [0x06A6], [0x06A6], [0x06A6], [0x06A6], [0x0684], [0x0684], [0x0684], [0x0684]]⟩,
  ⟨0xFB76, 0xFB85, [[0x0683], [0x0683], [0x0683], [0x0683], [0x0686], [0x0686], [0x0686], [0x0686],
    [0x0687], [0x0687], [0x0687], [0x0687], [0x068D], [0x068D], [0x068C], [0x068C]]⟩,
  ⟨0xFB86, 0xFB95, [[0x068E], [0x068E], [0x0688], [0x0688], [0x0698], [0x0698], [0x0691], [0x0691],
    [0x06A9], [0x06A9], [0x06A9], [0x06A9], [0x06AF], [0x06AF], [0x06AF], [0x06AF]]⟩]

def page35 : RangeTable (List (List Nat)) := .page [
  ⟨0xFB96, 0xFBA5, [[0x06B3], [0x06B3], [0x06B3], [0x06B3], [0x06B1], [0x06B1], [0x06B1], [0x06B1],
    [0x06BA], [0x06BA], [0x06BB], [0x06BB], [0x06BB], [0x06BB], [0x06D5, 0x0654], [0x06D5,
    0x0654]]⟩,
  ⟨0xFBA6, 0xFBB1, [[0x06C1], [0x06C1], [0x06C1], [0x06C1], [0x06BE], [0x06BE], [0x06BE], [0x06BE],
    [0x06D2], [0x06D2], [0x06D2, 0x0654], [0x06D2, 0x0654]]⟩,
  ⟨0xFBD3, 0xFBE2, [[0x06AD], [0x06AD], [0x06AD], [0x06AD], [0x06C7], [0x06C7], [0x06C6], [0x06C6],
    [0x06C8], [0x06C8], [0x06C7, 0x0674], [0x06CB], [0x06CB], [0x06C5], [0x06C5], [0x06C9]]⟩,
  ⟨0xFBE3, 0xFBF2, [[0x06C9], [0x06D0], [0x06D0], [0x06D0], [0x06D0], [0x0649], [0x0649], [0x064A,
    0x0654, 0x0627], [0x064A, 0x0654, 0x0627], [0x064A, 0x0654, 0x06D5], [0x064A, 0x0654, 0x06D5],
    [0x064A, 0x0654, 0x0648], [0x064A, 0x0654, 0x0648], [0x064A, 0x0654, 0x06C7], [0x064A, 0x0654,
    0x06C7], [0x064A, 0x0654, 0x06C6]]⟩,
  ⟨0xFBF3, 0xFC02, [[0x064A, 0x0654, 0x06C6], [0x064A, 0x0654, 0x06C8], [0x064A, 0x0654, 0x06C8],
    [0x064A, 0x0654, 0x06D0], [0x064A, 0x0654, 0x06D0], [0x064A, 0x0654, 0x06D0], [0x064A, 0x0654,
    0x0649], [0x064A, 0x0654, 0x0649], [0x064A, 0x0654, 0x0649], [0x06CC], [0x06CC], [0x06CC],
    [0x06CC], [0x064A, 0x0654, 0x062C], [0x064A, 0x0654, 0x062D], [0x064A, 0x0654, 0x0645]]⟩,
  ⟨0xFC03, 0xFC12, [[0x064A, 0x0654, 0x0649], [0x064A, 0x0654, 0x064A], [0x0628, 0x062C], [0x0628,
    0x062D], [0x0628, 0x062E], [0x0628, 0x0645], [0x0628, 0x0649], [0x0628, 0x064A], [0x062A,
    0x062C], [0x062A, 0x062D], [0x062A, 0x062E], [0x062A, 0x0645], [0x062A, 0x0649], [0x062A,
    0x064A], [0x062B, 0x062C], [0x062B, 0x0645]]⟩,
  ⟨0xFC13, 0xFC22, [[0x062B, 0x0649], [0x062B, 0x064A], [0x062C, 0x062D], [0x062C, 0x0645], [0x062D,
    0x062C], [0x062D, 0x0645], [0x062E, 0x062C], [0x062E, 0x062D], [0x062E, 0x0645], [0x0633,
    0x062C], [0x0633, 0x062D], [0x0633, 0x062E], [0x0633, 0x0645], [0x0635, 0x062D], [0x0635,
    0x0645], [0x0636, 0x062C]]⟩,
  ⟨0xFC23, 0xFC32, [[0x0636, 0x062D], [0x0636, 0x062E], [0x0636, 0x0645], [0x0637, 0x062D], [0x0637,
    0x0645], [0x0638, 0x0645], [0x0639, 0x062C], [0x0639, 0x0645], [0x063A, 0x062C], [0x063A,
    0x0645], [0x0641, 0x062C], [0x0641, 0x062D], [0x0641, 0x062E], [0x0641, 0x0645], [0x0641,
    0x0649], [0x0641, 0x064A]]⟩,
  ⟨0xFC33, 0xFC42, [[0x0642, 0x062D], [0x0642, 0x0645], [0x0642, 0x0649], [0x0642, 0x064A], [0x0643,
    0x0627], [0x0643, 0x062C], [0x0643, 0x062D], [0x0643, 0x062E], [0x0643, 0x0644], [0x0643,
    0x0645], [0x0643, 0x0649], [0x0643, 0x064A], [0x0644, 0x062C], [0x0644, 0x062D], [0x0644,
    0x062E], [0x0644, 0x0645]]⟩,
  ⟨0xFC43, 0xFC52, [[0x0644, 0x0649], [0x0644, 0x064A], [0x0645, 0x062C], [0x0645, 0x062D], [0x0645,
    0x062E], [0x0645, 0x0645], [0x0645, 0x0649], [0x0645, 0x064A], [0x0646, 0x062C], [0x0646,
    0x062D], [0x0646, 0x062E], [0x0646, 0x0645], [0x0646, 0x0649], [0x0646, 0x064A], [0x0647,
    0x062C], [0x0647, 0x0645]]⟩,
  ⟨0xFC53, 0xFC62, [[0x0647, 0x0649], [0x0647, 0x064A], [0x064A, 0x062C], [0x064A, 0x062D], [0x064A,
    0x062E], [0x064A, 0x0645], [0x064A, 0x0649], [0x064A, 0x064A], [0x0630, 0x0670], [0x0631,
    0x0670], [0x0649, 0x0670], [0x0020, 0x064C, 0x0651], [0x0020, 0x064D, 0x0651], [0x0020, 0x064E,
    0x0651], [0x0020, 0x064F, 0x0651], [0x0020, 0x0650, 0x0651]]⟩,
  ⟨0xFC63, 0xFC72, [[0x0020, 0x0651, 0x0670], [0x064A, 0x0654, 0x0631], [0x064A, 0x0654, 0x0632],
    [0x064A, 0x0654, 0x0645], [0x064A, 0x0654, 0x0646], [0x064A, 0x0654, 0x0649], [0x064A, 0x0654,
    0x064A], [0x0628, 0x0631], [0x0628, 0x0632], [0x0628, 0x0645], [0x0628, 0x0646], [0x0628,
    0x0649], [0x0628, 0x064A], [0x062A, 0x0631], [0x062A, 0x0632], [0x062A, 0x0645]]⟩]

def page36 : RangeTable (List (List Nat)) := .page [
  ⟨0xFC73, 0xFC82, [[0x062A, 0x0646], [0x062A, 0x0649], [0x062A, 0x064A], [0x062B, 0x0631], [0x062B,
    0x0632], [0x062B, 0x0645], [0x062B, 0x0646], [0x062B, 0x0649], [0x062B, 0x064A], [0x0641,
    0x0649], [0x0641, 0x064A], [0x0642, 0x0649], [0x0642, 0x064A], [0x0643, 0x0627], [0x0643,
    0x0644], [0x0643, 0x0645]]⟩,
  ⟨0xFC83, 0xFC92, [[0x0643, 0x0649], [0x0643, 0x064A], [0x0644, 0x0645], [0x0644, 0x0649], [0x0644,
    0x064A], [0x0645, 0x0627], [0x0645, 0x0645], [0x0646, 0x0631], [0x0646, 0x0632], [0x0646,
    0x0645], [0x0646, 0x0646], [0x0646, 0x0649], [0x0646, 0x064A], [0x0649, 0x0670], [0x064A,
    0x0631], [0x064A, 0x0632]]⟩,
  ⟨0xFC93, 0xFCA2, [[0x064A, 0x0645], [0x064A, 0x0646], [0x064A, 0x0649], [0x064A, 0x064A], [0x064A,
    0x0654, 0x062C], [0x064A, 0x0654, 0x062D], [0x064A, 0x0654, 0x062E], [0x064A, 0x0654, 0x0645],
    [0x064A, 0x0654, 0x0647], [0x0628, 0x062C], [0x0628, 0x062D], [0x0628, 0x062E], [0x0628,
    0x0645], [0x0628, 0x0647], [0x062A, 0x062C], [0x062A, 0x062D]]⟩,
  ⟨0xFCA3, 0xFCB2, [[0x062A, 0x062E], [0x062A, 0x0645], [0x062A, 0x0647], [0x062B, 0x0645], [0x062C,
    0x062D], [0x062C, 0x0645], [0x062D, 0x062C], [0x062D, 0x0645], [0x062E, 0x062C], [0x062E,
    0x0645], [0x0633, 0x062C], [0x0633, 0x062D], [0x0633, 0x062E], [0x0633, 0x0645], [0x0635,
    0x062D], [0x0635, 0x062E]]⟩,
  ⟨0xFCB3, 0xFCC2, [[0x0635, 0x0645], [0x0636, 0x062C], [0x0636, 0x062D], [0x0636, 0x062E], [0x0636,
    0x0645], [0x0637, 0x062D], [0x0638, 0x0645], [0x0639, 0x062C], [0x0639, 0x0645], [0x063A,
    0x062C], [0x063A, 0x0645], [0x0641, 0x062C], [0x0641, 0x062D], [0x0641, 0x062E], [0x0641,
    0x0645], [0x0642, 0x062D]]⟩,
  ⟨0xFCC3, 0xFCD2, [[0x0642, 0x0645], [0x0643, 0x062C], [0x0643, 0x062D], [0x0643, 0x062E], [0x0643,
    0x0644], [0x0643, 0x0645], [0x0644, 0x062C], [0x0644, 0x062D], [0x0644, 0x062E], [0x0644,
    0x0645], [0x0644, 0x0647], [0x0645, 0x062C], [0x0645, 0x062D], [0x0645, 0x062E], [0x0645,
    0x0645], [0x0646, 0x062C]]⟩,
  ⟨0xFCD3, 0xFCE2, [[0x0646, 0x062D], [0x0646, 0x062E], [0x0646, 0x0645], [0x0646, 0x0647], [0x0647,
    0x062C], [0x0647, 0x0645], [0x0647, 0x0670], [0x064A, 0x062C], [0x064A, 0x062D], [0x064A,
    0x062E], [0x064A, 0x0645], [0x064A, 0x0647], [0x064A, 0x0654, 0x0645], [0x064A, 0x0654, 0x0647],
    [0x0628, 0x0645], [0x0628, 0x0647]]⟩,
  ⟨0xFCE3, 0xFCF2, [[0x062A, 0x0645], [0x062A, 0x0647], [0x062B, 0x0645], [0x062B, 0x0647], [0x0633,
    0x0645], [0x0633, 0x0647], [0x0634, 0x0645], [0x0634, 0x0647], [0x0643, 0x0644], [0x0643,
    0x0645], [0x0644, 0x0645], [0x0646, 0x0645], [0x0646, 0x0647], [0x064A, 0x0645], [0x064A,
    0x0647], [0x0640, 0x064E, 0x0651]]⟩,
  ⟨0xFCF3, 0xFD02, [[0x0640, 0x064F, 0x0651], [0x0640, 0x0650, 0x0651], [0x0637, 0x0649], [0x0637,
    0x064A], [0x0639, 0x0649], [0x0639, 0x064A], [0x063A, 0x0649], [0x063A, 0x064A], [0x0633,
    0x0649], [0x0633, 0x064A], [0x0634, 0x0649], [0x0634, 0x064A], [0x062D, 0x0649], [0x062D,
    0x064A], [0x062C, 0x0649], [0x062C, 0x064A]]⟩,
  ⟨0xFD03, 0xFD12, [[0x062E, 0x0649], [0x062E, 0x064A], [0x0635, 0x0649], [0x0635, 0x064A], [0x0636,
    0x0649], [0x0636, 0x064A], [0x0634, 0x062C], [0x0634, 0x062D], [0x0634, 0x062E], [0x0634,
    0x0645], [0x0634, 0x0631], [0x0633, 0x0631], [0x0635, 0x0631], [0x0636, 0x0631], [0x0637,
    0x0649], [0x0637, 0x064A]]⟩,
  ⟨0xFD13, 0xFD22, [[0x0639, 0x0649], [0x0639, 0x064A], [0x063A, 0x0649], [0x063A, 0x064A], [0x0633,
    0x0649], [0x0633, 0x064A], [0x0634, 0x0649], [0x0634, 0x064A], [0x062D, 0x0649], [0x062D,
    0x064A], [0x062C, 0x0649], [0x062C, 0x064A], [0x062E, 0x0649], [0x062E, 0x064A], [0x0635,
    0x0649], [0x0635, 0x064A]]⟩,
  ⟨0xFD23, 0xFD32, [[0x0636, 0x0649], [0x0636, 0x064A], [0x0634, 0x062C], [0x0634, 0x062D], [0x0634,
    0x062E], [0x0634, 0x0645], [0x0634, 0x0631], [0x0633, 0x0631], [0x0635, 0x0631], [0x0636,
    0x0631], [0x0634, 0x062C], [0x0634, 0x062D], [0x0634, 0x062E], [0x0634, 0x0645], [0x0633,
    0x0647], [0x0634, 0x0647]]⟩]

def page37 : RangeTable (List (List Nat)) := .page [
  ⟨0xFD33, 0xFD3D, [[0x0637, 0x0645], [0x0633, 0x062C], [0x0633, 0x062D], [0x0633, 0x062E], [0x0634,
    0x062C], [0x0634, 0x062D], [0x0634, 0x062E], [0x0637, 0x0645], [0x0638, 0x0645], [0x0627,
    0x064B], [0x0627, 0x064B]]⟩,
  ⟨0xFD50, 0xFD5F, [[0x062A, 0x062C, 0x0645], [0x062A, 0x062D, 0x062C], [0x062A, 0x062D, 0x062C],
    [0x062A, 0x062D, 0x0645], [0x062A, 0x062E, 0x0645], [0x062A, 0x0645, 0x062C], [0x062A, 0x0645,
    0x062D], [0x062A, 0x0645, 0x062E], [0x062C, 0x0645, 0x062D], [0x062C, 0x0645, 0x062D], [0x062D,
    0x0645, 0x064A], [0x062D, 0x0645, 0x0649], [0x0633, 0x062D, 0x062C], [0x0633, 0x062C, 0x062D],
    [0x0633, 0x062C, 0x0649], [0x0633, 0x0645, 0x062D]]⟩,
  ⟨0xFD60, 0xFD6F, [[0x0633, 0x0645, 0x062D], [0x0633, 0x0645, 0x062C], [0x0633, 0x0645, 0x0645],
    [0x0633, 0x0645, 0x0645], [0x0635, 0x062D, 0x062D], [0x0635, 0x062D, 0x062D], [0x0635, 0x0645,
    0x0645], [0x0634, 0x062D, 0x0645], [0x0634, 0x062D, 0x0645], [0x0634, 0x062C, 0x064A], [0x0634,
    0x0645, 0x062E], [0x0634, 0x0645, 0x062E], [0x0634, 0x0645, 0x0645], [0x0634, 0x0645, 0x0645],
    [0x0636, 0x062D, 0x0649], [0x0636, 0x062E, 0x0645]]⟩,
  ⟨0xFD70, 0xFD7F, [[0x0636, 0x062E, 0x0645], [0x0637, 0x0645, 0x062D], [0x0637, 0x0645, 0x062D],
    [0x0637, 0x0645, 0x0645], [0x0637, 0x0645, 0x064A], [0x0639, 0x062C, 0x0645], [0x0639, 0x0645,
    0x0645], [0x0639, 0x0645, 0x0645], [0x0639, 0x0645, 0x0649], [0x063A, 0x0645, 0x0645], [0x063A,
    0x0645, 0x064A], [0x063A, 0x0645, 0x0649], [0x0641, 0x062E, 0x0645], [0x0641, 0x062E, 0x0645],
    [0x0642, 0x0645, 0x062D], [0x0642, 0x0645, 0x0645]]⟩,
  ⟨0xFD80, 0xFD8F, [[0x0644, 0x062D, 0x0645], [0x0644, 0x062D, 0x064A], [0x0644, 0x062D, 0x0649],
    [0x0644, 0x062C, 0x062C], [0x0644, 0x062C, 0x062C], [0x0644, 0x062E, 0x0645], [0x0644, 0x062E,
    0x0645], [0x0644, 0x0645, 0x062D], [0x0644, 0x0645, 0x062D], [0x0645, 0x062D, 0x062C], [0x0645,
    0x062D, 0x0645], [0x0645, 0x062D, 0x064A], [0x0645, 0x062C, 0x062D], [0x0645, 0x062C, 0x0645],
    [0x0645, 0x062E, 0x062C], [0x0645, 0x062E, 0x0645]]⟩,
  ⟨0xFD92, 0xFDA1, [[0x0645, 0x062C, 0x062E], [0x0647, 0x0645, 0x062C], [0x0647, 0x0645, 0x0645],
    [0x0646, 0x062D, 0x0645], [0x0646, 0x062D, 0x0649], [0x0646, 0x062C, 0x0645], [0x0646, 0x062C,
    0x0645], [0x0646, 0x062C, 0x0649], [0x0646, 0x0645, 0x064A], [0x0646, 0x0645, 0x0649], [0x064A,
    0x0645, 0x0645], [0x064A, 0x0645, 0x0645], [0x0628, 0x062E, 0x064A], [0x062A, 0x062C, 0x064A],
    [0x062A, 0x062C, 0x0649], [0x062A, 0x062E, 0x064A]]⟩,
  ⟨0xFDA2, 0xFDB1, [[0x062A, 0x062E, 0x0649], [0x062A, 0x0645, 0x064A], [0x062A, 0x0645, 0x0649],
    [0x062C, 0x0645, 0x064A], [0x062C, 0x062D, 0x0649], [0x062C, 0x0645, 0x0649], [0x0633, 0x062E,
    0x0649], [0x0635, 0x062D, 0x064A], [0x0634, 0x062D, 0x064A], [0x0636, 0x062D, 0x064A], [0x0644,
    0x062C, 0x064A], [0x0644, 0x0645, 0x064A], [0x064A, 0x062D, 0x064A], [0x064A, 0x062C, 0x064A],
    [0x064A, 0x0645, 0x064A], [0x0645, 0x0645, 0x064A]]⟩,
  ⟨0xFDB2, 0xFDC1, [[0x0642, 0x0645, 0x064A], [0x0646, 0x062D, 0x064A], [0x0642, 0x0645, 0x062D],
    [0x0644, 0x062D, 0x0645], [0x0639, 0x0645, 0x064A], [0x0643, 0x0645, 0x064A], [0x0646, 0x062C,
    0x062D], [0x0645, 0x062E, 0x064A], [0x0644, 0x062C, 0x0645], [0x0643, 0x0645, 0x0645], [0x0644,
    0x062C, 0x0645], [0x0646, 0x062C, 0x062D], [0x062C, 0x062D, 0x064A], [0x062D, 0x062C, 0x064A],
    [0x0645, 0x062C, 0x064A], [0x0641, 0x0645, 0x064A]]⟩,
  ⟨0xFDC2, 0xFDC7, [[0x0628, 0x062D, 0x064A], [0x0643, 0x0645, 0x0645], [0x0639, 0x062C, 0x0645],
    [0x0635, 0x0645, 0x0645], [0x0633, 0x062E, 0x064A], [0x0646, 0x062C, 0x064A]]⟩,
  ⟨0xFDF0, 0xFDFC, [[0x0635, 0x0644, 0x06D2], [0x0642, 0x0644, 0x06D2], [0x0627, 0x0644, 0x0644,
    0x0647], [0x0627, 0x0643, 0x0628, 0x0631], [0x0645, 0x062D, 0x0645, 0x062F], [0x0635, 0x0644,
    0x0639, 0x0645], [0x0631, 0x0633, 0x0648, 0x0644], [0x0639, 0x0644, 0x064A, 0x0647], [0x0648,
    0x0633, 0x0644, 0x0645], [0x0635, 0x0644, 0x0649], [0x0635, 0x0644, 0x0649, 0x0020, 0x0627,
    0x0644, 0x0644, 0x0647, 0x0020, 0x0639, 0x0644, 0x064A, 0x0647, 0x0020, 0x0648, 0x0633, 0x0644,
    0x0645], [0x062C, 0x0644, 0x0020, 0x062C, 0x0644, 0x0627, 0x0644, 0x0647], [0x0631, 0x06CC,
    0x0627, 0x0644]]⟩,
  ⟨0xFE10, 0xFE19, [[0x002C], [0x3001], [0x3002], [0x003A], [0x003B], [0x0021], [0x003F], [0x3016],
    [0x3017], [0x002E, 0x002E, 0x002E]]⟩,
  ⟨0xFE30, 0xFE3F, [[0x002E, 0x002E], [0x2014], [0x2013], [0x005F], [0x005F], [0x0028], [0x0029],
    [0x007B], [0x007D], [0x3014], [0x3015], [0x3010], [0x3011], [0x300A], [0x300B], [0x3008]]⟩]

def page38 : RangeTable (List (List Nat)) := .page [
  ⟨0xFE40, 0xFE44, [[0x3009], [0x300C], [0x300D], [0x300E], [0x300F]]⟩,
  ⟨0xFE47, 0xFE52, [[0x005B], [0x005D], [0x0020, 0x0305], [0x0020, 0x0305], [0x0020, 0x0305],
    [0x0020, 0x0305], [0x005F], [0x005F], [0x005F], [0x002C], [0x3001], [0x002E]]⟩,
  ⟨0xFE54, 0xFE63, [[0x003B], [0x003A], [0x003F], [0x0021], [0x2014], [0x0028], [0x0029], [0x007B],
    [0x007D], [0x3014], [0x3015], [0x0023], [0x0026], [0x002A], [0x002B], [0x002D]]⟩,
  ⟨0xFE64, 0xFE66, [[0x003C], [0x003E], [0x003D]]⟩,
  ⟨0xFE68, 0xFE6B, [[0x005C], [0x0024], [0x0025], [0x0040]]⟩,
  ⟨0xFE70, 0xFE72, [[0x0020, 0x064B], [0x0640, 0x064B], [0x0020, 0x064C]]⟩,
  ⟨0xFE74, 0xFE74, [[0x0020, 0x064D]]⟩,
  ⟨0xFE76, 0xFE85, [[0x0020, 0x064E], [0x0640, 0x064E], [0x0020, 0x064F], [0x0640, 0x064F], [0x0020,
    0x0650], [0x0640, 0x0650], [0x0020, 0x0651], [0x0640, 0x0651], [0x0020, 0x0652], [0x0640,
    0x0652], [0x0621], [0x0627, 0x0653], [0x0627, 0x0653], [0x0627, 0x0654], [0x0627, 0x0654],
    [0x0648, 0x0654]]⟩,
  ⟨0xFE86, 0xFE95, [[0x0648, 0x0654], [0x0627, 0x0655], [0x0627, 0x0655], [0x064A, 0x0654], [0x064A,
    0x0654], [0x064A, 0x0654], [0x064A, 0x0654], [0x0627], [0x0627], [0x0628], [0x0628], [0x0628],
    [0x0628], [0x0629], [0x0629], [0x062A]]⟩,
  ⟨0xFE96, 0xFEA5, [[0x062A], [0x062A], [0x062A], [0x062B], [0x062B], [0x062B], [0x062B], [0x062C],
    [0x062C], [0x062C], [0x062C], [0x062D], [0x062D], [0x062D], [0x062D], [0x062E]]⟩,
  ⟨0xFEA6, 0xFEB5, [[0x062E], [0x062E], [0x062E], [0x062F], [0x062F], [0x0630], [0x0630], [0x0631],
    [0x0631], [0x0632], [0x0632], [0x0633], [0x0633], [0x0633], [0x0633], [0x0634]]⟩,
  ⟨0xFEB6, 0xFEC5, [[0x0634], [0x0634], [0x0634], [0x0635], [0x0635], [0x0635], [0x0635], [0x0636],
    [0x0636], [0x0636], [0x0636], [0x0637], [0x0637], [0x0637], [0x0637], [0x0638]]⟩]

def page39 : RangeTable (List (List Nat)) := .page [
  ⟨0xFEC6, 0xFED5, [[0x0638], [0x0638], [0x0638], [0x0639], [0x0639], [0x0639], [0x0639], [0x063A],
    [0x063A], [0x063A], [0x063A], [0x0641], [0x0641], [0x0641], [0x0641], [0x0642]]⟩,
  ⟨0xFED6, 0xFEE5, [[0x0642], [0x0642], [0x0642], [0x0643], [0x0643], [0x0643], [0x0643], [0x0644],
    [0x0644], [0x0644], [0x0644], [0x0645], [0x0645], [0x0645], [0x0645], [0x0646]]⟩,
  ⟨0xFEE6, 0xFEF5, [[0x0646], [0x0646], [0x0646], [0x0647], [0x0647], [0x0647], [0x0647], [0x0648],
    [0x0648], [0x0649], [0x0649], [0x064A], [0x064A], [0x064A], [0x064A], [0x0644, 0x0627,
    0x0653]]⟩,
  ⟨0xFEF6, 0xFEFC, [[0x0644, 0x0627, 0x0653], [0x0644, 0x0627, 0x0654], [0x0644, 0x0627, 0x0654],
    [0x0644, 0x0627, 0x0655], [0x0644, 0x0627, 0x0655], [0x0644, 0x0627], [0x0644, 0x0627]]⟩,
  ⟨0xFF01, 0xFF10, [[0x0021], [0x0022], [0x0023], [0x0024], [0x0025], [0x0026], [0x0027], [0x0028],
    [0x0029], [0x002A], [0x002B], [0x002C], [0x002D], [0x002E], [0x002F], [0x0030]]⟩,
  ⟨0xFF11, 0xFF20, [[0x0031], [0x0032], [0x0033], [0x0034], [0x0035], [0x0036], [0x0037], [0x0038],
    [0x0039], [0x003A], [0x003B], [0x003C], [0x003D], [0x003E], [0x003F], [0x0040]]⟩,
  ⟨0xFF21, 0xFF30, [[0x0041], [0x0042], [0x0043], [0x0044], [0x0045], [0x0046], [0x0047], [0x0048],
    [0x0049], [0x004A], [0x004B], [0x004C], [0x004D], [0x004E], [0x004F], [0x0050]]⟩,
  ⟨0xFF31, 0xFF40, [[0x0051], [0x0052], [0x0053], [0x0054], [0x0055], [0x0056], [0x0057], [0x0058],
    [0x0059], [0x005A], [0x005B], [0x005C], [0x005D], [0x005E], [0x005F], [0x0060]]⟩,
  ⟨0xFF41, 0xFF50, [[0x0061], [0x0062], [0x0063], [0x0064], [0x0065], [0x0066], [0x0067], [0x0068],
    [0x0069], [0x006A], [0x006B], [0x006C], [0x006D], [0x006E], [0x006F], [0x0070]]⟩,
  ⟨0xFF51, 0xFF60, [[0x0071], [0x0072], [0x0073], [0x0074], [0x0075], [0x0076], [0x0077], [0x0078],
    [0x0079], [0x007A], [0x007B], [0x007C], [0x007D], [0x007E], [0x2985], [0x2986]]⟩,
  ⟨0xFF61, 0xFF70, [[0x3002], [0x300C], [0x300D], [0x3001], [0x30FB], [0x30F2], [0x30A1], [0x30A3],
    [0x30A5], [0x30A7], [0x30A9], [0x30E3], [0x30E5], [0x30E7], [0x30C3], [0x30FC]]⟩,
  ⟨0xFF71, 0xFF80, [[0x30A2], [0x30A4], [0x30A6], [0x30A8], [0x30AA], [0x30AB], [0x30AD], [0x30AF],
    [0x30B1], [0x30B3], [0x30B5], [0x30B7], [0x30B9], [0x30BB], [0x30BD], [0x30BF]]⟩]

def page40 : RangeTable (List (List Nat)) := .page [
  ⟨0xFF81, 0xFF90, [[0x30C1], [0x30C4], [0x30C6], [0x30C8], [0x30CA], [0x30CB], [0x30CC], [0x30CD],
    [0x30CE], [0x30CF], [0x30D2], [0x30D5], [0x30D8], [0x30DB], [0x30DE], [0x30DF]]⟩,
  ⟨0xFF91, 0xFFA0, [[0x30E0], [0x30E1], [0x30E2], [0x30E4], [0x30E6], [0x30E8], [0x30E9], [0x30EA],
    [0x30EB], [0x30EC], [0x30ED], [0x30EF], [0x30F3], [0x3099], [0x309A], [0x1160]]⟩,
  ⟨0xFFA1, 0xFFB0, [[0x1100], [0x1101], [0x11AA], [0x1102], [0x11AC], [0x11AD], [0x1103], [0x1104],
    [0x1105], [0x11B0], [0x11B1], [0x11B2], [0x11B3], [0x11B4], [0x11B5], [0x111A]]⟩,
  ⟨0xFFB1, 0xFFBE, [[0x1106], [0x1107], [0x1108], [0x1121], [0x1109], [0x110A], [0x110B], [0x110C],
    [0x110D], [0x110E], [0x110F], [0x1110], [0x1111], [0x1112]]⟩,
  ⟨0xFFC2, 0xFFC7, [[0x1161], [0x1162], [0x1163], [0x1164], [0x1165], [0x1166]]⟩,
  ⟨0xFFCA, 0xFFCF, [[0x1167], [0x1168], [0x1169], [0x116A], [0x116B], [0x116C]]⟩,
  ⟨0xFFD2, 0xFFD7, [[0x116D], [0x116E], [0x116F], [0x1170], [0x1171], [0x1172]]⟩,
  ⟨0xFFDA, 0xFFDC, [[0x1173], [0x1174], [0x1175]]⟩,
  ⟨0xFFE0, 0xFFE6, [[0x00A2], [0x00A3], [0x00AC], [0x0020, 0x0304], [0x00A6], [0x00A5], [0x20A9]]⟩,
  ⟨0xFFE8, 0xFFEE, [[0x2502], [0x2190], [0x2191], [0x2192], [0x2193], [0x25A0], [0x25CB]]⟩,
  ⟨0x105C9, 0x105C9, [[0x105D2, 0x0307]]⟩, ⟨0x105E4, 0x105E4, [[0x105DA, 0x0307]]⟩]

def page41 : RangeTable (List (List Nat)) := .page [
  ⟨0x10781, 0x10785, [[0x02D0], [0x02D1], [0x00E6], [0x0299], [0x0253]]⟩,
  ⟨0x10787, 0x10796, [[0x02A3], [0xAB66], [0x02A5], [0x02A4], [0x0256], [0x0257], [0x1D91],
    [0x0258], [0x025E], [0x02A9], [0x0264], [0x0262], [0x0260], [0x029B], [0x0127], [0x029C]]⟩,
  ⟨0x10797, 0x107A6, [[0x0267], [0x0284], [0x02AA], [0x02AB], [0x026C], [0x1DF04], [0xA78E],
    [0x026E], [0x1DF05], [0x028E], [0x1DF06], [0x00F8], [0x0276], [0x0277], [0x0071], [0x027A]]⟩,
  ⟨0x107A7, 0x107B0, [[0x1DF08], [0x027D], [0x027E], [0x0280], [0x02A8], [0x02A6], [0xAB67],
    [0x02A7], [0x0288], [0x2C71]]⟩,
  ⟨0x107B2, 0x107BA, [[0x028F], [0x02A1], [0x02A2], [0x0298], [0x01C0], [0x01C1], [0x01C2],
    [0x1DF0A], [0x1DF1E]]⟩, ⟨0x1109A, 0x1109A, [[0x11099, 0x110BA]]⟩,
  ⟨0x1109C, 0x1109C, [[0x1109B, 0x110BA]]⟩, ⟨0x110AB, 0x110AB, [[0x110A5, 0x110BA]]⟩,
  ⟨0x1112E, 0x1112F, [[0x11131, 0x11127], [0x11132, 0x11127]]⟩,
  ⟨0x1134B, 0x1134C, [[0x11347, 0x1133E], [0x11347, 0x11357]]⟩,
  ⟨0x11383, 0x11383, [[0x11382, 0x113C9]]⟩, ⟨0x11385, 0x11385, [[0x11384, 0x113BB]]⟩]

def page42 : RangeTable (List (List Nat)) := .page [
  ⟨0x1138E, 0x1138E, [[0x1138B, 0x113C2]]⟩, ⟨0x11391, 0x11391, [[0x11390, 0x113C9]]⟩,
  ⟨0x113C5, 0x113C5, [[0x113C2, 0x113C2]]⟩,
  ⟨0x113C7, 0x113C8, [[0x113C2, 0x113B8], [0x113C2, 0x113C9]]⟩,
  ⟨0x114BB, 0x114BC, [[0x114B9, 0x114BA], [0x114B9, 0x114B0]]⟩,
  ⟨0x114BE, 0x114BE, [[0x114B9, 0x114BD]]⟩,
  ⟨0x115BA, 0x115BB, [[0x115B8, 0x115AF], [0x115B9, 0x115AF]]⟩,
  ⟨0x11938, 0x11938, [[0x11935, 0x11930]]⟩,
  ⟨0x16121, 0x16128, [[0x1611E, 0x1611E], [0x1611E, 0x16129], [0x1611E, 0x1611F], [0x16129,
    0x1611F], [0x1611E, 0x16120], [0x1611E, 0x1611E, 0x1611F], [0x1611E, 0x16129, 0x1611F],
    [0x1611E, 0x1611E, 0x16120]]⟩,
  ⟨0x16D68, 0x16D6A, [[0x16D67, 0x16D67], [0x16D63, 0x16D67], [0x16D63, 0x16D67, 0x16D67]]⟩,
  ⟨0x1CCD6, 0x1CCE5, [[0x0041], [0x0042], [0x0043], [0x0044], [0x0045], [0x0046], [0x0047],
    [0x0048], [0x0049], [0x004A], [0x004B], [0x004C], [0x004D], [0x004E], [0x004F], [0x0050]]⟩,
  ⟨0x1CCE6, 0x1CCF5, [[0x0051], [0x0052], [0x0053], [0x0054], [0x0055], [0x0056], [0x0057],
    [0x0058], [0x0059], [0x005A], [0x0030], [0x0031], [0x0032], [0x0033], [0x0034], [0x0035]]⟩]

def page43 : RangeTable (List (List Nat)) := .page [
  ⟨0x1CCF6, 0x1CCF9, [[0x0036], [0x0037], [0x0038], [0x0039]]⟩,
  ⟨0x1D15E, 0x1D164, [[0x1D157, 0x1D165], [0x1D158, 0x1D165], [0x1D158, 0x1D165, 0x1D16E], [0x1D158,
    0x1D165, 0x1D16F], [0x1D158, 0x1D165, 0x1D170], [0x1D158, 0x1D165, 0x1D171], [0x1D158, 0x1D165,
    0x1D172]]⟩,
  ⟨0x1D1BB, 0x1D1C0, [[0x1D1B9, 0x1D165], [0x1D1BA, 0x1D165], [0x1D1B9, 0x1D165, 0x1D16E], [0x1D1BA,
    0x1D165, 0x1D16E], [0x1D1B9, 0x1D165, 0x1D16F], [0x1D1BA, 0x1D165, 0x1D16F]]⟩,
  ⟨0x1D400, 0x1D40F, [[0x0041], [0x0042], [0x0043], [0x0044], [0x0045], [0x0046], [0x0047],
    [0x0048], [0x0049], [0x004A], [0x004B], [0x004C], [0x004D], [0x004E], [0x004F], [0x0050]]⟩,
  ⟨0x1D410, 0x1D41F, [[0x0051], [0x0052], [0x0053], [0x0054], [0x0055], [0x0056], [0x0057],
    [0x0058], [0x0059], [0x005A], [0x0061], [0x0062], [0x0063], [0x0064], [0x0065], [0x0066]]⟩,
  ⟨0x1D420, 0x1D42F, [[0x0067], [0x0068], [0x0069], [0x006A], [0x006B], [0x006C], [0x006D],
    [0x006E], [0x006F], [0x0070], [0x0071], [0x0072], [0x0073], [0x0074], [0x0075], [0x0076]]⟩,
  ⟨0x1D430, 0x1D43F, [[0x0077], [0x0078], [0x0079], [0x007A], [0x0041], [0x0042], [0x0043],
    [0x0044], [0x0045], [0x0046], [0x0047], [0x0048], [0x0049], [0x004A], [0x004B], [0x004C]]⟩,
  ⟨0x1D440, 0x1D44F, [[0x004D], [0x004E], [0x004F], [0x0050], [0x0051], [0x0052], [0x0053],
    [0x0054], [0x0055], [0x0056], [0x0057], [0x0058], [0x0059], [0x005A], [0x0061], [0x0062]]⟩,
  ⟨0x1D450, 0x1D454, [[0x0063], [0x0064], [0x0065], [0x0066], [0x0067]]⟩,
  ⟨0x1D456, 0x1D465, [[0x0069], [0x006A], [0x006B], [0x006C], [0x006D], [0x006E], [0x006F],
    [0x0070], [0x0071], [0x0072], [0x0073], [0x0074], [0x0075], [0x0076], [0x0077], [0x0078]]⟩,
  ⟨0x1D466, 0x1D475, [[0x0079], [0x007A], [0x0041], [0x0042], [0x0043], [0x0044], [0x0045],
    [0x0046], [0x0047], [0x0048], [0x0049], [0x004A], [0x004B], [0x004C], [0x004D], [0x004E]]⟩,
  ⟨0x1D476, 0x1D485, [[0x004F], [0x0050], [0x0051], [0x0052], [0x0053], [0x0054], [0x0055],
    [0x0056], [0x0057], [0x0058], [0x0059], [0x005A], [0x0061], [0x0062], [0x0063], [0x0064]]⟩]

def page44 : RangeTable (List (List Nat)) := .page [
  ⟨0x1D486, 0x1D495, [[0x0065], [0x0066], [0x0067], [0x0068], [0x0069], [0x006A], [0x006B],
    [0x006C], [0x006D], [0x006E], [0x006F], [0x0070], [0x0071], [0x0072], [0x0073], [0x0074]]⟩,
  ⟨0x1D496, 0x1D49C, [[0x0075], [0x0076], [0x0077], [0x0078], [0x0079], [0x007A], [0x0041]]⟩,
  ⟨0x1D49E, 0x1D49F, [[0x0043], [0x0044]]⟩, ⟨0x1D4A2, 0x1D4A2, [[0x0047]]⟩,
  ⟨0x1D4A5, 0x1D4A6, [[0x004A], [0x004B]]⟩,
  ⟨0x1D4A9, 0x1D4AC, [[0x004E], [0x004F], [0x0050], [0x0051]]⟩,
  ⟨0x1D4AE, 0x1D4B9, [[0x0053], [0x0054], [0x0055], [0x0056], [0x0057], [0x0058], [0x0059],
    [0x005A], [0x0061], [0x0062], [0x0063], [0x0064]]⟩, ⟨0x1D4BB, 0x1D4BB, [[0x0066]]⟩,
  ⟨0x1D4BD, 0x1D4C3, [[0x0068], [0x0069], [0x006A], [0x006B], [0x006C], [0x006D], [0x006E]]⟩,
  ⟨0x1D4C5, 0x1D4D4, [[0x0070], [0x0071], [0x0072], [0x0073], [0x0074], [0x0075], [0x0076],
    [0x0077], [0x0078], [0x0079], [0x007A], [0x0041], [0x0042], [0x0043], [0x0044], [0x0045]]⟩,
  ⟨0x1D4D5, 0x1D4E4, [[0x0046], [0x0047], [0x0048], [0x0049], [0x004A], [0x004B], [0x004C],
    [0x004D], [0x004E], [0x004F], [0x0050], [0x0051], [0x0052], [0x0053], [0x0054], [0x0055]]⟩,
  ⟨0x1D4E5, 0x1D4F4, [[0x0056], [0x0057], [0x0058], [0x0059], [0x005A], [0x0061], [0x0062],
    [0x0063], [0x0064], [0x0065], [0x0066], [0x0067], [0x0068], [0x0069], [0x006A], [0x006B]]⟩]

def page45 : RangeTable (List (List Nat)) := .page [
  ⟨0x1D4F5, 0x1D504, [[0x006C], [0x006D], [0x006E], [0x006F], [0x0070], [0x0071], [0x0072],
    [0x0073], [0x0074], [0x0075], [0x0076], [0x0077], [0x0078], [0x0079], [0x007A], [0x0041]]⟩,
  ⟨0x1D505, 0x1D505, [[0x0042]]⟩, ⟨0x1D507, 0x1D50A, [[0x0044], [0x0045], [0x0046], [0x0047]]⟩,
  ⟨0x1D50D, 0x1D514, [[0x004A], [0x004B], [0x004C], [0x004D], [0x004E], [0x004F], [0x0050],
    [0x0051]]⟩,
  ⟨0x1D516, 0x1D51C, [[0x0053], [0x0054], [0x0055], [0x0056], [0x0057], [0x0058], [0x0059]]⟩,
  ⟨0x1D51E, 0x1D52D, [[0x0061], [0x0062], [0x0063], [0x0064], [0x0065], [0x0066], [0x0067],
    [0x0068], [0x0069], [0x006A], [0x006B], [0x006C], [0x006D], [0x006E], [0x006F], [0x0070]]⟩,
  ⟨0x1D52E, 0x1D539, [[0x0071], [0x0072], [0x0073], [0x0074], [0x0075], [0x0076], [0x0077],
    [0x0078], [0x0079], [0x007A], [0x0041], [0x0042]]⟩,
  ⟨0x1D53B, 0x1D53E, [[0x0044], [0x0045], [0x0046], [0x0047]]⟩,
  ⟨0x1D540, 0x1D544, [[0x0049], [0x004A], [0x004B], [0x004C], [0x004D]]⟩,
  ⟨0x1D546, 0x1D546, [[0x004F]]⟩,
  ⟨0x1D54A, 0x1D550, [[0x0053], [0x0054], [0x0055], [0x0056], [0x0057], [0x0058], [0x0059]]⟩,
  ⟨0x1D552, 0x1D561, [[0x0061], [0x0062], [0x0063], [0x0064], [0x0065], [0x0066], [0x0067],
    [0x0068], [0x0069], [0x006A], [0x006B], [0x006C], [0x006D], [0x006E], [0x006F], [0x0070]]⟩]

def page46 : RangeTable (List (List Nat)) := .page [
  ⟨0x1D562, 0x1D571, [[0x0071], [0x0072], [0x0073], [0x0074], [0x0075], [0x0076], [0x0077],
    [0x0078], [0x0079], [0x007A], [0x0041], [0x0042], [0x0043], [0x0044], [0x0045], [0x0046]]⟩,
  ⟨0x1D572, 0x1D581, [[0x0047], [0x0048], [0x0049], [0x004A], [0x004B], [0x004C], [0x004D],
    [0x004E], [0x004F], [0x0050], [0x0051], [0x0052], [0x0053], [0x0054], [0x0055], [0x0056]]⟩,
  ⟨0x1D582, 0x1D591, [[0x0057], [0x0058], [0x0059], [0x005A], [0x0061], [0x0062], [0x0063],
    [0x0064], [0x0065], [0x0066], [0x0067], [0x0068], [0x0069], [0x006A], [0x006B], [0x006C]]⟩,
  ⟨0x1D592, 0x1D5A1, [[0x006D], [0x006E], [0x006F], [0x0070], [0x0071], [0x0072], [0x0073],
    [0x0074], [0x0075], [0x0076], [0x0077], [0x0078], [0x0079], [0x007A], [0x0041], [0x0042]]⟩,
  ⟨0x1D5A2, 0x1D5B1, [[0x0043], [0x0044], [0x0045], [0x0046], [0x0047], [0x0048], [0x0049],
    [0x004A], [0x004B], [0x004C], [0x004D], [0x004E], [0x004F], [0x0050], [0x0051], [0x0052]]⟩,
  ⟨0x1D5B2, 0x1D5C1, [[0x0053], [0x0054], [0x0055], [0x0056], [0x0057], [0x0058], [0x0059],
    [0x005A], [0x0061], [0x0062], [0x0063], [0x0064], [0x0065], [0x0066], [0x0067], [0x0068]]⟩,
  ⟨0x1D5C2, 0x1D5D1, [[0x0069], [0x006A], [0x006B], [0x006C], [0x006D], [0x006E], [0x006F],
    [0x0070], [0x0071], [0x0072], [0x0073], [0x0074], [0x0075], [0x0076], [0x0077], [0x0078]]⟩,
  ⟨0x1D5D2, 0x1D5E1, [[0x0079], [0x007A], [0x0041], [0x0042], [0x0043], [0x0044], [0x0045],
    [0x0046], [0x0047], [0x0048], [0x0049], [0x004A], [0x004B], [0x004C], [0x004D], [0x004E]]⟩,
  ⟨0x1D5E2, 0x1D5F1, [[0x004F], [0x0050], [0x0051], [0x0052], [0x0053], [0x0054], [0x0055],
    [0x0056], [0x0057], [0x0058], [0x0059], [0x005A], [0x0061], [0x0062], [0x0063], [0x0064]]⟩,
  ⟨0x1D5F2, 0x1D601, [[0x0065], [0x0066], [0x0067], [0x0068], [0x0069], [0x006A], [0x006B],
    [0x006C], [0x006D], [0x006E], [0x006F], [0x0070], [0x0071], [0x0072], [0x0073], [0x0074]]⟩,
  ⟨0x1D602, 0x1D611, [[0x0075], [0x0076], [0x0077], [0x0078], [0x0079], [0x007A], [0x0041],
    [0x0042], [0x0043], [0x0044], [0x0045], [0x0046], [0x0047], [0x0048], [0x0049], [0x004A]]⟩,
  ⟨0x1D612, 0x1D621, [[0x004B], [0x004C], [0x004D], [0x004E], [0x004F], [0x0050], [0x0051],
    [0x0052], [0x0053], [0x0054], [0x0055], [0x0056], [0x0057], [0x0058], [0x0059], [0x005A]]⟩]

def page47 : RangeTable (List (List Nat)) := .page [
  ⟨0x1D622, 0x1D631, [[0x0061], [0x0062], [0x0063], [0x0064], [0x0065], [0x0066], [0x0067],
    [0x0068], [0x0069], [0x006A], [0x006B], [0x006C], [0x006D], [0x006E], [0x006F], [0x0070]]⟩,
  ⟨0x1D632, 0x1D641, [[0x0071], [0x0072], [0x0073], [0x0074], [0x0075], [0x0076], [0x0077],
    [0x0078], [0x0079], [0x007A], [0x0041], [0x0042], [0x0043], [0x0044], [0x0045], [0x0046]]⟩,
  ⟨0x1D642, 0x1D651, [[0x0047], [0x0048], [0x0049], [0x004A], [0x004B], [0x004C], [0x004D],
    [0x004E], [0x004F], [0x0050], [0x0051], [0x0052], [0x0053], [0x0054], [0x0055], [0x0056]]⟩,
  ⟨0x1D652, 0x1D661, [[0x0057], [0x0058], [0x0059], [0x005A], [0x0061], [0x0062], [0x0063],
    [0x0064], [0x0065], [0x0066], [0x0067], [0x0068], [0x0069], [0x006A], [0x006B], [0x006C]]⟩,
  ⟨0x1D662, 0x1D671, [[0x006D], [0x006E], [0x006F], [0x0070], [0x0071], [0x0072], [0x0073],
    [0x0074], [0x0075], [0x0076], [0x0077], [0x0078], [0x0079], [0x007A], [0x0041], [0x0042]]⟩,
  ⟨0x1D672, 0x1D681, [[0x0043], [0x0044], [0x0045], [0x0046], [0x0047], [0x0048], [0x0049],
    [0x004A], [0x004B], [0x004C], [0x004D], [0x004E], [0x004F], [0x0050], [0x0051], [0x0052]]⟩,
  ⟨0x1D682, 0x1D691, [[0x0053], [0x0054], [0x0055], [0x0056], [0x0057], [0x0058], [0x0059],
    [0x005A], [0x0061], [0x0062], [0x0063], [0x0064], [0x0065], [0x0066], [0x0067], [0x0068]]⟩,
  ⟨0x1D692, 0x1D6A1, [[0x0069], [0x006A], [0x006B], [0x006C], [0x006D], [0x006E], [0x006F],
    [0x0070], [0x0071], [0x0072], [0x0073], [0x0074], [0x0075], [0x0076], [0x0077], [0x0078]]⟩,
  ⟨0x1D6A2, 0x1D6A5, [[0x0079], [0x007A], [0x0131], [0x0237]]⟩,
  ⟨0x1D6A8, 0x1D6B7, [[0x0391], [0x0392], [0x0393], [0x0394], [0x0395], [0x0396], [0x0397],
    [0x0398], [0x0399], [0x039A], [0x039B], [0x039C], [0x039D], [0x039E], [0x039F], [0x03A0]]⟩,
  ⟨0x1D6B8, 0x1D6C7, [[0x03A1], [0x0398], [0x03A3], [0x03A4], [0x03A5], [0x03A6], [0x03A7],
    [0x03A8], [0x03A9], [0x2207], [0x03B1], [0x03B2], [0x03B3], [0x03B4], [0x03B5], [0x03B6]]⟩,
  ⟨0x1D6C8, 0x1D6D7, [[0x03B7], [0x03B8], [0x03B9], [0x03BA], [0x03BB], [0x03BC], [0x03BD],
    [0x03BE], [0x03BF], [0x03C0], [0x03C1], [0x03C2], [0x03C3], [0x03C4], [0x03C5], [0x03C6]]⟩]

def page48 : RangeTable (List (List Nat)) := .page [
  ⟨0x1D6D8, 0x1D6E7, [[0x03C7], [0x03C8], [0x03C9], [0x2202], [0x03B5], [0x03B8], [0x03BA],
    [0x03C6], [0x03C1], [0x03C0], [0x0391], [0x0392], [0x0393], [0x0394], [0x0395], [0x0396]]⟩,
  ⟨0x1D6E8, 0x1D6F7, [[0x0397], [0x0398], [0x0399], [0x039A], [0x039B], [0x039C], [0x039D],
    [0x039E], [0x039F], [0x03A0], [0x03A1], [0x0398], [0x03A3], [0x03A4], [0x03A5], [0x03A6]]⟩,
  ⟨0x1D6F8, 0x1D707, [[0x03A7], [0x03A8], [0x03A9], [0x2207], [0x03B1], [0x03B2], [0x03B3],
    [0x03B4], [0x03B5], [0x03B6], [0x03B7], [0x03B8], [0x03B9], [0x03BA], [0x03BB], [0x03BC]]⟩,
  ⟨0x1D708, 0x1D717, [[0x03BD], [0x03BE], [0x03BF], [0x03C0], [0x03C1], [0x03C2], [0x03C3],
    [0x03C4], [0x03C5], [0x03C6], [0x03C7], [0x03C8], [0x03C9], [0x2202], [0x03B5], [0x03B8]]⟩,
  ⟨0x1D718, 0x1D727, [[0x03BA], [0x03C6], [0x03C1], [0x03C0], [0x0391], [0x0392], [0x0393],
    [0x0394], [0x0395], [0x0396], [0x0397], [0x0398], [0x0399], [0x039A], [0x039B], [0x039C]]⟩,
  ⟨0x1D728, 0x1D737, [[0x039D], [0x039E], [0x039F], [0x03A0], [0x03A1], [0x0398], [0x03A3],
    [0x03A4], [0x03A5], [0x03A6], [0x03A7], [0x03A8], [0x03A9], [0x2207], [0x03B1], [0x03B2]]⟩,
  ⟨0x1D738, 0x1D747, [[0x03B3], [0x03B4], [0x03B5], [0x03B6], [0x03B7], [0x03B8], [0x03B9],
    [0x03BA], [0x03BB], [0x03BC], [0x03BD], [0x03BE], [0x03BF], [0x03C0], [0x03C1], [0x03C2]]⟩,
  ⟨0x1D748, 0x1D757, [[0x03C3], [0x03C4], [0x03C5], [0x03C6], [0x03C7], [0x03C8], [0x03C9],
    [0x2202], [0x03B5], [0x03B8], [0x03BA], [0x03C6], [0x03C1], [0x03C0], [0x0391], [0x0392]]⟩,
  ⟨0x1D758, 0x1D767, [[0x0393], [0x0394], [0x0395], [0x0396], [0x0397], [0x0398], [0x0399],
    [0x039A], [0x039B], [0x039C], [0x039D], [0x039E], [0x039F], [0x03A0], [0x03A1], [0x0398]]⟩,
  ⟨0x1D768, 0x1D777, [[0x03A3], [0x03A4], [0x03A5], [0x03A6], [0x03A7], [0x03A8], [0x03A9],
    [0x2207], [0x03B1], [0x03B2], [0x03B3], [0x03B4], [0x03B5], [0x03B6], [0x03B7], [0x03B8]]⟩,
  ⟨0x1D778, 0x1D787, [[0x03B9], [0x03BA], [0x03BB], [0x03BC], [0x03BD], [0x03BE], [0x03BF],
    [0x03C0], [0x03C1], [0x03C2], [0x03C3], [0x03C4], [0x03C5], [0x03C6], [0x03C7], [0x03C8]]⟩,
  ⟨0x1D788, 0x1D797, [[0x03C9], [0x2202], [0x03B5], [0x03B8], [0x03BA], [0x03C6], [0x03C1],
    [0x03C0], [0x0391], [0x0392], [0x0393], [0x0394], [0x0395], [0x0396], [0x0397], [0x0398]]⟩]

def page49 : RangeTable (List (List Nat)) := .page [
  ⟨0x1D798, 0x1D7A7, [[0x0399], [0x039A], [0x039B], [0x039C], [0x039D], [0x039E], [0x039F],
    [0x03A0], [0x03A1], [0x0398], [0x03A3], [0x03A4], [0x03A5], [0x03A6], [0x03A7], [0x03A8]]⟩,
  ⟨0x1D7A8, 0x1D7B7, [[0x03A9], [0x2207], [0x03B1], [0x03B2], [0x03B3], [0x03B4], [0x03B5],
    [0x03B6], [0x03B7], [0x03B8], [0x03B9], [0x03BA], [0x03BB], [0x03BC], [0x03BD], [0x03BE]]⟩,
  ⟨0x1D7B8, 0x1D7C7, [[0x03BF], [0x03C0], [0x03C1], [0x03C2], [0x03C3], [0x03C4], [0x03C5],
    [0x03C6], [0x03C7], [0x03C8], [0x03C9], [0x2202], [0x03B5], [0x03B8], [0x03BA], [0x03C6]]⟩,
  ⟨0x1D7C8, 0x1D7CB, [[0x03C1], [0x03C0], [0x03DC], [0x03DD]]⟩,
  ⟨0x1D7CE, 0x1D7DD, [[0x0030], [0x0031], [0x0032], [0x0033], [0x0034], [0x0035], [0x0036],
    [0x0037], [0x0038], [0x0039], [0x0030], [0x0031], [0x0032], [0x0033], [0x0034], [0x0035]]⟩,
  ⟨0x1D7DE, 0x1D7ED, [[0x0036], [0x0037], [0x0038], [0x0039], [0x0030], [0x0031], [0x0032],
    [0x0033], [0x0034], [0x0035], [0x0036], [0x0037], [0x0038], [0x0039], [0x0030], [0x0031]]⟩,
  ⟨0x1D7EE, 0x1D7FD, [[0x0032], [0x0033], [0x0034], [0x0035], [0x0036], [0x0037], [0x0038],
    [0x0039], [0x0030], [0x0031], [0x0032], [0x0033], [0x0034], [0x0035], [0x0036], [0x0037]]⟩,
  ⟨0x1D7FE, 0x1D7FF, [[0x0038], [0x0039]]⟩,
  ⟨0x1E030, 0x1E03F, [[0x0430], [0x0431], [0x0432], [0x0433], [0x0434], [0x0435], [0x0436],
    [0x0437], [0x0438], [0x043A], [0x043B], [0x043C], [0x043E], [0x043F], [0x0440], [0x0441]]⟩,
  ⟨0x1E040, 0x1E04F, [[0x0442], [0x0443], [0x0444], [0x0445], [0x0446], [0x0447], [0x0448],
    [0x044B], [0x044D], [0x044E], [0xA689], [0x04D9], [0x0456], [0x0458], [0x04E9], [0x04AF]]⟩,
  ⟨0x1E050, 0x1E05F, [[0x04CF], [0x0430], [0x0431], [0x0432], [0x0433], [0x0434], [0x0435],
    [0x0436], [0x0437], [0x0438], [0x043A], [0x043B], [0x043E], [0x043F], [0x0441], [0x0443]]⟩,
  ⟨0x1E060, 0x1E06D, [[0x0444], [0x0445], [0x0446], [0x0447], [0x0448], [0x044A], [0x044B],
    [0x0491], [0x0456], [0x0455], [0x045F], [0x04AB], [0xA651], [0x04B1]]⟩]

def page50 : RangeTable (List (List Nat)) := .page [
  ⟨0x1EE00, 0x1EE03, [[0x0627], [0x0628], [0x062C], [0x062F]]⟩,
  ⟨0x1EE05, 0x1EE14, [[0x0648], [0x0632], [0x062D], [0x0637], [0x064A], [0x0643], [0x0644],
    [0x0645], [0x0646], [0x0633], [0x0639], [0x0641], [0x0635], [0x0642], [0x0631], [0x0634]]⟩,
  ⟨0x1EE15, 0x1EE1F, [[0x062A], [0x062B], [0x062E], [0x0630], [0x0636], [0x0638], [0x063A],
    [0x066E], [0x06BA], [0x06A1], [0x066F]]⟩, ⟨0x1EE21, 0x1EE22, [[0x0628], [0x062C]]⟩,
  ⟨0x1EE24, 0x1EE24, [[0x0647]]⟩, ⟨0x1EE27, 0x1EE27, [[0x062D]]⟩,
  ⟨0x1EE29, 0x1EE32, [[0x064A], [0x0643], [0x0644], [0x0645], [0x0646], [0x0633], [0x0639],
    [0x0641], [0x0635], [0x0642]]⟩, ⟨0x1EE34, 0x1EE37, [[0x0634], [0x062A], [0x062B], [0x062E]]⟩,
  ⟨0x1EE39, 0x1EE39, [[0x0636]]⟩, ⟨0x1EE3B, 0x1EE3B, [[0x063A]]⟩, ⟨0x1EE42, 0x1EE42, [[0x062C]]⟩,
  ⟨0x1EE47, 0x1EE47, [[0x062D]]⟩]

def page51 : RangeTable (List (List Nat)) := .page [
  ⟨0x1EE49, 0x1EE49, [[0x064A]]⟩, ⟨0x1EE4B, 0x1EE4B, [[0x0644]]⟩,
  ⟨0x1EE4D, 0x1EE4F, [[0x0646], [0x0633], [0x0639]]⟩, ⟨0x1EE51, 0x1EE52, [[0x0635], [0x0642]]⟩,
  ⟨0x1EE54, 0x1EE54, [[0x0634]]⟩, ⟨0x1EE57, 0x1EE57, [[0x062E]]⟩, ⟨0x1EE59, 0x1EE59, [[0x0636]]⟩,
  ⟨0x1EE5B, 0x1EE5B, [[0x063A]]⟩, ⟨0x1EE5D, 0x1EE5D, [[0x06BA]]⟩, ⟨0x1EE5F, 0x1EE5F, [[0x066F]]⟩,
  ⟨0x1EE61, 0x1EE62, [[0x0628], [0x062C]]⟩, ⟨0x1EE64, 0x1EE64, [[0x0647]]⟩]

def page52 : RangeTable (List (List Nat)) := .page [
  ⟨0x1EE67, 0x1EE6A, [[0x062D], [0x0637], [0x064A], [0x0643]]⟩,
  ⟨0x1EE6C, 0x1EE72, [[0x0645], [0x0646], [0x0633], [0x0639], [0x0641], [0x0635], [0x0642]]⟩,
  ⟨0x1EE74, 0x1EE77, [[0x0634], [0x062A], [0x062B], [0x062E]]⟩,
  ⟨0x1EE79, 0x1EE7C, [[0x0636], [0x0638], [0x063A], [0x066E]]⟩, ⟨0x1EE7E, 0x1EE7E, [[0x06A1]]⟩,
  ⟨0x1EE80, 0x1EE89, [[0x0627], [0x0628], [0x062C], [0x062F], [0x0647], [0x0648], [0x0632],
    [0x062D], [0x0637], [0x064A]]⟩,
  ⟨0x1EE8B, 0x1EE9A, [[0x0644], [0x0645], [0x0646], [0x0633], [0x0639], [0x0641], [0x0635],
    [0x0642], [0x0631], [0x0634], [0x062A], [0x062B], [0x062E], [0x0630], [0x0636], [0x0638]]⟩,
  ⟨0x1EE9B, 0x1EE9B, [[0x063A]]⟩, ⟨0x1EEA1, 0x1EEA3, [[0x0628], [0x062C], [0x062F]]⟩,
  ⟨0x1EEA5, 0x1EEA9, [[0x0648], [0x0632], [0x062D], [0x0637], [0x064A]]⟩,
  ⟨0x1EEAB, 0x1EEBA, [[0x0644], [0x0645], [0x0646], [0x0633], [0x0639], [0x0641], [0x0635],
    [0x0642], [0x0631], [0x0634], [0x062A], [0x062B], [0x062E], [0x0630], [0x0636], [0x0638]]⟩,
  ⟨0x1EEBB, 0x1EEBB, [[0x063A]]⟩]

def page53 : RangeTable (List (List Nat)) := .page [
  ⟨0x1F100, 0x1F10A, [[0x0030, 0x002E], [0x0030, 0x002C], [0x0031, 0x002C], [0x0032, 0x002C],
    [0x0033, 0x002C], [0x0034, 0x002C], [0x0035, 0x002C], [0x0036, 0x002C], [0x0037, 0x002C],
    [0x0038, 0x002C], [0x0039, 0x002C]]⟩,
  ⟨0x1F110, 0x1F11F, [[0x0028, 0x0041, 0x0029], [0x0028, 0x0042, 0x0029], [0x0028, 0x0043, 0x0029],
    [0x0028, 0x0044, 0x0029], [0x0028, 0x0045, 0x0029], [0x0028, 0x0046, 0x0029], [0x0028, 0x0047,
    0x0029], [0x0028, 0x0048, 0x0029], [0x0028, 0x0049, 0x0029], [0x0028, 0x004A, 0x0029], [0x0028,
    0x004B, 0x0029], [0x0028, 0x004C, 0x0029], [0x0028, 0x004D, 0x0029], [0x0028, 0x004E, 0x0029],
    [0x0028, 0x004F, 0x0029], [0x0028, 0x0050, 0x0029]]⟩,
  ⟨0x1F120, 0x1F12E, [[0x0028, 0x0051, 0x0029], [0x0028, 0x0052, 0x0029], [0x0028, 0x0053, 0x0029],
    [0x0028, 0x0054, 0x0029], [0x0028, 0x0055, 0x0029], [0x0028, 0x0056, 0x0029], [0x0028, 0x0057,
    0x0029], [0x0028, 0x0058, 0x0029], [0x0028, 0x0059, 0x0029], [0x0028, 0x005A, 0x0029], [0x3014,
    0x0053, 0x3015], [0x0043], [0x0052], [0x0043, 0x0044], [0x0057, 0x005A]]⟩,
  ⟨0x1F130, 0x1F13F, [[0x0041], [0x0042], [0x0043], [0x0044], [0x0045], [0x0046], [0x0047],
    [0x0048], [0x0049], [0x004A], [0x004B], [0x004C], [0x004D], [0x004E], [0x004F], [0x0050]]⟩,
  ⟨0x1F140, 0x1F14F, [[0x0051], [0x0052], [0x0053], [0x0054], [0x0055], [0x0056], [0x0057],
    [0x0058], [0x0059], [0x005A], [0x0048, 0x0056], [0x004D, 0x0056], [0x0053, 0x0044], [0x0053,
    0x0053], [0x0050, 0x0050, 0x0056], [0x0057, 0x0043]]⟩,
  ⟨0x1F16A, 0x1F16C, [[0x004D, 0x0043], [0x004D, 0x0044], [0x004D, 0x0052]]⟩,
  ⟨0x1F190, 0x1F190, [[0x0044, 0x004A]]⟩,
  ⟨0x1F200, 0x1F202, [[0x307B, 0x304B], [0x30B3, 0x30B3], [0x30B5]]⟩,
  ⟨0x1F210, 0x1F21F, [[0x624B], [0x5B57], [0x53CC], [0x30C6, 0x3099], [0x4E8C], [0x591A], [0x89E3],
    [0x5929], [0x4EA4], [0x6620], [0x7121], [0x6599], [0x524D], [0x5F8C], [0x518D], [0x65B0]]⟩,
  ⟨0x1F220, 0x1F22F, [[0x521D], [0x7D42], [0x751F], [0x8CA9], [0x58F0], [0x5439], [0x6F14],
    [0x6295], [0x6355], [0x4E00], [0x4E09], [0x904A], [0x5DE6], [0x4E2D], [0x53F3], [0x6307]]⟩,
  ⟨0x1F230, 0x1F23B, [[0x8D70], [0x6253], [0x7981], [0x7A7A], [0x5408], [0x6E80], [0x6709],
    [0x6708], [0x7533], [0x5272], [0x55B6], [0x914D]]⟩,
  ⟨0x1F240, 0x1F248, [[0x3014, 0x672C, 0x3015], [0x3014, 0x4E09, 0x3015], [0x3014, 0x4E8C, 0x3015],
    [0x3014, 0x5B89, 0x3015], [0x3014, 0x70B9, 0x3015], [0x3014, 0x6253, 0x3015], [0x3014, 0x76D7,
    0x3015], [0x3014, 0x52DD, 0x3015], [0x3014, 0x6557, 0x3015]]⟩]

def page54 : RangeTable (List (List Nat)) := .page [
  ⟨0x1F250, 0x1F251, [[0x5F97], [0x53EF]]⟩,
  ⟨0x1FBF0, 0x1FBF9, [[0x0030], [0x0031], [0x0032], [0x0033], [0x0034], [0x0035], [0x0036],
    [0x0037], [0x0038], [0x0039]]⟩,
  ⟨0x2F800, 0x2F80F, [[0x4E3D], [0x4E38], [0x4E41], [0x20122], [0x4F60], [0x4FAE], [0x4FBB],
    [0x5002], [0x507A], [0x5099], [0x50E7], [0x50CF], [0x349E], [0x2063A], [0x514D], [0x5154]]⟩,
  ⟨0x2F810, 0x2F81F, [[0x5164], [0x5177], [0x2051C], [0x34B9], [0x5167], [0x518D], [0x2054B],
    [0x5197], [0x51A4], [0x4ECC], [0x51AC], [0x51B5], [0x291DF], [0x51F5], [0x5203], [0x34DF]]⟩,
  ⟨0x2F820, 0x2F82F, [[0x523B], [0x5246], [0x5272], [0x5277], [0x3515], [0x52C7], [0x52C9],
    [0x52E4], [0x52FA], [0x5305], [0x5306], [0x5317], [0x5349], [0x5351], [0x535A], [0x5373]]⟩,
  ⟨0x2F830, 0x2F83F, [[0x537D], [0x537F], [0x537F], [0x537F], [0x20A2C], [0x7070], [0x53CA],
    [0x53DF], [0x20B63], [0x53EB], [0x53F1], [0x5406], [0x549E], [0x5438], [0x5448], [0x5468]]⟩,
  ⟨0x2F840, 0x2F84F, [[0x54A2], [0x54F6], [0x5510], [0x5553], [0x5563], [0x5584], [0x5584],
    [0x5599], [0x55AB], [0x55B3], [0x55C2], [0x5716], [0x5606], [0x5717], [0x5651], [0x5674]]⟩,
  ⟨0x2F850, 0x2F85F, [[0x5207], [0x58EE], [0x57CE], [0x57F4], [0x580D], [0x578B], [0x5832],
    [0x5831], [0x58AC], [0x214E4], [0x58F2], [0x58F7], [0x5906], [0x591A], [0x5922], [0x5962]]⟩,
  ⟨0x2F860, 0x2F86F, [[0x216A8], [0x216EA], [0x59EC], [0x5A1B], [0x5A27], [0x59D8], [0x5A66],
    [0x36EE], [0x36FC], [0x5B08], [0x5B3E], [0x5B3E], [0x219C8], [0x5BC3], [0x5BD8], [0x5BE7]]⟩,
  ⟨0x2F870, 0x2F87F, [[0x5BF3], [0x21B18], [0x5BFF], [0x5C06], [0x5F53], [0x5C22], [0x3781],
    [0x5C60], [0x5C6E], [0x5CC0], [0x5C8D], [0x21DE4], [0x5D43], [0x21DE6], [0x5D6E], [0x5D6B]]⟩,
  ⟨0x2F880, 0x2F88F, [[0x5D7C], [0x5DE1], [0x5DE2], [0x382F], [0x5DFD], [0x5E28], [0x5E3D],
    [0x5E69], [0x3862], [0x22183], [0x387C], [0x5EB0], [0x5EB3], [0x5EB6], [0x5ECA], [0x2A392]]⟩,
  ⟨0x2F890, 0x2F89F, [[0x5EFE], [0x22331], [0x22331], [0x8201], [0x5F22], [0x5F22], [0x38C7],
    [0x232B8], [0x261DA], [0x5F62], [0x5F6B], [0x38E3], [0x5F9A], [0x5FCD], [0x5FD7], [0x5FF9]]⟩]

def page55 : RangeTable (List (List Nat)) := .page [
  ⟨0x2F8A0, 0x2F8AF, [[0x6081], [0x393A], [0x391C], [0x6094], [0x226D4], [0x60C7], [0x6148],
    [0x614C], [0x614E], [0x614C], [0x617A], [0x618E], [0x61B2], [0x61A4], [0x61AF], [0x61DE]]⟩,
  ⟨0x2F8B0, 0x2F8BF, [[0x61F2], [0x61F6], [0x6210], [0x621B], [0x625D], [0x62B1], [0x62D4],
    [0x6350], [0x22B0C], [0x633D], [0x62FC], [0x6368], [0x6383], [0x63E4], [0x22BF1], [0x6422]]⟩,
  ⟨0x2F8C0, 0x2F8CF, [[0x63C5], [0x63A9], [0x3A2E], [0x6469], [0x647E], [0x649D], [0x6477],
    [0x3A6C], [0x654F], [0x656C], [0x2300A], [0x65E3], [0x66F8], [0x6649], [0x3B19], [0x6691]]⟩,
  ⟨0x2F8D0, 0x2F8DF, [[0x3B08], [0x3AE4], [0x5192], [0x5195], [0x6700], [0x669C], [0x80AD],
    [0x43D9], [0x6717], [0x671B], [0x6721], [0x675E], [0x6753], [0x233C3], [0x3B49], [0x67FA]]⟩,
  ⟨0x2F8E0, 0x2F8EF, [[0x6785], [0x6852], [0x6885], [0x2346D], [0x688E], [0x681F], [0x6914],
    [0x3B9D], [0x6942], [0x69A3], [0x69EA], [0x6AA8], [0x236A3], [0x6ADB], [0x3C18], [0x6B21]]⟩,
  ⟨0x2F8F0, 0x2F8FF, [[0x238A7], [0x6B54], [0x3C4E], [0x6B72], [0x6B9F], [0x6BBA], [0x6BBB],
    [0x23A8D], [0x21D0B], [0x23AFA], [0x6C4E], [0x23CBC], [0x6CBF], [0x6CCD], [0x6C67], [0x6D16]]⟩,
  ⟨0x2F900, 0x2F90F, [[0x6D3E], [0x6D77], [0x6D41], [0x6D69], [0x6D78], [0x6D85], [0x23D1E],
    [0x6D34], [0x6E2F], [0x6E6E], [0x3D33], [0x6ECB], [0x6EC7], [0x23ED1], [0x6DF9], [0x6F6E]]⟩,
  ⟨0x2F910, 0x2F91F, [[0x23F5E], [0x23F8E], [0x6FC6], [0x7039], [0x701E], [0x701B], [0x3D96],
    [0x704A], [0x707D], [0x7077], [0x70AD], [0x20525], [0x7145], [0x24263], [0x719C], [0x243AB]]⟩,
  ⟨0x2F920, 0x2F92F, [[0x7228], [0x7235], [0x7250], [0x24608], [0x7280], [0x7295], [0x24735],
    [0x24814], [0x737A], [0x738B], [0x3EAC], [0x73A5], [0x3EB8], [0x3EB8], [0x7447], [0x745C]]⟩,
  ⟨0x2F930, 0x2F93F, [[0x7471], [0x7485], [0x74CA], [0x3F1B], [0x7524], [0x24C36], [0x753E],
    [0x24C92], [0x7570], [0x2219F], [0x7610], [0x24FA1], [0x24FB8], [0x25044], [0x3FFC], [0x4008]]⟩,
  ⟨0x2F940, 0x2F94F, [[0x76F4], [0x250F3], [0x250F2], [0x25119], [0x25133], [0x771E], [0x771F],
    [0x771F], [0x774A], [0x4039], [0x778B], [0x4046], [0x4096], [0x2541D], [0x784E], [0x788C]]⟩,
  ⟨0x2F950, 0x2F95F, [[0x78CC], [0x40E3], [0x25626], [0x7956], [0x2569A], [0x256C5], [0x798F],
    [0x79EB], [0x412F], [0x7A40], [0x7A4A], [0x7A4F], [0x2597C], [0x25AA7], [0x25AA7], [0x7AEE]]⟩]

def page56 : RangeTable (List (List Nat)) := .page [
  ⟨0x2F960, 0x2F96F, [[0x4202], [0x25BAB], [0x7BC6], [0x7BC9], [0x4227], [0x25C80], [0x7CD2],
    [0x42A0], [0x7CE8], [0x7CE3], [0x7D00], [0x25F86], [0x7D63], [0x4301], [0x7DC7], [0x7E02]]⟩,
  ⟨0x2F970, 0x2F97F, [[0x7E45], [0x4334], [0x26228], [0x26247], [0x4359], [0x262D9], [0x7F7A],
    [0x2633E], [0x7F95], [0x7FFA], [0x8005], [0x264DA], [0x26523], [0x8060], [0x265A8], [0x8070]]⟩,
  ⟨0x2F980, 0x2F98F, [[0x2335F], [0x43D5], [0x80B2], [0x8103], [0x440B], [0x813E], [0x5AB5],
    [0x267A7], [0x267B5], [0x23393], [0x2339C], [0x8201], [0x8204], [0x8F9E], [0x446B], [0x8291]]⟩,
  ⟨0x2F990, 0x2F99F, [[0x828B], [0x829D], [0x52B3], [0x82B1], [0x82B3], [0x82BD], [0x82E6],
    [0x26B3C], [0x82E5], [0x831D], [0x8363], [0x83AD], [0x8323], [0x83BD], [0x83E7], [0x8457]]⟩,
  ⟨0x2F9A0, 0x2F9AF, [[0x8353], [0x83CA], [0x83CC], [0x83DC], [0x26C36], [0x26D6B], [0x26CD5],
    [0x452B], [0x84F1], [0x84F3], [0x8516], [0x273CA], [0x8564], [0x26F2C], [0x455D], [0x4561]]⟩,
  ⟨0x2F9B0, 0x2F9BF, [[0x26FB1], [0x270D2], [0x456B], [0x8650], [0x865C], [0x8667], [0x8669],
    [0x86A9], [0x8688], [0x870E], [0x86E2], [0x8779], [0x8728], [0x876B], [0x8786], [0x45D7]]⟩,
  ⟨0x2F9C0, 0x2F9CF, [[0x87E1], [0x8801], [0x45F9], [0x8860], [0x8863], [0x27667], [0x88D7],
    [0x88DE], [0x4635], [0x88FA], [0x34BB], [0x278AE], [0x27966], [0x46BE], [0x46C7], [0x8AA0]]⟩,
  ⟨0x2F9D0, 0x2F9DF, [[0x8AED], [0x8B8A], [0x8C55], [0x27CA8], [0x8CAB], [0x8CC1], [0x8D1B],
    [0x8D77], [0x27F2F], [0x20804], [0x8DCB], [0x8DBC], [0x8DF0], [0x208DE], [0x8ED4], [0x8F38]]⟩,
  ⟨0x2F9E0, 0x2F9EF, [[0x285D2], [0x285ED], [0x9094], [0x90F1], [0x9111], [0x2872E], [0x911B],
    [0x9238], [0x92D7], [0x92D8], [0x927C], [0x93F9], [0x9415], [0x28BFA], [0x958B], [0x4995]]⟩,
  ⟨0x2F9F0, 0x2F9FF, [[0x95B7], [0x28D77], [0x49E6], [0x96C3], [0x5DB2], [0x9723], [0x29145],
    [0x2921A], [0x4A6E], [0x4A76], [0x97E0], [0x2940A], [0x4AB2], [0x29496], [0x980B], [0x980B]]⟩,
  ⟨0x2FA00, 0x2FA0F, [[0x9829], [0x295B6], [0x98E2], [0x4B33], [0x9929], [0x99A7], [0x99C2],
    [0x99FE], [0x4BCE], [0x29B30], [0x9B12], [0x9C40], [0x9CFD], [0x4CCE], [0x4CED], [0x9D67]]⟩,
  ⟨0x2FA10, 0x2FA1D, [[0x2A0CE], [0x4CF8], [0x2A105], [0x2A20E], [0x2A291], [0x9EBB], [0x4D56],
    [0x9EF9], [0x9EFE], [0x9F05], [0x9F0F], [0x9F16], [0x9F3B], [0x2A600]]⟩]

/-- The listed decompositions. -/
def table : RangeTable (List (List Nat)) :=
  .split 0x3240
    (.split 0x1F50
      (.split 0x0958
        (.split 0x0208
          (.split 0x00E0 page00 (.split 0x014C page01 page02))
          (.split 0x040C (.split 0x0384 page03 page04) (.split 0x04E2 page05 page06)))
        (.split 0x0FA7
          (.split 0x0BCA page07 (.split 0x0F43 page08 page09))
          (.split 0x1DBB (.split 0x1B3D page10 page11) (.split 0x1EB0 page12 page13))))
      (.split 0x24C0
        (.split 0x2109
          (.split 0x1FD6 page14 (.split 0x203C page15 page16))
          (.split 0x222C (.split 0x2150 page17 page18) (.split 0x2284 page19 page20)))
        (.split 0x305E
          (.split 0x2F20 page21 (.split 0x3000 page22 page23))
          (.split 0x30C0 (.split 0x309B page24 page25) (.split 0x30FE page26 page27)))))
    (.split 0x1138E
      (.split 0xFB96
        (.split 0xF910
          (.split 0x32F0 page28 (.split 0x33B0 page29 page30))
          (.split 0xFA4A (.split 0xF9D0 page31 page32) (.split 0xFB1D page33 page34)))
        (.split 0xFE40
          (.split 0xFC73 page35 (.split 0xFD33 page36 page37))
          (.split 0xFF81 (.split 0xFEC6 page38 page39) (.split 0x10781 page40 page41))))
      (.split 0x1D798
        (.split 0x1D4F5
          (.split 0x1CCF6 page42 (.split 0x1D486 page43 page44))
          (.split 0x1D622 (.split 0x1D562 page45 page46) (.split 0x1D6D8 page47 page48)))
        (.split 0x1F100
          (.split 0x1EE49 (.split 0x1EE00 page49 page50) (.split 0x1EE67 page51 page52))
          (.split 0x2F8A0 (.split 0x1F250 page53 page54) (.split 0x2F960 page55 page56)))))

end Lexicon.Unicode.Decomposition
