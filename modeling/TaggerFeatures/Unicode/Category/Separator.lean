import TaggerFeatures.Unicode.CodePoints

/-! The code points of the general categories of separators. -/
namespace TaggerFeatures.Unicode.Category.Separator

def spaceSeparator : CodePoints where
  runs := [
    (0x20, 0x20), (0xA0, 0xA0), (0x1680, 0x1680), (0x2000, 0x200A), (0x202F, 0x202F),
    (0x205F, 0x205F), (0x3000, 0x3000)]

def lineSeparator : CodePoints where
  runs := [
    (0x2028, 0x2028)]

def paragraphSeparator : CodePoints where
  runs := [
    (0x2029, 0x2029)]

end TaggerFeatures.Unicode.Category.Separator
