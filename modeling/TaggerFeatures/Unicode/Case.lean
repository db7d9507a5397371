import TaggerFeatures.Unicode.Category

/-! Case: which characters are lower case, upper case, cased, or looked through. -/
namespace TaggerFeatures.Unicode

/-- Lower case characters that are no small letters. -/
def otherLowercase : CodePoints where
  runs := [
    (0xAA, 0xAA), (0xBA, 0xBA), (0x2B0, 0x2B8), (0x2C0, 0x2C1), (0x2E0, 0x2E4), (0x345, 0x345),
    (0x37A, 0x37A), (0x1D2C, 0x1D6A), (0x1D78, 0x1D78), (0x1D9B, 0x1DBF), (0x2071, 0x2071),
    (0x207F, 0x207F), (0x2090, 0x209C), (0x2170, 0x217F), (0x24D0, 0x24E9), (0x2C7C, 0x2C7D),
    (0xA69C, 0xA69D), (0xA770, 0xA770), (0xA7F8, 0xA7F9), (0xAB5C, 0xAB5F), (0x10780, 0x10780),
    (0x10783, 0x10785), (0x10787, 0x107B0), (0x107B2, 0x107BA)]

/-- Upper case characters that are no capital letters. -/
def otherUppercase : CodePoints where
  runs := [
    (0x2160, 0x216F), (0x24B6, 0x24CF), (0x1F130, 0x1F149), (0x1F150, 0x1F169),
    (0x1F170, 0x1F189)]

/-- Apostrophes, full stops and colons, which stand inside words. -/
def otherIgnorable : CodePoints where
  runs := [
    (0x27, 0x27), (0x2E, 0x2E), (0x3A, 0x3A), (0xB7, 0xB7), (0x387, 0x387), (0x55F, 0x55F),
    (0x5F4, 0x5F4), (0x2018, 0x2019), (0x2024, 0x2024), (0x2027, 0x2027), (0xFE13, 0xFE13),
    (0xFE52, 0xFE52), (0xFE55, 0xFE55), (0xFF07, 0xFF07), (0xFF0E, 0xFF0E), (0xFF1A, 0xFF1A)]

def isLowercase (c : Char) : Bool :=
  Category.Letter.lowercaseLetter.contains c || otherLowercase.contains c

def isUppercase (c : Char) : Bool :=
  Category.Letter.uppercaseLetter.contains c || otherUppercase.contains c

/-- Whether a character is title case: a digraph with a capital first part. -/
def isTitlecase (c : Char) : Bool := Category.Letter.titlecaseLetter.contains c

def isCased (c : Char) : Bool := isLowercase c || isUppercase c || isTitlecase c

/-- Whether a character is looked through when the cased neighbours of another are sought. -/
def isCaseIgnorable (c : Char) : Bool :=
  Category.Mark.nonspacingMark.contains c || Category.Mark.enclosingMark.contains c ||
    Category.Special.format.contains c || Category.Letter.modifierLetter.contains c ||
    Category.Symbol.modifierSymbol.contains c || otherIgnorable.contains c

end TaggerFeatures.Unicode
