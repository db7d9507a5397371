import TaggerFeatures.Unicode.Category.Letter
import TaggerFeatures.Unicode.Category.Mark
import TaggerFeatures.Unicode.Category.Numeric
import TaggerFeatures.Unicode.Category.Punctuation
import TaggerFeatures.Unicode.Category.Symbol
import TaggerFeatures.Unicode.Category.Separator
import TaggerFeatures.Unicode.Category.Special

/-! The general category of a character. -/
namespace TaggerFeatures.Unicode

/-- The general categories of characters. -/
inductive Category
  | uppercaseLetter
  | lowercaseLetter
  | titlecaseLetter
  | modifierLetter
  | otherLetter
  | nonspacingMark
  | spacingMark
  | enclosingMark
  | decimalNumber
  | letterNumber
  | otherNumber
  | connectorPunctuation
  | dashPunctuation
  | openPunctuation
  | closePunctuation
  | initialPunctuation
  | finalPunctuation
  | otherPunctuation
  | mathSymbol
  | currencySymbol
  | modifierSymbol
  | otherSymbol
  | spaceSeparator
  | lineSeparator
  | paragraphSeparator
  | control
  | format
  | privateUse
  | unassigned
deriving DecidableEq, Repr

namespace Category

/-- The code points of a category; a character outside all tables is unassigned. -/
def codePoints : Category → CodePoints
  | uppercaseLetter => Letter.uppercaseLetter
  | lowercaseLetter => Letter.lowercaseLetter
  | titlecaseLetter => Letter.titlecaseLetter
  | modifierLetter => Letter.modifierLetter
  | otherLetter => Letter.otherLetter
  | nonspacingMark => Mark.nonspacingMark
  | spacingMark => Mark.spacingMark
  | enclosingMark => Mark.enclosingMark
  | decimalNumber => Numeric.decimalNumber
  | letterNumber => Numeric.letterNumber
  | otherNumber => Numeric.otherNumber
  | connectorPunctuation => Punctuation.connectorPunctuation
  | dashPunctuation => Punctuation.dashPunctuation
  | openPunctuation => Punctuation.openPunctuation
  | closePunctuation => Punctuation.closePunctuation
  | initialPunctuation => Punctuation.initialPunctuation
  | finalPunctuation => Punctuation.finalPunctuation
  | otherPunctuation => Punctuation.otherPunctuation
  | mathSymbol => Symbol.mathSymbol
  | currencySymbol => Symbol.currencySymbol
  | modifierSymbol => Symbol.modifierSymbol
  | otherSymbol => Symbol.otherSymbol
  | spaceSeparator => Separator.spaceSeparator
  | lineSeparator => Separator.lineSeparator
  | paragraphSeparator => Separator.paragraphSeparator
  | control => Special.control
  | format => Special.format
  | privateUse => Special.privateUse
  | unassigned => ⟨[], []⟩

/-- The categories with a table, frequent ones first. -/
def listed : List Category := [
  lowercaseLetter, uppercaseLetter, decimalNumber, otherPunctuation, openPunctuation,
  closePunctuation, dashPunctuation, spaceSeparator, otherLetter, titlecaseLetter, modifierLetter,
  letterNumber, otherNumber, connectorPunctuation, initialPunctuation, finalPunctuation,
  mathSymbol, currencySymbol, modifierSymbol, otherSymbol, nonspacingMark, spacingMark,
  enclosingMark, lineSeparator, paragraphSeparator, control, format, privateUse]

def ofChar (c : Char) : Category :=
  (listed.find? fun category => category.codePoints.contains c).getD unassigned

/-- Whether a character has a visible form; of the separators only the plain space has one. -/
def isPrintable (c : Char) : Bool :=
  match ofChar c with
  | control | format | privateUse | unassigned => false
  | spaceSeparator | lineSeparator | paragraphSeparator => c == ' '
  | _ => true

end TaggerFeatures.Unicode.Category
