import TrigramSieve.Unicode.GeneralCategory
import TrigramSieve.Unicode.ListedProperty

/-! Properties that the standard derives from general categories and listed properties, computed as
the standard defines them. -/

namespace TrigramSieve.Unicode

open GeneralCategory ListedProperty

def lowercase : CharSet := lowercaseLetter.set.union otherLowercase.set

def uppercase : CharSet := uppercaseLetter.set.union otherUppercase.set

def cased : CharSet := .sUnion [lowercase, uppercase, titlecaseLetter.set]

/-- Characters that do not break the case of a word: marks, format characters, modifiers, and the
marks of punctuation that stand inside words. -/
def caseIgnorable : CharSet :=
  .sUnion [ofCategories [nonspacingMark, enclosingMark, format, modifierLetter, modifierSymbol],
    decode "27 2E 3A B7 387 55F 5F4 2018-2019 2024 2027 FE13 FE52 FE55 FF07 FF0E FF1A"]

def alphabetic : CharSet :=
  .sUnion [ofCategories letters, letterNumber.set, otherAlphabetic.set]

def math : CharSet := mathSymbol.set.union otherMath.set

def changesWhenCasemapped : CharSet :=
  .sUnion [changesWhenLowercased.set, changesWhenUppercased.set, changesWhenTitlecased.set]

def graphemeExtend : CharSet :=
  .sUnion [nonspacingMark.set, enclosingMark.set, otherGraphemeExtend.set]

def graphemeBase : CharSet :=
  (assigned.diff (ofCategories [control, format, privateUse, lineSeparator, paragraphSeparator])).diff
    graphemeExtend

/-- Format controls that are shown even by a system that does not know them. -/
def shownFormat : CharSet :=
  .sUnion [whiteSpace.set, prependedConcatenationMark.set, decode "FFF9-FFFB 13430-1343F"]

def defaultIgnorable : CharSet :=
  (CharSet.sUnion [otherDefaultIgnorableCodePoint.set, format.set, variationSelector.set]).diff
    shownFormat

def patternReserved : CharSet := patternSyntax.set.union patternWhiteSpace.set

def idStart : CharSet :=
  (CharSet.sUnion [ofCategories letters, letterNumber.set, otherIdStart.set]).diff patternReserved

def idContinue : CharSet :=
  idStart.union <|
    (CharSet.sUnion [ofCategories [nonspacingMark, spacingMark, decimalNumber, connectorPunctuation],
      otherIdContinue.set]).diff patternReserved

/-- Identifier characters whose compatibility forms are none. -/
def unstableIdContinue : CharSet :=
  decode "37A 309B-309C FC5E-FC63 FDFA-FDFB FE70-FE7E/2"

def xidStart : CharSet :=
  idStart.diff (unstableIdContinue.union (decode "E33 EB3 FF9E-FF9F"))

def xidContinue : CharSet := idContinue.diff unstableIdContinue

/-- The derived property with a loosely matched name. -/
def derived? (name : String) : Option CharSet :=
  match name with
  | "alpha" | "alphabetic" => some alphabetic
  | "cased" => some cased
  | "ci" | "caseignorable" => some caseIgnorable
  | "cwcm" | "changeswhencasemapped" => some changesWhenCasemapped
  | "di" | "defaultignorablecodepoint" => some defaultIgnorable
  | "grbase" | "graphemebase" => some graphemeBase
  | "grext" | "graphemeextend" => some graphemeExtend
  | "idc" | "idcontinue" => some idContinue
  | "ids" | "idstart" => some idStart
  | "lower" | "lowercase" => some lowercase
  | "math" => some math
  | "upper" | "uppercase" => some uppercase
  | "xidc" | "xidcontinue" => some xidContinue
  | "xids" | "xidstart" => some xidStart
  | _ => none

end TrigramSieve.Unicode
