import TrigramSieve.Unicode.Age
import TrigramSieve.Unicode.Boundary
import TrigramSieve.Unicode.CaseFolding
import TrigramSieve.Unicode.DerivedProperty
import TrigramSieve.Unicode.Script

/-! Looking up sets of characters by the names of properties and of their values. Names are matched
loosely: case, blanks, hyphens and underscores do not count, nor does `is` in front. -/

namespace TrigramSieve.Unicode

inductive LookupFault where
  | unknownProperty
  | unknownValue
  deriving DecidableEq

/-- The form in which names are compared. The abbreviation `isc` would lose its first two letters and
is kept whole. -/
def looseName (name : List Char) : String :=
  let plain (cs : List Char) :=
    (cs.filter fun c => c ≠ ' ' && c ≠ '_' && c ≠ '-' && c.toNat < 0x80).map Char.toLower
  match name with
  | a :: b :: rest =>
    if a.toLower = 'i' && b.toLower = 's' then
      let rest := plain rest
      .ofList (if rest = ['c'] then ['i', 's', 'c'] else rest)
    else
      .ofList (plain name)
  | _ => .ofList (plain name)

def yesNo? (name : String) : Option CharSet :=
  (ListedProperty.ofName? name).map ListedProperty.set <|> derived? name

/-- Properties of the standard that no character simply has or has not, or that have no set here. -/
def otherProperties : List String := [
  "kaccountingnumeric", "cjkaccountingnumeric", "kothernumeric", "cjkothernumeric",
  "kprimarynumeric", "cjkprimarynumeric", "nv", "numericvalue", "cf", "casefolding",
  "kcompatibilityvariant", "cjkcompatibilityvariant", "dm", "decompositionmapping", "fcnfkc",
  "fcnfkcclosure", "lc", "lowercasemapping", "nfkccf", "nfkccasefold", "nfkcscf",
  "nfkcsimplecasefold", "scf", "simplecasefolding", "sfc", "slc", "simplelowercasemapping", "stc",
  "simpletitlecasemapping", "suc", "simpleuppercasemapping", "tc", "titlecasemapping", "uc",
  "uppercasemapping", "bmg", "bidimirroringglyph", "bpb", "bidipairedbracket", "kiicore",
  "cjkiicore", "kirggsource", "cjkirggsource", "kirghsource", "cjkirghsource", "kirgjsource",
  "cjkirgjsource", "kirgkpsource", "cjkirgkpsource", "kirgksource", "cjkirgksource", "kirgmsource",
  "cjkirgmsource", "kirgssource", "cjkirgssource", "kirgtsource", "cjkirgtsource", "kirguksource",
  "cjkirguksource", "kirgusource", "cjkirgusource", "kirgvsource", "cjkirgvsource", "krsunicode",
  "cjkrsunicode", "unicoderadicalstroke", "urs", "equideo", "equivalentunifiedideograph", "isc",
  "isocomment", "jsn", "jamoshortname", "na", "name", "na1", "unicode1name", "namealias", "scx",
  "scriptextensions", "kehcat", "kehdesc", "kehfunc", "kehfval", "kehhg", "kehifao", "kehjsesh",
  "kehunik", "age", "blk", "block", "sc", "script", "bc", "bidiclass", "bpt",
  "bidipairedbrackettype", "ccc", "canonicalcombiningclass", "dt", "decompositiontype", "ea",
  "eastasianwidth", "gc", "generalcategory", "gcb", "graphemeclusterbreak", "hst",
  "hangulsyllabletype", "incb", "indicconjunctbreak", "inpc", "indicpositionalcategory", "insc",
  "indicsyllabiccategory", "jg", "joininggroup", "jt", "joiningtype", "kehcore", "lb", "linebreak",
  "nfcqc", "nfcquickcheck", "nfdqc", "nfdquickcheck", "nfkcqc", "nfkcquickcheck", "nfkdqc",
  "nfkdquickcheck", "nt", "numerictype", "sb", "sentencebreak", "vo", "verticalorientation", "wb",
  "wordbreak", "ce", "compositionexclusion", "compex", "fullcompositionexclusion", "cwkcf",
  "changeswhennfkccasefolded", "kehnomirror", "kehnorotate", "xonfc", "expandsonnfc", "xonfd",
  "expandsonnfd", "xonfkc", "expandsonnfkc", "xonfkd", "expandsonnfkd"]

def isProperty (name : String) : Bool := (yesNo? name).isSome || otherProperties.contains name

/-- Names of a general category or a script that are also abbreviations of a property. -/
def categoryFirst : List String := ["cf", "sc", "lc"]

/-- Values of the standard without a set: surrogates are no characters, and these scripts only stand for
the lack of a single script. -/
def vacantValues : List String :=
  ["cs", "surrogate", "hrkt", "katakanaorhiragana", "unknown", "zzzz"]

/-- The set that a single name stands for: a property, a general category or a script. -/
def named (name : List Char) : Except LookupFault CharSet :=
  let name := looseName name
  let value? := category? name <|> (script? name).map Script.set
  let found? :=
    if isProperty name && !categoryFirst.contains name then yesNo? name else value?
  match found? with
  | some s => .ok s
  | none => .error (if vacantValues.contains name then .unknownValue else .unknownProperty)

/-- The characters for which a property has the given value. -/
def withValue (property value : List Char) : Except LookupFault CharSet :=
  let property := looseName property
  let value := looseName value
  let found? : Option CharSet :=
    match property with
    | "gc" | "generalcategory" => category? value
    | "sc" | "script" => (script? value).map Script.set
    | "scx" | "scriptextensions" => (script? value).map Script.extended
    | "age" => age? value
    | "gcb" | "graphemeclusterbreak" => breakClass? graphemeBreak value
    | "wb" | "wordbreak" => breakClass? wordBreak value
    | "sb" | "sentencebreak" => breakClass? sentenceBreak value
    | _ => none
  match found? with
  | some s => .ok s
  | none => .error (if isProperty property then .unknownValue else .unknownProperty)

/-! Classes with a letter of their own -/

def digit : CharSet := GeneralCategory.decimalNumber.set

def space : CharSet := ListedProperty.whiteSpace.set

open GeneralCategory ListedProperty in
def word : CharSet :=
  .sUnion [alphabetic, ofCategories marks, decimalNumber.set, connectorPunctuation.set, joinControl.set]

def numeric : CharSet := ofCategories GeneralCategory.numbers

/-- Characters that a quotation writes by number: those without a shape, and those that combine. -/
def unprintable : CharSet :=
  (CharSet.sUnion [assigned.compl, ofCategories [.control, .format, .privateUse, .lineSeparator,
    .paragraphSeparator, .spaceSeparator], graphemeExtend]).diff (.singleton ' ')

end TrigramSieve.Unicode
