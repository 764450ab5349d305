import StyleInline.Pattern.Fault
import StyleInline.Pattern.Tree
import StyleInline.Text.Age
import StyleInline.Text.Segment
import StyleInline.Text.Writing

/-!
# Properties by name

The sets that a pattern names by a property of their characters.  Of a name only the plain form
counts.
-/

namespace StyleInline.Pattern

open StyleInline.Text (CharTable)

/-- A name without what does not count in it: a leading `is`, blanks, hyphens, underscores, case,
and all that is beyond ASCII. -/
def plainName (name : String) : String :=
  let chars := name.toList
  let hasIs := (chars.take 2).map Char.toLower == ['i', 's']
  let counts (c : Char) : Bool := c.toNat < 128 && c != ' ' && c != '_' && c != '-'
  let kept := ((if hasIs then chars.drop 2 else chars).filter counts).map Char.toLower
  if hasIs && kept == ['c'] then "isc" else String.ofList kept

def findTable? (name : String) (tables : List (List String × CharTable)) : Option CharTable :=
  (tables.find? fun (names, _) => names.contains name).map Prod.snd

def findWriting? (name : String) : Option Text.WritingSystem :=
  Text.WritingSystem.all.find? fun system => system.names.contains name

/-- Categories whose names are also short for properties that no pattern can use. -/
def categoriesFirst : List String := ["cf", "sc", "lc"]

def ofPlainName (name : String) : Except Cause CharTable :=
  let property? :=
    if categoriesFirst.contains name then none else findTable? name Text.properties
  let known? := property?.orElse fun _ =>
    (findTable? name Text.categories).orElse fun _ =>
      (findWriting? name).map Text.WritingSystem.own
  match known? with
  | some table => .ok table
  | none =>
    if Text.emptyCategories.contains name || Text.WritingSystem.emptyNames.contains name then
      .error .propertyValueUnknown
    else .error .propertyUnknown

/-- The properties with values of which a pattern can use none, by their plain names. -/
def uselessProperties : List String :=
  ["bidiclass", "bc", "bidimirrored", "bidim", "bidimirroringglyph", "bmg", "bidipairedbracket",
    "bpb", "bidipairedbrackettype", "bpt", "block", "blk", "canonicalcombiningclass", "ccc",
    "casefolding", "cf", "changeswhennfkccasefolded", "cwkcf", "cjkaccountingnumeric",
    "kaccountingnumeric", "cjkcompatibilityvariant", "kcompatibilityvariant", "cjkiicore",
    "kiicore", "cjkirggsource", "kirggsource", "cjkirghsource", "kirghsource", "cjkirgjsource",
    "kirgjsource", "cjkirgkpsource", "kirgkpsource", "cjkirgksource", "kirgksource",
    "cjkirgmsource", "kirgmsource", "cjkirgssource", "kirgssource", "cjkirgtsource",
    "kirgtsource", "cjkirguksource", "kirguksource", "cjkirgusource", "kirgusource",
    "cjkirgvsource", "kirgvsource", "cjkothernumeric", "kothernumeric", "cjkprimarynumeric",
    "kprimarynumeric", "cjkrsunicode", "krsunicode", "unicoderadicalstroke", "urs",
    "compositionexclusion", "ce", "decompositionmapping", "dm", "decompositiontype", "dt",
    "eastasianwidth", "ea", "equivalentunifiedideograph", "equideo", "expandsonnfc", "xonfc",
    "expandsonnfd", "xonfd", "expandsonnfkc", "xonfkc", "expandsonnfkd", "xonfkd", "fcnfkcclosure",
    "fcnfkc", "fullcompositionexclusion", "compex", "hangulsyllabletype", "hst",
    "indicconjunctbreak", "incb", "indicpositionalcategory", "inpc", "indicsyllabiccategory",
    "insc", "isc", "jamoshortname", "jsn", "joininggroup", "jg", "joiningtype", "jt", "kehcat",
    "kehdesc", "kehhg", "kehifao", "kehjsesh", "kehnomirror", "kehnorotate", "linebreak", "lb",
    "lowercasemapping", "lc", "name", "na", "namealias", "nfcquickcheck", "nfcqc",
    "nfdquickcheck", "nfdqc", "nfkccasefold", "nfkccf", "nfkcsimplecasefold", "nfkcscf",
    "nfkcquickcheck", "nfkcqc", "nfkdquickcheck", "nfkdqc", "numerictype", "nt", "numericvalue",
    "nv", "simplecasefolding", "scf", "sfc", "simplelowercasemapping", "slc",
    "simpletitlecasemapping", "stc", "simpleuppercasemapping", "suc", "titlecasemapping", "tc",
    "unicode1name", "na1", "uppercasemapping", "uc", "verticalorientation", "vo"]

def valuesOf? (name : String) : Option (String → Option CharTable) :=
  if ["generalcategory", "gc"].contains name then some (findTable? · Text.categories)
  else if ["script", "sc"].contains name then
    some fun value => (findWriting? value).map Text.WritingSystem.own
  else if ["scriptextensions", "scx"].contains name then
    some fun value => (findWriting? value).map Text.WritingSystem.used
  else if name == "age" then some Text.agedUpTo?
  else if ["graphemeclusterbreak", "gcb"].contains name then some (findTable? · Text.clusterRoles)
  else if ["wordbreak", "wb"].contains name then some (findTable? · Text.wordRoles)
  else if ["sentencebreak", "sb"].contains name then some (findTable? · Text.sentenceRoles)
  else if uselessProperties.contains name || (findTable? name Text.properties).isSome then
    some fun _ => none
  else none

def PropertyName.table : PropertyName → Except Cause CharTable
  | .plain name => ofPlainName (plainName name)
  | .valued name value =>
    match valuesOf? (plainName name) with
    | none => .error .propertyUnknown
    | some find =>
      match find (plainName value) with
      | some table => .ok table
      | none => .error .propertyValueUnknown

end StyleInline.Pattern
