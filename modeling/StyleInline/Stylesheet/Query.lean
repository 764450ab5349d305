import StyleInline.Stylesheet.Release
import StyleInline.Stylesheet.Sign

/-!
# Queries for browsers

A query such as `last 2 versions` or `safari >= 12` stands for versions of browsers.  Queries are
joined by commas or words: what a later one gives is added, kept alone or taken away.
-/

namespace StyleInline.Stylesheet

inductive QueryFault where
  /-- What is left of the queries where they stop to make sense. -/
  | unreadable (rest : String)
  | negatedFirst (query : String)
  | unknownBrowser (name : String)
  | unknownVersion (name version : String)
  | unknownElectron (version : String)
  | unknownNode (version : String)
  | unknownFeature (name : String)
  | unknownQuery (text : String)
  | unknownRegion (name : String)
  /-- Shared queries have to bear a certain name. -/
  | sharedPrefix
  | sharedPoint
  | sharedMissing (name : String)
  deriving DecidableEq, Repr, Inhabited

def QueryFault.message : QueryFault → String
  | .unreadable rest => "failed to parse the rest of input: ...'" ++ rest ++ "'"
  | .negatedFirst query =>
    "query cannot start with 'not'; add any other queries before '" ++ query ++ "'"
  | .unknownBrowser name => "unknown browser: '" ++ name ++ "'"
  | .unknownVersion name version =>
    "unknown version '" ++ version ++ "' of browser '" ++ name ++ "'"
  | .unknownElectron version => "unknown Electron version: " ++ version
  | .unknownNode version => "unknown Node.js version: " ++ version
  | .unknownFeature name => "unknown browser feature: '" ++ name ++ "'"
  | .unknownQuery text => "unknown query: '" ++ text ++ "'"
  | .unknownRegion name => "unknown region: '" ++ name ++ "'"
  | .sharedPrefix => "Browserslist config needs to have `browserslist-config-` prefix."
  | .sharedPoint => "`.` not allowed in Browserslist config name."
  | .sharedMissing name => "failed to resolve '" ++ name ++ "' package in `extends` query"

inductive VersionRange where
  | between (first last : String)
  | compared (sign : Sign) (bound : String)
  | exact (version : String)
  deriving DecidableEq, Repr, Inhabited

inductive Wanted where
  | last (count : Nat) (isMajor : Bool) (name : Option String)
  | unreleased (name : Option String)
  | months (count : Nat)
  | since (month : Nat)
  /-- Those that are used by some share of people, in hundredths of a percent, everywhere or in a
  region. -/
  | used (sign : Sign) (share : Nat) (region : Option String)
  /-- The most used ones that together reach some share of people. -/
  | cover (share : Nat) (region : Option String)
  | supporting (feature : String)
  | electron (range : VersionRange)
  | node (range : VersionRange)
  | browser (name : String) (range : VersionRange)
  | longSupported
  | phantom (isOld : Bool)
  | nothing
  | usual
  | dead
  | shared (name : String)
  | unknown (text : String)
  deriving DecidableEq, Repr, Inhabited

structure Query where
  text : String
  wanted : Wanted
  isNegated : Bool
  /-- Only what it gives is kept of what came before. -/
  narrows : Bool
  deriving DecidableEq, Repr, Inhabited

namespace Query

abbrev Reader (α : Type) := StateT (List Char) Option α

namespace Reader

def fail {α : Type} : Reader α := fun _ => none

def word (expected : String) : Reader Unit := fun chars =>
  let length := expected.length
  if (String.ofList (chars.take length)).toLower == expected && chars.length ≥ length then
    some ((), chars.drop length)
  else none

def isSpace (c : Char) : Bool := c == ' ' || c == '\t' || c == '\n' || c == '\r'

def spaces : Reader Unit := fun chars => some ((), chars.dropWhile isSpace)

def gap : Reader Unit := fun chars =>
  match chars with
  | c :: rest => if isSpace c then some ((), rest.dropWhile isSpace) else none
  | [] => none

def run (holds : Char → Bool) : Reader String := fun chars =>
  match chars.span holds with
  | ([], _) => none
  | (taken, rest) => some (String.ofList taken, rest)

def perhaps {α : Type} (reader : Reader α) : Reader (Option α) :=
  (some <$> reader) <|> pure none

def nat : Reader Nat := do return Product.leadingNat (← run Char.isDigit).toList

def hundredths : Reader Nat := do
  let whole ← perhaps nat
  let places ← perhaps (word "." *> perhaps (run Char.isDigit))
  match whole, places with
  | none, none => fail
  | whole, places =>
    let digits := ((places.bind id).getD "").toList ++ ['0', '0']
    return 100 * whole.getD 0 + Product.leadingNat (digits.take 2)

def name : Reader String := run fun c => c.isAlpha || c == '_'

/-- A version: a number with points, or the preview that comes before all numbers. -/
def version : Reader String := (word "tp" *> pure "TP") <|> run fun c => c.isDigit || c == '.'

def sign : Reader Sign :=
  (word ">=" *> pure .greaterEqual) <|> (word "<=" *> pure .lessEqual) <|>
    (word ">" *> pure .greater) <|> (word "<" *> pure .less)

def range : Reader VersionRange :=
  (do
    let first ← version
    word "-"
    return .between first (← version)) <|>
  (do
    let sign ← sign
    spaces
    return .compared sign (← version)) <|>
  .exact <$> version

def versions : Reader Unit := do
  word "version"
  let _ ← perhaps (word "s")

def last : Reader Wanted := do
  word "last" *> gap
  let count ← nat
  gap
  (do
    let isMajor ← perhaps (word "major" *> gap)
    versions
    return .last count isMajor.isSome none) <|>
  (do
    let name ← name
    gap
    let isMajor ← perhaps (word "major" *> gap)
    versions
    return .last count isMajor.isSome (some name))

def unreleased : Reader Wanted := do
  word "unreleased" *> gap
  (versions *> pure (.unreleased none)) <|>
    (do
      let name ← name
      gap
      versions
      return .unreleased (some name))

def years : Reader Wanted := do
  word "last" *> gap
  let count ← hundredths
  gap
  word "year"
  let _ ← perhaps (word "s")
  return .months (12 * count / 100)

def since : Reader Wanted := do
  word "since" *> gap
  let year ← nat
  let month ← perhaps (word "-" *> nat)
  let _ ← perhaps (word "-" *> nat)
  return .since (12 * year + (month.getD 1 - 1))

def region : Reader (Option String) := perhaps do
  gap *> word "in" *> gap
  run fun c => c.isAlpha || c == '-' || c == '_'

def used : Reader Wanted := do
  let sign ← sign
  spaces
  let share ← hundredths
  word "%"
  return .used sign share (← region)

def cover : Reader Wanted := do
  word "cover" *> gap
  let share ← hundredths
  word "%"
  return .cover share (← region)

def supporting : Reader Wanted := do
  let _ ← perhaps ((word "fully" <|> word "partially") *> gap)
  word "supports" *> gap
  return .supporting (← run fun c => c.isAlphanum || c == '-' || c == '_')

/-- What stands between two queries; it tells whether the second one narrows the first. -/
def conjunction : Reader Bool :=
  (spaces *> word "," *> spaces *> pure false) <|> (gap *> word "or" *> gap *> pure false) <|>
    (gap *> word "and" *> gap *> pure true)

/-- The length of a text up to and with the first conjunction in it that has something before
it. -/
def lengthToConjunction : List Char → Option Nat
  | [] => none
  | c :: rest =>
    match conjunction (c :: rest) with
    | some (_, behind) => some ((c :: rest).length - behind.length)
    | none => (lengthToConjunction rest).map (· + 1)

def unknown : Reader Wanted := fun chars => do
  let length ← lengthToConjunction chars
  return (.unknown (String.ofList (chars.take length)), chars.drop length)

def shared : Reader Wanted := do
  word "extends" *> gap
  return .shared (← run fun c => c.isAlphanum || "-_@/.".contains c)

def wanted : Reader Wanted :=
  last <|> unreleased <|> years <|> since <|> used <|> cover <|> supporting <|>
    (word "electron" *> gap *> (.electron <$> range)) <|>
    (word "node" *> gap *> (.node <$> range)) <|>
    ((word "firefox" <|> word "fx" <|> word "ff") *> gap *> word "esr" *> pure .longSupported) <|>
    ((word "operamini" <|> word "op_mini") *> gap *> word "all" *> pure .nothing) <|>
    (word "current" *> gap *> word "node" *> pure .nothing) <|>
    (word "maintained" *> gap *> word "node" *> gap *> versions *> pure .nothing) <|>
    (word "phantomjs" *> gap *>
      ((word "1.9" *> pure (.phantom true)) <|> (word "2.1" *> pure (.phantom false)))) <|>
    (do
      let name ← name
      gap
      return .browser name (← range)) <|>
    (word "browserslist" *> gap *> word "config" *> pure .usual) <|>
    (word "defaults" *> pure .usual) <|> (word "dead" *> pure .dead) <|> shared <|> unknown

def query (narrows : Bool) : Reader Query := fun chars => do
  let (found, rest) ← (do
    let isNegated ← perhaps (word "not" *> gap)
    return (⟨"", ← wanted, isNegated.isSome, narrows⟩ : Query)) chars
  return ({ found with text := String.ofList (chars.take (chars.length - rest.length)) }, rest)

def more : Nat → Reader (List Query)
  | 0 => return []
  | fuel + 1 => do
    match ← perhaps (do query (← conjunction)) with
    | some first => return first :: (← more fuel)
    | none => return []

end Reader

def ofText (text : String) : Except QueryFault (List Query) :=
  let isSpace := Reader.isSpace
  let chars := ((text.toList.dropWhile isSpace).reverse.dropWhile isSpace).reverse
  if chars.isEmpty then .ok []
  else
    match Reader.query false chars with
    | none => .error (.unreadable "")
    | some (first, rest) =>
      match Reader.more rest.length rest with
      | some (others, []) => .ok (first :: others)
      | some (_, rest) => .error (.unreadable (String.ofList rest))
      | none => .error (.unreadable (String.ofList rest))

def productOf (name : String) : Except QueryFault Product :=
  match Product.named? name with
  | some product => .ok product
  | none => .error (.unknownBrowser name)

def productsOf : Option String → Except QueryFault (List Product)
  | none => .ok Product.all
  | some name => (productOf name).map ([·])

def compareVersions (a b : Version) : Ordering :=
  (compare a.major b.major).then (compare a.minor b.minor)

/-- The last versions of a browser; of `android` only the newest one counts. -/
def lastOf (count : Nat) (isMajor : Bool) (product : Product) : List Release :=
  let newestFirst := product.released.reverse
  let count := if product.name == "android" then min count 1 else count
  if isMajor then
    let majorOf (release : Release) : Option Nat :=
      (Product.version? release.label).map Version.major
    let majors := ((newestFirst.map majorOf).eraseDups).take count
    newestFirst.filter fun release => majors.contains (majorOf release)
  else newestFirst.take count

/-- The version that a label names, or the one that it misses a zero of or has one too many. -/
def exactOf (name : String) (product : Product) (label : String) :
    Except QueryFault (List Release) :=
  let other :=
    if label.contains '.' then
      if label.endsWith ".0" then (label.dropEnd 2).toString else label
    else label ++ ".0"
  match product.find? label, product.find? other with
  | some found, _ => .ok [found]
  | none, some found => .ok [found]
  | none, none => .error (.unknownVersion name label)

def isWithin (range : VersionRange) (version : Version) : Bool :=
  let numberOf (label : String) : Version := (Product.version? label).getD ⟨0, 0⟩
  match range with
  | .between first last =>
    compareVersions version (numberOf first) != .lt &&
      compareVersions version (numberOf last) != .gt
  | .compared sign bound => sign.admits (compareVersions version (numberOf bound))
  | .exact label => version == numberOf label

def ranged (name : String) (product : Product) (range : VersionRange) :
    Except QueryFault (List Release) :=
  match range with
  | .exact label => exactOf name product label
  | range => .ok (product.released.filter fun release =>
      (Product.version? release.label).any (isWithin range))

/-- The versions of `chrome` inside those of `electron` in a range. -/
def embedded (range : VersionRange) : Except QueryFault (List Release) := do
  let found := Release.embedded.filter fun (version, _) => isWithin range version
  let found :=
    match range with
    | .exact label =>
      let wanted := (Product.version? label).getD ⟨0, 0⟩
      (Release.embedded.filter fun (entry : Version × Nat) =>
        entry.1.major == wanted.major && entry.1.minor ≤ wanted.minor).getLast?.toList
    | _ => found
  match range, found with
  | .exact label, [] => .error (.unknownElectron label)
  | _, _ =>
    let product ← productOf "chrome"
    return found.filterMap fun (_, version) => product.find? (toString version)

def isEmbedded (name : String) : Bool := name.toLower == "electron"

def lastEmbedded (count : Nat) : Except QueryFault (List Release) := do
  let product ← productOf "chrome"
  return (Release.embedded.reverse.take count).filterMap fun (_, version) =>
    product.find? (toString version)

/-- Shared queries are never at hand; what is wrong with their name is told first. -/
def sharedOf (name : String) : Except QueryFault (List Release) :=
  let chars := name.toList
  let isScoped := chars.head? == some '@' && chars.contains '/'
  let own := if isScoped then (chars.dropWhile (· != '/')).drop 1 else chars
  let isNamed := "browserslist-config-".toList.isPrefixOf own ||
    (isScoped && own == "browserslist-config".toList)
  if !isNamed then .error .sharedPrefix
  else if own.contains '.' then .error .sharedPoint
  else .error (.sharedMissing name)

def supported : List (String × List (String × String)) :=
  [("css-grid", [("chrome", "57"), ("edge", "12"), ("firefox", "52"), ("ie", "10"),
      ("ios_saf", "10.3"), ("opera", "44"), ("safari", "10.1"), ("samsung", "6.2"),
      ("and_chr", "0"), ("and_ff", "0"), ("android", "137"), ("op_mob", "80")]),
    ("es6-module", [("chrome", "60"), ("edge", "15"), ("firefox", "54"), ("ios_saf", "10.3"),
      ("opera", "47"), ("safari", "10.1"), ("samsung", "8.2"), ("and_chr", "0"),
      ("and_ff", "0"), ("android", "137"), ("op_mob", "80")]),
    ("css-variables", [("chrome", "48"), ("edge", "15"), ("firefox", "31"),
      ("ios_saf", "9.3"), ("opera", "35"), ("safari", "9.1"), ("samsung", "5.0"),
      ("and_chr", "0"), ("and_ff", "0"), ("android", "137"), ("op_mob", "80")]),
    ("flexbox", [("chrome", "4"), ("edge", "12"), ("firefox", "2"), ("ie", "10"),
      ("ios_saf", "3.2"), ("opera", "12.1"), ("safari", "3.1"), ("samsung", "4"),
      ("and_chr", "0"), ("and_ff", "0"), ("android", "2.1"), ("op_mob", "12.1")]),
    ("arrow-functions", [("chrome", "45"), ("edge", "12"), ("firefox", "22"),
      ("ios_saf", "10.0"), ("opera", "32"), ("safari", "10"), ("samsung", "5.0"),
      ("and_chr", "0"), ("and_ff", "0"), ("android", "137"), ("op_mob", "80")]),
    ("async-functions", [("chrome", "55"), ("edge", "15"), ("firefox", "52"),
      ("ios_saf", "11.0"), ("opera", "42"), ("safari", "10.1"), ("samsung", "6.2"),
      ("and_chr", "0"), ("and_ff", "0"), ("android", "137"), ("op_mob", "80")])]

def supportingOf (feature : String) : Except QueryFault (List Release) :=
  match supported.lookup feature with
  | none => .error (.unknownFeature feature)
  | some firsts => .ok (Product.all.flatMap fun product =>
      match firsts.lookup product.name with
      | none => []
      | some first => product.released.filter fun release =>
          (Product.version? release.label).any (isWithin (.compared .greaterEqual first)))

def regions : List String :=
  ["alt-af", "alt-an", "alt-as", "alt-eu", "alt-na", "alt-oc", "alt-sa", "alt-ww",
    "AD", "AE", "AF", "AG", "AI", "AL", "AM", "AO", "AR", "AS", "AT", "AU", "AW", "AX", "AZ", "BA",
    "BB", "BD", "BE", "BF", "BG", "BH", "BI", "BJ", "BM", "BN", "BO", "BR", "BS", "BT", "BW", "BY",
    "BZ", "CA", "CD", "CF", "CG", "CH", "CI", "CK", "CL", "CM", "CN", "CO", "CR", "CU", "CV", "CX",
    "CY", "CZ", "DE", "DJ", "DK", "DM", "DO", "DZ", "EC", "EE", "EG", "ER", "ES", "ET", "FI", "FJ",
    "FK", "FM", "FO", "FR", "GA", "GB", "GD", "GE", "GF", "GG", "GH", "GI", "GL", "GM", "GN", "GP",
    "GQ", "GR", "GT", "GU", "GW", "GY", "HK", "HN", "HR", "HT", "HU", "ID", "IE", "IL", "IM", "IN",
    "IQ", "IR", "IS", "IT", "JE", "JM", "JO", "JP", "KE", "KG", "KH", "KI", "KM", "KN", "KP", "KR",
    "KW", "KY", "KZ", "LA", "LB", "LC", "LI", "LK", "LR", "LS", "LT", "LU", "LV", "LY", "MA", "MC",
    "MD", "ME", "MG", "MH", "MK", "ML", "MM", "MN", "MO", "MP", "MQ", "MR", "MS", "MT", "MU", "MV",
    "MW", "MX", "MY", "MZ", "NA", "NC", "NE", "NF", "NG", "NI", "NL", "NO", "NP", "NR", "NU", "NZ",
    "OM", "PA", "PE", "PF", "PG", "PH", "PK", "PL", "PM", "PN", "PR", "PS", "PT", "PW", "PY", "QA",
    "RE", "RO", "RS", "RU", "RW", "SA", "SB", "SC", "SD", "SE", "SG", "SH", "SI", "SK", "SL", "SM",
    "SN", "SO", "SR", "ST", "SV", "SY", "SZ", "TC", "TD", "TG", "TH", "TJ", "TL", "TM", "TN", "TO",
    "TR", "TT", "TV", "TW", "TZ", "UA", "UG", "US", "UY", "UZ", "VA", "VC", "VE", "VG", "VI", "VN",
    "VU", "WF", "WS", "YE", "YT", "ZA", "ZM", "ZW"]

def checkRegion (name : Option String) : Except QueryFault Unit :=
  match name with
  | none => .ok ()
  | some name =>
    let usual := if name.length == 2 then name.toUpper else name.toLower
    if regions.contains usual then .ok () else .error (.unknownRegion name)

/-- The most used versions up to a share of all people, of which some are reached already. -/
def coverOf (share reached : Nat) : List (String × String × Nat) → List Release
  | [] => []
  | (name, label, part) :: rest =>
    if reached ≥ share then []
    else
      ((Product.named? name).bind (·.find? label)).toList ++ coverOf share (reached + part) rest

def releases : List Release := Product.all.flatMap Product.released

def newestMonth : Nat := (releases.map Release.month).foldl max 0

/-- Versions that are not kept up any more and are used by few. -/
def isDead (release : Release) : Bool :=
  ["ie", "ie_mob", "bb", "baidu"].contains release.browser ||
    (release.browser == "op_mob" && release.label != "80") ||
    (release.browser == "samsung" && release.label == "4")

def longSupported : List Release :=
  ["128"].filterMap fun label => (Product.named? "firefox").bind (·.find? label)

/-- The versions that a query gives. -/
def find (wanted : Wanted) : Except QueryFault (List Release) := do
  match wanted with
  | .last count isMajor name =>
    if name.any isEmbedded then lastEmbedded count
    else return (← productsOf name).flatMap (lastOf count isMajor)
  | .unreleased name =>
    if name.any isEmbedded then return []
    else return (← productsOf name).flatMap Product.unreleased
  | .months count => return releases.filter fun release => newestMonth ≤ release.month + count
  | .since month => return releases.filter fun release => month ≤ release.month
  | .used sign share region =>
    checkRegion region
    return releases.filter fun release => sign.admits (compare release.share share)
  | .cover share region =>
    checkRegion region
    return coverOf share 0 Release.shares
  | .supporting feature => supportingOf feature
  | .electron range => embedded range
  | .node (.exact label) =>
    if ((Product.version? label).map Version.major).any (· ≤ 24) then return []
    else throw (.unknownNode label)
  | .node _ => return []
  | .browser name range => ranged name (← productOf name) range
  | .longSupported => return longSupported
  | .phantom isOld => exactOf "safari" (← productOf "safari") (if isOld then "5" else "6")
  | .nothing => return []
  | .usual =>
    let found := (releases.filter fun release => release.share > 50) ++
      Product.all.flatMap (lastOf 2 false) ++ longSupported
    return found.filter (!isDead ·)
  | .dead => return releases.filter isDead
  | .shared name => sharedOf name
  | .unknown text => throw (.unknownQuery text)

/-- What queries give together. -/
def answer (queries : List Query) : Except QueryFault (List Release) :=
  queries.foldlM (fun found query => do
    let more ← find query.wanted
    if query.isNegated then return found.filter (!more.contains ·)
    else if query.narrows then return found.filter more.contains
    else return found ++ more) []

def browsers (texts : List String) : Except QueryFault (List Browser) := do
  match ← ofText (", ".intercalate texts) with
  | [] => return []
  | first :: others =>
    if first.isNegated then throw (.negatedFirst first.text)
    return (← answer (first :: others)).filterMap Release.browser?

end Query

end StyleInline.Stylesheet
