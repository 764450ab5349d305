import StyleInline.Stylesheet.Browser

/-!
# Releases

The versions of browsers that were released, year by year, and how many people use them.
-/

namespace StyleInline.Stylesheet

structure Release where
  browser : String
  /-- The version as it is known; one text may stand for several versions in a row. -/
  label : String
  /-- The month in which it came out, counted from the year zero on. -/
  month : Nat
  deriving BEq, Repr, Inhabited

structure Product where
  name : String
  family : Option Family
  years : List (Nat × String)
  coming : String
  deriving Repr, Inhabited

namespace Product

def leadingNat (chars : List Char) : Nat :=
  (chars.takeWhile Char.isDigit).foldl (fun value c => 10 * value + (c.toNat - 48)) 0

/-- The version that a label starts with, if it is a number. -/
def version? (label : String) : Option Version :=
  let first := label.toList.takeWhile (· != '-')
  match first.splitOn '.' with
  | major :: rest =>
    if major.isEmpty || !major.all Char.isDigit then none
    else some ⟨leadingNat major, leadingNat (rest.headD [])⟩
  | [] => none

def words (text : String) : List String :=
  ((text.toList.splitOn ' ').filter (!·.isEmpty)).map String.ofList

/-- The versions that were released, oldest first; those of a year are spread evenly over it. -/
def released (product : Product) : List Release :=
  product.years.flatMap fun (year, labels) =>
    let labels := words labels
    labels.zipIdx.map fun (label, place) =>
      ⟨product.name, label, 12 * year + 12 * place / labels.length⟩

def unreleased (product : Product) : List Release :=
  (words product.coming).map (⟨product.name, ·, 0⟩)

def known (product : Product) : List Release := product.released ++ product.unreleased

def aliases (label : String) : List String :=
  match (label.toList.splitOn '-').map String.ofList with
  | [first, last] =>
    match version? first, version? last with
    | some first, some last =>
      (List.range (last.minor + 1 - first.minor)).map fun step =>
        toString first.major ++ "." ++ toString (first.minor + step)
    | _, _ => [first, last]
  | _ => []

/-- The version with a label; a browser with one version has it under all labels. -/
def find? (product : Product) (label : String) : Option Release :=
  let all := product.known
  match all.find? (·.label == label) with
  | some found => some found
  | none =>
    match all.find? fun one => (aliases one.label).contains label with
    | some found => some found
    | none =>
      match all with
      | [only] => some only
      | _ => none

def chromeYears : List (Nat × String) :=
  [(2010, "4 5 6 7 8"), (2011, "9 10 11 12 13 14 15 16"), (2012, "17 18 19 20 21 22 23"),
    (2013, "24 25 26 27 28 29 30 31"), (2014, "32 33 34 35 36 37 38 39"),
    (2015, "40 41 42 43 44 45 46 47"), (2016, "48 49 50 51 52 53 54 55"),
    (2017, "56 57 58 59 60 61 62 63"), (2018, "64 65 66 67 68 69 70 71"),
    (2019, "72 73 74 75 76 77 78 79"), (2020, "80 81 83 84 85 86 87"),
    (2021, "88 89 90 91 92 93 94 95 96"), (2022, "97 98 99 100 101 102 103 104 105 106 107 108"),
    (2023, "109 110 111 112 113 114 115 116 117 118 119 120"),
    (2024, "121 122 123 124 125 126 127 128 129 130 131"), (2025, "132 133 134 135 136 137")]

def edgeYears : List (Nat × String) :=
  [(2015, "12 13"), (2016, "14"), (2017, "15 16"), (2018, "17 18"),
    (2020, "79 80 81 83 84 85 86 87"), (2021, "88 89 90 91 92 93 94 95 96"),
    (2022, "97 98 99 100 101 102 103 104 105 106 107 108"),
    (2023, "109 110 111 112 113 114 115 116 117 118 119 120"),
    (2024, "121 122 123 124 125 126 127 128 129 130 131"), (2025, "132 133 134 135 136 137")]

def firefoxYears : List (Nat × String) :=
  [(2006, "2"), (2008, "3"), (2009, "3.5"), (2010, "3.6"), (2011, "4 5 6 7 8 9"),
    (2012, "10 11 12 13 14 15 16 17"), (2013, "18 19 20 21 22 23 24 25 26"),
    (2014, "27 28 29 30 31 32 33 34"), (2015, "35 36 37 38 39 40 41 42 43"),
    (2016, "44 45 46 47 48 49 50"), (2017, "51 52 53 54 55 56 57"),
    (2018, "58 59 60 61 62 63 64"), (2019, "65 66 67 68 69 70 71"),
    (2020, "72 73 74 75 76 77 78 79 80 81 82 83 84"),
    (2021, "85 86 87 88 89 90 91 92 93 94 95"),
    (2022, "96 97 98 99 100 101 102 103 104 105 106 107 108"),
    (2023, "109 110 111 112 113 114 115 116 117 118 119 120 121"),
    (2024, "122 123 124 125 126 127 128 129 130 131 132 133"),
    (2025, "134 135 136 137 138 139")]

def explorerYears : List (Nat × String) :=
  [(2000, "5.5"), (2001, "6"), (2006, "7"), (2009, "8"), (2011, "9"), (2012, "10"),
    (2013, "11")]

def iosYears : List (Nat × String) :=
  [(2010, "3.2 4.0-4.1 4.2-4.3"), (2011, "5.0-5.1"), (2012, "6.0-6.1"), (2013, "7.0-7.1"),
    (2014, "8 8.1-8.4"), (2015, "9.0-9.2"), (2016, "9.3 10.0-10.2"), (2017, "10.3 11.0-11.2"),
    (2018, "11.3-11.4 12.0-12.1"), (2019, "12.2-12.5 13.0-13.1 13.2 13.3"),
    (2020, "13.4-13.7 14.0-14.4"), (2021, "14.5-14.8 15.0-15.1 15.2-15.3"),
    (2022, "15.4 15.5 15.6-15.8 16.0 16.1 16.2"),
    (2023, "16.3 16.4 16.5 16.6-16.7 17.0 17.1 17.2"),
    (2024, "17.3 17.4 17.5 17.6-17.7 18.0 18.1 18.2"), (2025, "18.3 18.4 18.5")]

def safariYears : List (Nat × String) :=
  [(2008, "3.1 3.2"), (2009, "4"), (2010, "5"), (2011, "5.1"), (2012, "6"), (2013, "6.1 7"),
    (2014, "7.1 8"), (2015, "9"), (2016, "9.1 10"), (2017, "10.1 11"), (2018, "11.1 12"),
    (2019, "12.1 13"), (2020, "13.1 14"), (2021, "14.1 15 15.1 15.2-15.3"),
    (2022, "15.4 15.5 15.6 16.0 16.1 16.2"), (2023, "16.3 16.4 16.5 16.6 17.0 17.1 17.2"),
    (2024, "17.3 17.4 17.5 17.6 18.0 18.1 18.2"), (2025, "18.3 18.4 18.5")]

def operaYears : List (Nat × String) :=
  [(2006, "9"), (2008, "9.5-9.6"), (2009, "10.0-10.1"), (2010, "10.5 10.6 11"),
    (2011, "11.1 11.5 11.6"), (2012, "12 12.1"), (2013, "15 16 17 18"),
    (2014, "19 20 21 22 23 24 25 26"), (2015, "27 28 29 30 31 32 33 34"),
    (2016, "35 36 37 38 39 40 41 42"), (2017, "43 44 45 46 47 48 49"),
    (2018, "50 51 52 53 54 55 56 57"), (2019, "58 60 62 63 64 65"),
    (2020, "66 67 68 69 70 71 72 73"), (2021, "74 75 76 77 78 79 80 81 82"),
    (2022, "83 84 85 86 87 88 89 90 91 92 93 94"),
    (2023, "95 96 97 98 99 100 101 102 103 104 105"),
    (2024, "106 107 108 109 110 111 112 113 114 115"), (2025, "116 117 118 119")]

def samsungYears : List (Nat × String) :=
  [(2016, "4 5.0-5.4"), (2017, "6.2-6.4"), (2018, "7.2-7.4 8.2"), (2019, "9.2 10.1 11.1-11.2"),
    (2020, "12.0 13.0"), (2021, "14.0 15.0 16.0"), (2022, "17.0 18.0 19.0"),
    (2023, "20 21 22 23"), (2024, "24 25 26 27"), (2025, "28")]

/-- The years of `android`, of which only the newest version is kept up. -/
def androidYears : List (Nat × String) :=
  [(2009, "2.1"), (2010, "2.2 2.3"), (2011, "3 4"), (2012, "4.1 4.2-4.3"), (2013, "4.4"),
    (2014, "4.4.3-4.4.4"), (2025, "137")]

def all : List Product :=
  [⟨"and_chr", some .chrome, [(2025, "137")], ""⟩,
    ⟨"and_ff", some .firefox, [(2025, "139")], ""⟩,
    ⟨"and_qq", none, [(2024, "14.9")], ""⟩, ⟨"and_uc", none, [(2024, "15.5")], ""⟩,
    ⟨"android", some .android, androidYears, ""⟩, ⟨"baidu", none, [(2023, "13.18")], ""⟩,
    ⟨"bb", none, [(2012, "7"), (2013, "10")], ""⟩,
    ⟨"chrome", some .chrome, chromeYears, "138 139 140"⟩,
    ⟨"edge", some .edge, edgeYears, ""⟩,
    ⟨"firefox", some .firefox, firefoxYears, "140 141 142"⟩,
    ⟨"ie", some .explorer, explorerYears, ""⟩,
    ⟨"ie_mob", none, [(2012, "10"), (2014, "11")], ""⟩,
    ⟨"ios_saf", some .iosSafari, iosYears, "26.0"⟩,
    ⟨"kaios", none, [(2017, "2.5"), (2021, "3.0-3.1")], ""⟩,
    ⟨"op_mini", none, [(2014, "all")], ""⟩,
    ⟨"op_mob", some .opera,
      [(2010, "10"), (2011, "11 11.1 11.5"), (2012, "12 12.1"), (2024, "80")], ""⟩,
    ⟨"opera", some .opera, operaYears, ""⟩,
    ⟨"safari", some .safari, safariYears, "26.0 TP"⟩,
    ⟨"samsung", some .samsung, samsungYears, ""⟩]

def otherNames : List (String × String) :=
  [("fx", "firefox"), ("ff", "firefox"), ("ios", "ios_saf"), ("explorer", "ie"),
    ("blackberry", "bb"), ("explorermobile", "ie_mob"), ("operamini", "op_mini"),
    ("operamobile", "op_mob"), ("chromeandroid", "and_chr"), ("firefoxandroid", "and_ff"),
    ("ucandroid", "and_uc"), ("qqandroid", "and_qq")]

def named? (name : String) : Option Product :=
  let name := (otherNames.lookup name.toLower).getD name.toLower
  all.find? (·.name == name)

end Product

namespace Release

/-- The browser that a version is one of, if it has a family and a number. -/
def browser? (release : Release) : Option Browser := do
  let product ← Product.all.find? (·.name == release.browser)
  return ⟨← product.family, ← Product.version? release.label⟩

/-- The versions that are used most, in hundredths of a percent of all people, the most used
first. -/
def shares : List (String × String × Nat) :=
  [("and_chr", "137", 4300), ("chrome", "137", 1400), ("ios_saf", "18.5", 700),
    ("edge", "137", 400), ("ios_saf", "18.4", 300), ("chrome", "136", 200),
    ("samsung", "28", 190), ("ios_saf", "18.3", 150), ("ios_saf", "17.6-17.7", 150),
    ("safari", "18.5", 150), ("firefox", "139", 140), ("op_mob", "80", 110),
    ("and_uc", "15.5", 100), ("op_mini", "all", 80), ("chrome", "109", 80),
    ("opera", "119", 70), ("ios_saf", "16.6-16.7", 70), ("safari", "17.6", 60),
    ("ios_saf", "15.6-15.8", 55), ("ie", "11", 40), ("and_ff", "139", 30),
    ("firefox", "128", 30), ("android", "137", 30), ("chrome", "135", 30),
    ("chrome", "134", 30), ("chrome", "131", 25), ("chrome", "133", 25), ("chrome", "132", 25),
    ("and_qq", "14.9", 20), ("samsung", "27", 20), ("chrome", "130", 20),
    ("safari", "16.6", 20), ("safari", "15.6", 15), ("firefox", "115", 15),
    ("chrome", "79", 10), ("firefox", "52", 5), ("ios_saf", "14.0-14.4", 5)]

def share (release : Release) : Nat :=
  ((shares.find? fun (browser, label, _) =>
    browser == release.browser && label == release.label).map fun (_, _, share) => share).getD 0

/-- The versions of `chrome` inside the versions of `electron`, each up to the next one. -/
def embedded : List (Version × Nat) :=
  [(⟨0, 20⟩, 39), (⟨0, 21⟩, 41), (⟨0, 25⟩, 42), (⟨0, 27⟩, 43), (⟨0, 30⟩, 44), (⟨0, 31⟩, 45),
    (⟨0, 36⟩, 47), (⟨0, 37⟩, 49), (⟨1, 0⟩, 49), (⟨1, 1⟩, 50), (⟨1, 2⟩, 51), (⟨1, 3⟩, 52),
    (⟨1, 4⟩, 53), (⟨1, 5⟩, 54), (⟨1, 6⟩, 56), (⟨1, 7⟩, 58), (⟨1, 8⟩, 59), (⟨2, 0⟩, 61),
    (⟨3, 0⟩, 66), (⟨4, 0⟩, 69), (⟨5, 0⟩, 73), (⟨6, 0⟩, 76), (⟨7, 0⟩, 78), (⟨8, 0⟩, 80),
    (⟨9, 0⟩, 83), (⟨10, 0⟩, 85), (⟨11, 0⟩, 87), (⟨12, 0⟩, 89), (⟨13, 0⟩, 91), (⟨14, 0⟩, 93),
    (⟨15, 0⟩, 94), (⟨16, 0⟩, 96), (⟨17, 0⟩, 98), (⟨18, 0⟩, 100), (⟨19, 0⟩, 102),
    (⟨20, 0⟩, 104), (⟨21, 0⟩, 106), (⟨22, 0⟩, 108), (⟨23, 0⟩, 110), (⟨24, 0⟩, 112),
    (⟨25, 0⟩, 114), (⟨26, 0⟩, 116), (⟨27, 0⟩, 118), (⟨28, 0⟩, 120), (⟨29, 0⟩, 122),
    (⟨30, 0⟩, 124), (⟨31, 0⟩, 126), (⟨32, 0⟩, 128), (⟨33, 0⟩, 130), (⟨34, 0⟩, 132),
    (⟨35, 0⟩, 134), (⟨36, 0⟩, 136)]

end Release

end StyleInline.Stylesheet
