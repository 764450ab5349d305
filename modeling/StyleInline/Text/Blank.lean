/-!
# White space

The characters that carry white space, and the normal form of program text in which
indentation and blank lines do not count.
-/

namespace StyleInline.Text

/-- The characters with the Unicode property `White_Space`. -/
def isBlank (c : Char) : Bool :=
  let code := c.toNat
  (9 ≤ code && code ≤ 13) || code == 32 || code == 0x85 || code == 0xA0 || code == 0x1680 ||
  (0x2000 ≤ code && code ≤ 0x200A) || code == 0x2028 || code == 0x2029 || code == 0x202F ||
  code == 0x205F || code == 0x3000

def trimChars (chars : List Char) : List Char :=
  ((chars.dropWhile isBlank).reverse.dropWhile isBlank).reverse

/-- A run of white space is a line break if it holds one, and is kept otherwise. -/
def settleRun (run : List Char) : List Char :=
  if run.contains '\n' then ['\n'] else run

/-- Settles every maximal run of white space; `reversed` is the run met so far, last first. -/
def settleRuns (reversed : List Char) : List Char → List Char
  | [] => settleRun reversed.reverse
  | c :: rest =>
    if isBlank c then settleRuns (c :: reversed) rest
    else settleRun reversed.reverse ++ c :: settleRuns [] rest

/--
Program text without indentation, trailing blanks and empty lines: each maximal run of
white space that holds a line break becomes that line break, and the ends are trimmed.
-/
def removeIndentation (text : String) : String :=
  String.ofList (trimChars (settleRuns [] text.toList))

end StyleInline.Text
