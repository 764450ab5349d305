/-!
# Comparison signs

The signs with which media queries and queries for browsers bound a value.
-/

namespace StyleInline.Stylesheet

inductive Sign where
  | equal
  | less
  | lessEqual
  | greater
  | greaterEqual
  deriving DecidableEq, Repr, Inhabited

namespace Sign

def text : Sign → String
  | .equal => "="
  | .less => "<"
  | .lessEqual => "<="
  | .greater => ">"
  | .greaterEqual => ">="

def opposite : Sign → Sign
  | .equal => .equal
  | .less => .greater
  | .lessEqual => .greaterEqual
  | .greater => .less
  | .greaterEqual => .lessEqual

def agrees : Sign → Sign → Bool
  | .less, .less | .less, .lessEqual | .lessEqual, .less | .lessEqual, .lessEqual => true
  | .greater, .greater | .greater, .greaterEqual | .greaterEqual, .greater
  | .greaterEqual, .greaterEqual => true
  | _, _ => false

/-- Something that is below, at or above a value compares with it as the sign says. -/
def admits (sign : Sign) (order : Ordering) : Bool :=
  match sign with
  | .equal => order == .eq
  | .less => order == .lt
  | .lessEqual => order != .gt
  | .greater => order == .gt
  | .greaterEqual => order != .lt

end Sign

end StyleInline.Stylesheet
