/-!
# Paths

A path is the text it was written as; its meaning is the list of its components.
Repeated separators and inner `.` segments have no component, so two spellings of
one place have equal component lists.  Everything here is lexical: nothing looks at
a disk.
-/

namespace StyleInline

/-- One step of a path. -/
inductive Component where
  | root
  | here
  | up
  | name (text : String)
  deriving DecidableEq, Repr, Inhabited

namespace Component

/-- Rank of the kinds of component: the root sorts first and names last. -/
def rank : Component → Nat
  | .root => 0
  | .here => 1
  | .up => 2
  | .name _ => 3

/-- Order of components: by rank, and names by their text. -/
def less : Component → Component → Bool
  | .name left, .name right => decide (left < right)
  | left, right => decide (left.rank < right.rank)

end Component

/-- A path as it was written. -/
structure Path where
  text : String
  deriving DecidableEq, Repr, Inhabited

namespace Path

/-- The segments between separators, the empty ones included; never empty itself. -/
def segmentsOf : List Char → List (List Char)
  | [] => [[]]
  | '/' :: rest => [] :: segmentsOf rest
  | c :: rest =>
    match segmentsOf rest with
    | [] => [[c]]
    | first :: more => (c :: first) :: more

def joinSegments : List (List Char) → List Char
  | [] => []
  | [only] => only
  | first :: rest => first ++ '/' :: joinSegments rest

def isAbsolute (path : Path) : Bool :=
  match path.text.toList with
  | '/' :: _ => true
  | _ => false

/-- The component of one segment, if it has one; `leading` tells that nothing stands before it. -/
def componentOf (leading : Bool) (segment : List Char) : Option Component :=
  if segment = [] then none
  else if segment = ['.'] then (if leading then some .here else none)
  else if segment = ['.', '.'] then some .up
  else some (.name (String.ofList segment))

def componentsOf (chars : List Char) : List Component :=
  match chars with
  | '/' :: rest => .root :: (segmentsOf rest).filterMap (componentOf false)
  | _ =>
    match segmentsOf chars with
    | [] => []
    | first :: rest => (componentOf true first).toList ++ rest.filterMap (componentOf false)

def components (path : Path) : List Component := componentsOf path.text.toList

/-- Two paths that have the same components denote the same place. -/
def same (left right : Path) : Bool := left.components == right.components

/-- Lexicographic order of component lists, which is the order of listings. -/
def lessComponents : List Component → List Component → Bool
  | [], [] => false
  | [], _ :: _ => true
  | _ :: _, [] => false
  | left :: lefts, right :: rights =>
    if left.less right then true
    else if right.less left then false
    else lessComponents lefts rights

def less (left right : Path) : Bool := lessComponents left.components right.components

/-- Appends a relative path after a separator; an absolute one replaces the whole path. -/
def join (base addition : Path) : Path :=
  if addition.isAbsolute then addition
  else if base.text.isEmpty || base.text.endsWith "/" then ⟨base.text ++ addition.text⟩
  else ⟨base.text ++ "/" ++ addition.text⟩

def pushComponent (path : Path) : Component → Path
  | .root => ⟨"/"⟩
  | .here => path.join ⟨"."⟩
  | .up => path.join ⟨".."⟩
  | .name text => path.join ⟨text⟩

/-- The plain spelling of a list of components. -/
def ofComponents (components : List Component) : Path :=
  components.foldl pushComponent ⟨""⟩

/-- A step towards the lexical normal form, on the reversed components met so far. -/
def normalizeStep (reversed : List Component) : Component → List Component
  | .here => reversed
  | .up =>
    match reversed with
    | [] => []
    | .root :: rest => .root :: rest
    | _ :: rest => rest
  | other => other :: reversed

/-- Components without `.` and `..`: `..` takes the step before it back and does nothing at the
top. -/
def normalizeComponents (components : List Component) : List Component :=
  (components.foldl normalizeStep []).reverse

/-- The lexical normal form of a path. -/
def normalize (path : Path) : Path := ofComponents (normalizeComponents path.components)

/-- Whether the segment at an index carries a component. -/
def carries (absolute : Bool) (index : Nat) (segment : List Char) : Bool :=
  (componentOf (index == 0 && !absolute) segment).isSome

/-- The text before the last component, without separators and `.` segments at its end. -/
def parent? (path : Path) : Option Path :=
  let segments := segmentsOf path.text.toList
  let absolute := path.isAbsolute
  let carrying := segments.zipIdx.filter fun (segment, index) => carries absolute index segment
  match carrying.reverse with
  | [] => none
  | [_] => some ⟨if absolute then "/" else ""⟩
  | _ :: (_, index) :: _ => some ⟨String.ofList (joinSegments (segments.take (index + 1)))⟩

/-- The path itself, then its parent, and so on; `fuel` bounds the walk. -/
def ancestorsWithin : Nat → Path → List Path
  | 0, path => [path]
  | fuel + 1, path =>
    match path.parent? with
    | none => [path]
    | some above => path :: ancestorsWithin fuel above

def ancestors (path : Path) : List Path := ancestorsWithin path.text.length path

/-- The last component, when it is a name. -/
def fileName? (path : Path) : Option String :=
  match path.components.getLast? with
  | some (.name text) => some text
  | _ => none

/-- Splits a reversed name at the last dot: what follows the dot and what stands before it. -/
def splitLastDot : List Char → Option (List Char × List Char)
  | [] => none
  | '.' :: rest => some ([], rest)
  | c :: rest => (splitLastDot rest).map fun (after, before) => (after ++ [c], before)

/-- What follows the last dot of the file name, unless that dot is its first character. -/
def extension? (path : Path) : Option String :=
  match path.fileName? with
  | none => none
  | some name =>
    match splitLastDot name.toList.reverse with
    | none => none
    | some (_, []) => none
    | some (after, _) => some (String.ofList after)

/-- Whether a path lies at or below another one, whole components compared. -/
def startsWith (path base : Path) : Bool := base.components.isPrefixOf path.components

end Path

end StyleInline
