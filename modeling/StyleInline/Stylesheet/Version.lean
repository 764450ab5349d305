import StyleInline.Stylesheet.Declaration

/-!
# Versions of a declaration

A browser leaves out a declaration whose value it does not understand.  So a value that not all
targets understand is written in several versions, the plainest first: each browser keeps the last
one that it knows.
-/

namespace StyleInline.Stylesheet

namespace ImageForm

def neededBy (targets : Targets) (kind : ImageKind) : ImageForm → List Prefix
  | .under .plain => kind.prefixing.neededBy targets
  | .under before => [before]
  | .early => [.plain]

def property : ImageForm → Prefix
  | .under before => before
  | .early => .webkit

end ImageForm

/-- A value in several versions: the last one is for the best browsers. -/
structure Versions where
  others : List Spaced
  last : Spaced
  deriving BEq, Repr, Inhabited

namespace Versions

def all (versions : Versions) : List Spaced := versions.others ++ [versions.last]

end Versions

namespace Spaced

def images (spaced : Spaced) : List (ImageKind × ImageForm) :=
  spaced.filterMap fun piece =>
    match piece with
    | .image kind form _ _ => some (kind, form)
    | _ => none

def imagePrefixes (targets : Targets) (layers : List Spaced) : List Prefix :=
  Prefix.inOrder <| layers.flatMap fun layer =>
    match layer.images with
    | [] => [.plain]
    | found => found.flatMap fun (kind, form) => form.neededBy targets kind

/-- The browsers that know gradients only as they were written before there was a draft. -/
def early : List Need :=
  [.upTo .android (2, 1) (3, 0), .upTo .chrome (4, 0) (9, 0), .upTo .iosSafari (3, 2) (4, 3),
    .upTo .safari (4, 0) (5, 0)]

/-- The forms in which images are written in front of the form without a prefix. -/
def imageForms (targets : Targets) (prefixes : List Prefix) : List ImageForm :=
  let isEarly := prefixes.contains .webkit &&
    targets.any fun browser => early.any fun need => need.holds browser
  (if isEarly then [.early] else []) ++
    (prefixes.filter (· != .plain)).map .under

def versions (targets : Targets) (layers : List Spaced) (value : Spaced) : Versions :=
  let lower := value.lowerLevels targets
  let lowest := if lower.contains .bytes then value.atLevel .bytes else value
  let prefixes := imagePrefixes targets layers
  let prefixed := (imageForms targets prefixes).filterMap (inForm? · lowest)
  if prefixes.contains .plain || layers.isEmpty then
    let plain := ([.bytes, .wide].filter lower.contains).map (atLevel · value)
    ⟨prefixed ++ plain, if lower.contains .lab then value.atLevel .lab else value⟩
  else
    match prefixed.getLast? with
    | some last => ⟨prefixed.dropLast, last⟩
    | none => ⟨[], value⟩

end Spaced

inductive VersionRule where
  | single
  | alike
  /-- The last version has no prefixes if there are others. -/
  | plainLast
  /-- Only the first version has prefixes. -/
  | prefixedFirst
  /-- A version has the prefixes of its images; images without prefixes go with all of them if
  `sharesPlain` holds. -/
  | byImage (sharesPlain : Bool)
  deriving DecidableEq, Repr, Inhabited

namespace VersionRule

def ofProperty (name : String) : VersionRule :=
  if name == "filter" || name == "backdrop-filter" then plainLast
  else if name == "box-shadow" then prefixedFirst
  else if name == "border-image" then byImage false
  else if name == "mask" || name == "mask-image" then byImage true
  else if (name.startsWith "border" && !name.endsWith "radius") ||
      ["background", "outline", "text-decoration", "text-emphasis", "list-style",
        "mask-border"].any (name.startsWith ·) ||
      ["color", "text-shadow", "fill", "stroke", "caret-color", "caret"].contains name then
    alike
  else single

end VersionRule

namespace Declaration

def imageLayers (declaration : Declaration) : List Spaced :=
  let isImage (name : String) : Bool := name.endsWith "-image" || name.endsWith "-source"
  ((declaration.fields.find? fun (name, _) => isImage name).map Prod.snd).getD []

/-- The declaration in the versions that targets need. -/
def versions (targets : Targets) (declaration : Declaration) : List Declaration :=
  let one (prefixes : List Prefix) (value : Spaced) : Declaration :=
    { declaration with prefixes, value }
  let prefixes := declaration.prefixes
  let found := declaration.value.versions targets declaration.imageLayers
  match VersionRule.ofProperty declaration.property with
  | .single => [declaration]
  | .alike => found.all.map (one prefixes)
  | .plainLast =>
    let isPlain := !found.others.isEmpty && prefixes.contains .plain
    found.others.map (one prefixes) ++ [one (if isPlain then [.plain] else prefixes) found.last]
  | .prefixedFirst =>
    match found.others with
    | [] => [one prefixes found.last]
    | first :: others =>
      one prefixes first ::
        if prefixes.contains .plain then (others ++ [found.last]).map (one [.plain]) else []
  | .byImage sharesPlain =>
    found.all.map fun value =>
      let own := value.images.map fun (_, form) => form.property
      let own := if sharesPlain then own.filter (· != .plain) else own
      let shared := prefixes.filter own.contains
      one (if shared.isEmpty then prefixes else shared) value

/-- Where a property is written, another one that stands for it has no versions any more. -/
def covers (name other : String) : Bool :=
  other == name || (name == "background" && other.startsWith "background-") ||
    (name == "mask" && other.startsWith "mask-" && !other.startsWith "mask-border")

/-- The declaration behind others, in the versions that targets need; only what is understood, and
only the first declaration of a property, has several. -/
def versionsBehind (targets : Targets) (written : List Declaration) (declaration : Declaration) :
    List Declaration :=
  if targets.isEmpty || declaration.fields.isEmpty ||
      written.any (covers declaration.property ·.property) then
    [declaration]
  else declaration.versions targets

/-- A value that is kept token by token at the lowest level that targets need, and at others that
only some of them know. -/
def lowered (targets : Targets) (declaration : Declaration) :
    Declaration × List (ColorLevel × Declaration) :=
  let written (level : ColorLevel) : Declaration :=
    { declaration with value := declaration.value.atLevel level }
  if !declaration.fields.isEmpty then (declaration, [])
  else
    match declaration.value.levels targets with
    | [] => (declaration, [])
    | lowest :: others =>
      (written lowest, (others.filter (· != .oklab)).map fun level => (level, written level))

end Declaration

end StyleInline.Stylesheet
