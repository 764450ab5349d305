import StyleInline.Json.Decoder
import StyleInline.Path
import StyleInline.Pattern

/-!
# Configuration

What a host can choose, with the defaults, and how the choices are read.
-/

namespace StyleInline

structure Tag where
  localName : String
  moduleName : String
  deriving DecidableEq, Repr, Inhabited

/-- Decides which paths are stylesheets. -/
inductive ImportTest where
  | pattern (pattern : Pattern)
  | predicate (accepts : Path → Bool)
  deriving Inhabited

namespace ImportTest

def stylesheetPattern : Pattern where
  text := "\\.css$"
  matcher :=
    .sequence (.set (.single '.')) <| .sequence (.set (.single 'c')) <|
      .sequence (.set (.single 's')) <| .sequence (.set (.single 's')) <|
        .sequence (.look {} .lineEnd) .nothing

def accepts : ImportTest → Path → Bool
  | pattern form, path => form.accepts path.text
  | predicate test, path => test path

def shown : ImportTest → String
  | pattern form => "Pattern(" ++ Text.shown form.text ++ ")"
  | predicate _ => "Predicate(..)"

def decoder : Json.Decoder ImportTest :=
  Json.Decoder.text.checked fun text => (Pattern.ofText text).map pattern

end ImportTest

inductive Processing where
  | disabled
  /-- With the options found from the working directory. -/
  | enabled
  | configFile (path : Path)
  deriving DecidableEq, Repr, Inhabited

namespace Processing

def isEnabled : Processing → Bool
  | disabled => false
  | _ => true

/-- Two ways of processing are one; files are compared by the components of their paths. -/
def same : Processing → Processing → Bool
  | disabled, disabled => true
  | enabled, enabled => true
  | configFile left, configFile right => left.same right
  | _, _ => false

/-- A truth value, or the path of a file; the empty path means no processing. -/
def form? : Json.Value → Option Processing
  | .bool value => some (if value then enabled else disabled)
  | .text path => some (if path.isEmpty then disabled else configFile ⟨path⟩)
  | _ => none

def decoder : Json.Decoder Processing := Json.Decoder.oneOf "ProcessContentConfig" form?

end Processing

structure Config where
  test : ImportTest := .pattern ImportTest.stylesheetPattern
  processing : Processing := .disabled
  /-- Stylesheets become tagged templates if a tag is given, and strings otherwise. -/
  tag : Option Tag := none
  externalDependencies : List String := []
  /-- The name of the class whose subclasses hold styles. -/
  baseClass : String := "LitElement"
  deriving Inhabited

namespace Config

open Json.Decoder (field)

def patterns? : Json.Value → Option (List String)
  | .text pattern => some [pattern]
  | .list values => values.mapM fun
    | .text pattern => some pattern
    | _ => none
  | _ => none

def fields : List (Json.Decoder.Field Config) :=
  [field "test" ImportTest.decoder fun test config => { config with test },
    field "processContent" Processing.decoder fun processing config => { config with processing },
    field "tagged" (Json.Decoder.optional (.pair .text .text)) fun pair config =>
      { config with tag := pair.map fun (localName, moduleName) => ⟨localName, moduleName⟩ },
    field "externalDependencies" (.optional (.oneOf "OneOrMany" patterns?))
      fun patterns config => { config with externalDependencies := patterns.getD [] },
    field "baseClass" .text fun baseClass config => { config with baseClass }]

def decoder : Json.Decoder Config :=
  Json.Decoder.record "struct InlineCssImportsConfig" fields {}

def ofText (text : String) : Except String Config :=
  (decoder.decodeText text).mapError Json.Fault.message

def ofValue (value : Json.Value) : Except String Config :=
  (decoder.decodeValue value).mapError Json.Fault.message

end Config

end StyleInline
