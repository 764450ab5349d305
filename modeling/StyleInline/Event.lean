import StyleInline.Path

/-!
# Events

What a compilation reports while it runs, in the order in which it happens.
-/

namespace StyleInline

inductive Level where
  | trace
  | debug
  | info
  deriving DecidableEq, Repr, Inhabited

inductive Event where
  | notStylesheet (specifier : String)
  | noDefaultBinding (path : Path)
  | inlinedString (path : Path) (localName : String)
  | inlinedTemplate (path : Path) (localName : String)
  /-- A stylesheet import waits for the class that uses it. -/
  | deferredToStyles (path : Path) (localName : String)
  | inlinedStyles (className : String) (count : Nat)
  | patternMatchedNothing (pattern : String)
  | excludedDependency (path : Path)
  | registeredDependency (path : Path)
  /-- A tracker without memory saw a file. -/
  | externalDependency (path : Path)
  /-- A tracker without memory saw a key. -/
  | invalidationKey
  | processorStarted
  deriving DecidableEq, Repr, Inhabited

inductive FieldValue where
  | text (value : String)
  | count (value : Nat)
  deriving DecidableEq, Repr, Inhabited

namespace Event

def level : Event → Level
  | .notStylesheet _ | .noDefaultBinding _ | .excludedDependency _ | .invalidationKey => .trace
  | .processorStarted => .info
  | _ => .debug

def message : Event → String
  | .notStylesheet _ => "Not a stylesheet import"
  | .noDefaultBinding _ => "Stylesheet import without a default binding"
  | .inlinedString _ _ => "Inlined stylesheet as a string"
  | .inlinedTemplate _ _ => "Inlined stylesheet as a tagged template"
  | .deferredToStyles _ _ => "Deferred stylesheet to class styles"
  | .inlinedStyles _ _ => "Inlined stylesheets into class styles"
  | .patternMatchedNothing _ => "External dependency pattern matched no files"
  | .excludedDependency _ => "Excluded external dependency"
  | .registeredDependency _ => "Registered external dependency"
  | .externalDependency _ => "External dependency"
  | .invalidationKey => "Invalidation key"
  | .processorStarted => "Started stylesheet processor"

def fields : Event → List (String × FieldValue)
  | .notStylesheet specifier => [("specifier", .text specifier)]
  | .noDefaultBinding path | .excludedDependency path | .registeredDependency path
  | .externalDependency path => [("path", .text path.text)]
  | .inlinedString path localName | .inlinedTemplate path localName
  | .deferredToStyles path localName =>
    [("path", .text path.text), ("local", .text localName)]
  | .inlinedStyles className count => [("class", .text className), ("substituted", .count count)]
  | .patternMatchedNothing pattern => [("pattern", .text pattern)]
  | .invalidationKey | .processorStarted => []

end Event

end StyleInline
