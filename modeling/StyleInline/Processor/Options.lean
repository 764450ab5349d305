import StyleInline.FileSystem
import StyleInline.Json.Decoder
import StyleInline.Processor

/-!
# Options of the stylesheet processor

The options stand in a file of their own, or under a key of the closest `package.json` above
the working directory.
-/

namespace StyleInline

namespace ProcessorConfig

open Json.Decoder (field)

def decoder : Json.Decoder ProcessorConfig :=
  Json.Decoder.record "struct ProcessorConfig"
    [field "minify" .flag fun minify config => { config with minify },
      field "browsers" (.optional (.list .text)) fun browsers config => { config with browsers }]
    {}

def packageKey : String := "@atlaspack/inline-css-imports"

def decoded {α : Type} (context : String) (found : Except Json.Fault α) : Except Failure α :=
  found.mapError fun fault => (Failure.plain fault.message).within context

def ofFileError {α : Type} (answer : Except FileError α) : Except Failure α :=
  answer.mapError fun error => .plain error.message

/-- The options in a file; a relative path starts from the working directory. -/
def ofFile (files : FileSystem) (path : Path) : Except Failure ProcessorConfig := do
  let path ← if path.isAbsolute then pure path else do pure ((← ofFileError files.cwd).join path)
  let text ← (ofFileError (files.read path)).mapError
    (Failure.within ("Failed to read stylesheet processor config " ++ path.text))
  decoded ("Invalid stylesheet processor config " ++ path.text) (decoder.decodeText text)

def ofPackage (path : Path) (text : String) : Except Failure ProcessorConfig := do
  let package ← decoded ("Invalid " ++ path.text) (Json.Value.parse text)
  match package.member? packageKey with
  | none => return {}
  | some value =>
    decoded ("Invalid \"" ++ packageKey ++ "\" key in " ++ path.text) (decoder.decodeValue value)

/-- The options in the closest `package.json`; without such a file, or without the key in it, the
defaults. -/
def ofClosestPackage (files : FileSystem) : Except Failure ProcessorConfig := do
  let cwd ← ofFileError files.cwd
  let root := cwd.ancestors.getLast?.getD cwd
  match files.findAncestor ["package.json"] cwd root with
  | none => return {}
  | some path => ofPackage path (← ofFileError (files.read path))

def load (files : FileSystem) : Option Path → Except Failure ProcessorConfig
  | some path => ofFile files path
  | none => ofClosestPackage files

end ProcessorConfig

end StyleInline
