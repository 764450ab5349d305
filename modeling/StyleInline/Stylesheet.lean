import StyleInline.Processor
import StyleInline.Stylesheet.Printer
import StyleInline.Stylesheet.Query
import StyleInline.Stylesheet.Sheet

/-!
# Stylesheets

A stylesheet is read, tidied and printed in the way that its options ask for.
-/

namespace StyleInline

namespace Stylesheet

/-- The text of a stylesheet after processing; `source` is its path. -/
def process (config : ProcessorConfig) (input : String) (source : Path) :
    Except Failure String := do
  let sheet ← (Sheet.ofText input).mapError fun fault => .plain (fault.message source.text)
  let browsers ←
    (Query.browsers (config.browsers.getD [])).mapError fun fault => .plain fault.message
  let targets := Targets.ofBrowsers browsers
  return (Manner.mk config.minify targets).sheet sheet.comments (Rule.tidy targets sheet.rules)

end Stylesheet

end StyleInline
