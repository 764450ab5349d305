import StyleInline.Processor

/-!
# A processor for trials

A processor whose behaviour is known in advance: it writes small letters large, refuses some
inputs, stops at others, and can fail to load its options a given number of times.
-/

namespace StyleInline

structure Trial where
  minify : Bool := false
  failingLoads : Nat := 0
  deriving DecidableEq, Repr, Inhabited

namespace Trial

def occurs (word : List Char) : List Char → Bool
  | [] => word.isEmpty
  | c :: rest => word.isPrefixOf (c :: rest) || occurs word rest

def large (c : Char) : Char := if 'a' ≤ c ∧ c ≤ 'z' then Char.ofNat (c.toNat - 32) else c

/-- The processor, whose state is the number of loads so far. -/
def processor (trial : Trial) : Processor Nat where
  loadConfig loads :=
    if loads < trial.failingLoads then
      (.failed (.plain ("Config load " ++ toString loads ++ " failed")), loads + 1)
    else (.done { minify := trial.minify }, loads + 1)
  process config input source loads :=
    if occurs "panic".toList input.toList then (.stopped, loads)
    else if occurs "invalid".toList input.toList then
      (.failed (.plain ("Unexpected token in " ++ source.text)), loads)
    else
      let output := String.ofList (input.toList.map large)
      (.done (if config.minify then "/*min*/" ++ output else output), loads)

end Trial

end StyleInline
