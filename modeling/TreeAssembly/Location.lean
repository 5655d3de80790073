/-!
# Source locations

Every node of a program tree, and every construction event, names the place in the
source file where its production was recognised: a file name and a line number.
Lines are 32-bit words, as the event format writes them.
-/

namespace TreeAssembly

/-- A place in a source file: the file's name and a line within it. -/
structure Location where
  file : String
  line : UInt32
  deriving DecidableEq, Repr, Inhabited

namespace Location

/-- The location as people write it, `file:line`. -/
def display (loc : Location) : String :=
  loc.file ++ ":" ++ toString loc.line.toNat

@[simp] theorem display_eq (loc : Location) :
    loc.display = loc.file ++ ":" ++ toString loc.line.toNat := rfl

end Location

end TreeAssembly
