/-!
# Letters without case

Two texts agree without case when they differ at most in the case of ASCII letters.
-/

namespace SmellRefactor.Text

/-- Whether two texts agree up to the case of ASCII letters. -/
def sameLetters (s t : List Char) : Bool := s.map Char.toLower == t.map Char.toLower

end SmellRefactor.Text
