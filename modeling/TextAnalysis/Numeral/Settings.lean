/-
# Settings

How a number parser matches words against its vocabulary.
-/
import TextAnalysis.Error
import TextAnalysis.Text.Category

namespace TextAnalysis

/-- The locale, whether case matters, and up to which dissimilarity a word still counts as one of the
vocabulary; without a tolerance words must be equal. -/
structure Settings where
  locale : Text := "en".toList
  caseSensitive : Bool := false
  tolerance : Option Binary64 := none
  deriving DecidableEq

namespace Settings

/-- Whether a tolerance lies between zero and one. -/
def isProportion (tolerance : Binary64) : Bool :=
  tolerance.isBetween .zero .one

/-- Fails unless there is a locale and the tolerance lies between zero and one. -/
def check (s : Settings) : Except Error Unit :=
  if s.locale.isAllBlank then .error (.configuration .emptyLocale)
  else
    match s.tolerance with
    | some t =>
      if isProportion t then .ok () else .error (.configuration (.thresholdOutsideUnit t))
    | none => .ok ()

/-- Settings that have been checked. -/
def checked (s : Settings) : Except Error Settings :=
  s.check.map fun _ => s

end Settings

end TextAnalysis
