/-
# Matches

The entries of a dictionary that match a text, and the best one among them.
-/
import TextAnalysis.Dictionary.Entry
import TextAnalysis.Binary64

namespace TextAnalysis

/-- An entry that matches a candidate, with its score. -/
structure Match (α : Type) where
  entry : Entry α
  candidate : Text
  score : Binary64
  deriving DecidableEq

/-- The matches of one text in the order of the entries; `gain` says whether greater scores are
better. -/
structure Matches (α : Type) where
  list : List (Match α)
  gain : Bool
  deriving DecidableEq

namespace Matches

variable {α : Type} {m : Type → Type} [Monad m]

/-- The better of the best match so far and a challenger. Between equal scores `prefer` decides, which
may have effects. -/
def betterM (gain : Bool) (prefer : Match α → Match α → m Bool) (best challenger : Match α) :
    m (Match α) :=
  if challenger.score.eq best.score then do
    return if ← prefer best challenger then challenger else best
  else
    let better :=
      if gain then best.score.lt challenger.score else challenger.score.lt best.score
    pure (if better then challenger else best)

/-- The best match; between equal scores `prefer` says whether the later one takes the place of the
earlier one. -/
def bestByM (ms : Matches α) (prefer : Match α → Match α → m Bool) : m (Option (Match α)) :=
  match ms.list with
  | [] => pure none
  | first :: later => some <$> later.foldlM (betterM ms.gain prefer) first

/-- `bestByM` for a preference without effects. -/
def bestBy (ms : Matches α) (prefer : Match α → Match α → Bool) : Option (Match α) :=
  Id.run (ms.bestByM fun a b => pure (prefer a b))

/-- The best match, the first one of those with the best score. -/
def best (ms : Matches α) : Option (Match α) :=
  ms.bestBy fun _ _ => false

end Matches

end TextAnalysis
