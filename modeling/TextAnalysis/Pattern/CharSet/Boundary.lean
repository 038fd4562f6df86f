/-
# Sets by boundaries

The sets of the characters that decide alike where a text may be cut: into what a reader takes for single
characters, into words, and into sentences. Each set has the names of its kind.
-/
import TextAnalysis.Text.Boundary
import TextAnalysis.Pattern.CharSet.Trait

namespace TextAnalysis.CharSet

open Category

/-- Sets with the names by which they are called. -/
abbrev Named := List (List String × CharSet)

/-- A few characters. -/
def listed (cs : List Char) : CharSet :=
  unionAll (cs.map single)

/-- Characters that join the one before them, and marks that stand after it. -/
def attached : CharSet :=
  extending.union (categories [spacingMark])

/-! ## Single characters -/

/-- Controls and format characters that are on neither side of a character. -/
def separating : CharSet :=
  (unionAll [categories [lineSeparator, paragraphSeparator, control, format],
      (categories [unassigned]).inter ignorable]).difference
    (unionAll [listed ['\r', '\n'], table CharRange.joiners, table CharRange.prependedMarks, extending])

/-- Marks that stand after a character and are one with it. -/
def spacing : CharSet :=
  ((categories [spacingMark]).difference (extending.union (table CharRange.standingMarks))).union
    (table CharRange.spacingVowels)

/-- Korean syllables. -/
def syllables : CharSet :=
  range '가' '힣'

/-- Korean syllables without a final consonant. -/
def openSyllables : CharSet :=
  table [⟨0xAC00, 0xD788, 28⟩]

/-- The kinds of characters that decide where single characters end. -/
def clusterKinds : Named :=
  [(["cr"], single '\r'),
   (["lf"], single '\n'),
   (["control", "cn"], separating),
   (["extend", "ex"], extending.union (table CharRange.emojiModifiers)),
   (["zwj"], single '\u200d'),
   (["regionalindicator", "ri"], table CharRange.regionalIndicators),
   (["prepend", "pp"], table (CharRange.prependedMarks ++ CharRange.prependedConsonants)),
   (["spacingmark", "sm"], spacing),
   (["l"], table CharRange.initialConsonants),
   (["v"], table CharRange.medialVowels),
   (["t"], table CharRange.finalConsonants),
   (["lv"], openSyllables),
   (["lvt"], syllables.difference openSyllables)]

/-! ## Words -/

/-- Letters of words, apart from the Hebrew ones and from those of scripts without spaces between words. -/
def wordLetters : CharSet :=
  (alphabetic.difference (unionAll [attached, table (CharRange.hebrewLetters ++ CharRange.ideographs),
      table (CharRange.katakana ++ CharRange.hiragana), table CharRange.unspaced])).union
    (table CharRange.otherWordLetters)

/-- Format characters that a word looks through. -/
def wordFormats : CharSet :=
  (categories [format]).difference
    (unionAll [extending, table (CharRange.joiners ++ CharRange.prependedMarks), single '\u200b'])

/-- Digits, with the signs that belong to the number after them. -/
def numeric : CharSet :=
  (categories [decimalNumber]).union (table CharRange.numberSigns)

/-- The kinds of characters that decide where words end. -/
def wordKinds : Named :=
  [(["cr"], single '\r'),
   (["lf"], single '\n'),
   (["newline", "nl"], listed ['\x0b', '\x0c', '\x85', '\u2028', '\u2029']),
   (["extend"], attached.union (table CharRange.emojiModifiers)),
   (["zwj"], single '\u200d'),
   (["regionalindicator", "ri"], table CharRange.regionalIndicators),
   (["format", "fo"], wordFormats),
   (["katakana", "ka"], table CharRange.katakana),
   (["hebrewletter", "hl"], table CharRange.hebrewLetters),
   (["aletter", "le"], wordLetters),
   (["singlequote", "sq"], single '\x27'),
   (["doublequote", "dq"], single '\x22'),
   (["midnumlet", "mb"], table CharRange.commonJoints),
   (["midletter", "ml"], table CharRange.wordJoints),
   (["midnum", "mn"], table CharRange.numberJoints),
   (["numeric", "nu"], numeric.union (single '\u066b')),
   (["extendnumlet", "ex"], (categories [connectorPunctuation]).union (single '\u202f')),
   (["wsegspace"], (categories [spaceSeparator]).difference (listed ['\xa0', '\u2007', '\u202f']))]

/-! ## Sentences -/

/-- Ends of lines and of paragraphs, apart from carriage return and line feed. -/
def lineEnds : CharSet :=
  listed ['\x85', '\u2028', '\u2029']

/-- Lower case letters of sentences. -/
def sentenceLowercase : CharSet :=
  lowercase.difference (extending.union (table CharRange.georgianLetters))

/-- Capitals that may start a sentence. -/
def sentenceCapitals : CharSet :=
  (uppercase.union (categories [titlecaseLetter])).difference (table CharRange.georgianCapitals)

/-- Letters of sentences without a case. -/
def sentenceLetters : CharSet :=
  (alphabetic.union (single '\u05f3')).difference
    (unionAll [sentenceLowercase, sentenceCapitals, attached, single '\u200d'])

/-- Quotation marks and brackets. -/
def closing : CharSet :=
  (categories [openPunctuation, closePunctuation, initialPunctuation, finalPunctuation]).union
    (table CharRange.otherQuotes)

/-- The kinds of characters that decide where sentences end. -/
def sentenceKinds : Named :=
  [(["cr"], single '\r'),
   (["lf"], single '\n'),
   (["extend", "ex"], attached.union (single '\u200d')),
   (["sep", "se"], lineEnds),
   (["format", "fo"], (categories [format]).difference
     (unionAll [attached, single '\u200d', table CharRange.numberSigns])),
   (["sp"], blank.difference (unionAll [lineEnds, listed ['\r', '\n']])),
   (["lower", "lo"], sentenceLowercase),
   (["upper", "up"], sentenceCapitals),
   (["oletter", "le"], sentenceLetters),
   (["numeric", "nu"], numeric.union (listed ['\u066b', '\u066c'])),
   (["aterm", "at"], table CharRange.fullStops),
   (["scontinue", "sc"], table CharRange.continuers),
   (["sterm", "st"], (table CharRange.sentenceEnds).difference (table CharRange.fullStops)),
   (["close", "cl"], closing)]

end TextAnalysis.CharSet
