import CopyFormat.Unicode.Binary
import CopyFormat.Unicode.Script

/-!
The Unicode properties that guide text segmentation: Grapheme_Cluster_Break, Word_Break and
Sentence_Break. Each value is put together from other properties and a list of exceptions.
-/

namespace CopyFormat.Unicode.Segmentation

open GeneralCategory (charSetOf)

/-- Exceptions that `clusterExtend` leaves out. -/
def clusterExtendExcluded : CharSet := .ofTable
  "CC0 CC7-CC8 CCA-CCB 1715 1734 1B3B 1B3D 1B43-1B44 1BAA 1BF2-1BF3 A953 A9C0 111C0 11235 1134D
  116B6 1193D 11F41 16FF0-16FF1 1D166 1D16D"

/-- Exceptions that `clusterExtend` takes in. -/
def clusterExtendAdded : CharSet := .ofTable
  "1171E"

/-- Grapheme_Cluster_Break=Extend. -/
def clusterExtend : CharSet :=
  ((Binary.graphemeExtend.union Binary.emojiModifier).diff clusterExtendExcluded).union
    clusterExtendAdded

/-- Exceptions that `clusterControl` leaves out. -/
def clusterControlExcluded : CharSet := .ofTable
  "A D 600-605 6DD 70F 890-891 8E2 200C-200D 110BD 110CD E0020-E007F"

/-- Grapheme_Cluster_Break=Control. -/
def clusterControl : CharSet :=
  (charSetOf [.lineSeparator, .paragraphSeparator, .control, .format]).diff clusterControlExcluded

/-- Exceptions that `clusterSpacingMark` leaves out. -/
def clusterSpacingMarkExcluded : CharSet := .ofTable
  "9BE 9D7 B3E B57 BBE BD7 CC2 CD5-CD6 D3E D57 DCF DDF 102B-102C 1038 1062-1064 1067-106D 1083
  1087-108C 108F 109A-109C 1A61 1A63-1A64 1B35 302E-302F AA7B AA7D 1133E 11357 114B0 114BD 115AF
  1171E 11720-11721 11930 1D165 1D16E-1D172"

/-- Exceptions that `clusterSpacingMark` takes in. -/
def clusterSpacingMarkAdded : CharSet := .ofTable
  "E33 EB3"

/-- Grapheme_Cluster_Break=SpacingMark. -/
def clusterSpacingMark : CharSet :=
  ((charSetOf [.spacingMark]).diff clusterSpacingMarkExcluded).union clusterSpacingMarkAdded

/-- Grapheme_Cluster_Break=Prepend. -/
def clusterPrepend : CharSet := .ofTable
  "600-605 6DD 70F 890-891 8E2 D4E 110BD 110CD 111C2-111C3 1193F 11941 11A3A 11A84-11A89 11D46
  11F02"

/-- The syllables without a final consonant: every 28th of the block. -/
def openSyllables : CharSet :=
  .ofIntervals ((List.range 399).map fun i => (0xAC00 + 28 * i, 0xAC00 + 28 * i))

/-- The set of a value of Grapheme_Cluster_Break. -/
def cluster? (name : String) : Option CharSet :=
  match name with
  | "cn" | "control" => some clusterControl
  | "cr" => some ⟨#[(0xD, 0xD)]⟩
  | "ex" | "extend" => some clusterExtend
  | "l" => some ⟨#[(0x1100, 0x115F), (0xA960, 0xA97C)]⟩
  | "lf" => some ⟨#[(0xA, 0xA)]⟩
  | "lv" => some openSyllables
  | "lvt" => some (CharSet.diff ⟨#[(0xAC00, 0xD7A3)]⟩ openSyllables)
  | "pp" | "prepend" => some clusterPrepend
  | "ri" | "regionalindicator" => some Binary.regionalIndicator
  | "sm" | "spacingmark" => some clusterSpacingMark
  | "t" => some ⟨#[(0x11A8, 0x11FF), (0xD7CB, 0xD7FB)]⟩
  | "v" => some ⟨#[(0x1160, 0x11A7), (0xD7B0, 0xD7C6)]⟩
  | "zwj" => some ⟨#[(0x200D, 0x200D)]⟩
  | _ => none

/-- Word_Break=Hebrew_Letter. -/
def hebrewLetter : CharSet := .ofTable
  "5D0-5EA 5EF-5F2 FB1D FB1F-FB28 FB2A-FB36 FB38-FB3C FB3E FB40-FB41 FB43-FB44 FB46-FB4F"

/-- Word_Break=Katakana. -/
def katakana : CharSet := .ofTable
  "3031-3035 309B-309C 30A0-30FA 30FC-30FF 31F0-31FF 32D0-32FE 3300-3357 FF66-FF9D 1AFF0-1AFF3
  1AFF5-1AFFB 1AFFD-1AFFE 1B000 1B120-1B122 1B155 1B164-1B167"

/-- Word_Break=MidLetter. -/
def midLetter : CharSet := .ofTable
  "3A B7 387 55F 5F4 2027 FE13 FE55 FF1A"

/-- Word_Break=MidNum. -/
def midNumber : CharSet := .ofTable
  "2C 3B 37E 589 60C-60D 66C 7F8 2044 FE10 FE14 FE50 FE54 FF0C FF1B"

/-- Word_Break=MidNumLet. -/
def midNumberLetter : CharSet := .ofTable
  "2E 2018-2019 2024 FE52 FF07 FF0E"

/-- Word_Break=ExtendNumLet. -/
def extendNumberLetter : CharSet := .ofTable
  "5F 202F 203F-2040 2054 FE33-FE34 FE4D-FE4F FF3F"

/-- Word_Break=Extend. -/
def wordExtend : CharSet :=
  (Binary.graphemeExtend.union Binary.emojiModifier).union (charSetOf [.spacingMark])

/-- Exceptions that `wordFormat` leaves out. -/
def wordFormatExcluded : CharSet := .ofTable
  "200B-200D E0020-E007F"

/-- Word_Break=Format. -/
def wordFormat : CharSet :=
  (charSetOf [.format]).diff wordFormatExcluded

/-- The characters of the script Hiragana. -/
def hiragana : CharSet := ((Script.named? "hiragana").map Script.charSet).getD .empty

/-- Exceptions that `wordLetter` leaves out. -/
def wordLetterExcluded : CharSet := .ofTable
  "E01-E30 E32-E33 E40-E46 E81-E82 E84 E86-E8A E8C-EA3 EA5 EA7-EB0 EB2-EB3 EBD EC0-EC4 EC6
  EDC-EDF 1000-102A 103F 1050-1055 105A-105D 1061 1065-1066 106E-1070 1075-1081 108E 1780-17B3
  17D7 17DC 1950-196D 1970-1974 1980-19AB 19B0-19C9 1A20-1A54 1AA7 2139 24C2 A9E0-A9E4 A9E6-A9EF
  A9FA-A9FE AA60-AA76 AA7A AA7E-AAAF AAB1 AAB5-AAB6 AAB9-AABD AAC0 AAC2 AADB-AADD 11700-1171A
  11740-11746 1F170-1F171 1F17E-1F17F"

/-- Exceptions that `wordLetter` takes in. -/
def wordLetterAdded : CharSet := .ofTable
  "2C2-2C5 2D2-2D7 2DE-2DF 2E5-2EB 2ED 2EF-2FF 55A-55C 55E 58A 5F3 A708-A716 A720-A721 A789-A78A
  AB5B"

/-- Word_Break=ALetter. -/
def wordLetter : CharSet :=
  let others := .unions [Binary.ideographic, katakana, wordExtend, hebrewLetter, hiragana]
  ((Binary.alphabetic.diff others).diff wordLetterExcluded).union wordLetterAdded

/-- Exceptions that `number` takes in. -/
def numberAdded : CharSet := .ofTable
  "66B"

/-- Word_Break=Numeric. -/
def number : CharSet :=
  (charSetOf [.decimalNumber]).union numberAdded

def word? (name : String) : Option CharSet :=
  match name with
  | "cr" => some ⟨#[(0xD, 0xD)]⟩
  | "dq" | "doublequote" => some ⟨#[(0x22, 0x22)]⟩
  | "ex" | "extendnumlet" => some extendNumberLetter
  | "extend" => some wordExtend
  | "fo" | "format" => some wordFormat
  | "hl" | "hebrewletter" => some hebrewLetter
  | "ka" | "katakana" => some katakana
  | "le" | "aletter" => some wordLetter
  | "lf" => some ⟨#[(0xA, 0xA)]⟩
  | "mb" | "midnumlet" => some midNumberLetter
  | "ml" | "midletter" => some midLetter
  | "mn" | "midnum" => some midNumber
  | "nl" | "newline" => some ⟨#[(0xB, 0xC), (0x85, 0x85), (0x2028, 0x2029)]⟩
  | "nu" | "numeric" => some number
  | "ri" | "regionalindicator" => some Binary.regionalIndicator
  | "sq" | "singlequote" => some ⟨#[(0x27, 0x27)]⟩
  | "wsegspace" => some (.ofTable "20 1680 2000-2006 2008-200A 205F 3000")
  | "zwj" => some ⟨#[(0x200D, 0x200D)]⟩
  | _ => none

/-- Sentence_Break=SContinue. -/
def sentenceContinue : CharSet := .ofTable
  "2C-2D 3A 55D 60C-60D 7F8 1802 1808 2013-2014 3001 FE10-FE11 FE13 FE31-FE32 FE50-FE51 FE55 FE58
  FE63 FF0C-FF0D FF1A FF64"

/-- Sentence_Break=ATerm. -/
def fullStop : CharSet := .ofTable
  "2E 2024 FE52 FF0E"

/-- Exceptions that `sentenceExtend` takes in. -/
def sentenceExtendAdded : CharSet := .ofTable
  "200D"

/-- Sentence_Break=Extend. -/
def sentenceExtend : CharSet :=
  (Binary.graphemeExtend.union (charSetOf [.spacingMark])).union sentenceExtendAdded

/-- Exceptions that `sentenceFormat` leaves out. -/
def sentenceFormatExcluded : CharSet := .ofTable
  "200C-200D E0020-E007F"

/-- Sentence_Break=Format. -/
def sentenceFormat : CharSet :=
  (charSetOf [.format]).diff sentenceFormatExcluded

/-- Exceptions that `sentenceLower` leaves out. -/
def sentenceLowerExcluded : CharSet := .ofTable
  "345 10D0-10FA 10FD-10FF"

/-- Exceptions that `sentenceLower` takes in. -/
def sentenceLowerAdded : CharSet := .ofTable
  "295"

/-- Sentence_Break=Lower. -/
def sentenceLower : CharSet :=
  ((Binary.lowercase).diff sentenceLowerExcluded).union sentenceLowerAdded

/-- Exceptions that `sentenceUpper` leaves out. -/
def sentenceUpperExcluded : CharSet := .ofTable
  "1C90-1CBA 1CBD-1CBF"

/-- Sentence_Break=Upper. -/
def sentenceUpper : CharSet :=
  (Binary.uppercase.union (charSetOf [.titlecaseLetter])).diff sentenceUpperExcluded

/-- Exceptions that `sentenceLetter` takes in. -/
def sentenceLetterAdded : CharSet := .ofTable
  "5F3"

/-- Sentence_Break=OLetter. -/
def sentenceLetter : CharSet :=
  (Binary.alphabetic.diff (.unions [sentenceLower, sentenceUpper, sentenceExtend])).union
    sentenceLetterAdded

/-- Exceptions that `sentenceTerminator` leaves out. -/
def sentenceTerminatorExcluded : CharSet := .ofTable
  "2E 17D4-17D5 2024 2CF9-2CFB FE12 FE15-FE16 FE52 FF0E"

/-- Sentence_Break=STerm. -/
def sentenceTerminator : CharSet :=
  (Binary.sentenceTerminal).diff sentenceTerminatorExcluded

/-- Exceptions that `sentenceClose` leaves out. -/
def sentenceCloseExcluded : CharSet := .ofTable
  "FF02 FF07"

/-- Exceptions that `sentenceClose` takes in. -/
def sentenceCloseAdded : CharSet := .ofTable
  "275B-2760 2E00-2E01 2E06-2E08 2E0B 1F676-1F678"

/-- Sentence_Break=Close. -/
def sentenceClose : CharSet :=
  (((charSetOf [.openPunctuation, .closePunctuation, .initialPunctuation, .finalPunctuation]).union
    Binary.quotationMark).diff sentenceCloseExcluded).union sentenceCloseAdded

/-- Exceptions that `sentenceSpace` leaves out. -/
def sentenceSpaceExcluded : CharSet := .ofTable
  "A D 85 2028-2029"

/-- Sentence_Break=Sp. -/
def sentenceSpace : CharSet :=
  (Binary.whiteSpace).diff sentenceSpaceExcluded

/-- The set of a value of Sentence_Break. -/
def sentence? (name : String) : Option CharSet :=
  match name with
  | "at" | "aterm" => some fullStop
  | "cl" | "close" => some sentenceClose
  | "cr" => some ⟨#[(0xD, 0xD)]⟩
  | "ex" | "extend" => some sentenceExtend
  | "fo" | "format" => some sentenceFormat
  | "le" | "oletter" => some sentenceLetter
  | "lf" => some ⟨#[(0xA, 0xA)]⟩
  | "lo" | "lower" => some sentenceLower
  | "nu" | "numeric" => some (number.union ⟨#[(0x66C, 0x66C)]⟩)
  | "sc" | "scontinue" => some sentenceContinue
  | "se" | "sep" => some ⟨#[(0x85, 0x85), (0x2028, 0x2029)]⟩
  | "sp" => some sentenceSpace
  | "st" | "sterm" => some sentenceTerminator
  | "up" | "upper" => some sentenceUpper
  | _ => none

end CopyFormat.Unicode.Segmentation
