import CopyFormat.Text.Basic
import CopyFormat.Unicode.Age
import CopyFormat.Unicode.Segmentation

/-!
Finding the set of characters that a property expression such as `Greek`, `Lu` or `Script=Han`
names. Names are compared without case, blanks, hyphens, underscores and a leading `is`.
-/

namespace CopyFormat.Unicode.Property

/-- Why an expression names no set of characters. -/
inductive LookupError
  | propertyNotFound
  | valueNotFound
  deriving DecidableEq, Repr

/-- A name as it is compared. Only ASCII counts. The name `isc` is kept whole, since it is no
`c` behind an `is`. -/
def normalize (name : Text) : String :=
  let start := (name.take 2).map Char.toLower
  let led := start == ['i', 's']
  let body := if led then name.drop 2 else name
  let kept := (body.filter fun c => c.toNat < 128 && c ≠ ' ' && c ≠ '_' && c ≠ '-').map Char.toLower
  String.ofList (if led && kept == ['c'] then ['i', 's', 'c'] else kept)

/-- Properties that are known by name and have no sets here, without the yes-or-no properties
that have one. -/
def namesWithoutSets : List String :=
  ["kaccountingnumeric", "cjkaccountingnumeric", "kothernumeric", "cjkothernumeric",
    "kprimarynumeric", "cjkprimarynumeric", "nv", "numericvalue", "bmg", "bidimirroringglyph",
    "bpb", "bidipairedbracket", "cf", "casefolding", "kcompatibilityvariant",
    "cjkcompatibilityvariant", "dm", "decompositionmapping", "equideo",
    "equivalentunifiedideograph", "fcnfkc", "fcnfkcclosure", "lc", "lowercasemapping", "nfkccf",
    "nfkccasefold", "nfkcscf", "nfkcsimplecasefold", "scf", "simplecasefolding", "sfc", "slc",
    "simplelowercasemapping", "stc", "simpletitlecasemapping", "suc", "simpleuppercasemapping",
    "tc", "titlecasemapping", "uc", "uppercasemapping", "kiicore", "cjkiicore", "isc",
    "isocomment", "jsn", "jamoshortname", "na", "name", "na1", "unicode1name", "namealias",
    "blk", "block", "bc", "bidiclass", "bpt", "bidipairedbrackettype", "ccc",
    "canonicalcombiningclass", "dt", "decompositiontype", "ea", "eastasianwidth", "hst",
    "hangulsyllabletype", "incb", "indicconjunctbreak", "inpc", "indicpositionalcategory",
    "insc", "indicsyllabiccategory", "jg", "joininggroup", "jt", "joiningtype", "lb",
    "linebreak", "nfcqc", "nfcquickcheck", "nfdqc", "nfdquickcheck", "nfkcqc",
    "nfkcquickcheck", "nfkdqc", "nfkdquickcheck", "nt", "numerictype", "vo",
    "verticalorientation", "bidim", "bidimirrored", "ce", "compositionexclusion", "compex",
    "fullcompositionexclusion", "cwkcf", "changeswhennfkccasefolded", "xonfc", "expandsonnfc",
    "xonfd", "expandsonnfd", "xonfkc", "expandsonnfkc", "xonfkd", "expandsonnfkd"]

/-- Category and script names that are known and have no characters. -/
def emptyNames : List String :=
  ["cs", "surrogate", "zzzz", "unknown", "hrkt", "katakanaorhiragana"]

/-- The set that a single name stands for: a yes-or-no property, a category or a script, in this
order. -/
def named (name : Text) : Except LookupError CharSet :=
  let n := normalize name
  match Binary.named? n <|> GeneralCategory.named? n <|> (Script.named? n).map Script.charSet with
  | some s => .ok s
  | none => .error (if emptyNames.contains n then .valueNotFound else .propertyNotFound)

/-- The set that a property and one of its values stand for. -/
def withValue (property value : Text) : Except LookupError CharSet :=
  let v := normalize value
  let found : Option CharSet → Except LookupError CharSet
    | some s => .ok s
    | none => .error .valueNotFound
  match normalize property with
  | "gc" | "generalcategory" | "category" => found (GeneralCategory.named? v)
  | "sc" | "script" => found ((Script.named? v).map Script.charSet)
  | "scx" | "scriptextensions" => found ((Script.named? v).map Script.extensionSet)
  | "age" => found (Age.named? v)
  | "gcb" | "graphemeclusterbreak" => found (Segmentation.cluster? v)
  | "wb" | "wordbreak" => found (Segmentation.word? v)
  | "sb" | "sentencebreak" => found (Segmentation.sentence? v)
  | p =>
      .error (if (Binary.named? p).isSome || namesWithoutSets.contains p then .valueNotFound
        else .propertyNotFound)

end CopyFormat.Unicode.Property
