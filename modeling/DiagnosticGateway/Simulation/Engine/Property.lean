import DiagnosticGateway.Simulation.Engine.HexSet

/-!
# Character properties

A pattern can name a set of characters by a property of the Unicode standard. Names are
compared without regard to case, blanks, hyphens, underscores and a leading `is`. Of the set
that a name denotes only the hexadecimal digits are kept, and for all properties these are
one of six parts of the alphabet; a name that is not listed here denotes nothing and makes
the pattern faulty. The names are listed by hand, and are not those of one version of the
standard.

This is a part of the engine of the benches, outside of what is proved.
-/

namespace DiagnosticGateway.Simulation.Engine

/-- A part of the hexadecimal digits. -/
inductive HexPart where
  | nothing
  | digits
  | letters
  | lowercase
  | uppercase
  | everything
  deriving DecidableEq, Repr

/-- The digits of a part. -/
def HexPart.set : HexPart → HexSet
  | nothing => .empty
  | digits => .ofPredicate Char.isDigit
  | letters => .ofPredicate Char.isAlpha
  | lowercase => .ofPredicate Char.isLower
  | uppercase => .ofPredicate Char.isUpper
  | everything => .ofPredicate fun _ => true

namespace Property

/-- Properties that a character has or has not. -/
def booleanNames : List (HexPart × List String) :=
  [(.nothing,
      ["bidicontrol", "bidic", "bidimirrored", "bidim", "caseignorable", "ci", "dash",
        "defaultignorablecodepoint", "di", "deprecated", "dep", "diacritic", "dia",
        "emojimodifier", "emod", "emojimodifierbase", "ebase", "emojipresentation", "epres",
        "extendedpictographic", "extpict", "extender", "ext", "graphemeextend", "grext",
        "graphemelink", "grlink", "hyphen", "idsbinaryoperator", "idsb", "idstrinaryoperator",
        "idst", "idsunaryoperator", "idsu", "idcompatmathcontinue", "idcompatmathstart",
        "ideographic", "ideo", "joincontrol", "joinc", "logicalorderexception", "loe", "math",
        "mcm", "modifiercombiningmark", "noncharactercodepoint", "nchar", "otheralphabetic",
        "oalpha",
        "otherdefaultignorablecodepoint", "odi", "othergraphemeextend", "ogrext",
        "otheridcontinue", "oidc", "otheridstart", "oids", "otherlowercase", "olower",
        "othermath", "omath", "otheruppercase", "oupper", "patternsyntax", "patsyn",
        "patternwhitespace", "patws", "prependedconcatenationmark", "pcm", "quotationmark",
        "qmark", "radical", "regionalindicator", "ri", "sentenceterminal", "sterm", "softdotted",
        "sd", "terminalpunctuation", "term", "unifiedideograph", "uideo", "variationselector",
        "vs", "whitespace", "wspace", "space"]),
    (.digits,
      ["emoji", "emojicomponent", "ecomp"]),
    (.letters,
      ["alphabetic", "alpha", "cased", "changeswhencasemapped", "cwcm", "idstart", "ids",
        "xidstart", "xids"]),
    (.lowercase,
      ["changeswhentitlecased", "cwt", "changeswhenuppercased", "cwu", "lowercase", "lower"]),
    (.uppercase,
      ["changeswhencasefolded", "cwcf", "changeswhenlowercased", "cwl", "uppercase", "upper"]),
    (.everything,
      ["asciihexdigit", "ahex", "graphemebase", "grbase", "hexdigit", "hex", "idcontinue", "idc",
        "xidcontinue", "xidc"])]

/-- General categories, and the three sets of characters that are named like categories. -/
def categoryNames : List (HexPart × List String) :=
  [(.nothing,
      ["closepunctuation", "pe", "connectorpunctuation", "pc", "control", "cc", "cntrl",
        "currencysymbol", "sc", "dashpunctuation", "pd", "enclosingmark", "me",
        "finalpunctuation", "pf", "format", "cf", "initialpunctuation", "pi", "letternumber",
        "nl", "lineseparator", "zl", "mark", "m", "combiningmark", "mathsymbol", "sm",
        "modifierletter", "lm", "modifiersymbol", "sk", "nonspacingmark", "mn", "openpunctuation",
        "ps", "other", "c", "otherletter", "lo", "othernumber", "no", "otherpunctuation", "po",
        "othersymbol", "so", "paragraphseparator", "zp", "privateuse", "co", "punctuation", "p",
        "punct", "separator", "z", "spaceseparator", "zs", "spacingmark", "mc", "symbol", "s",
        "titlecaseletter", "lt", "unassigned", "cn"]),
    (.digits,
      ["decimalnumber", "nd", "digit", "number", "n"]),
    (.letters,
      ["casedletter", "lc", "letter", "l"]),
    (.lowercase,
      ["lowercaseletter", "ll"]),
    (.uppercase,
      ["uppercaseletter", "lu"]),
    (.everything,
      ["any", "assigned", "ascii"])]

/-- Scripts. -/
def scriptNames : List (HexPart × List String) :=
  [(.nothing,
      ["adlam", "adlm", "ahom", "anatolianhieroglyphs", "hluw", "arabic", "arab", "armenian",
        "armn", "avestan", "avst", "balinese", "bali", "bamum", "bamu", "bassavah", "bass",
        "batak", "batk", "bengali", "beng", "bhaiksuki", "bhks", "bopomofo", "bopo", "brahmi",
        "brah", "braille", "brai", "buginese", "bugi", "buhid", "buhd", "canadianaboriginal",
        "cans", "carian", "cari", "caucasianalbanian", "aghb", "chakma", "cakm", "cham",
        "cherokee", "cher", "chorasmian", "chrs", "coptic", "copt", "qaac", "cuneiform", "xsux",
        "cypriot", "cprt", "cyprominoan", "cpmn", "cyrillic", "cyrl", "deseret", "dsrt",
        "devanagari", "deva", "divesakuru", "diak", "dogra", "dogr", "duployan", "dupl",
        "egyptianhieroglyphs", "egyp", "elbasan", "elba", "elymaic", "elym", "ethiopic", "ethi",
        "georgian", "geor", "glagolitic", "glag", "gothic", "goth", "grantha", "gran", "greek",
        "grek", "gujarati", "gujr", "gunjalagondi", "gong", "gurmukhi", "guru", "han", "hani",
        "hangul", "hang", "hanifirohingya", "rohg", "hanunoo", "hano", "hatran", "hatr", "hebrew",
        "hebr", "hiragana", "hira", "imperialaramaic", "armi", "inherited", "zinh", "qaai",
        "inscriptionalpahlavi", "phli", "inscriptionalparthian", "prti", "javanese", "java",
        "kaithi", "kthi", "kannada", "knda", "katakana", "kana", "kawi", "kayahli", "kali",
        "kharoshthi", "khar", "khitansmallscript", "kits", "khmer", "khmr", "khojki", "khoj",
        "khudawadi", "sind", "lao", "laoo", "lepcha", "lepc", "limbu", "limb", "lineara", "lina",
        "linearb", "linb", "lisu", "lycian", "lyci", "lydian", "lydi", "mahajani", "mahj",
        "makasar", "maka", "malayalam", "mlym", "mandaic", "mand", "manichaean", "mani",
        "marchen", "marc", "masaramgondi", "gonm", "medefaidrin", "medf", "meeteimayek", "mtei",
        "mendekikakui", "mend", "meroiticcursive", "merc", "meroitichieroglyphs", "mero", "miao",
        "plrd", "modi", "mongolian", "mong", "mro", "mroo", "multani", "mult", "myanmar", "mymr",
        "nabataean", "nbat", "nagmundari", "nagm", "nandinagari", "nand", "newtailue", "talu",
        "newa", "nko", "nkoo", "nushu", "nshu", "nyiakengpuachuehmong", "hmnp", "ogham", "ogam",
        "olchiki", "olck", "oldhungarian", "hung", "olditalic", "ital", "oldnortharabian", "narb",
        "oldpermic", "perm", "oldpersian", "xpeo", "oldsogdian", "sogo", "oldsoutharabian",
        "sarb", "oldturkic", "orkh", "olduyghur", "ougr", "oriya", "orya", "osage", "osge",
        "osmanya", "osma", "pahawhhmong", "hmng", "palmyrene", "palm", "paucinhau", "pauc",
        "phagspa", "phag", "phoenician", "phnx", "psalterpahlavi", "phlp", "rejang", "rjng",
        "runic", "runr", "samaritan", "samr", "saurashtra", "saur", "sharada", "shrd", "shavian",
        "shaw", "siddham", "sidd", "signwriting", "sgnw", "sinhala", "sinh", "sogdian", "sogd",
        "sorasompeng", "sora", "soyombo", "soyo", "sundanese", "sund", "sylotinagri", "sylo",
        "syriac", "syrc", "tagalog", "tglg", "tagbanwa", "tagb", "taile", "tale", "taitham",
        "lana", "taiviet", "tavt", "takri", "takr", "tamil", "taml", "tangsa", "tnsa", "tangut",
        "tang", "telugu", "telu", "thaana", "thaa", "thai", "tibetan", "tibt", "tifinagh", "tfng",
        "tirhuta", "tirh", "toto", "ugaritic", "ugar", "vai", "vaii", "vithkuqi", "vith",
        "wancho", "wcho", "warangciti", "wara", "yezidi", "yezi", "yi", "yiii", "zanabazarsquare",
        "zanb", "garay", "gara", "gurungkhema", "gukh", "kiratrai", "krai", "olonal", "onao",
        "sunuwar", "sunu", "todhri", "todr", "tulutigalari", "tutg"]),
    (.digits,
      ["common", "zyyy"]),
    (.letters,
      ["latin", "latn"])]

/-- Versions of the standard. A character that is as old as a version belongs to it and to all
later ones. -/
def ageNames : List (HexPart × List String) :=
  [(.everything,
      ["1.1", "v11", "2.0", "v20", "2.1", "v21", "3.0", "v30", "3.1", "v31", "3.2", "v32", "4.0",
        "v40", "4.1", "v41", "5.0", "v50", "5.1", "v51", "5.2", "v52", "6.0", "v60", "6.1", "v61",
        "6.2", "v62", "6.3", "v63", "7.0", "v70", "8.0", "v80", "9.0", "v90", "10.0", "v100",
        "11.0", "v110", "12.0", "v120", "12.1", "v121", "13.0", "v130", "14.0", "v140", "15.0",
        "v150", "15.1", "v151", "16.0", "v160"])]

/-- Classes of grapheme cluster breaks. The class of all other characters has no name. -/
def graphemeBreakNames : List (HexPart × List String) :=
  [(.nothing,
      ["cr", "control", "cn", "extend", "ex", "l", "lf", "lv", "lvt", "prepend", "pp",
        "regionalindicator", "ri", "spacingmark", "sm", "t", "v", "zwj"])]

/-- Classes of word breaks. The class of all other characters has no name. -/
def wordBreakNames : List (HexPart × List String) :=
  [(.nothing,
      ["cr", "doublequote", "dq", "extend", "extendnumlet", "ex", "format", "fo", "hebrewletter",
        "hl", "katakana", "ka", "lf", "midletter", "ml", "midnum", "mn", "midnumlet", "mb",
        "newline", "nl", "regionalindicator", "ri", "singlequote", "sq", "wsegspace", "zwj"]),
    (.digits,
      ["numeric", "nu"]),
    (.letters,
      ["aletter", "le"])]

/-- Classes of sentence breaks. The class of all other characters has no name. -/
def sentenceBreakNames : List (HexPart × List String) :=
  [(.nothing,
      ["aterm", "at", "cr", "close", "cl", "extend", "ex", "format", "fo", "lf", "oletter", "le",
        "scontinue", "sc", "sterm", "st", "sep", "se", "sp"]),
    (.digits,
      ["numeric", "nu"]),
    (.lowercase,
      ["lower", "lo"]),
    (.uppercase,
      ["upper", "up"])]

/-- Names that denote no property although they abbreviate a category: a property of the
standard that is no set of characters has the same name. -/
def isReservedName (name : String) : Bool :=
  name == "isc"

/-- A name without what is disregarded in comparisons. -/
def normalize (name : List Char) : String :=
  let letters (chars : List Char) : List Char :=
    (chars.filter fun char =>
      char != ' ' && char != '_' && char != '-' && char.toNat < 0x80).map Char.toLower
  match name with
  | first :: second :: rest =>
    if (first == 'i' || first == 'I') && (second == 's' || second == 'S') then
      match letters rest with
      | ['c'] => "isc"
      | remaining => String.ofList remaining
    else
      String.ofList (letters name)
  | _ => String.ofList (letters name)

/-- The part that a table gives for a name. -/
def lookup? (name : String) (table : List (HexPart × List String)) : Option HexPart :=
  (table.find? fun entry => entry.2.contains name).map Prod.fst

/-- The part that a single name denotes: a property, a category or a script, in this order. -/
def named? (name : List Char) : Option HexPart :=
  let name := normalize name
  if isReservedName name then none
  else lookup? name (booleanNames ++ categoryNames ++ scriptNames)

/-- The part that the value of a property denotes. -/
def valued? (property value : List Char) : Option HexPart :=
  let value := normalize value
  let table? :=
    match normalize property with
    | "gc" => some categoryNames
    | "generalcategory" => some categoryNames
    | "sc" => some scriptNames
    | "script" => some scriptNames
    | "scx" => some scriptNames
    | "scriptextensions" => some scriptNames
    | "age" => some ageNames
    | "gcb" => some graphemeBreakNames
    | "graphemeclusterbreak" => some graphemeBreakNames
    | "wb" => some wordBreakNames
    | "wordbreak" => some wordBreakNames
    | "sb" => some sentenceBreakNames
    | "sentencebreak" => some sentenceBreakNames
    | _ => none
  table?.bind (lookup? value)

end Property

end DiagnosticGateway.Simulation.Engine
