import GeoFacet.Text.Blank

/-!
# Names of character properties

The properties that a pattern may name with `\p`: those of the Unicode Character Database that
divide the characters, under their long names and their aliases. Names are compared without case,
blanks, dashes and underscores, and without `is` in front.
-/

namespace GeoFacet.Text.Pattern.Property

/-- The names of the properties that a character has or lacks. -/
def binaryNames : List String := Text.words <|
    "ahex alpha alphabetic asciihexdigit bidic bidicontrol bidim bidimirrored cased caseignorable " ++
    "changeswhencasefolded changeswhencasemapped changeswhenlowercased changeswhentitlecased " ++
    "changeswhenuppercased ci cwcf cwcm cwl cwt cwu dash defaultignorablecodepoint dep deprecated " ++
    "di dia diacritic ebase ecomp emod emoji emojicomponent emojimodifier emojimodifierbase " ++
    "emojipresentation epres ext extendedpictographic extender extpict graphemebase " ++
    "graphemeextend graphemelink grbase grext grlink hex hexdigit hyphen idc idcompatmathcontinue " ++
    "idcompatmathstart idcontinue ideo ideographic ids idsb idsbinaryoperator idst idstart " ++
    "idstrinaryoperator idsu idsunaryoperator joinc joincontrol loe logicalorderexception lower " ++
    "lowercase math mcm modifiercombiningmark nchar noncharactercodepoint oalpha odi ogrext oidc " ++
    "oids olower omath otheralphabetic otherdefaultignorablecodepoint othergraphemeextend " ++
    "otheridcontinue otheridstart otherlowercase othermath otheruppercase oupper patsyn " ++
    "patternsyntax patternwhitespace patws pcm prependedconcatenationmark qmark quotationmark " ++
    "radical regionalindicator ri sd sentenceterminal softdotted space sterm term " ++
    "terminalpunctuation uideo unifiedideograph upper uppercase variationselector vs whitespace " ++
    "wspace xidc xidcontinue xids xidstart"

/-- The names of the general categories. -/
def categoryNames : List String := Text.words <|
    "any ascii assigned c casedletter cc cf closepunctuation cn cntrl co combiningmark " ++
    "connectorpunctuation control currencysymbol dashpunctuation decimalnumber digit " ++
    "enclosingmark finalpunctuation format initialpunctuation l lc letter letternumber " ++
    "lineseparator ll lm lo lowercaseletter lt lu m mark mathsymbol mc me mn modifierletter " ++
    "modifiersymbol n nd nl no nonspacingmark number openpunctuation other otherletter " ++
    "othernumber otherpunctuation othersymbol p paragraphseparator pc pd pe pf pi po privateuse " ++
    "ps punct punctuation s sc separator sk sm so spaceseparator spacingmark symbol " ++
    "titlecaseletter unassigned uppercaseletter z zl zp zs"

/-- The names of the scripts. -/
def scriptNames : List String := Text.words <|
    "adlam adlm aghb ahom anatolianhieroglyphs arab arabic armenian armi armn avestan avst bali " ++
    "balinese bamu bamum bass bassavah batak batk beng bengali bhaiksuki bhks bopo bopomofo brah " ++
    "brahmi brai braille bugi buginese buhd buhid cakm canadianaboriginal cans cari carian " ++
    "caucasianalbanian chakma cham cher cherokee chorasmian chrs common copt coptic cpmn cprt " ++
    "cuneiform cypriot cyprominoan cyrillic cyrl deseret deva devanagari diak divesakuru dogr " ++
    "dogra dsrt dupl duployan egyp egyptianhieroglyphs elba elbasan elym elymaic ethi ethiopic " ++
    "gara garay geor georgian glag glagolitic gong gonm goth gothic gran grantha greek grek " ++
    "gujarati gujr gukh gunjalagondi gurmukhi guru gurungkhema han hang hangul hani " ++
    "hanifirohingya hano hanunoo hatr hatran hebr hebrew hira hiragana hluw hmng hmnp hung " ++
    "imperialaramaic inherited inscriptionalpahlavi inscriptionalparthian ital java javanese " ++
    "kaithi kali kana kannada katakana kawi kayahli khar kharoshthi khitansmallscript khmer khmr " ++
    "khoj khojki khudawadi kiratrai kits knda krai kthi lana lao laoo latin latn lepc lepcha limb " ++
    "limbu lina linb lineara linearb lisu lyci lycian lydi lydian mahajani mahj maka makasar " ++
    "malayalam mand mandaic mani manichaean marc marchen masaramgondi medefaidrin medf " ++
    "meeteimayek mend mendekikakui merc mero meroiticcursive meroitichieroglyphs miao mlym modi " ++
    "mong mongolian mro mroo mtei mult multani myanmar mymr nabataean nagm nagmundari nand " ++
    "nandinagari narb nbat newa newtailue nko nkoo nshu nushu nyiakengpuachuehmong ogam ogham " ++
    "olchiki olck oldhungarian olditalic oldnortharabian oldpermic oldpersian oldsogdian " ++
    "oldsoutharabian oldturkic olduyghur olonal onao oriya orkh orya osage osge osma osmanya ougr " ++
    "pahawhhmong palm palmyrene pauc paucinhau perm phag phagspa phli phlp phnx phoenician plrd " ++
    "prti psalterpahlavi qaac qaai rejang rjng rohg runic runr samaritan samr sarb saur " ++
    "saurashtra sgnw sharada shavian shaw shrd sidd siddham signwriting sind sinh sinhala sogd " ++
    "sogdian sogo sora sorasompeng soyo soyombo sund sundanese sunu sunuwar sylo sylotinagri syrc " ++
    "syriac tagalog tagb tagbanwa taile taitham taiviet takr takri tale talu tamil taml tang " ++
    "tangsa tangut tavt telu telugu tfng tglg thaa thaana thai tibetan tibt tifinagh tirh tirhuta " ++
    "tnsa todhri todr toto tulutigalari tutg ugar ugaritic vai vaii vith vithkuqi wancho wara " ++
    "warangciti wcho xpeo xsux yezi yezidi yi yiii zanabazarsquare zanb zinh zyyy"

/-- The names of the classes of grapheme breaks. -/
def graphemeBreakNames : List String := Text.words <|
    "cn control cr ex extend l lf lv lvt pp prepend regionalindicator ri sm spacingmark t v zwj"

/-- The names of the classes of sentence breaks. -/
def sentenceBreakNames : List String := Text.words <|
    "at aterm cl close cr ex extend fo format le lf lo lower nu numeric oletter sc scontinue se " ++
    "sep sp st sterm up upper"

/-- The names of the classes of word breaks. -/
def wordBreakNames : List String := Text.words <|
    "aletter cr doublequote dq ex extend extendnumlet fo format hebrewletter hl ka katakana le lf " ++
    "mb midletter midnum midnumlet ml mn newline nl nu numeric regionalindicator ri singlequote " ++
    "sq wsegspace zwj"

/-- The versions that a character can date from. -/
def ageNames : List String := Text.words <|
    "1.1 10.0 11.0 12.0 12.1 13.0 14.0 15.0 15.1 16.0 2.0 2.1 3.0 3.1 3.2 4.0 4.1 5.0 5.1 5.2 6.0 " ++
    "6.1 6.2 6.3 7.0 8.0 9.0 v100 v11 v110 v120 v121 v130 v140 v150 v151 v160 v20 v21 v30 v31 v32 " ++
    "v40 v41 v50 v51 v52 v60 v61 v62 v63 v70 v80 v90"

/-- The form in which names are compared. -/
def normalize (name : List Char) : List Char :=
  let (is, rest) : Bool × List Char := match name with
    | i :: s :: rest =>
      if (i = 'i' ∨ i = 'I') ∧ (s = 's' ∨ s = 'S') then (true, rest) else (false, name)
    | _ => (false, name)
  let letters := (rest.filter fun c => c.toNat < 128 && c ∉ ['-', '_', ' ']).map Char.toLower
  if is && letters = ['c'] then "isc".toList else letters

/-- The properties that take a value, by their names, with the names of their values. -/
def valued : List (List String × List String) := [
  (["gc", "generalcategory"], categoryNames),
  (["sc", "script"], scriptNames),
  (["scx", "scriptextensions"], scriptNames),
  (["age"], ageNames),
  (["gcb", "graphemeclusterbreak"], graphemeBreakNames),
  (["sb", "sentencebreak"], sentenceBreakNames),
  (["wb", "wordbreak"], wordBreakNames)]

/-- Whether a property has that name: one that a character has or lacks, a general category or a
script. -/
def isKnown (name : List Char) : Bool :=
  let name := String.ofList (normalize name)
  binaryNames.contains name || categoryNames.contains name || scriptNames.contains name

/-- Whether a property of that name has a value of that name. -/
def isKnownValue (name value : List Char) : Bool :=
  let name := String.ofList (normalize name)
  let value := String.ofList (normalize value)
  valued.any fun (names, values) => names.contains name && values.contains value

/-- The text cut at the first `!=`, if it has one. -/
def cutUnequal? : List Char → Option (List Char × List Char)
  | '!' :: '=' :: rest => some ([], rest)
  | c :: rest => (cutUnequal? rest).map fun (name, value) => (c :: name, value)
  | [] => none

/-- The text cut at the first of a character, if it has one. -/
def cutAt? (sep : Char) (cs : List Char) : Option (List Char × List Char) :=
  match cs.dropWhile (· ≠ sep) with
  | _ :: rest => some (cs.takeWhile (· ≠ sep), rest)
  | [] => none

/-- Whether the text between braces names a property, or a value of one behind `!=`, `:` or `=`. -/
def isSound (text : List Char) : Bool :=
  match cutUnequal? text <|> cutAt? ':' text <|> cutAt? '=' text with
  | some (name, value) => isKnownValue name value
  | none => isKnown text

end GeoFacet.Text.Pattern.Property
